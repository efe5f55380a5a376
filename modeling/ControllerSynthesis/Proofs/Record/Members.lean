/-
# The members of an object, one by one

A record is decoded from an object by visiting the members one behind the other, and by
filling in what was not found. So what is found can be followed through every change of
the members: those that no field is declared for count for nothing, those taken out are
not found, and one put in at the end is found as it is decoded. Filling in then differs
in the fields that were found differently, and in no other.

Key definitions: `Record.visitMembers`, `Record.setting`, `Presence.default?`,
`Record.Fields.defaults`.
Key theorems: `Record.visitMembers_append`, `Record.visitMembers_filter`,
`Record.ofJson_setting_eq`, `Record.lookup_of_fill`.
-/
import Mathlib.Data.List.Forall2
import ControllerSynthesis.Proofs.Record.Outcome

namespace ControllerSynthesis.Record

/-! ### Lists by their keys -/

section

variable {α : Type} (keeps : String → Bool) {key : String}

theorem lookup_filter : ∀ entries : List (String × α),
    (entries.filter fun e => keeps e.1).lookup key = if keeps key then entries.lookup key else none
  | [] => by simp
  | (own, value) :: entries => by
    by_cases same : key = own
    · subst same
      by_cases kept : keeps key = true
      · simp [kept]
      · rw [List.filter_cons_of_neg (by simpa using kept), lookup_filter entries, if_neg kept, if_neg kept]
    · rw [lookup_cons_of_ne same, ← lookup_filter entries]
      by_cases kept : keeps own = true
      · rw [List.filter_cons_of_pos (by simpa using kept), lookup_cons_of_ne same]
      · rw [List.filter_cons_of_neg (by simpa using kept)]

end

/-! ### Maps -/

/-- If the entries of a map are decoded, each of them is. -/
theorem decodeEntries_eq_ok {decode : Json → Result Json} : ∀ {members done all : List (String × Json)},
    decodeEntries (jsonFormat.text "a string") jsonFormat.label decode done (entryParts itself 0 members) = .ok all →
    ∀ m ∈ members, ∃ made, decode m.2 = .ok made
  | [], _, _, _ => nofun
  | (key, value) :: members, done, all, run => by
    rw [entryParts, List.map_cons, decodeEntries, jsonFormat_reads.text, pure_bind] at run
    obtain ⟨made, own, later⟩ := bind_eq_ok.mp run
    exact List.forall_mem_cons.mpr ⟨⟨made, under_eq_ok.mp own⟩, decodeEntries_eq_ok later⟩

/-- A map is decoded entry by entry. -/
theorem ofJson_map_eq_ok {shape : Shape} {value made : Json} (decoded : (Shape.map shape).ofJson value = .ok made) :
    ∃ members all, value = .obj members ∧ made = .obj all ∧
      decodeEntries (jsonFormat.text "a string") jsonFormat.label shape.ofJson [] (entryParts itself 0 members) =
        .ok all := by
  obtain ⟨entries, given, decoded⟩ := bind_eq_ok.mp decoded
  obtain ⟨all, run, same⟩ := bind_eq_ok.mp decoded
  cases same
  cases value with
  | obj members =>
    cases given
    exact ⟨members, all, rfl, rfl, run⟩
  | _ => cases given

/-! ### Visiting members -/

section

variable {strict : Bool} {decoder : String → Option (Json → Result (Option Json))}
  {done found : List (String × Option Json)} {members : List (String × Json)} {key : String} {value : Json}

/-- What is found among the members of an object. -/
abbrev visitMembers (strict : Bool) (decoder : String → Option (Json → Result (Option Json)))
    (done : List (String × Option Json)) (members : List (String × Json)) : Result (List (String × Option Json)) :=
  visitEntries jsonFormat strict decoder done (entryParts itself 0 members)

theorem visitMembers_unknown (unknown : decoder key = none) (done : List (String × Option Json)) (value : Json)
    (members : List (String × Json)) :
    visitMembers strict decoder done ((key, value) :: members) = visitMembers strict decoder done members :=
  jsonFormat_reads.visitEntries_unknown unknown

theorem visitMembers_append : ∀ (front back : List (String × Json)) (done : List (String × Option Json)),
    visitMembers strict decoder done (front ++ back) = (do
      let found ← visitMembers strict decoder done front
      visitMembers strict decoder found back)
  | [], back, done => rfl
  | (key, value) :: front, back, done => by
    rw [List.cons_append]
    cases known : decoder key with
    | none => rw [visitMembers_unknown known, visitMembers_unknown known, visitMembers_append front back done]
    | some decode =>
      rw [visitMembers, visitEntries_known known, visitMembers, visitEntries_known known]
      split
      · rfl
      · rw [bind_assoc]
        apply bind_congr
        intro kept
        exact visitMembers_append front back _

/-- Members with the same keys whose values are decoded alike. -/
theorem visitMembers_congr {others : List (String × Json)}
    (alike : List.Forall₂ (fun m n => m.1 = n.1 ∧ ∀ decode, decoder m.1 = some decode → decode m.2 = decode n.2)
      members others) (done : List (String × Option Json)) :
    visitMembers strict decoder done members = visitMembers strict decoder done others := by
  induction alike generalizing done with
  | nil => rfl
  | @cons m n members others own _ ih =>
    obtain ⟨key, value⟩ := m
    obtain ⟨key', value'⟩ := n
    obtain ⟨same, decoded⟩ := own
    obtain rfl : key = key' := same
    cases known : decoder key with
    | none => rw [visitMembers_unknown known, visitMembers_unknown known, ih]
    | some decode =>
      have value : decode value = decode value' := decoded decode known
      rw [visitMembers, visitEntries_known known, visitMembers, visitEntries_known known, value]
      simp only [ih]

/-- **Members that no field is declared for count for nothing.** -/
theorem visitMembers_declared : ∀ (members : List (String × Json)) (done : List (String × Option Json)),
    visitMembers strict decoder done (members.filter fun m => (decoder m.1).isSome) =
      visitMembers strict decoder done members
  | [], _ => rfl
  | (key, value) :: members, done => by
    cases known : decoder key with
    | none =>
      rw [List.filter_cons_of_neg (by simp [known]), visitMembers_unknown known, visitMembers_declared members done]
    | some decode =>
      rw [List.filter_cons_of_pos (by simp [known]), visitMembers, visitEntries_known known, visitMembers,
        visitEntries_known known]
      simp only [visitMembers_declared members]

/-- **What is taken out is not found**, and all else is found as before. -/
theorem visitMembers_filter (keeps : String → Bool) : ∀ {members : List (String × Json)}
    {done found : List (String × Option Json)}, visitMembers strict decoder done members = .ok found →
      visitMembers strict decoder (done.filter fun e => keeps e.1) (members.filter fun m => keeps m.1) =
        .ok (found.filter fun e => keeps e.1)
  | [], done, found, visited => by
    cases visited
    rfl
  | (key, value) :: members, done, found, visited => by
    cases known : decoder key with
    | none =>
      rw [visitMembers_unknown known] at visited
      have later := visitMembers_filter keeps visited
      by_cases kept : keeps key = true
      · rw [List.filter_cons_of_pos (by simpa using kept), visitMembers_unknown known, later]
      · rw [List.filter_cons_of_neg (by simpa using kept), later]
    | some decode =>
      rw [visitMembers, visitEntries_known known] at visited
      split at visited
      · cases visited
      · rename_i fresh
        obtain ⟨made, own, visited⟩ := bind_eq_ok.mp visited
        have later := visitMembers_filter keeps visited
        by_cases kept : keeps key = true
        · rw [List.filter_cons_of_pos (by simpa using kept)] at later
          rw [List.filter_cons_of_pos (by simpa using kept), visitMembers, visitEntries_known known,
            lookup_filter keeps, if_pos kept, if_neg fresh, own]
          exact later
        · rw [List.filter_cons_of_neg (by simpa using kept)] at later
          rwa [List.filter_cons_of_neg (by simpa using kept)]

/-- Something is found for the declared keys that are there, and for no other. -/
theorem isSome_lookup_of_visitMembers : ∀ {members : List (String × Json)}
    {done found : List (String × Option Json)},
    visitMembers strict decoder done members = .ok found → ∀ name, (found.lookup name).isSome = true ↔
      (done.lookup name).isSome = true ∨ (decoder name).isSome = true ∧ name ∈ members.map (·.1)
  | [], done, found, visited, name => by
    cases visited
    simp
  | (key, value) :: members, done, found, visited, name => by
    cases known : decoder key with
    | none =>
      rw [visitMembers_unknown known] at visited
      rw [isSome_lookup_of_visitMembers visited name, List.map_cons, List.mem_cons]
      by_cases same : name = key
      · simp [same, known]
      · simp [same]
    | some decode =>
      rw [visitMembers, visitEntries_known known] at visited
      split at visited
      · cases visited
      · obtain ⟨made, own, visited⟩ := bind_eq_ok.mp visited
        rw [isSome_lookup_of_visitMembers visited name, List.map_cons, List.mem_cons]
        by_cases same : name = key
        · simp [same, known]
        · simp [same, lookup_cons_of_ne same]

end

theorem ofJson_obj (name : String) (strict : Bool) (fields : Fields) (members : List (String × Json)) :
    (Shape.record name strict fields).ofJson (.obj members) = (do
      let found ← visitMembers strict (Fields.decoder jsonFormat fields) [] members
      return .obj (← fields.fill found)) := rfl

/-! ### Filling in -/

theorem find?_isSome_iff {name : String} : ∀ {fields : Fields},
    (fields.find? name).isSome = true ↔ name ∈ fields.keys
  | .nil => by simp [Fields.find?, Fields.keys]
  | .cons key presence shape rest => by
    rw [Fields.find?, Fields.keys, List.mem_cons]
    by_cases same : name = key
    · simp [same]
    · simp [same, find?_isSome_iff]

theorem decoder_isSome_iff {name : String} {fields : Fields} :
    (Fields.decoder jsonFormat fields name).isSome = true ↔ name ∈ fields.keys := by
  rw [decoder_eq, Option.isSome_map, find?_isSome_iff]

/-- What was found is filled in only if it has all that must be given. -/
theorem needs_of_fill {found : List (String × Option Json)} : ∀ {fields : Fields} {members : List (String × Json)},
    (fields.fill found : Result _) = .ok members → ∀ key ∈ fields.needs, (found.lookup key).isSome = true
  | .nil, _, _ => nofun
  | .cons key presence shape rest, members, filled => by
    rw [Fields.fill] at filled
    split at filled
    · cases filled
    · rename_i value own
      obtain ⟨others, later, -⟩ := bind_eq_ok.mp filled
      rw [Fields.needs]
      split
      · exact needs_of_fill later
      · rename_i lacks
        intro name mem
        rcases List.mem_cons.mp mem with rfl | mem
        · rcases Option.or_eq_some_iff.mp own with own | ⟨-, own⟩
          · rw [own]
            rfl
          · rw [own] at lacks
            exact absurd rfl lacks
        · exact needs_of_fill later name mem

/-- What differs only where the fields have the same to fall back on is filled in alike. -/
theorem fill_congr {found other : List (String × Option Json)} : ∀ {fields : Fields}, fields.keys.Nodup →
    (∀ key presence shape, fields.find? key = some (presence, shape) →
      (found.lookup key).or presence.fallback = (other.lookup key).or presence.fallback) →
    (fields.fill found : Result _) = fields.fill other
  | .nil, _, _ => rfl
  | .cons key presence shape rest, distinct, same => by
    obtain ⟨single, distinct⟩ := List.nodup_cons.mp distinct
    have own := same key presence shape (if_pos rfl)
    have later : (rest.fill found : Result _) = rest.fill other := by
      apply fill_congr distinct
      intro name presence' shape' declared
      have ne : name ≠ key := fun same => single (same ▸ Fields.mem_keys_of_find? declared)
      exact same name presence' shape' ((if_neg ne).trans declared)
    rw [Fields.fill, Fields.fill, own, later]

theorem lookup_kept_of_ne {presence : Presence} {key name : String} (ne : name ≠ key) (value : Option Json) :
    Json.lookup name (presence.kept key value) = none := by
  cases found : Json.lookup name (presence.kept key value) with
  | none => rfl
  | some made => exact absurd (lookup_kept found).1 ne

/-- **What a field has** where something was found or there is something to fall back on
does not depend on the other fields. -/
theorem lookup_of_fill {found : List (String × Option Json)} {name : String} : ∀ {fields : Fields}
    {members : List (String × Json)}, fields.keys.Nodup → (fields.fill found : Result _) = .ok members →
      Json.lookup name members = (fields.find? name).bind fun f =>
        ((found.lookup name).or f.1.fallback).bind fun value => Json.lookup name (f.1.kept name value)
  | .nil, members, _, filled => by
    cases filled
    rfl
  | .cons key presence shape rest, members, distinct, filled => by
    obtain ⟨single, distinct⟩ := List.nodup_cons.mp distinct
    rw [Fields.fill] at filled
    split at filled
    · cases filled
    · rename_i value own
      obtain ⟨others, later, same⟩ := bind_eq_ok.mp filled
      cases same
      rw [Json.lookup_append, lookup_of_fill distinct later, Fields.find?]
      by_cases same : name = key
      · subst same
        have absent : rest.find? name = none := by
          rw [← Option.not_isSome_iff_eq_none, find?_isSome_iff]
          exact single
        rw [if_pos rfl, absent, Option.bind_some, own, Option.bind_some, Option.bind_none, Option.or_none]
      · rw [if_neg same, lookup_kept_of_ne same, Option.none_or]

/-! ### Setting a member -/

/-- The members with this one in place of all those under its key. -/
def setting (key : String) (value : Json) (members : List (String × Json)) : List (String × Json) :=
  (members.filter fun m => m.1 ≠ key) ++ [(key, value)]

section

variable {name key : String} {strict : Bool} {fields : Fields} {written : List (String × Json)} {made : Json}
  {presence : Presence} {shape : Shape}

/-- A member that is set is found as it is decoded. -/
theorem visitMembers_setting {decoder : String → Option (Json → Result (Option Json))}
    {found : List (String × Option Json)} (visited : visitMembers strict decoder [] written = .ok found)
    {decode : Json → Result (Option Json)} (known : decoder key = some decode) (value : Json) :
    visitMembers strict decoder [] (setting key value written) =
      (under (.entry (some key)) (decode value)).map fun kept => (key, kept) :: found.filter fun e => e.1 ≠ key := by
  have others : visitMembers strict decoder [] (written.filter fun m => m.1 ≠ key) =
      .ok (found.filter fun e => e.1 ≠ key) :=
    visitMembers_filter (fun name => name ≠ key) visited
  have fresh : (found.filter fun e => e.1 ≠ key).lookup key = none := by
    rw [lookup_filter fun name => name ≠ key, if_neg (by simp)]
  rw [setting, visitMembers_append, others]
  show visitMembers strict decoder (found.filter fun e => e.1 ≠ key) [(key, value)] = _
  rw [visitMembers, visitEntries_known known, fresh, Option.isSome_none, Bool.and_false, if_neg Bool.false_ne_true]
  rfl

/-- **A member that is set is decoded by its field**: if its value is not, the object is
not, and if it is, this is what the field has, and all other fields have what they had. -/
theorem ofJson_setting (distinct : fields.keys.Nodup)
    (decoded : (Shape.record name strict fields).ofJson (.obj written) = .ok made)
    (declared : fields.find? key = some (presence, shape)) (value : Json) :
    (∀ other, (Shape.record name strict fields).ofJson (.obj (setting key value written)) = .ok other →
      ∃ kept, decodeField jsonFormat presence shape.ofJson value = .ok kept) ∧
    ∀ kept, decodeField jsonFormat presence shape.ofJson value = .ok kept →
      ∃ members others, made = .obj members ∧
        (Shape.record name strict fields).ofJson (.obj (setting key value written)) = .ok (.obj others) ∧
        Json.lookup key others = Json.lookup key (presence.kept key kept) ∧
        ∀ other, other ≠ key → Json.lookup other others = Json.lookup other members := by
  obtain ⟨found, members, visited, filled, rfl⟩ := ofJson_obj_eq_ok.mp decoded
  have known : Fields.decoder jsonFormat fields key = some (decodeField jsonFormat presence shape.ofJson) := by
    rw [decoder_eq, declared]
    rfl
  have set := visitMembers_setting visited known value
  constructor
  · intro other again
    obtain ⟨later, -, found, -, -⟩ := ofJson_obj_eq_ok.mp again
    obtain ⟨kept, own, -⟩ := map_eq_ok.mp (set.symm.trans found)
    exact ⟨kept, under_eq_ok.mp own⟩
  · intro kept own
    rw [own] at set
    have other (name : String) (ne : name ≠ key) :
        ((key, kept) :: found.filter fun e => e.1 ≠ key).lookup name = found.lookup name := by
      rw [lookup_cons_of_ne ne, lookup_filter fun name => name ≠ key, if_pos (by simpa using ne)]
    have given : ∀ name ∈ fields.needs,
        (((key, kept) :: found.filter fun e => e.1 ≠ key).lookup name).isSome = true := by
      intro name mem
      by_cases same : name = key
      · rw [same, List.lookup_cons_self]
        rfl
      · rw [other name same]
        exact needs_of_fill filled name mem
    obtain ⟨others, filled'⟩ := fill_ok given
    refine ⟨members, others, rfl, ofJson_obj_eq_ok.mpr ⟨_, others, set, filled', rfl⟩, ?_, ?_⟩
    · rw [lookup_of_fill distinct filled', declared, Option.bind_some, List.lookup_cons_self, Option.some_or,
        Option.bind_some]
    · intro name ne
      rw [lookup_of_fill distinct filled', lookup_of_fill distinct filled, other name ne]

end

end ControllerSynthesis.Record
