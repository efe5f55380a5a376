/-
# What decoding JSON gives

When the members of an object are decoded, each declared one by the decoder of its
field, the object is decoded if they are, and only then. What a field has in the outcome
was decoded from a value given for it, or stands in for one that is absent.

Key definitions: `Record.Fields.find?`, `Record.Presence.takesNull`,
`Record.Presence.standIns`, `Record.Presence.Gives`, `Record.Fields.Give`.
Key theorems: `Record.decodeField_eq_ok`, `Record.visitEntries_ok`,
`Record.visitEntries_eq_ok`, `Record.ofJson_record_gives`, `Record.decoded_of_mem`.
-/
import ControllerSynthesis.Proofs.Steps
import ControllerSynthesis.Proofs.Json.Access
import ControllerSynthesis.Proofs.Record.ReadJson

namespace ControllerSynthesis.Record

/-! ### Declared fields -/

/-- The rule and the shape of the field declared under a key. -/
def Fields.find? : Fields → String → Option (Presence × Shape)
  | .nil, _ => none
  | .cons key presence shape rest, name => if name = key then some (presence, shape) else rest.find? name

/-- The decoder of a key is that of the field declared under it. -/
theorem decoder_eq {μ : Type → Type} [Monad μ] [MonadExceptOf Failure μ] {ν : Type} {format : Format μ ν}
    (name : String) : ∀ fields : Fields,
      Fields.decoder format fields name =
        (fields.find? name).map fun f => decodeField format f.1 (f.2.decode format)
  | .nil => rfl
  | .cons key presence shape rest => by
    by_cases same : name = key
    · subst same
      rw [decoder_self, Fields.find?, if_pos rfl, Option.map_some]
    · rw [decoder_of_ne presence shape rest same, Fields.find?, if_neg same, decoder_eq name rest]

theorem Fields.mem_keys_of_find? {name : String} {field : Presence × Shape} : ∀ {fields : Fields},
    fields.find? name = some field → name ∈ fields.keys
  | .nil, found => nomatch found
  | .cons key presence shape rest, found => by
    by_cases same : name = key
    · rw [same]
      exact List.mem_cons_self
    · rw [Fields.find?, if_neg same] at found
      exact List.mem_cons_of_mem _ (mem_keys_of_find? found)

/-- Whether null counts as no value of a field. -/
def Presence.takesNull : Presence → Bool
  | .required => false
  | .defaulted _ => false
  | _ => true

/-- What stands for a field without a value. -/
def Presence.standIns : Presence → List Json
  | .defaulted value => [value]
  | .nullable => [.null]
  | .lenient (some value) => [value]
  | _ => []

section

variable {presence : Presence} {decode : Json → Result Json} {value : Json}

theorem decodeField_null (takes : presence.takesNull = true) :
    decodeField jsonFormat presence decode .null = pure none := by
  have absent : jsonFormat.present? .null = pure none := rfl
  cases presence with
  | required => cases takes
  | defaulted fallback => cases takes
  | nullable => simp [decodeField, absent]
  | omitted => simp [decodeField, absent]
  | lenient fallback => simp [decodeField, absent]

theorem decodeField_there (there : presence.takesNull = true → value ≠ .null) :
    decodeField jsonFormat presence decode value = some <$> decode value := by
  cases presence with
  | required => rfl
  | defaulted fallback => rfl
  | nullable => simp [decodeField, present?_of_ne (there rfl)]
  | omitted => simp [decodeField, present?_of_ne (there rfl)]
  | lenient fallback => simp [decodeField, present?_of_ne (there rfl)]

/-- A field is decoded to no value from null, if it takes that, and else to what its
shape makes of the value. -/
theorem decodeField_eq_ok {kept : Option Json} :
    decodeField jsonFormat presence decode value = .ok kept ↔
      presence.takesNull = true ∧ value = .null ∧ kept = none ∨
        (presence.takesNull = true → value ≠ .null) ∧ ∃ made, decode value = .ok made ∧ kept = some made := by
  by_cases absent : presence.takesNull = true ∧ value = .null
  · obtain ⟨takes, rfl⟩ := absent
    simp [decodeField_null takes, takes, pure, Except.pure, eq_comm]
  · have there : presence.takesNull = true → value ≠ .null := fun takes null => absent ⟨takes, null⟩
    have lacks : ¬(presence.takesNull = true ∧ value = .null ∧ kept = none) := fun h => absent ⟨h.1, h.2.1⟩
    rw [decodeField_there there, or_iff_right lacks, and_iff_right there]
    cases decode value with
    | error e => simp [Functor.map, Except.map]
    | ok made => exact ⟨fun same => ⟨made, rfl, (Except.ok.inj same).symm⟩, fun ⟨_, own, same⟩ => by
        cases own
        rw [same]
        rfl⟩

end

/-! ### Lists and maps -/

theorem under_eq_ok {α : Type} {step : Step} {outcome : Result α} {a : α} :
    under step outcome = .ok a ↔ outcome = .ok a := by
  cases outcome with
  | error e => exact ⟨nofun, nofun⟩
  | ok b => exact Iff.rfl

/-- The items of a list are decoded if each of them is. -/
theorem decodeItems_ok {decode : Json → Result Json} : ∀ {items : List Json},
    (∀ i ∈ items, ∃ made, decode i = .ok made) → ∀ index : Nat, ∃ all, decodeItems decode index items = .ok all
  | [], _, _ => ⟨[], rfl⟩
  | item :: items, decoded, index => by
    obtain ⟨made, own⟩ := decoded item List.mem_cons_self
    obtain ⟨all, later⟩ := decodeItems_ok (fun i mem => decoded i (List.mem_cons_of_mem _ mem)) (index + 1)
    exact ⟨made :: all, by rw [decodeItems, own, later]; rfl⟩

/-- If a list is decoded, each of its items is, and nothing else is in the outcome. -/
theorem decodeItems_eq_ok {decode : Json → Result Json} : ∀ {items all : List Json} {index : Nat},
    decodeItems decode index items = .ok all →
    (∀ i ∈ items, ∃ made, decode i = .ok made) ∧ ∀ made ∈ all, ∃ i, decode i = .ok made
  | [], all, index, done => by
    cases done
    exact ⟨nofun, nofun⟩
  | item :: items, all, index, done => by
    obtain ⟨made, own, later⟩ := bind_eq_ok.mp done
    obtain ⟨others, rest, same⟩ := bind_eq_ok.mp later
    cases same
    rw [under_eq_ok] at own
    obtain ⟨decoded, from'⟩ := decodeItems_eq_ok rest
    exact ⟨List.forall_mem_cons.mpr ⟨⟨made, own⟩, decoded⟩, List.forall_mem_cons.mpr ⟨⟨item, own⟩, from'⟩⟩

/-- The entries of a map are decoded if each of them is. -/
theorem decodeEntries_ok {decode : Json → Result Json} : ∀ {members : List (String × Json)},
    (∀ m ∈ members, ∃ made, decode m.2 = .ok made) → ∀ done : List (String × Json), ∃ all,
      decodeEntries (jsonFormat.text "a string") jsonFormat.label decode done (entryParts itself 0 members) = .ok all
  | [], _, done => ⟨done, rfl⟩
  | (key, value) :: members, decoded, done => by
    obtain ⟨made, own⟩ := decoded _ List.mem_cons_self
    obtain ⟨all, later⟩ := decodeEntries_ok (fun m mem => decoded m (List.mem_cons_of_mem _ mem))
      (KeyMap.insertEntry key made done)
    refine ⟨all, ?_⟩
    have own : decode (itself 0 value) = pure made := own
    rw [← later, entryParts, List.map_cons, decodeEntries, jsonFormat_reads.text, pure_bind, own,
      jsonFormat_reads.under_pure, pure_bind]
    rfl

/-! ### Records -/

section

variable {strict : Bool} {decoder : String → Option (Json → Result (Option Json))}

theorem visitEntries_known {decode : Json → Result (Option Json)} {key : String} (known : decoder key = some decode)
    (done : List (String × Option Json)) (value : Json) (members : List (String × Json)) :
    visitEntries jsonFormat strict decoder done (entryParts itself 0 ((key, value) :: members)) =
      if strict && (done.lookup key).isSome then fail (.duplicateField key)
      else (do
        let kept ← under (.entry (some key)) (decode value)
        visitEntries jsonFormat strict decoder ((key, kept) :: done) (entryParts itself 0 members)) := by
  rw [entryParts, List.map_cons, visitEntries, jsonFormat_reads.text, pure_bind]
  simp only [known]
  rfl

/-- The members of an object are decoded if each declared one is, and in a strict
record no key comes twice. Then something is found for each declared key that is there. -/
theorem visitEntries_ok : ∀ {members : List (String × Json)} {done : List (String × Option Json)},
    (∀ m ∈ members, ∀ decode, decoder m.1 = some decode → ∃ kept, decode m.2 = .ok kept) →
    (strict = true → (members.map (·.1)).Nodup ∧ ∀ m ∈ members, done.lookup m.1 = none) →
    ∃ found, visitEntries jsonFormat strict decoder done (entryParts itself 0 members) = .ok found ∧
      ∀ key, (done.lookup key).isSome = true ∨
        (decoder key).isSome = true ∧ (Json.lookup key members).isSome = true → (found.lookup key).isSome = true
  | [], done, _, _ => ⟨done, rfl, fun key given => given.resolve_right fun h => nomatch h.2⟩
  | (key, value) :: members, done, decoded, single => by
    have decodedLater := fun m mem => decoded m (List.mem_cons_of_mem _ mem)
    cases known : decoder key with
    | none =>
      obtain ⟨found, visited, all⟩ := @visitEntries_ok members done decodedLater fun isStrict =>
        ⟨(List.nodup_cons.mp (single isStrict).1).2, fun m mem => (single isStrict).2 m (List.mem_cons_of_mem _ mem)⟩
      refine ⟨found, (jsonFormat_reads.visitEntries_unknown known).trans visited, fun name given => all name ?_⟩
      refine given.imp_right fun ⟨declared, there⟩ => ⟨declared, ?_⟩
      have other : key ≠ name := fun same => by rw [← same, known] at declared; cases declared
      rwa [Json.lookup, if_neg other] at there
    | some decode =>
      obtain ⟨kept, own⟩ := decoded _ List.mem_cons_self decode known
      have fresh : ∀ m ∈ members, strict = true → ((key, kept) :: done).lookup m.1 = none := by
        intro m mem isStrict
        have other : m.1 ≠ key := fun same =>
          (List.nodup_cons.mp (single isStrict).1).1 (List.mem_map.mpr ⟨m, mem, same⟩)
        rw [lookup_cons_of_ne other, (single isStrict).2 m (List.mem_cons_of_mem _ mem)]
      obtain ⟨found, visited, all⟩ := @visitEntries_ok members ((key, kept) :: done) decodedLater fun isStrict =>
        ⟨(List.nodup_cons.mp (single isStrict).1).2, fun m mem => fresh m mem isStrict⟩
      refine ⟨found, ?_, fun name given => all name ?_⟩
      · exact (jsonFormat_reads.visitEntries_declared known
          (fun isStrict => (single isStrict).2 _ List.mem_cons_self) own).trans visited
      · by_cases same : name = key
        · exact .inl (by simp [same])
        · rw [lookup_cons_of_ne same]
          refine given.imp_right fun ⟨declared, there⟩ => ⟨declared, ?_⟩
          rwa [Json.lookup, if_neg (Ne.symm same)] at there

/-- When the members of an object are decoded, each declared one is, and what was found
comes from them. -/
theorem visitEntries_eq_ok : ∀ {members : List (String × Json)} {done found : List (String × Option Json)},
    visitEntries jsonFormat strict decoder done (entryParts itself 0 members) = .ok found →
    (∀ m ∈ members, ∀ decode, decoder m.1 = some decode → ∃ kept, decode m.2 = .ok kept) ∧
      ∀ name kept, found.lookup name = some kept →
        done.lookup name = some kept ∨ ∃ decode value, decoder name = some decode ∧ decode value = .ok kept
  | [], done, found, visited => by
    cases visited
    exact ⟨nofun, fun name kept own => .inl own⟩
  | (key, value) :: members, done, found, visited => by
    cases known : decoder key with
    | none =>
      obtain ⟨decoded, all⟩ := visitEntries_eq_ok ((jsonFormat_reads.visitEntries_unknown known).symm.trans visited)
      refine ⟨fun m mem decode own => ?_, all⟩
      rcases List.mem_cons.mp mem with rfl | mem
      · rw [known] at own
        cases own
      · exact decoded m mem decode own
    | some decode =>
      rw [visitEntries_known known] at visited
      split at visited
      · cases visited
      · obtain ⟨kept, own, later⟩ := bind_eq_ok.mp visited
        rw [under_eq_ok] at own
        obtain ⟨decoded, all⟩ := visitEntries_eq_ok later
        refine ⟨fun m mem other same => ?_, fun name made there => ?_⟩
        · rcases List.mem_cons.mp mem with rfl | mem
          · rw [known] at same
            cases same
            exact ⟨kept, own⟩
          · exact decoded m mem other same
        · refine (all name made there).elim (fun before => ?_) .inr
          by_cases same : name = key
          · subst same
            rw [List.lookup_cons_self] at before
            exact .inr ⟨decode, value, known, own.trans (congrArg Except.ok (Option.some.inj before))⟩
          · rw [lookup_cons_of_ne same] at before
            exact .inl before

end

/-! ### Filling in -/

/-- The keys of the fields that must be given. -/
def Fields.needs : Fields → List String
  | .nil => []
  | .cons key presence _ rest => if presence.fallback.isSome then rest.needs else key :: rest.needs

/-- What was found fills the fields if it has all that must be given. -/
theorem fill_ok {found : List (String × Option Json)} : ∀ {fields : Fields},
    (∀ key ∈ fields.needs, (found.lookup key).isSome = true) →
      ∃ members, (fields.fill found : Result _) = .ok members
  | .nil, _ => ⟨[], rfl⟩
  | .cons key presence shape rest, given => by
    have own : (((found.lookup key).or presence.fallback)).isSome = true := by
      rw [Option.isSome_or, Bool.or_eq_true]
      by_cases lacks : presence.fallback.isSome = true
      · exact .inr lacks
      · refine .inl (given key ?_)
        rw [Fields.needs, if_neg lacks]
        exact List.mem_cons_self
    have later : ∀ name ∈ rest.needs, (found.lookup name).isSome = true := by
      intro name mem
      refine given name ?_
      rw [Fields.needs]
      split
      · exact mem
      · exact List.mem_cons_of_mem _ mem
    obtain ⟨value, same⟩ := Option.isSome_iff_exists.mp own
    obtain ⟨others, rest⟩ := fill_ok later
    exact ⟨_, fill_cons same rest⟩

/-- What a field has in an outcome: what its shape makes of a value that was given, or
what stands for it without one. -/
def Presence.Gives (presence : Presence) (shape : Shape) (made : Json) : Prop :=
  (∃ value, (presence.takesNull = true → value ≠ .null) ∧ shape.ofJson value = .ok made) ∨
    made ∈ presence.standIns

theorem Presence.gives_of_decodeField {presence : Presence} {shape : Shape} {value made : Json}
    (decoded : decodeField jsonFormat presence shape.ofJson value = .ok (some made)) : presence.Gives shape made := by
  rcases decodeField_eq_ok.mp decoded with ⟨-, -, absent⟩ | ⟨there, own, decoded, same⟩
  · cases absent
  · cases same
    exact .inl ⟨value, there, decoded⟩

theorem lookup_kept {presence : Presence} {key name : String} {value : Option Json} {made : Json}
    (found : Json.lookup name (presence.kept key value) = some made) :
    name = key ∧ (value = some made ∨ value = none ∧ made ∈ presence.standIns) := by
  cases value with
  | some value =>
    rw [Presence.kept, Json.lookup] at found
    split at found
    · rename_i same
      exact ⟨same.symm, .inl found⟩
    · cases found
  | none =>
    rcases presence with - | _ | - | - | - | fallback <;>
      simp_all [Presence.kept, Json.lookup, Presence.standIns]

/-- The members of an outcome are what the fields give. -/
def Fields.Give (fields : Fields) (members : List (String × Json)) : Prop :=
  ∀ key made, Json.lookup key members = some made →
    ∃ presence shape, fields.find? key = some (presence, shape) ∧ presence.Gives shape made

theorem Fields.Give.cons {key : String} {presence : Presence} {shape : Shape} {rest : Fields} {value : Option Json}
    {others : List (String × Json)} (single : key ∉ rest.keys) (gives : ∀ made ∈ value, presence.Gives shape made)
    (later : rest.Give others) : (Fields.cons key presence shape rest).Give (presence.kept key value ++ others) := by
  intro name made found
  rw [Json.lookup_append, Option.or_eq_some_iff] at found
  rcases found with own | ⟨-, found⟩
  · obtain ⟨rfl, same⟩ := lookup_kept own
    refine ⟨presence, shape, if_pos rfl, ?_⟩
    rcases same with rfl | ⟨-, mem⟩
    · exact gives made rfl
    · exact .inr mem
  · obtain ⟨own, under, declared, made⟩ := later name made found
    have other : name ≠ key := fun same => single (same ▸ mem_keys_of_find? declared)
    exact ⟨own, under, (if_neg other).trans declared, made⟩

/-- Filling gives the fields what was found for them. -/
theorem fill_give {all : Fields} {found : List (String × Option Json)}
    (made : ∀ name kept, found.lookup name = some kept →
      ∃ decode value, Fields.decoder jsonFormat all name = some decode ∧ decode value = .ok kept) :
    ∀ {fields : Fields} {members : List (String × Json)}, fields.keys.Nodup →
      (∀ key ∈ fields.keys, all.find? key = fields.find? key) →
      (fields.fill found : Result _) = .ok members → fields.Give members
  | .nil, members, _, _, filled => by
    cases filled
    exact nofun
  | .cons key presence shape rest, members, distinct, same, filled => by
    obtain ⟨single, distinct⟩ := List.nodup_cons.mp distinct
    rw [Fields.fill] at filled
    split at filled
    · cases filled
    · rename_i value own
      obtain ⟨others, later, made'⟩ := bind_eq_ok.mp filled
      cases made'
      refine Fields.Give.cons single ?_ (fill_give made distinct (fun name mem => ?_) later)
      · rintro given rfl
        rcases Option.or_eq_some_iff.mp own with own | ⟨-, own⟩
        · obtain ⟨decode, value, known, decoded⟩ := made key _ own
          rw [decoder_eq, same key List.mem_cons_self, Fields.find?, if_pos rfl] at known
          cases known
          exact Presence.gives_of_decodeField decoded
        · cases presence <;> cases own
          exact .inr List.mem_cons_self
      · have other : name ≠ key := fun same => single (same ▸ mem)
        rw [same name (List.mem_cons_of_mem _ mem), Fields.find?, if_neg other]

/-- So do the places of a list. -/
theorem decodePlaces_give {wanted : String} : ∀ {fields : Fields} {index : Nat} {parts left : List Json}
    {members : List (String × Json)}, fields.keys.Nodup →
      Fields.decodePlaces jsonFormat wanted fields index parts = .ok (members, left) → fields.Give members
  | .nil, _, parts, left, members, _, decoded => by
    cases decoded
    exact nofun
  | .cons key presence shape rest, index, parts, left, members, distinct, decoded => by
    obtain ⟨single, distinct⟩ := List.nodup_cons.mp distinct
    cases parts with
    | cons part parts =>
      have run : Fields.decodePlaces jsonFormat wanted (.cons key presence shape rest) index (part :: parts) = (do
          let value ← decodeField jsonFormat presence shape.ofJson part
          let (others, left) ← Fields.decodePlaces jsonFormat wanted rest (index + 1) parts
          return (presence.kept key value ++ others, left)) := rfl
      rw [run] at decoded
      obtain ⟨value, own, decoded⟩ := bind_eq_ok.mp decoded
      obtain ⟨⟨others, left⟩, later, same⟩ := bind_eq_ok.mp decoded
      cases same
      refine Fields.Give.cons single ?_ (decodePlaces_give distinct later)
      rintro given rfl
      exact Presence.gives_of_decodeField own
    | nil =>
      cases ends : presence.endsList with
      | none => simp [Fields.decodePlaces, ends, fail, bind, Except.bind] at decoded
      | some value =>
        have run : Fields.decodePlaces jsonFormat wanted (.cons key presence shape rest) index [] = (do
            let (others, left) ← Fields.decodePlaces jsonFormat wanted rest (index + 1) []
            return (presence.kept key value ++ others, left)) := by
          simp [Fields.decodePlaces, ends]
        rw [run] at decoded
        obtain ⟨⟨others, left⟩, later, same⟩ := bind_eq_ok.mp decoded
        cases same
        refine Fields.Give.cons single ?_ (decodePlaces_give distinct later)
        rintro given rfl
        cases presence <;> cases ends
        exact .inr List.mem_cons_self

/-! ### Whole values -/

variable {name : String} {strict : Bool} {fields : Fields} {value made : Json}

/-- An object is decoded as a record by visiting its members and filling in. -/
theorem ofJson_obj_eq_ok {written : List (String × Json)} :
    (Shape.record name strict fields).ofJson (.obj written) = .ok made ↔
      ∃ found members, visitEntries jsonFormat strict (Fields.decoder jsonFormat fields) []
          (entryParts itself 0 written) = .ok found ∧
        (fields.fill found : Result _) = .ok members ∧ made = .obj members := by
  have run : (Shape.record name strict fields).ofJson (.obj written) = (do
      let found ← visitEntries jsonFormat strict (Fields.decoder jsonFormat fields) [] (entryParts itself 0 written)
      return .obj (← fields.fill found)) := rfl
  rw [run]
  constructor
  · intro decoded
    obtain ⟨found, visited, decoded⟩ := bind_eq_ok.mp decoded
    obtain ⟨members, filled, same⟩ := bind_eq_ok.mp decoded
    cases same
    exact ⟨found, members, visited, filled, rfl⟩
  · rintro ⟨found, members, visited, filled, rfl⟩
    exact bind_eq_ok.mpr ⟨found, visited, bind_eq_ok.mpr ⟨members, filled, rfl⟩⟩

/-- **A record is made of what its fields give.** -/
theorem ofJson_record_gives (distinct : fields.keys.Nodup)
    (decoded : (Shape.record name strict fields).ofJson value = .ok made) :
    ∃ members, made = .obj members ∧ fields.Give members := by
  cases value with
  | obj written =>
    obtain ⟨found, members, visited, filled, rfl⟩ := ofJson_obj_eq_ok.mp decoded
    have made := fun name kept own => ((visitEntries_eq_ok visited).2 name kept own).resolve_left nofun
    exact ⟨members, rfl, fill_give made distinct (fun _ _ => rfl) filled⟩
  | arr parts =>
    cases strict with
    | false => cases decoded
    | true =>
      have run : (Shape.record name true fields).ofJson (.arr parts) = (do
          let (members, left) ← Fields.decodePlaces jsonFormat (wantedList name fields.size) fields 0 parts
          if left.isEmpty then return .obj members
          else fail (.invalidLength parts.length "fewer elements in array")) := rfl
      rw [run] at decoded
      obtain ⟨⟨members, left⟩, places, same⟩ := bind_eq_ok.mp decoded
      dsimp only at same
      split at same
      · cases same
        exact ⟨members, rfl, decodePlaces_give distinct places⟩
      · cases same
  | _ => cases decoded

/-- The members of an object that is decoded are decoded, as far as they are declared. -/
theorem decoded_of_mem {written : List (String × Json)}
    (decoded : (Shape.record name strict fields).ofJson (.obj written) = .ok made) (key : String)
    {presence : Presence} {shape : Shape} {member : Json} (mem : (key, member) ∈ written)
    (declared : fields.find? key = some (presence, shape)) (there : member ≠ .null) :
    ∃ own, shape.ofJson member = .ok own := by
  obtain ⟨found, members, visited, -, -⟩ := ofJson_obj_eq_ok.mp decoded
  obtain ⟨kept, own⟩ := (visitEntries_eq_ok visited).1 (key, member) mem _ (by rw [decoder_eq, declared]; rfl)
  rcases decodeField_eq_ok.mp own with ⟨-, null, -⟩ | ⟨-, made, own, -⟩
  · exact absurd null there
  · exact ⟨made, own⟩

/-- What holds of null, of what the shape of a field makes and of what stands in for it
holds of the field's member in an outcome. -/
theorem Fields.Give.get {members : List (String × Json)} (give : fields.Give members) {key : String}
    {presence : Presence} {shape : Shape} (declared : fields.find? key = some (presence, shape))
    {motive : Json → Prop} (null : motive .null)
    (decoded : ∀ {value made : Json}, (presence.takesNull = true → value ≠ .null) → shape.ofJson value = .ok made →
      motive made)
    (standIns : ∀ made ∈ presence.standIns, motive made) : motive ((Json.obj members).get key) := by
  rw [Json.get_obj]
  cases found : Json.lookup key members with
  | none => exact null
  | some made =>
    obtain ⟨own, under, same, gives⟩ := give key made found
    cases declared.symm.trans same
    rcases gives with ⟨value, there, run⟩ | stands
    · exact decoded there run
    · exact standIns made stands

/-! ### Outcomes of single shapes -/

theorem ofJson_integer_eq_ok {width : Width} (decoded : (Shape.integer width).ofJson value = .ok made) :
    ∃ n, made = .int n ∧ width.holds n = true := by
  obtain ⟨n, read, rfl⟩ := map_eq_ok.mp decoded
  refine ⟨n, rfl, ?_⟩
  cases value with
  | int m =>
    have run : jsonFormat.integer width (.int m) =
      if width.holds m then .ok m else fail (.invalidValue (.integer m) width.name) := rfl
    rw [run] at read
    split at read
    · rename_i holds
      exact Except.ok.inj read ▸ holds
    · cases read
  | _ => cases read

/-- A time is decoded to the text that was given, if that names a point in time. -/
theorem ofJson_timestamp_eq_ok :
    Shape.timestamp.ofJson value = .ok made ↔ ∃ text, value = .str text ∧ made = value ∧
      ∃ t, Calendar.Instant.read text.toList = .ok t := by
  constructor
  · intro decoded
    obtain ⟨text, read, rfl⟩ := map_eq_ok.mp decoded
    cases value with
    | str given =>
      obtain ⟨rfl, names⟩ := readTimestamp_eq_ok.mp read
      exact ⟨text, rfl, rfl, names⟩
    | _ => cases read
  · rintro ⟨text, rfl, rfl, names⟩
    exact map_eq_ok.mpr ⟨text, readTimestamp_eq_ok.mpr ⟨rfl, names⟩, rfl⟩

/-- A list is decoded item by item. -/
theorem ofJson_list_eq_ok {item : Shape} (decoded : (Shape.list item).ofJson value = .ok made) :
    ∃ items all, value = .arr items ∧ made = .arr all ∧ decodeItems item.ofJson 0 items = .ok all := by
  obtain ⟨items, given, decoded⟩ := bind_eq_ok.mp decoded
  obtain ⟨all, run, same⟩ := bind_eq_ok.mp decoded
  cases same
  cases value with
  | arr own =>
    cases given
    exact ⟨items, all, rfl, rfl, run⟩
  | _ => cases given

end ControllerSynthesis.Record
