/-
# Which entries of a mapping count

A record is read from the entries of a mapping. Entries under names that no field is
declared under decide nothing, as long as they can be read over: documents that differ in
such entries only have the same outcome, apart from the limit on following aliases, which
goes with the size of a document. Entries of fields that must be given are there wherever
a record is read, and where a strict one is, no declared entry is passed over.

Key definitions: `Yaml.Node.target`, `Yaml.Node.labelled`, `Yaml.Node.Says`, `Record.isUnder`,
`Record.AlikeBut`, `Record.Exceeds`.
Key theorems: `Record.decode_alike`, `Record.ofDocument_alike`, `Record.required_of_run`,
`Record.member_of_run`, `Record.says_of_run`.
-/
import ControllerSynthesis.Proofs.Record.Members
import ControllerSynthesis.Proofs.Record.Repetition

namespace ControllerSynthesis

/-! ### Entries by the text of their key -/

namespace Yaml.Node

/-- The part that an alias stands for; any other stands for itself. -/
def target (anchored : List (Nat × Node)) : Node → Node
  | .alias number => (anchored.lookup number).getD (.unread .unknownAnchor)
  | node => node

/-- The entries of a mapping; other parts have none. -/
def entries : Node → List (Node × Node)
  | .mapping _ entries => entries
  | _ => []

/-- The values in a mapping, each with the text of its key, if the key has one. -/
def labelled (anchored : List (Nat × Node)) (node : Node) : List (Option String × Node) :=
  (node.target anchored).entries.map fun e => (Record.yamlLabel (e.1.target anchored), e.2)

/-- Whether a mapping has a scalar of this text under the key. -/
def Says (anchored : List (Nat × Node)) (node : Node) (key text : String) : Prop :=
  ∃ e ∈ node.labelled anchored, e.1 = some key ∧ Record.yamlLabel (e.2.target anchored) = some text

instance {anchored : List (Nat × Node)} {node : Node} {key text : String} : Decidable (node.Says anchored key text) :=
  inferInstanceAs (Decidable (∃ e ∈ node.labelled anchored, e.1 = some key ∧ _))

end Yaml.Node

namespace Record

open Yaml (Node)

/-- Whether an entry stands under one of the names and can be read over. -/
def isUnder (names : List String) : Node × Node → Bool
  | (.scalar _ _ text, value) => decide (String.ofList text ∈ names) && (stop? value).isNone
  | _ => false

/-- Whether two documents are mappings that are the same apart from entries under the
names, with the same parts to stand for aliases. -/
structure AlikeBut (names : List String) (a b : Yaml.Document) : Prop where
  mappings : ∃ properties entries properties' entries', a.root = .mapping properties entries ∧
    b.root = .mapping properties' entries' ∧
      entries.filter (!isUnder names ·) = entries'.filter (!isUnder names ·)
  anchored : a.root.anchored = b.root.anchored
  ending : a.ending = b.ending

variable {anchored : List (Nat × Node)} {decoder : String → Option (Part → Following (Option Json))}
  {strict : Bool} {name : String} {fields : Fields}

/-! ### Undeclared entries -/

/-- An entry in so many lists and mappings. -/
def entryAt (depth : Nat) (e : Node × Node) : Part × Part :=
  (⟨e.1, depth⟩, ⟨e.2, depth⟩)

/-- An entry that no field is declared for is read over. -/
theorem visitEntries_under {names : List String} (undeclared : ∀ name ∈ names, decoder name = none) {depth : Nat}
    {e : Node × Node} (under : isUnder names e = true) (done : List (String × Option Json))
    (parts : List (Part × Part)) :
    visitEntries (yamlFormat anchored) strict decoder done (entryAt depth e :: parts) =
      visitEntries (yamlFormat anchored) strict decoder done parts := by
  obtain ⟨key, value⟩ := e
  match key with
  | .scalar properties form text =>
    rw [isUnder, Bool.and_eq_true, decide_eq_true_eq, Option.isNone_iff_eq_none] at under
    have label : (yamlFormat anchored).text "field identifier" ⟨.scalar properties form text, depth⟩ =
        pure (String.ofList text) := rfl
    have pass : (yamlFormat anchored).pass ⟨value, depth⟩ = pure () := by
      simp [yamlFormat, yamlPass, under.2]
    rw [entryAt, visitEntries, label, pure_bind, undeclared _ under.1]
    simp only [pass, under_pure, pure_bind]

/-- **Entries that no field is declared for decide nothing.** -/
theorem visitEntries_filter {names : List String} (undeclared : ∀ name ∈ names, decoder name = none) (depth : Nat) :
    ∀ (entries : List (Node × Node)) (done : List (String × Option Json)),
      visitEntries (yamlFormat anchored) strict decoder done (entries.map (entryAt depth)) =
        visitEntries (yamlFormat anchored) strict decoder done
          ((entries.filter (!isUnder names ·)).map (entryAt depth))
  | [], _ => rfl
  | e :: entries, done => by
    by_cases under : isUnder names e = true
    · rw [List.filter_cons_of_neg (by simp [under]), List.map_cons, visitEntries_under undeclared under,
        visitEntries_filter undeclared depth entries done]
    · rw [List.filter_cons_of_pos (by simpa using under), List.map_cons, List.map_cons, visitEntries, visitEntries]
      simp only [visitEntries_filter undeclared depth entries]

/-- A record is decoded from a mapping by visiting its entries. -/
theorem decode_record_mapping (name : String) (strict : Bool) (fields : Fields) (properties : Yaml.Properties)
    (entries : List (Node × Node)) (depth : Nat) :
    (Shape.record name strict fields).decode (yamlFormat anchored) ⟨.mapping properties entries, depth⟩ = (do
      let found ← visitEntries (yamlFormat anchored) strict (Fields.decoder (yamlFormat anchored) fields) []
        (entries.map (entryAt (depth + 1)))
      return .obj (← fields.fill found)) := rfl

/-- **Mappings that differ in undeclared entries only are decoded alike.** -/
theorem decode_alike {names : List String} (undeclared : ∀ name ∈ names, name ∉ fields.keys) {a b : Yaml.Document}
    (alike : AlikeBut names a b) :
    (Shape.record name strict fields).decode (yamlFormat a.root.anchored) ⟨a.root, 0⟩ =
      (Shape.record name strict fields).decode (yamlFormat b.root.anchored) ⟨b.root, 0⟩ := by
  obtain ⟨properties, entries, properties', entries', own, other, same⟩ := alike.mappings
  have unknown (anchored : List (Nat × Node)) :
      ∀ name ∈ names, Fields.decoder (yamlFormat anchored) fields name = none :=
    fun name mem => decoder_of_not_mem (undeclared name mem)
  calc (Shape.record name strict fields).decode (yamlFormat a.root.anchored) ⟨a.root, 0⟩
    _ = (Shape.record name strict fields).decode (yamlFormat b.root.anchored) ⟨.mapping properties entries, 0⟩ := by
      rw [alike.anchored, own]
    _ = (Shape.record name strict fields).decode (yamlFormat b.root.anchored) ⟨.mapping properties' entries', 0⟩ := by
      rw [decode_record_mapping, decode_record_mapping, visitEntries_filter (unknown _), same,
        ← visitEntries_filter (unknown _)]
    _ = (Shape.record name strict fields).decode (yamlFormat b.root.anchored) ⟨b.root, 0⟩ := by
      rw [← other]

/-! ### Documents -/

/-- What comes of a value when the document has ended. -/
def conclude (ending : Yaml.Ending) (value : Json) : Result Json :=
  match ending with
  | .clean => return value
  | .interrupted why => fail (.interrupted why)
  | .followed => fail (.interrupted .severalDocuments)

theorem ofDocument_eq (shape : Shape) (document : Yaml.Document) :
    shape.ofDocument document =
      (shape.decode (yamlFormat document.root.anchored) ⟨document.root, 0⟩).run'
        (document.root.marks.1 * repetitions) >>= conclude document.ending := rfl

/-- Whether a document fails because its aliases are followed too often. -/
def Exceeds (shape : Shape) (document : Yaml.Document) : Prop :=
  ∃ failure, shape.ofDocument document = .error failure ∧ failure.IsRepetition

/-- **Documents that differ in undeclared entries only have the same outcome**, unless
aliases are followed too often in one of them. -/
theorem ofDocument_alike {names : List String} (undeclared : ∀ name ∈ names, name ∉ fields.keys)
    {a b : Yaml.Document} (alike : AlikeBut names a b) :
    (Shape.record name strict fields).ofDocument a = (Shape.record name strict fields).ofDocument b ∨
      Exceeds (.record name strict fields) a ∨ Exceeds (.record name strict fields) b := by
  have steady := (isSteady_yamlFormat b.root.anchored).steady_decode (.record name strict fields) ⟨b.root, 0⟩
  unfold Exceeds
  rw [ofDocument_eq, ofDocument_eq, decode_alike undeclared alike, alike.ending]
  rcases Nat.le_total (a.root.marks.1 * repetitions) (b.root.marks.1 * repetitions) with less | less
  · rcases steady.run' less with ⟨failure, failed, repetition⟩ | same
    · exact .inr (.inl ⟨failure, by rw [failed]; rfl, repetition⟩)
    · exact .inl (by rw [same])
  · rcases steady.run' less with ⟨failure, failed, repetition⟩ | same
    · exact .inr (.inr ⟨failure, by rw [failed]; rfl, repetition⟩)
    · exact .inl (by rw [same])

/-! ### Entries that must be there -/

theorem run_bind_eq_ok {α β : Type} {first : Following α} {next : α → Following β} {left : Nat} {result : β × Nat} :
    (first >>= next).run left = .ok result ↔
      ∃ a mid, first.run left = .ok (a, mid) ∧ (next a).run mid = .ok result := by
  rw [StateT.run_bind, bind_eq_ok]
  constructor
  · rintro ⟨⟨a, mid⟩, own, later⟩
    exact ⟨a, mid, own, later⟩
  · rintro ⟨a, mid, own, later⟩
    exact ⟨(a, mid), own, later⟩

theorem run_map_eq_ok {α β : Type} {decoding : Following α} {f : α → β} {left rest : Nat} {b : β} :
    (f <$> decoding).run left = .ok (b, rest) ↔ ∃ a, decoding.run left = .ok (a, rest) ∧ f a = b := by
  rw [map_eq_pure_bind, run_bind_eq_ok]
  constructor
  · rintro ⟨a, mid, own, same⟩
    cases same
    exact ⟨a, own, rfl⟩
  · rintro ⟨a, own, rfl⟩
    exact ⟨a, rest, own, rfl⟩

theorem run_under_eq_ok {α : Type} {step : Step} {decoding : Following α} {left : Nat} {result : α × Nat} :
    (under step decoding).run left = .ok result ↔ decoding.run left = .ok result := by
  rw [run_under]
  cases decoding.run left with
  | error failure => exact ⟨nofun, nofun⟩
  | ok result => exact Iff.rfl

theorem run_lift_eq_ok {α : Type} {outcome : Result α} {left rest : Nat} {a : α} :
    (liftM outcome : Following α).run left = .ok (a, rest) ↔ outcome = .ok a ∧ rest = left := by
  cases outcome with
  | error failure => exact ⟨nofun, nofun⟩
  | ok own =>
    show (Except.ok (own, left) : Except Failure (α × Nat)) = .ok (a, rest) ↔ _
    simp [eq_comm]

theorem target_of_run {node made : Node} {left rest : Nat} (run : (follow anchored node).run left = .ok (made, rest)) :
    made = node.target anchored := by
  match node with
  | .alias number =>
    cases left with
    | zero => cases run
    | succ left =>
      cases run
      rfl
  | .scalar _ _ _ | .sequence _ _ | .mapping _ _ | .void | .unread _ =>
    cases run
    rfl

theorem label_of_text {wanted text : String} {part : Part} {left rest : Nat}
    (run : ((yamlFormat anchored).text wanted part).run left = .ok (text, rest)) :
    yamlLabel (part.node.target anchored) = some text := by
  obtain ⟨node, mid, followed, read⟩ := run_bind_eq_ok.mp run
  rw [← target_of_run followed]
  match node, (run_lift_eq_ok.mp read).1 with
  | .scalar _ _ _, rfl => rfl

theorem entries_of_yamlEntries {wanted : String} {node : Node} {entries : List (Node × Node)}
    (read : yamlEntries wanted node = .ok entries) : entries = node.entries := by
  by_cases mapping : ∃ properties own, node = .mapping properties own
  · obtain ⟨properties, own, rfl⟩ := mapping
    cases read
    rfl
  · have none : node.entries = [] := by
      unfold Node.entries
      split
      · exact absurd ⟨_, _, rfl⟩ mapping
      · rfl
    have run : yamlEntries wanted node = if isEmptyPart node then .ok [] else yamlMismatch node wanted := by
      unfold yamlEntries
      split
      · exact absurd ⟨_, _, rfl⟩ mapping
      · rfl
    rw [run] at read
    split at read
    · cases read
      exact none.symm
    · obtain ⟨got, -, failed⟩ := bind_eq_ok.mp read
      cases failed

/-- Whether what is kept under a name is what its decoder makes of an entry under it. -/
def IsFrom (anchored : List (Nat × Node)) (decoder : String → Option (Part → Following (Option Json))) (depth : Nat)
    (entries : List (Node × Node)) (name : String) (kept : Option Json) : Prop :=
  ∃ e ∈ entries, yamlLabel (e.1.target anchored) = some name ∧ ∃ decode, decoder name = some decode ∧
    ∃ before after, (decode ⟨e.2, depth⟩).run before = .ok (kept, after)

/-- The first of the entries that are visited has a text for its key. Either no field is
declared under it, or what its decoder makes of the entry is found, in a strict record for
the first time. -/
theorem visited_cons {depth : Nat} {found done : List (String × Option Json)} {left rest : Nat} {e : Node × Node}
    {entries : List (Node × Node)}
    (visited : (visitEntries (yamlFormat anchored) strict decoder done ((e :: entries).map (entryAt depth))).run left =
      .ok (found, rest)) :
    ∃ text, yamlLabel (e.1.target anchored) = some text ∧
      (decoder text = none ∧ (∃ mid, (visitEntries (yamlFormat anchored) strict decoder done
          (entries.map (entryAt depth))).run mid = .ok (found, rest)) ∨
        ∃ decode, decoder text = some decode ∧ (strict = true → done.lookup text = none) ∧
          ∃ kept before after, (decode ⟨e.2, depth⟩).run before = .ok (kept, after) ∧
            (visitEntries (yamlFormat anchored) strict decoder ((text, kept) :: done)
              (entries.map (entryAt depth))).run after = .ok (found, rest)) := by
  rw [List.map_cons, entryAt, visitEntries] at visited
  obtain ⟨text, mid, labelled, visited⟩ := run_bind_eq_ok.mp visited
  refine ⟨text, label_of_text labelled, ?_⟩
  cases known : decoder text with
  | none =>
    simp only [known] at visited
    obtain ⟨-, mid', -, visited⟩ := run_bind_eq_ok.mp visited
    exact .inl ⟨rfl, mid', visited⟩
  | some decode =>
    simp only [known] at visited
    split at visited
    · cases visited
    · rename_i fresh
      obtain ⟨kept, after, decoded, visited⟩ := run_bind_eq_ok.mp visited
      rw [run_under_eq_ok] at decoded
      refine .inr ⟨decode, rfl, fun isStrict => ?_, kept, mid, after, decoded, visited⟩
      rwa [isStrict, Bool.true_and, Option.not_isSome_iff_eq_none] at fresh

section

variable {depth : Nat} {found : List (String × Option Json)} {rest : Nat} {kept : Option Json}

/-- What is found for a name is decoded from an entry under it, or was found before. -/
theorem isFrom_of_run (own : found.lookup name = some kept) :
    ∀ {entries : List (Node × Node)} {done : List (String × Option Json)} {left : Nat},
      (visitEntries (yamlFormat anchored) strict decoder done (entries.map (entryAt depth))).run left =
        .ok (found, rest) →
      done.lookup name = some kept ∨ IsFrom anchored decoder depth entries name kept
  | [], done, left, visited => by
    cases visited
    exact .inl own
  | e :: entries, done, left, visited => by
    have behind (later : IsFrom anchored decoder depth entries name kept) :
        IsFrom anchored decoder depth (e :: entries) name kept := by
      obtain ⟨e, mem, decoded⟩ := later
      exact ⟨e, List.mem_cons_of_mem _ mem, decoded⟩
    obtain ⟨text, label, ⟨-, mid, visited⟩ | ⟨decode, known, -, value, before, after, decoded, visited⟩⟩ :=
      visited_cons visited
    · exact (isFrom_of_run own visited).imp_right behind
    · refine (isFrom_of_run own visited).elim (fun first => ?_) fun later => .inr (behind later)
      by_cases same : name = text
      · subst same
        rw [List.lookup_cons_self] at first
        cases first
        exact .inr ⟨e, List.mem_cons_self, label, decode, known, before, after, decoded⟩
      · rw [lookup_cons_of_ne same] at first
        exact .inl first

/-- In a strict record, what was found for a name stays. -/
theorem lookup_of_visited : ∀ {entries : List (Node × Node)} {done : List (String × Option Json)} {left : Nat},
    done.lookup name = some kept →
      (visitEntries (yamlFormat anchored) true decoder done (entries.map (entryAt depth))).run left =
        .ok (found, rest) →
      found.lookup name = some kept
  | [], done, left, own, visited => by
    cases visited
    exact own
  | e :: entries, done, left, own, visited => by
    obtain ⟨text, -, ⟨-, mid, visited⟩ | ⟨decode, -, fresh, value, before, after, -, visited⟩⟩ := visited_cons visited
    · exact lookup_of_visited own visited
    · -- A strict record takes no name twice.
      have other : name ≠ text := by
        rintro rfl
        rw [fresh rfl] at own
        cases own
      rw [← lookup_cons_of_ne other value done] at own
      exact lookup_of_visited own visited

/-- In a strict record every declared entry is decoded, and this is what is found for its
name. -/
theorem found_of_mem {e : Node × Node} {decode : Part → Following (Option Json)}
    (label : yamlLabel (e.1.target anchored) = some name) (known : decoder name = some decode) :
    ∀ {entries : List (Node × Node)} {done : List (String × Option Json)} {left : Nat}, e ∈ entries →
      (visitEntries (yamlFormat anchored) true decoder done (entries.map (entryAt depth))).run left =
        .ok (found, rest) →
      ∃ kept before after, (decode ⟨e.2, depth⟩).run before = .ok (kept, after) ∧ found.lookup name = some kept
  | [], _, _, mem, _ => nomatch mem
  | first :: entries, done, left, mem, visited => by
    obtain ⟨text, own, ⟨undeclared, mid, visited⟩ | ⟨decode', known', fresh, kept, before, after, decoded, visited⟩⟩ :=
      visited_cons visited
    · rcases List.mem_cons.mp mem with rfl | mem
      · cases own.symm.trans label
        rw [known] at undeclared
        cases undeclared
      · exact found_of_mem label known mem visited
    · rcases List.mem_cons.mp mem with rfl | mem
      · cases own.symm.trans label
        cases known'.symm.trans known
        exact ⟨kept, before, after, decoded, lookup_of_visited List.lookup_cons_self visited⟩
      · exact found_of_mem label known mem visited

end

/-! ### Filling in -/

section

variable {found : List (String × Option Json)} {key : String} {presence : Presence} {shape : Shape} {left rest : Nat}
  {members : List (String × Json)}

theorem filled_cons
    (filled : ((Fields.cons key presence shape fields).fill found : Following _).run left = .ok (members, rest)) :
    ∃ value others, (found.lookup key).or presence.fallback = some value ∧
      (fields.fill found : Following _).run left = .ok (others, rest) ∧ members = presence.kept key value ++ others := by
  rw [Fields.fill] at filled
  split at filled
  · cases filled
  · rename_i value given
    obtain ⟨others, mid, later, same⟩ := run_bind_eq_ok.mp filled
    cases same
    exact ⟨value, others, given, later, rfl⟩

/-- Something was found for a field that must be given. -/
theorem found_of_filled : ∀ {fields : Fields} {members : List (String × Json)},
    fields.find? key = some (.required, shape) →
      (fields.fill found : Following _).run left = .ok (members, rest) → ∃ kept, found.lookup key = some kept
  | .nil, _, declared, _ => nomatch declared
  | .cons name presence _ fields, members, declared, filled => by
    obtain ⟨value, others, given, later, -⟩ := filled_cons filled
    by_cases same : key = name
    · rw [Fields.find?, if_pos same] at declared
      cases declared
      rw [same]
      exact ⟨value, (Option.or_eq_some_iff.mp given).resolve_right nofun⟩
    · rw [Fields.find?, if_neg same] at declared
      exact found_of_filled declared later

/-- A value that was found for a declared field is its member. -/
theorem lookup_of_filled {own : Json} (there : found.lookup key = some (some own)) :
    ∀ {fields : Fields} {members : List (String × Json)}, (fields.find? key).isSome = true →
      (fields.fill found : Following _).run left = .ok (members, rest) → Json.lookup key members = some own
  | .nil, _, declared, _ => nomatch declared
  | .cons name presence shape fields, members, declared, filled => by
    obtain ⟨value, others, given, later, rfl⟩ := filled_cons filled
    rw [Json.lookup_append]
    by_cases same : key = name
    · rw [← same, there] at given
      cases given
      simp [same, Presence.kept, Json.lookup]
    · rw [Fields.find?, if_neg same] at declared
      rw [lookup_kept_of_ne same, Option.none_or]
      exact lookup_of_filled there declared later

end

/-! ### Records -/

section

variable {part : Part} {left rest : Nat} {made : Json} {key : String} {presence : Presence} {shape : Shape}

/-- A record is read by visiting the entries of a mapping and filling in. -/
theorem record_of_run
    (run : ((Shape.record name strict fields).decode (yamlFormat anchored) part).run left = .ok (made, rest)) :
    ∃ found members before mid, (visitEntries (yamlFormat anchored) strict (Fields.decoder (yamlFormat anchored) fields)
        [] ((part.node.target anchored).entries.map (entryAt (part.depth + 1)))).run before = .ok (found, mid) ∧
      (fields.fill found : Following _).run mid = .ok (members, rest) ∧ made = .obj members := by
  rw [Shape.decode] at run
  obtain ⟨contents, given, contained, run⟩ := run_bind_eq_ok.mp run
  obtain ⟨node, reached, followed, contained⟩ := run_bind_eq_ok.mp contained
  obtain ⟨entries, looked, read, same⟩ := run_bind_eq_ok.mp contained
  cases same
  obtain ⟨found, seen, visited, run⟩ := run_bind_eq_ok.mp run
  obtain ⟨members, last, filled, same⟩ := run_bind_eq_ok.mp run
  cases same
  have written : entries = (part.node.target anchored).entries := by
    rw [← target_of_run followed]
    exact entries_of_yamlEntries (run_lift_eq_ok.mp read).1
  exact ⟨found, members, given, seen, written ▸ visited, filled, rfl⟩

/-- **Where a record is read there is an entry for each field that must be given**, and
the member in the outcome is what its value is read as. -/
theorem required_of_run
    (run : ((Shape.record name strict fields).decode (yamlFormat anchored) part).run left = .ok (made, rest))
    (declared : fields.find? key = some (.required, shape)) :
    ∃ value, (some key, value) ∈ part.node.labelled anchored ∧ ∃ before after,
      (shape.decode (yamlFormat anchored) ⟨value, part.depth + 1⟩).run before = .ok (made.get key, after) := by
  obtain ⟨found, members, first, mid, visited, filled, rfl⟩ := record_of_run run
  obtain ⟨kept, own⟩ := found_of_filled declared filled
  rcases isFrom_of_run own visited with before | ⟨e, mem, label, decode, known, before, after, decoded⟩
  · cases before
  · rw [decoder_eq, declared, Option.map_some] at known
    cases known
    obtain ⟨value, read, same⟩ := run_map_eq_ok.mp decoded
    cases same
    refine ⟨e.2, List.mem_map.mpr ⟨e, mem, by rw [label]⟩, before, after, ?_⟩
    rw [Json.get_obj, lookup_of_filled own (by rw [declared]; rfl) filled]
    exact read

/-- **Where a strict record is read, every declared entry of the mapping is**, and if there
is a value in it, this is the member in the outcome. -/
theorem member_of_run
    (run : ((Shape.record name true fields).decode (yamlFormat anchored) part).run left = .ok (made, rest))
    (declared : fields.find? key = some (presence, shape)) {value : Node}
    (there : (some key, value) ∈ part.node.labelled anchored) :
    ∃ kept before after, (decodeField (yamlFormat anchored) presence (shape.decode (yamlFormat anchored))
        ⟨value, part.depth + 1⟩).run before = .ok (kept, after) ∧ ∀ own, kept = some own → made.get key = own := by
  obtain ⟨found, members, first, mid, visited, filled, rfl⟩ := record_of_run run
  obtain ⟨e, mem, same⟩ := List.mem_map.mp there
  obtain ⟨label, rfl⟩ := Prod.mk.inj same
  have known : Fields.decoder (yamlFormat anchored) fields key =
      some (decodeField (yamlFormat anchored) presence (shape.decode (yamlFormat anchored))) := by
    rw [decoder_eq, declared]
    rfl
  obtain ⟨kept, before, after, decoded, own⟩ := found_of_mem label known mem visited
  refine ⟨kept, before, after, decoded, ?_⟩
  rintro value rfl
  rw [Json.get_obj, lookup_of_filled own (by rw [declared]; rfl) filled]
  rfl

/-- A text that must be given is the text of a scalar in the mapping. -/
theorem says_of_run
    (run : ((Shape.record name strict fields).decode (yamlFormat anchored) part).run left = .ok (made, rest))
    (declared : fields.find? key = some (.required, .text)) :
    part.node.Says anchored key (made.textAt key) := by
  obtain ⟨value, there, before, after, decoded⟩ := required_of_run run declared
  obtain ⟨text, read, same⟩ := run_map_eq_ok.mp decoded
  refine ⟨_, there, rfl, ?_⟩
  rw [Json.textAt, Json.textAt?, ← same, Json.asText?_str]
  exact label_of_text read

end

end Record

end ControllerSynthesis
