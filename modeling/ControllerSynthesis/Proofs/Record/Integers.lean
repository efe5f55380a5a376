/-
# Integers in fields

An integer is decoded if it fits into the width of its field, and not at all otherwise.
In JSON this is so of the integer itself, and of whatever its decimal text is read as. In
YAML it is so of its plain decimal text, however many records the field lies in, behind
aliases or not: a strict record passes over no declared entry, so the text is read where
the record is.

Key definitions: `Json.Spells`, `Yaml.Node.Stands`, `Record.Shape.at?`.
Key theorems: `Record.ofJson_setting_spelled`, `Record.integer_of_run`.
-/
import ControllerSynthesis.Proofs.Json.Numbers
import ControllerSynthesis.Proofs.Record.Entries
import ControllerSynthesis.Proofs.Record.ReadYaml
import Mathlib.Algebra.Group.Int.Defs

namespace ControllerSynthesis

/-- Whether a value is an integer, or what its decimal text is read as. -/
def Json.Spells (value : Json) (n : Int) : Prop :=
  value = .int n ∨ Json.read? (Digits.text n) = some value

/-- Whether the decimal text of an integer stands plain at the end of a path through
mappings. -/
def Yaml.Node.Stands (anchored : List (Nat × Node)) (n : Int) : List String → Node → Prop
  | [], node => ∃ properties, node.target anchored = .scalar properties .plain (Digits.ofInt n)
  | key :: path, node => ∃ value, (some key, value) ∈ node.labelled anchored ∧ value.Stands anchored n path

namespace Record

open Yaml (Node)

/-- The shape at the end of a path through the fields of strict records. -/
def Shape.at? : Shape → List String → Option Shape
  | shape, [] => some shape
  | .record _ true fields, key :: path => (fields.find? key).bind fun field => field.2.at? path
  | _, _ :: _ => none

variable {n : Int} {width : Width}

theorem at?_cons {shape last : Shape} {key : String} {path : List String}
    (leads : shape.at? (key :: path) = some last) : ∃ name fields presence next,
      shape = .record name true fields ∧ fields.find? key = some (presence, next) ∧ next.at? path = some last := by
  unfold Shape.at? at leads
  split at leads
  · rename_i none
    cases none
  · rename_i name fields key' path' same
    cases same
    obtain ⟨⟨presence, next⟩, declared, later⟩ := Option.bind_eq_some_iff.mp leads
    exact ⟨name, fields, presence, next, rfl, declared, later⟩
  · cases leads

/-! ### Widths -/

theorem Width.holds_i32_iff : Width.i32.holds n = true ↔ -2 ^ 31 ≤ n ∧ n < 2 ^ 31 := by
  have bound : (Width.i32.bound : Int) = 2 ^ 31 := by decide
  rw [holds, Bool.and_eq_true, decide_eq_true_eq, decide_eq_true_eq, bound]

theorem Width.holds_i64_iff : Width.i64.holds n = true ↔ -2 ^ 63 ≤ n ∧ n < 2 ^ 63 := by
  have bound : (Width.i64.bound : Int) = 2 ^ 63 := by decide
  rw [holds, Bool.and_eq_true, decide_eq_true_eq, decide_eq_true_eq, bound]

/-! ### JSON -/

theorem ofJson_int_iff {made : Json} :
    (Shape.integer width).ofJson (.int n) = .ok made ↔ width.holds n = true ∧ made = .int n := by
  have run : (Shape.integer width).ofJson (.int n) =
      Json.int <$> if width.holds n then .ok n else fail (.invalidValue (.integer n) width.name) := rfl
  rw [run]
  by_cases holds : width.holds n = true
  · rw [if_pos holds, and_iff_right holds]
    exact ⟨fun same => (Except.ok.inj same).symm, fun same => congrArg Except.ok same.symm⟩
  · rw [if_neg holds]
    exact ⟨nofun, fun h => absurd h.1 holds⟩

/-- What stands for an integer is the integer, or a number of the other kind if the
integer has more than 64 bits. -/
theorem spells_cases {value : Json} (spells : value.Spells n) :
    value = .int n ∨ isWordSize n = false ∧ ∃ x, value = .float x := by
  rcases spells with same | read
  · exact .inl same
  by_cases size : isWordSize n = true
  · rw [Json.read?_text size] at read
    exact .inl (Option.some.inj read).symm
  · have wide : isWordSize n = false := Bool.eq_false_iff.mpr size
    exact .inr ⟨wide, Json.float_of_read?_text wide read⟩

/-- **What stands for an integer is decoded** to the integer, exactly if this fits. -/
theorem ofJson_integer_iff {value made : Json} (spells : value.Spells n) :
    (Shape.integer width).ofJson value = .ok made ↔ width.holds n = true ∧ made = .int n := by
  rcases spells_cases spells with rfl | ⟨wide, x, rfl⟩
  · exact ofJson_int_iff
  · have beyond : width.holds n ≠ true := by
      intro holds
      rw [isWordSize_of_holds holds] at wide
      cases wide
    exact ⟨nofun, fun h => absurd h.1 beyond⟩

theorem ne_null_of_spells {value : Json} (spells : value.Spells n) : value ≠ .null := by
  rcases spells_cases spells with rfl | ⟨-, x, rfl⟩ <;> nofun

theorem foldl_get_null : ∀ path : List String, path.foldl Json.get .null = .null
  | [] => rfl
  | _ :: path => foldl_get_null path

/-- What is behind the first key of a path to an integer is a member. -/
theorem member_of_foldl {key : String} {path : List String} {value : Json}
    (leads : (key :: path).foldl Json.get value = .int n) :
    ∃ members member, value = .obj members ∧ (key, member) ∈ members ∧ path.foldl Json.get member = .int n := by
  rw [List.foldl_cons] at leads
  have there : value.get key ≠ .null := by
    intro null
    rw [null, foldl_get_null] at leads
    cases leads
  cases value with
  | obj members =>
    rw [Json.get_obj, Json.lookup_eq_find?] at leads there
    cases found : members.find? fun m => m.1 = key with
    | none => exact absurd (by simp [found]) there
    | some m =>
      have own : m.1 = key := by simpa using List.find?_some found
      exact ⟨members, m.2, rfl, own ▸ List.mem_of_find?_eq_some found, by simpa [found] using leads⟩
  | _ => exact absurd rfl there

/-- An integer in a value that is decoded fits into the width of its field. -/
theorem holds_of_foldl : ∀ {path : List String} {shape : Shape} {value made : Json},
    shape.at? path = some (.integer width) → shape.ofJson value = .ok made → path.foldl Json.get value = .int n →
      width.holds n = true
  | [], shape, value, made, same, decoded, integer => by
    rw [Shape.at?] at same
    cases same
    rw [List.foldl_nil] at integer
    rw [integer] at decoded
    exact (ofJson_int_iff.mp decoded).1
  | key :: path, shape, value, made, leads, decoded, integer => by
    obtain ⟨name, fields, presence, next, rfl, declared, leads⟩ := at?_cons leads
    obtain ⟨members, member, rfl, mem, integer⟩ := member_of_foldl integer
    have there : member ≠ .null := by
      rintro rfl
      rw [foldl_get_null] at integer
      cases integer
    obtain ⟨own, decoded⟩ := decoded_of_mem decoded key mem declared there
    exact holds_of_foldl leads decoded integer

/-- **An integer that is set is decoded** if it fits into the width of its field, and it
is what the field has. All other fields have what they had. -/
theorem ofJson_setting_spelled {name key : String} {strict : Bool} {fields : Fields}
    {written : List (String × Json)} {made : Json} {presence : Presence} (distinct : fields.keys.Nodup)
    (decoded : (Shape.record name strict fields).ofJson (.obj written) = .ok made)
    (declared : fields.find? key = some (presence, .integer width)) {value : Json} (spells : value.Spells n) :
    ((∃ other, (Shape.record name strict fields).ofJson (.obj (setting key value written)) = .ok other) ↔
      width.holds n = true) ∧
    ∀ other, (Shape.record name strict fields).ofJson (.obj (setting key value written)) = .ok other →
      other.get key = .int n ∧ ∀ own, own ≠ key → other.get own = made.get own := by
  obtain ⟨only, set⟩ := ofJson_setting distinct decoded declared value
  have field (kept : Option Json) : decodeField jsonFormat presence (Shape.integer width).ofJson value = .ok kept ↔
      width.holds n = true ∧ kept = some (.int n) := by
    rw [decodeField_there fun _ => ne_null_of_spells spells]
    refine map_eq_ok.trans ?_
    constructor
    · rintro ⟨made, own, rfl⟩
      obtain ⟨holds, rfl⟩ := (ofJson_integer_iff spells).mp own
      exact ⟨holds, rfl⟩
    · rintro ⟨holds, rfl⟩
      exact ⟨_, (ofJson_integer_iff spells).mpr ⟨holds, rfl⟩, rfl⟩
  constructor
  · constructor
    · rintro ⟨other, again⟩
      obtain ⟨kept, own⟩ := only other again
      exact ((field kept).mp own).1
    · intro holds
      obtain ⟨-, others, -, again, -, -⟩ := set _ ((field _).mpr ⟨holds, rfl⟩)
      exact ⟨_, again⟩
  · intro other again
    obtain ⟨kept, own⟩ := only other again
    obtain ⟨members, others, rfl, same, member, further⟩ := set kept own
    cases again.symm.trans same
    refine ⟨?_, fun own ne => ?_⟩
    · rw [Json.get_obj, member, ((field kept).mp own).2]
      simp [Presence.kept, Json.lookup]
    · rw [Json.get_obj, Json.get_obj, further own ne]

/-! ### YAML -/

section

variable {anchored : List (Nat × Node)} {depth left rest : Nat} {node : Node} {made : Json}

/-- A decimal text is decoded to its integer, if this fits. -/
theorem integer_of_scalar {properties : Yaml.Properties} {m : Int}
    (read : yamlInteger width (.scalar properties .plain (Digits.ofInt n)) = .ok m) :
    width.holds n = true ∧ m = n := by
  rw [yamlInteger, Yaml.integer?_ofInt] at read
  split at read
  · rename_i own fits
    obtain ⟨same, -⟩ := Option.filter_eq_some_iff.mp fits
    cases same
    split at read
    · rename_i holds
      cases read
      exact ⟨holds, rfl⟩
    · cases read
  · obtain ⟨got, -, failed⟩ := bind_eq_ok.mp read
    cases failed

/-- Where a field has a value that does not count as absent, the value is decoded. -/
theorem value_of_run {presence : Presence} {decode : Part → Following Json} {kept : Option Json}
    (there : yamlAbsent (node.target anchored) ≠ .ok true)
    (run : (decodeField (yamlFormat anchored) presence decode ⟨node, depth⟩).run left = .ok (kept, rest)) :
    ∃ own made before, (own = node ∨ own = node.target anchored) ∧ kept = some made ∧
      (decode ⟨own, depth⟩).run before = .ok (made, rest) := by
  have decoded {own : Node} {before : Nat} (same : own = node ∨ own = node.target anchored)
      (run : (some <$> decode ⟨own, depth⟩).run before = .ok (kept, rest)) :
      ∃ own made before, (own = node ∨ own = node.target anchored) ∧ kept = some made ∧
        (decode ⟨own, depth⟩).run before = .ok (made, rest) := by
    obtain ⟨made, decoded, some⟩ := run_map_eq_ok.mp run
    exact ⟨own, made, before, same, some.symm, decoded⟩
  cases presence
  case required | defaulted => exact decoded (.inl rfl) run
  case nullable | omitted | lenient =>
    obtain ⟨part, mid, asked, run⟩ := run_bind_eq_ok.mp run
    obtain ⟨own, before, followed, asked⟩ := run_bind_eq_ok.mp asked
    obtain ⟨absent, before', looked, same⟩ := run_bind_eq_ok.mp asked
    obtain ⟨looked, -⟩ := run_lift_eq_ok.mp looked
    rw [target_of_run followed] at looked
    cases absent with
    | true => exact absurd looked there
    | false =>
      cases same
      exact decoded (.inr (target_of_run followed)) run

/-- What leads to an integer is there, and so is what it is an alias of. -/
theorem there_of_stands : ∀ {path : List String} {node : Node}, node.Stands anchored n path →
    yamlAbsent (node.target anchored) ≠ .ok true ∧ (node.target anchored).Stands anchored n path
  | [], node, ⟨properties, scalar⟩ => by
    rw [scalar]
    refine ⟨?_, properties, rfl⟩
    have null : isNullWord (Digits.ofInt n) = false := by rw [isNullWord, isNull_ofInt, Bool.and_false]
    rw [yamlAbsent, isNull_ofInt, null]
    split
    · nofun
    · split <;> nofun
  | key :: path, node, ⟨value, there, later⟩ => by
    obtain ⟨e, mem, -⟩ := List.mem_map.mp there
    have mapping : ∃ properties entries, node.target anchored = .mapping properties entries := by
      unfold Node.entries at mem
      split at mem
      · rename_i properties entries same
        exact ⟨properties, entries, same⟩
      · cases mem
    obtain ⟨properties, entries, same⟩ := mapping
    refine ⟨?_, value, ?_, later⟩
    · rw [same]
      nofun
    · rw [Node.labelled, same] at there
      rw [same]
      exact there

/-- **Where a record is read, an integer in it is read as it stands**: it fits into the
width of its field, and is the member of the outcome. -/
theorem integer_of_run : ∀ {path : List String} {shape : Shape} {node : Node} {depth left rest : Nat} {made : Json},
    shape.at? path = some (.integer width) → node.Stands anchored n path →
      (shape.decode (yamlFormat anchored) ⟨node, depth⟩).run left = .ok (made, rest) →
        width.holds n = true ∧ path.foldl Json.get made = .int n
  | [], shape, node, depth, left, rest, made, same, stands, run => by
    obtain ⟨properties, scalar⟩ := stands
    rw [Shape.at?] at same
    cases same
    obtain ⟨m, read, rfl⟩ := run_map_eq_ok.mp run
    obtain ⟨own, mid, followed, read⟩ := run_bind_eq_ok.mp read
    obtain ⟨read, -⟩ := run_lift_eq_ok.mp read
    rw [target_of_run followed, scalar] at read
    obtain ⟨holds, rfl⟩ := integer_of_scalar read
    exact ⟨holds, rfl⟩
  | key :: path, shape, node, depth, left, rest, made, leads, stands, run => by
    obtain ⟨name, fields, presence, next, rfl, declared, leads⟩ := at?_cons leads
    obtain ⟨value, there, later⟩ := stands
    obtain ⟨kept, before, after, decoded, member⟩ := member_of_run run declared there
    obtain ⟨present, target⟩ := there_of_stands later
    obtain ⟨own, value', before', same, some, decoded⟩ := value_of_run present decoded
    -- A field that may be absent follows an alias to see whether it is, and decodes what it found.
    have stands : own.Stands anchored n path := by
      rcases same with rfl | rfl
      · exact later
      · exact target
    obtain ⟨holds, integer⟩ := integer_of_run leads stands decoded
    refine ⟨holds, ?_⟩
    rw [List.foldl_cons, member value' some]
    exact integer

theorem mem_ofMembers {key : String} {value : Json} : ∀ {members : List (String × Json)}, (key, value) ∈ members →
    (Node.ofText key, Node.ofJson value) ∈ Node.ofMembers members
  | [], mem => nomatch mem
  | (own, first) :: members, mem => by
    rw [Node.ofMembers]
    rcases List.mem_cons.mp mem with same | mem
    · cases same
      exact List.mem_cons_self
    · exact List.mem_cons_of_mem _ (mem_ofMembers mem)

/-- An integer in a value stands in the part that the value is in its document. -/
theorem stands_ofJson (anchored : List (Nat × Node)) : ∀ {path : List String} {value : Json},
    path.foldl Json.get value = .int n → (Node.ofJson value).Stands anchored n path
  | [], value, integer => by
    rw [List.foldl_nil] at integer
    rw [integer]
    exact ⟨{}, rfl⟩
  | key :: path, value, integer => by
    obtain ⟨members, member, rfl, mem, integer⟩ := member_of_foldl integer
    have label : yamlLabel ((Node.ofText key).target anchored) = some key := by
      simp [Node.ofText, Node.target, yamlLabel]
    exact ⟨.ofJson member, List.mem_map.mpr ⟨_, mem_ofMembers mem, by rw [label]⟩, stands_ofJson anchored integer⟩

end

end Record

end ControllerSynthesis
