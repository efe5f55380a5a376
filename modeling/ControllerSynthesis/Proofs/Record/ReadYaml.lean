/-
# What is written is read

In a document without anchors the tree of a value is what the value is, so canonical
values that are written are read back. Values of any kind are read if their numbers are
integers, they are not nested too deeply, and their objects are in the order of their
keys.

Key definitions: `Record.readsAny`, `Record.part`.
Key theorems: `Record.Shape.Canonical.isIntegral`, `Record.yamlFormat_reads`.
-/
import ControllerSynthesis.Proofs.Record.AnyValue
import ControllerSynthesis.Proofs.Record.Canonical

namespace ControllerSynthesis.Record

open Yaml (Node)

/-- The values of any kind that are read back in a part in so many lists and mappings. -/
def readsAny (depth : Nat) (value : Json) : Prop :=
  value.isIntegral = true ∧ value.fits (deepest - (depth + 1)) = true ∧ value.ordered = value

/-! ### Numbers -/

mutual

/-- Canonical values hold no other numbers than integers. -/
theorem Shape.Canonical.isIntegral : ∀ {shape : Shape} {depth : Nat} {value : Json},
    shape.Canonical readsAny depth value → value.isIntegral = true
  | .text, _, _, canonical => by
    obtain ⟨text, rfl⟩ := canonical
    rfl
  | .flag, _, _, canonical => by
    obtain ⟨b, rfl⟩ := canonical
    rfl
  | .integer width, _, _, canonical => by
    obtain ⟨n, rfl, holds⟩ := canonical
    exact isWordSize_of_holds holds
  | .quantity, _, _, canonical => by
    obtain ⟨text, rfl⟩ := canonical
    rfl
  | .timestamp, _, _, canonical => by
    obtain ⟨text, rfl, -⟩ := canonical
    rfl
  | .any, _, _, canonical => canonical.1
  | .choice names, _, _, canonical => by
    obtain ⟨name, -, rfl⟩ := canonical
    rfl
  | .list item, depth, _, canonical => by
    obtain ⟨items, rfl, all⟩ := canonical
    rw [Json.isIntegral]
    exact Json.areIntegral_iff.mpr fun i mem => (all i mem).isIntegral
  | .map shape, depth, _, canonical => by
    obtain ⟨members, rfl, -, all⟩ := canonical
    rw [Json.isIntegral]
    exact Json.membersIntegral_iff.mpr fun m mem => (all m mem).isIntegral
  | .record _ _ fields, depth, _, canonical => by
    obtain ⟨members, rfl, fits⟩ := canonical
    rw [Json.isIntegral]
    exact fits.membersIntegral

theorem Fields.Canonical.membersIntegral : ∀ {fields : Fields} {depth : Nat} {members : List (String × Json)},
    fields.Canonical readsAny depth members → Json.membersIntegral members = true
  | .nil, _, _, canonical => by
    rw [show _ = [] from canonical]
    rfl
  | .cons key presence shape rest, depth, _, canonical => by
    obtain ⟨-, value, others, rfl, later, given⟩ := canonical
    refine Json.membersIntegral_iff.mpr fun m mem => ?_
    rcases List.mem_append.mp mem with mem | mem
    · cases value with
      | some value =>
        rw [List.mem_singleton.mp mem]
        exact given.1.isIntegral
      | none =>
        obtain ⟨-, same⟩ | ⟨-, same⟩ := presence.kept_none key given
        · rw [same, List.mem_singleton] at mem
          rw [mem]
          rfl
        · rw [same] at mem
          cases mem
    · exact Json.membersIntegral_iff.mp later.membersIntegral m mem

end

variable {anchored : List (Nat × Node)}

/-! ### Parts that are there -/

/-- The tree of a value in so many lists and mappings. -/
def part (depth : Nat) (value : Json) : Part :=
  ⟨.ofJson value, depth⟩

theorem isNull_of_isPlainText {text : List Char} (plain : Yaml.isPlainText text = true) :
    Yaml.isNull text = false := by
  rw [Yaml.isPlainText, Bool.and_eq_true] at plain
  cases null : Yaml.isNull text with
  | false => rfl
  | true =>
    have meaning := plain.1
    rw [Yaml.meaning, if_pos null] at meaning
    cases meaning

theorem yamlAbsent_ofText (text : String) : yamlAbsent (.ofText text) = .ok false := by
  rw [Node.ofText, Yaml.formOf]
  cases style : Yaml.style text.toList with
  | plain => exact congrArg Except.ok (isNull_of_isPlainText (Yaml.style_plain style).1)
  | singleQuoted => rfl
  | doubleQuoted => rfl
  | literal => rfl

theorem integer?_of_isNull {text : List Char} (null : Yaml.isNull text = true) : Yaml.integer? text = none := by
  simp only [Yaml.isNull, Bool.or_eq_true, beq_iff_eq] at null
  rcases null with (((rfl | rfl) | rfl) | rfl) | rfl <;> rfl

theorem isNull_ofInt (n : Int) : Yaml.isNull (Digits.ofInt n) = false := by
  cases null : Yaml.isNull (Digits.ofInt n) with
  | false => rfl
  | true =>
    have value := Yaml.integer?_ofInt n
    rw [integer?_of_isNull null] at value
    cases value

/-- What is written for a value other than null is there. -/
theorem yamlAbsent_ofJson {value : Json} (there : value ≠ .null) (integral : value.isIntegral = true) :
    yamlAbsent (.ofJson value) = .ok false := by
  cases value with
  | null => exact absurd rfl there
  | bool b => cases b <;> rfl
  | int n => exact congrArg Except.ok (isNull_ofInt n)
  | float x => simp [Json.isIntegral] at integral
  | str text => exact yamlAbsent_ofText text
  | arr items => rfl
  | obj members => rfl

/-! ### What a part is -/

theorem format_text (wanted text : String) (depth : Nat) :
    (yamlFormat anchored).text wanted ⟨.ofText text, depth⟩ = pure text := by
  simp [yamlFormat, follow_ofText]

theorem format_flag (b : Bool) (depth : Nat) : (yamlFormat anchored).flag (part depth (.bool b)) = pure b := by
  cases b <;> rfl

theorem format_integer {width : Width} {n : Int} (holds : width.holds n = true) (depth : Nat) :
    (yamlFormat anchored).integer width (part depth (.int n)) = pure n := by
  have wide : Width.i64.holds n = true := by
    cases width with
    | i32 =>
      have less : (Width.i32.bound : Int) ≤ Width.i64.bound := by decide
      simp only [Width.holds, Bool.and_eq_true, decide_eq_true_eq] at holds ⊢
      omega
    | i64 => exact holds
  have read : yamlInteger width (.ofJson (.int n)) = .ok n := by
    rw [Node.ofJson, yamlInteger, Yaml.integer?_ofInt]
    simp [Option.filter, isUnquoted, wide, holds]
  simp [yamlFormat, part, follow_ofJson, read]

theorem format_quantity (text : String) (depth : Nat) :
    (yamlFormat anchored).quantity (part depth (.str text)) = pure text := by
  have read : yamlQuantity (.ofJson (.str text)) = .ok text := by
    have meaning := scalarMeaning_formOf text.toList
    unfold yamlQuantity
    simp only [Node.ofJson, Node.ofText, localName?, meaning]
    exact congrArg Except.ok String.ofList_toList
  simp [yamlFormat, part, follow_ofJson, read]

theorem format_timestamp {text : String} (canonical : readTimestamp text = .ok text) (depth : Nat) :
    (yamlFormat anchored).timestamp (part depth (.str text)) = pure text := by
  have read : yamlText wantedTimestamp (.ofJson (.str text)) = .ok text := yamlText_ofText wantedTimestamp text
  simp [yamlFormat, part, follow_ofJson, read, canonical]

theorem format_choice {names : List String} {name : String} (mem : name ∈ names) (depth : Nat) :
    (yamlFormat anchored).choice names (part depth (.str name)) = pure name := by
  have read : yamlChoice names (.ofJson (.str name)) = .ok name := by
    rw [Node.ofJson, Node.ofText, yamlChoice]
    simp [localName?, mem]
  simp [yamlFormat, part, follow_ofJson, read]

theorem format_present {value : Json} (there : value ≠ .null) (integral : value.isIntegral = true) (depth : Nat) :
    (yamlFormat anchored).present? (part depth value) = pure (some (part depth value)) := by
  simp [yamlFormat, part, follow_ofJson, yamlAbsent_ofJson there integral]

theorem format_absent (depth : Nat) : (yamlFormat anchored).present? (part depth .null) = pure none := rfl

theorem map_ofItems (depth : Nat) (items : List Json) :
    (Node.ofItems items).map (Part.mk · depth) = items.map (part depth) := by
  induction items with
  | nil => rfl
  | cons item items ih => exact congrArg (part depth item :: ·) ih

theorem format_items (items : List Json) (depth : Nat) :
    (yamlFormat anchored).items (part depth (.arr items)) = pure (items.map (part (depth + 1))) := by
  have read : yamlItems (.ofJson (.arr items)) = .ok (Node.ofItems items) := rfl
  simp [yamlFormat, part, follow_ofJson, read, map_ofItems]

theorem map_ofMembers (depth : Nat) (members : List (String × Json)) :
    (Node.ofMembers members).map (fun e => (Part.mk e.1 depth, Part.mk e.2 depth)) = entryParts part depth members := by
  induction members with
  | nil => rfl
  | cons m members ih => exact congrArg (_ :: ·) ih

theorem yamlEntries_ofJson (wanted : String) (members : List (String × Json)) :
    yamlEntries wanted (.ofJson (.obj members)) = .ok (Node.ofMembers members) := rfl

theorem format_entries (members : List (String × Json)) (depth : Nat) :
    (yamlFormat anchored).entries (part depth (.obj members)) = pure (entryParts part (depth + 1) members) := by
  simp [yamlFormat, part, follow_ofJson, yamlEntries_ofJson, map_ofMembers]

theorem format_contents (name : String) (strict : Bool) (members : List (String × Json)) (depth : Nat) :
    (yamlFormat anchored).contents name strict (part depth (.obj members)) =
      pure (.entries (entryParts part (depth + 1) members)) := by
  simp [yamlFormat, part, follow_ofJson, yamlEntries_ofJson, map_ofMembers]

mutual

/-- What is written for a value is read over to its end. -/
theorem stop_ofJson : ∀ value : Json, stop? (.ofJson value) = none
  | .null | .bool true | .bool false | .int _ | .float _ | .str _ => rfl
  | .arr items => stopItem_ofItems items
  | .obj members => stopPair_ofMembers members

theorem stopItem_ofItems : ∀ items : List Json, stopItem? (Node.ofItems items) = none
  | [] => rfl
  | item :: items => by
    rw [Node.ofItems, stopItem?, stop_ofJson item, stopItem_ofItems items]
    rfl

theorem stopPair_ofMembers : ∀ members : List (String × Json), stopPair? (Node.ofMembers members) = none
  | [] => rfl
  | (key, value) :: members => by
    rw [Node.ofMembers, stopPair?, stop_ofJson value, stopPair_ofMembers members]
    rfl

end

/-- **Documents of written values are read.** -/
theorem yamlFormat_reads (anchored : List (Nat × Node)) : (yamlFormat anchored).Reads readsAny part where
  under_pure := under_pure
  text := format_text
  flag := format_flag
  integer := format_integer
  quantity := format_quantity
  timestamp := format_timestamp
  choice := format_choice
  anything := by
    rintro depth value ⟨integral, fits, ordered⟩
    have any : yamlAny anchored (deepest - (depth + 1)) (.ofJson value) = pure value.ordered :=
      yamlAny_ofJson integral fits
    rw [ordered] at any
    exact any
  present := fun canonical there => format_present there canonical.isIntegral _
  absent := format_absent
  items := format_items
  entries := format_entries
  contents := format_contents
  pass := fun depth value => by simp [yamlFormat, part, yamlPass, stop_ofJson]

end ControllerSynthesis.Record
