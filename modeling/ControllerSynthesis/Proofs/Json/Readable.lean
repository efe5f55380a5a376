/-
# Values that can be read back

A value can be read back as a value of any kind if its numbers are integers of 64
bits and it is not nested too deeply. Both are checked member by member, so what the
parts of a cluster and its objects are written as is checked by simplification.

Key definitions: `Json.Readable`, `Json.MembersReadable`.
Key theorems: `Json.readable_obj`, `Json.membersReadable_optional`.
-/
import ControllerSynthesis.Kube.Pod
import ControllerSynthesis.Proofs.Record.AnyValue

namespace ControllerSynthesis.Json

/-- Whether the numbers of a value are integers of 64 bits and it is at most so many
lists and objects deep. -/
def Readable (value : Json) (depth : Nat) : Prop :=
  value.isIntegral = true ∧ value.fits depth = true

/-- Whether this holds of the values of all members. -/
def MembersReadable (members : List (String × Json)) (depth : Nat) : Prop :=
  ∀ m ∈ members, m.2.Readable depth

variable {depth : Nat} {key : String}

theorem itemsFit_iff {items : List Json} : itemsFit items depth = true ↔ ∀ i ∈ items, i.fits depth = true := by
  induction items with
  | nil => simp [itemsFit]
  | cons item items ih => simp [itemsFit, ih]

theorem membersFit_iff {members : List (String × Json)} :
    membersFit members depth = true ↔ ∀ m ∈ members, m.2.fits depth = true := by
  induction members with
  | nil => simp [membersFit]
  | cons m members ih =>
    obtain ⟨key, value⟩ := m
    simp [membersFit, ih]

/-! ### Values -/

@[simp] theorem readable_str (text : String) : (str text).Readable depth := ⟨rfl, by cases depth <;> rfl⟩

@[simp] theorem readable_bool (b : Bool) : (bool b).Readable depth := ⟨rfl, by cases depth <;> rfl⟩

@[simp] theorem readable_int {n : Int} : (int n).Readable depth ↔ Record.isWordSize n = true := by
  cases depth <;> simp [Readable, isIntegral, fits]

@[simp] theorem readable_arr {items : List Json} :
    (arr items).Readable (depth + 1) ↔ ∀ i ∈ items, i.Readable depth := by
  simp only [Readable, isIntegral, fits, areIntegral_iff, itemsFit_iff]
  exact ⟨fun both i mem => ⟨both.1 i mem, both.2 i mem⟩,
    fun all => ⟨fun i mem => (all i mem).1, fun i mem => (all i mem).2⟩⟩

@[simp] theorem readable_obj {members : List (String × Json)} :
    (obj members).Readable (depth + 1) ↔ MembersReadable members depth := by
  simp only [Readable, isIntegral, fits, membersIntegral_iff, membersFit_iff]
  exact ⟨fun both m mem => ⟨both.1 m mem, both.2 m mem⟩,
    fun all => ⟨fun m mem => (all m mem).1, fun m mem => (all m mem).2⟩⟩

/-! ### Members -/

@[simp] theorem membersReadable_nil : MembersReadable [] depth := nofun

@[simp] theorem membersReadable_cons {value : Json} {members : List (String × Json)} :
    MembersReadable ((key, value) :: members) depth ↔ value.Readable depth ∧ MembersReadable members depth :=
  List.forall_mem_cons

@[simp] theorem membersReadable_append {a b : List (String × Json)} :
    MembersReadable (a ++ b) depth ↔ MembersReadable a depth ∧ MembersReadable b depth :=
  List.forall_mem_append

@[simp] theorem membersReadable_optional {α : Type} {toJson : α → Json} {value : Option α} :
    MembersReadable (optional key (value.map toJson)) depth ↔ ∀ a ∈ value, (toJson a).Readable depth := by
  cases value with
  | none => simp [optional]
  | some a => simp [optional]

@[simp] theorem membersReadable_none : MembersReadable (optional key none) depth := nofun

/-! ### Lists and maps -/

@[simp] theorem readable_texts (items : List String) : (texts items).Readable (depth + 1) := by
  simp [texts]

@[simp] theorem readable_ofKeyMap (m : KeyMap String) : (ofKeyMap m).Readable (depth + 1) := by
  refine readable_obj.mpr fun e mem => ?_
  obtain ⟨entry, -, rfl⟩ := List.mem_map.mp mem
  exact readable_str entry.2

@[simp] theorem readable_jsonList {α : Type} {toJson : α → Json} {items : List α} :
    (jsonList toJson items).Readable (depth + 1) ↔ ∀ a ∈ items, (toJson a).Readable depth := by
  simp [jsonList]

end ControllerSynthesis.Json
