/-
# Values whose numbers are integers

The values that clusters and their objects are written as hold no other numbers than
integers. They are written and their documents are taken apart whatever the size of
these is; they are read back as values of any kind if they fit into 64 bits.

Key definitions: `Json.isExact`, `Json.isIntegral`.
Key theorems: `Json.isExact_of_isIntegral`.
-/
import ControllerSynthesis.Record.OfYaml

namespace ControllerSynthesis.Json

mutual

/-- Whether all numbers in a value are integers. -/
def isExact : Json → Bool
  | .float _ => false
  | .arr items => areExact items
  | .obj members => membersExact members
  | .null => true
  | .bool _ => true
  | .int _ => true
  | .str _ => true

/-- Whether this holds of all items of a list. -/
def areExact : List Json → Bool
  | [] => true
  | item :: items => isExact item && areExact items

/-- Whether this holds of all members of an object. -/
def membersExact : List (String × Json) → Bool
  | [] => true
  | (_, value) :: members => isExact value && membersExact members

end

mutual

/-- Whether all numbers in a value are integers of 64 bits. -/
def isIntegral : Json → Bool
  | .int n => Record.isWordSize n
  | .float _ => false
  | .arr items => areIntegral items
  | .obj members => membersIntegral members
  | .null => true
  | .bool _ => true
  | .str _ => true

/-- Whether this holds of all items of a list. -/
def areIntegral : List Json → Bool
  | [] => true
  | item :: items => isIntegral item && areIntegral items

/-- Whether this holds of all members of an object. -/
def membersIntegral : List (String × Json) → Bool
  | [] => true
  | (_, value) :: members => isIntegral value && membersIntegral members

end

theorem membersExact_iff {members : List (String × Json)} :
    membersExact members = true ↔ ∀ m ∈ members, isExact m.2 = true := by
  induction members with
  | nil => simp [membersExact]
  | cons m members ih =>
    obtain ⟨key, value⟩ := m
    simp [membersExact, ih]

theorem areIntegral_iff {items : List Json} :
    areIntegral items = true ↔ ∀ item ∈ items, isIntegral item = true := by
  induction items with
  | nil => simp [areIntegral]
  | cons item items ih => simp [areIntegral, ih]

theorem membersIntegral_iff {members : List (String × Json)} :
    membersIntegral members = true ↔ ∀ m ∈ members, isIntegral m.2 = true := by
  induction members with
  | nil => simp [membersIntegral]
  | cons m members ih =>
    obtain ⟨key, value⟩ := m
    simp [membersIntegral, ih]

mutual

theorem isExact_of_isIntegral : ∀ {value : Json}, value.isIntegral = true → value.isExact = true
  | .null, _ => rfl
  | .bool _, _ => rfl
  | .int _, _ => rfl
  | .float _, integral => by simp [isIntegral] at integral
  | .str _, _ => rfl
  | .arr items, integral => by
    rw [isIntegral] at integral
    rw [isExact, areExact_of_areIntegral integral]
  | .obj members, integral => by
    rw [isIntegral] at integral
    rw [isExact, membersExact_of_membersIntegral integral]

theorem areExact_of_areIntegral : ∀ {items : List Json}, areIntegral items = true → areExact items = true
  | [], _ => rfl
  | item :: items, integral => by
    rw [areIntegral, Bool.and_eq_true] at integral
    rw [areExact, isExact_of_isIntegral integral.1, areExact_of_areIntegral integral.2, Bool.and_self]

theorem membersExact_of_membersIntegral : ∀ {members : List (String × Json)}, membersIntegral members = true →
    membersExact members = true
  | [], _ => rfl
  | (_, value) :: members, integral => by
    rw [membersIntegral, Bool.and_eq_true] at integral
    rw [membersExact, isExact_of_isIntegral integral.1, membersExact_of_membersIntegral integral.2, Bool.and_self]

end

end ControllerSynthesis.Json
