/-
# JSON values are read

A JSON value is its own part, and it is what it is. So canonical values, written as
JSON, are decoded to themselves; values of any kind are if their objects are in the
order of their keys.

Key definitions: `Record.isOrdered`.
Key theorems: `Record.jsonFormat_reads`, `Record.ofJson_canonical`.
-/
import ControllerSynthesis.Proofs.Record.Canonical
import ControllerSynthesis.Record.OfJson

namespace ControllerSynthesis.Record

/-- The values of any kind whose objects are in the order of their keys. -/
def isOrdered (_depth : Nat) (value : Json) : Prop :=
  value.ordered = value

/-- A JSON value as a part, whatever it lies in. -/
def itself (_depth : Nat) (value : Json) : Json :=
  value

theorem present?_of_ne {value : Json} (there : value ≠ .null) :
    jsonFormat.present? value = pure (some value) := by
  cases value with
  | null => exact absurd rfl there
  | _ => rfl

/-- **JSON values are read.** -/
theorem jsonFormat_reads : jsonFormat.Reads isOrdered itself where
  under_pure _ _ := rfl
  text _ _ _ := rfl
  flag _ _ := rfl
  integer holds _ := if_pos holds
  quantity _ _ := rfl
  timestamp read _ := read
  choice mem _ := if_pos mem
  anything ordered := congrArg Except.ok ordered
  present _ there := present?_of_ne there
  absent _ := rfl
  items items _ := congrArg Except.ok (List.map_id items).symm
  entries _ _ := rfl
  contents _ _ _ _ := rfl
  pass _ _ := rfl

/-- **A canonical value is decoded to itself.** -/
theorem ofJson_canonical {shape : Shape} {value : Json} (canonical : shape.Canonical isOrdered 0 value) :
    shape.ofJson value = .ok value :=
  jsonFormat_reads.decode_canonical canonical

end ControllerSynthesis.Record
