/-
# The shapes of records

A shape says which values stand for a domain type, and it is data: the decoders
of all document formats follow it, and so does what is said about them. A record
has its fields in the order of their declaration, each with a rule for values
that are absent or null.

There are two conventions for records. A strict record refuses a key that comes
twice, takes null only where a field says so, and, in formats that allow it, may
be given as a list of its fields in order. A lenient one lets the last of
several equal keys count, and treats null like an absent value in every field.

Key definitions: `Record.Shape`, `Record.Fields`, `Record.Presence`,
`Record.Width`.
-/
import ControllerSynthesis.Json.Value
import ControllerSynthesis.Number.Digits

namespace ControllerSynthesis.Record

/-- The width of an integer, with its sign. -/
inductive Width where
  | i32
  | i64
  deriving Repr, DecidableEq

namespace Width

/-- The width's name in messages. -/
def name : Width → String
  | i32 => "i32"
  | i64 => "i64"

/-- The number of values at or above zero. -/
def bound : Width → Nat
  | i32 => Nat.pow 2 31
  | i64 => Nat.pow 2 63

/-- Whether an integer fits into the width. -/
def holds (width : Width) (n : Int) : Bool :=
  -(width.bound : Int) ≤ n && n < (width.bound : Int)

end Width

/-- The rule of a field for values that are absent or null. -/
inductive Presence where
  /-- A value must be there. -/
  | required
  /-- An absent value is replaced; null is not one. -/
  | defaulted (value : Json)
  /-- Absent and null are both kept as null. -/
  | nullable
  /-- Absent and null are both left out; a list must have a place for the field. -/
  | omitted
  /-- Absent and null are both replaced, or left out if there is no replacement. -/
  | lenient (value : Option Json)

mutual

/-- Which values stand for a domain type. -/
inductive Shape where
  /-- A text. -/
  | text
  /-- A truth value. -/
  | flag
  /-- An integer of limited width. -/
  | integer (width : Width)
  /-- A text, or a number, which counts as its decimal text. -/
  | quantity
  /-- A point in time, as text. -/
  | timestamp
  /-- Any value, with its objects in the order of their keys. -/
  | any
  /-- One of several names. -/
  | choice (names : List String)
  /-- A list of items of one shape. -/
  | list (item : Shape)
  /-- A map from text to values of one shape. -/
  | map (value : Shape)
  /-- A record, strict or lenient. -/
  | record (name : String) (strict : Bool) (fields : Fields)

/-- The fields of a record in the order of their declaration. -/
inductive Fields where
  | nil
  | cons (key : String) (presence : Presence) (shape : Shape) (rest : Fields)

end

namespace Fields

/-- The keys in the order of their declaration. -/
def keys : Fields → List String
  | nil => []
  | cons key _ _ rest => key :: rest.keys

/-- The number of fields. -/
def size (fields : Fields) : Nat :=
  fields.keys.length

end Fields

/-- How messages name a record of this kind. -/
def wantedRecord (name : String) (strict : Bool) : String :=
  if strict then "struct " ++ name else name

/-- How messages name a record given as a list of its fields. -/
def wantedList (name : String) (size : Nat) : String :=
  "struct " ++ name ++ " with " ++ Digits.text size ++ (if size = 1 then " element" else " elements")

end ControllerSynthesis.Record
