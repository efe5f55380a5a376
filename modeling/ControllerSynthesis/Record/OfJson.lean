/-
# Decoding JSON values

The JSON format for decoders by shape. Strict records may be given as lists of
their fields. A choice is a text or an object with one member, named for the
choice and holding null. Quantities may be numbers.

Key definitions: `Record.jsonFormat`, `Record.Shape.ofJson`.
-/
import ControllerSynthesis.Number.Spelling
import ControllerSynthesis.Record.Decoding

namespace ControllerSynthesis.Record

/-- What a JSON value is, for a message. -/
def jsonGot : Json → Got
  | .null => .null
  | .bool value => .flag value
  | .int value => .integer value
  | .float value => .float (String.ofList (value.shortest .toEven).compact)
  | .str text => .text text
  | .arr _ => .sequence
  | .obj _ => .map

/-- Failure because a JSON value is not of the kind wanted. -/
def jsonMismatch {α : Type} (value : Json) (wanted : String) : Result α :=
  fail (.invalidType (jsonGot value) wanted)

/-- The name chosen by a JSON value. -/
def jsonChoice (names : List String) : Json → Result String
  | .str name => if name ∈ names then .ok name else fail (.unknownChoice name names)
  | .obj [(name, value)] =>
    if name ∈ names then
      match value with
      | .null => .ok name
      | other => jsonMismatch other "unit"
    else fail (.unknownChoice name names)
  | .obj _ => fail (.invalidValue .map "map with a single key")
  | other => jsonMismatch other "string or map"

/-- JSON values as parts of a document. -/
def jsonFormat : Format (Except Failure) Json where
  text wanted
    | .str text => .ok text
    | other => jsonMismatch other wanted
  flag
    | .bool value => .ok value
    | other => jsonMismatch other "a boolean"
  integer width
    | .int n => if width.holds n then .ok n else fail (.invalidValue (.integer n) width.name)
    | other => jsonMismatch other width.name
  quantity
    | .str text => .ok text
    | .int n => .ok (Digits.text n)
    | .float x => .ok (String.ofList (x.shortest .up).plain)
    | other => jsonMismatch other "Quantity"
  timestamp
    | .str text => readTimestamp text
    | other => jsonMismatch other wantedTimestamp
  choice := jsonChoice
  any value := .ok value.ordered
  present?
    | .null => .ok none
    | value => .ok (some value)
  items
    | .arr items => .ok items
    | other => jsonMismatch other "a sequence"
  entries
    | .obj members => .ok (members.map fun m => (.str m.1, m.2))
    | other => jsonMismatch other "a map"
  contents name strict
    | .obj members => .ok (.entries (members.map fun m => (.str m.1, m.2)))
    | .arr items =>
      if strict then .ok (.places items) else fail (.invalidType .sequence (wantedRecord name strict))
    | other => jsonMismatch other (wantedRecord name strict)
  label
    | .str text => some text
    | _ => none
  pass _ := .ok ()

/-- The canonical form of a JSON value that stands for the domain type. -/
def Shape.ofJson (shape : Shape) (value : Json) : Result Json :=
  shape.decode jsonFormat value

end ControllerSynthesis.Record
