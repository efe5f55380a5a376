/-
# Json

The values of the JSON data model, with integers and other numbers kept apart:
a number written with a point or an exponent, or too large for 64 bits, is held
as a 64-bit binary number. Members of an object keep the order in which they
are written. Values of which the shape is not known are kept with the members of
every object in ascending order of the keys, so that two of them are equal when
they mean the same.

Key definitions: `Json`, `Json.lookup`, `Json.member?`, `Json.ordered`.
-/
import ControllerSynthesis.KeyMap
import ControllerSynthesis.Number.Binary64

namespace ControllerSynthesis

/-- A value of the JSON data model. -/
inductive Json where
  | null
  | bool (value : Bool)
  | int (value : Int)
  | float (value : Binary64)
  | str (text : String)
  | arr (items : List Json)
  | obj (members : List (String × Json))
  deriving Repr, Inhabited

namespace Json

/-- The value of the first member of that name in a list of members. -/
def lookup (key : String) : List (String × Json) → Option Json
  | [] => none
  | (k, v) :: members => if k = key then some v else lookup key members

/-- The member of that name of an object. -/
def member? (value : Json) (key : String) : Option Json :=
  match value with
  | obj members => lookup key members
  | _ => none

/-- A list of texts. -/
def texts (items : List String) : Json :=
  arr (items.map str)

/-- A text, or null when there is none. -/
def textOrNull : Option String → Json
  | some text => str text
  | none => null

/-- The member of an optional part: left out when there is none. -/
def optional (key : String) : Option Json → List (String × Json)
  | some value => [(key, value)]
  | none => []

/-! ### Objects in the order of their keys -/

mutual

/-- The value with the members of every object in the order of their keys; the
last of several equal keys counts. -/
def ordered : Json → Json
  | .arr items => .arr (orderedItems items)
  | .obj members => .obj (orderedMembers [] members)
  | .null => .null
  | .bool value => .bool value
  | .int value => .int value
  | .float value => .float value
  | .str text => .str text

/-- The items, each with its objects in order. -/
def orderedItems : List Json → List Json
  | [] => []
  | item :: items => ordered item :: orderedItems items

/-- The members, added in order to those in `done`. -/
def orderedMembers (done : List (String × Json)) : List (String × Json) → List (String × Json)
  | [] => done
  | (key, value) :: members => orderedMembers (KeyMap.insertEntry key (ordered value) done) members

end

end Json

end ControllerSynthesis
