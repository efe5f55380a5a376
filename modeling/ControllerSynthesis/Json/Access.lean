/-
# Members of canonical values

Reading the members of an object of which the shape is known: a member that is
absent, null or of another kind counts as the empty value of its kind.

Key definitions: `Json.textAt`, `Json.textAt?`, `Json.keyMapAt?`.
-/
import ControllerSynthesis.Json.Value
import ControllerSynthesis.KeyMap

namespace ControllerSynthesis.Json

/-- The text that a value is. -/
def asText? : Json → Option String
  | str text => some text
  | _ => none

/-- The integer that a value is. -/
def asInt? : Json → Option Int
  | int n => some n
  | _ => none

/-- The truth value that a value is. -/
def asFlag? : Json → Option Bool
  | bool b => some b
  | _ => none

/-- The items of the list that a value is. -/
def asItems? : Json → Option (List Json)
  | arr items => some items
  | _ => none

/-- The map from text to text that a value is. -/
def asKeyMap? : Json → Option (KeyMap String)
  | obj members => some (KeyMap.ofList (members.map fun m => (m.1, m.2.asText?.getD "")))
  | _ => none

/-- The object that a value is. -/
def asRecord? : Json → Option Json
  | obj members => some (obj members)
  | _ => none

/-- The member of an object, null if there is none. -/
def get (value : Json) (key : String) : Json :=
  (value.member? key).getD null

/-- The text at a key. -/
def textAt? (value : Json) (key : String) : Option String := (value.get key).asText?

/-- The text at a key, empty if there is none. -/
def textAt (value : Json) (key : String) : String := (value.textAt? key).getD ""

/-- The integer at a key. -/
def intAt? (value : Json) (key : String) : Option Int := (value.get key).asInt?

/-- The integer at a key, zero if there is none. -/
def intAt (value : Json) (key : String) : Int := (value.intAt? key).getD 0

/-- The truth value at a key. -/
def flagAt? (value : Json) (key : String) : Option Bool := (value.get key).asFlag?

/-- The truth value at a key, false if there is none. -/
def flagAt (value : Json) (key : String) : Bool := (value.flagAt? key).getD false

/-- The items at a key. -/
def itemsAt? (value : Json) (key : String) : Option (List Json) := (value.get key).asItems?

/-- The items at a key, none if there is no list. -/
def itemsAt (value : Json) (key : String) : List Json := (value.itemsAt? key).getD []

/-- The texts at a key. -/
def textsAt? (value : Json) (key : String) : Option (List String) :=
  (value.itemsAt? key).map fun items => items.map fun i => i.asText?.getD ""

/-- The map from text to text at a key. -/
def keyMapAt? (value : Json) (key : String) : Option (KeyMap String) := (value.get key).asKeyMap?

/-- The record at a key. -/
def recordAt? (value : Json) (key : String) : Option Json := (value.get key).asRecord?

/-- A map from text to text as an object. -/
def ofKeyMap (m : KeyMap String) : Json :=
  obj (m.entries.map fun e => (e.1, str e.2))

end ControllerSynthesis.Json
