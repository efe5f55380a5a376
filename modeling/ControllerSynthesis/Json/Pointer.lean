/-
# Pointers into a value

A pointer names a part of a value: a slash before each step, which is the name
of a member or the index of an item. In a step `~1` stands for a slash and `~0`
for a tilde. The empty pointer names the whole.

Key definitions: `Json.at?`.
-/
import ControllerSynthesis.Json.Value
import ControllerSynthesis.Number.Digits

namespace ControllerSynthesis.Json

/-- A step with its escapes replaced. -/
def unescaped : List Char → List Char
  | '~' :: '1' :: cs => '/' :: unescaped cs
  | '~' :: '0' :: cs => '~' :: unescaped cs
  | c :: cs => c :: unescaped cs
  | [] => []

/-- The index that a step stands for: digits without leading zeros. -/
def index? (step : List Char) : Option Nat :=
  match step with
  | '0' :: _ :: _ => none
  | _ => if step.all Digits.isDecimal then Digits.toNat? 10 step else none

/-- The part of a value that a step leads to. -/
def step? (step : List Char) : Json → Option Json
  | obj members => lookup (String.ofList step) members
  | arr items => (index? step).bind fun i => items[i]?
  | _ => none

/-- The parts of a text between slashes. -/
def splitSlashes : List Char → List (List Char)
  | [] => [[]]
  | c :: cs =>
    if c = '/' then [] :: splitSlashes cs
    else
      match splitSlashes cs with
      | part :: parts => (c :: part) :: parts
      | [] => [[c]]

/-- The part of a value that a pointer names. -/
def at? (value : Json) (pointer : String) : Option Json :=
  match pointer.toList with
  | [] => some value
  | c :: cs =>
    if c = '/' then
      (splitSlashes cs).foldl (fun part step => part.bind (step? (unescaped step))) (some value)
    else none

end ControllerSynthesis.Json
