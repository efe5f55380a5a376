/-
# Comparing versions by text

Six comparison operators, their texts, and comparisons of two version texts. A
gate asks the same question but answers no when a text is malformed, whatever
the operator: an unreadable version never turns anything on. It only leads to a
warning.

Key definitions: `Comparison`, `Comparison.admits`, `Comparison.parse?`,
`Version.compareTexts`, `Version.compareWith`, `Version.gate`, `Version.gateLog`.
-/
import ControllerSynthesis.Log
import ControllerSynthesis.Version.Reading

namespace ControllerSynthesis

/-- The ways to compare two versions. -/
inductive Comparison where
  | equal
  | notEqual
  | greater
  | greaterOrEqual
  | less
  | lessOrEqual
  deriving Repr, DecidableEq

namespace Comparison

/-- Whether the comparison holds between two versions in the given order. -/
def admits : Comparison → Ordering → Bool
  | equal, o => o == .eq
  | notEqual, o => o != .eq
  | greater, o => o == .gt
  | greaterOrEqual, o => o != .lt
  | less, o => o == .lt
  | lessOrEqual, o => o != .gt

/-- The comparison that holds exactly when this one does not. -/
def complement : Comparison → Comparison
  | equal => notEqual
  | notEqual => equal
  | greater => lessOrEqual
  | greaterOrEqual => less
  | less => greaterOrEqual
  | lessOrEqual => greater

/-- The canonical text. -/
def symbol : Comparison → String
  | equal => "="
  | notEqual => "!="
  | greater => ">"
  | greaterOrEqual => ">="
  | less => "<"
  | lessOrEqual => "<="

/-- The comparison a text names; white space around it is ignored, and `==` is
another way to write `=`. -/
def parse? (text : String) : Option Comparison :=
  match Text.trim text.toList with
  | ['='] => some equal
  | ['=', '='] => some equal
  | ['!', '='] => some notEqual
  | ['>'] => some greater
  | ['>', '='] => some greaterOrEqual
  | ['<'] => some less
  | ['<', '='] => some lessOrEqual
  | _ => none

end Comparison

namespace Version

/-- What is wrong with a comparison of version texts. -/
inductive Error where
  /-- A text is no version; the text is kept as it was given. -/
  | malformed (version : String) (fault : Fault)
  /-- A text names no comparison; the text is kept as it was given. -/
  | unknownOperator (operator : String)
  deriving Repr, DecidableEq

/-- The error in words. -/
def Error.message : Error → String
  | malformed version fault => "'" ++ version ++ "' is not a valid version: " ++ fault.message
  | unknownOperator operator =>
    "'" ++ operator ++ "' is not a supported version comparison operator"

/-- The version a text spells, or what is wrong with it. -/
def ofText (raw : String) : Except Error Version :=
  match parse raw with
  | .ok v => .ok v
  | .error fault => .error (.malformed raw fault)

/-- Whether `version` and `threshold` compare as asked; the version is read
first. -/
def compareWith (version threshold : String) (comparison : Comparison) : Except Error Bool := do
  let v ← ofText version
  let t ← ofText threshold
  return comparison.admits (precedence v t)

/-- The same with the comparison given as text, which is read before the two
versions. -/
def compareTexts (version threshold operator : String) : Except Error Bool :=
  match Comparison.parse? operator with
  | some comparison => compareWith version threshold comparison
  | none => .error (.unknownOperator operator)

/-- Whether something that asks for a version may be turned on: the comparison
holds, and both texts are versions. -/
def gate (version threshold : String) (comparison : Comparison) : Bool :=
  match compareWith version threshold comparison with
  | .ok holds => holds
  | .error _ => false

/-- The warning of a gate for which the comparison fails. -/
def gateWarning (version threshold : String) (comparison : Comparison) (why : Error) : Log.Event where
  level := .warn
  message := "Version gate not applicable, skipping gated configuration"
  values := [("version", .text version), ("threshold", .text threshold), ("operator", .text comparison.symbol),
    ("error", .text why.message)]

/-- What a gate tells. -/
def gateLog (version threshold : String) (comparison : Comparison) : List Log.Event :=
  match compareWith version threshold comparison with
  | .ok _ => []
  | .error why => [gateWarning version threshold comparison why]

end Version

end ControllerSynthesis
