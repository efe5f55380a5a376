/-
# Label selectors

A selector asks for labels with given values, and for labels whose value is
among several. It selects the objects whose labels meet all of this.

Key definitions: `LabelSelector`, `LabelSelector.selects`.
-/
import ControllerSynthesis.Json.Access

namespace ControllerSynthesis

/-- The labels of an object. -/
abbrev Labels := KeyMap String

/-- The demand that a label's value is one of `values`. -/
structure LabelRequirement where
  key : String
  values : List String
  deriving Repr, DecidableEq

/-- A selector over labels. -/
structure LabelSelector where
  matchExpressions : Option (List LabelRequirement) := none
  matchLabels : Option Labels := none
  deriving Repr, DecidableEq

namespace LabelRequirement

/-- Whether labels meet the requirement. -/
def selects (r : LabelRequirement) (labels : Labels) : Bool :=
  match labels.get? r.key with
  | some value => value ∈ r.values
  | none => false

/-- The requirement as a value. -/
def toJson (r : LabelRequirement) : Json :=
  .obj [("key", .str r.key), ("operator", .str "In"), ("values", Json.texts r.values)]

end LabelRequirement

/-- Whether `labels` has every entry of `wanted`. -/
def Labels.includes (labels wanted : Labels) : Bool :=
  wanted.entries.all fun e => labels.get? e.1 = some e.2

namespace LabelSelector

/-- Whether the selector selects an object with these labels. -/
def selects (s : LabelSelector) (labels : Labels) : Bool :=
  ((s.matchExpressions.getD []).all fun r => r.selects labels) &&
  Labels.includes labels (s.matchLabels.getD KeyMap.empty)

/-- The selector as a value. -/
def toJson (s : LabelSelector) : Json :=
  .obj <|
    Json.optional "matchExpressions"
      (s.matchExpressions.map fun rs => .arr (rs.map LabelRequirement.toJson)) ++
    Json.optional "matchLabels" (s.matchLabels.map Json.ofKeyMap)

end LabelSelector

end ControllerSynthesis
