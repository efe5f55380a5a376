/-
# Compute resources of a container

Limits and requests by resource name. A quantity is kept as the text it was
given as: `500m`, `1Gi`. An empty set of resources is still a set.

Key definitions: `Resources`, `Resources.shape`.
-/
import ControllerSynthesis.Json.Access
import ControllerSynthesis.Record.Shape

namespace ControllerSynthesis

open Record

/-- A claim on a resource of the pod. -/
structure ResourceClaim where
  name : String := ""
  request : Option String := none
  deriving Repr, DecidableEq

/-- The compute resources of a container. -/
structure Resources where
  claims : Option (List ResourceClaim) := none
  limits : Option (KeyMap String) := none
  requests : Option (KeyMap String) := none
  deriving Repr, DecidableEq

namespace ResourceClaim

/-- The shape of claims. -/
def shape : Shape :=
  .record "ResourceClaim" false <|
    .cons "name" (.lenient (some (.str ""))) .text <|
    .cons "request" (.lenient none) .text .nil

/-- The claim of a canonical value. -/
def ofJson (value : Json) : ResourceClaim where
  name := value.textAt "name"
  request := value.textAt? "request"

/-- The canonical value of a claim. -/
def toJson (c : ResourceClaim) : Json :=
  .obj ([("name", .str c.name)] ++ Json.optional "request" (c.request.map .str))

end ResourceClaim

namespace Resources

/-- The shape of compute resources. -/
def shape : Shape :=
  .record "ResourceRequirements" false <|
    .cons "claims" (.lenient none) (.list ResourceClaim.shape) <|
    .cons "limits" (.lenient none) (.map .quantity) <|
    .cons "requests" (.lenient none) (.map .quantity) .nil

/-- The resources of a canonical value. -/
def ofJson (value : Json) : Resources where
  claims := (value.itemsAt? "claims").map fun items => items.map ResourceClaim.ofJson
  limits := value.keyMapAt? "limits"
  requests := value.keyMapAt? "requests"

/-- The canonical value of resources. -/
def toJson (r : Resources) : Json :=
  .obj <|
    Json.optional "claims" (r.claims.map fun items => .arr (items.map ResourceClaim.toJson)) ++
    Json.optional "limits" (r.limits.map Json.ofKeyMap) ++
    Json.optional "requests" (r.requests.map Json.ofKeyMap)

end Resources

end ControllerSynthesis
