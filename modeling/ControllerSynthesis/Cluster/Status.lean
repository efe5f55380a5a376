/-
# What is observed of a cluster

The status of a cluster: conditions observed on it, and counts. Synthesis never
reads it.

Key definitions: `Condition`, `ClusterStatus`.
-/
import ControllerSynthesis.Json.Access
import ControllerSynthesis.Record.Shape

namespace ControllerSynthesis

open Record

/-- An observation of a cluster's state. -/
structure Condition where
  type : String := ""
  status : String := ""
  reason : Option String := none
  message : Option String := none
  lastTransitionTime : Option String := none
  deriving Repr, DecidableEq

/-- What is observed of a cluster. -/
structure ClusterStatus where
  conditions : List Condition := []
  observedGeneration : Option Int := none
  controllerReadyReplicas : Option Int := none
  deriving Repr, DecidableEq

namespace Condition

/-- The shape of conditions. -/
def shape : Shape :=
  .record "Condition" true <|
    .cons "type" .required .text <|
    .cons "status" .required .text <|
    .cons "reason" .omitted .text <|
    .cons "message" .omitted .text <|
    .cons "lastTransitionTime" .omitted .text .nil

/-- The condition of a canonical value. -/
def ofJson (value : Json) : Condition where
  type := value.textAt "type"
  status := value.textAt "status"
  reason := value.textAt? "reason"
  message := value.textAt? "message"
  lastTransitionTime := value.textAt? "lastTransitionTime"

/-- The canonical value of a condition. -/
def toJson (c : Condition) : Json :=
  .obj <|
    [("type", .str c.type), ("status", .str c.status)] ++
    Json.optional "reason" (c.reason.map .str) ++
    Json.optional "message" (c.message.map .str) ++
    Json.optional "lastTransitionTime" (c.lastTransitionTime.map .str)

end Condition

namespace ClusterStatus

/-- The shape of statuses. -/
def shape : Shape :=
  .record "PravegaClusterStatus" true <|
    .cons "conditions" (.defaulted (.arr [])) (.list Condition.shape) <|
    .cons "observedGeneration" .omitted (.integer .i64) <|
    .cons "controllerReadyReplicas" .omitted (.integer .i32) .nil

/-- The status of a canonical value. -/
def ofJson (value : Json) : ClusterStatus where
  conditions := (value.itemsAt "conditions").map Condition.ofJson
  observedGeneration := value.intAt? "observedGeneration"
  controllerReadyReplicas := value.intAt? "controllerReadyReplicas"

/-- The canonical value of a status. -/
def toJson (s : ClusterStatus) : Json :=
  .obj <|
    [("conditions", .arr (s.conditions.map Condition.toJson))] ++
    Json.optional "observedGeneration" (s.observedGeneration.map .int) ++
    Json.optional "controllerReadyReplicas" (s.controllerReadyReplicas.map .int)

end ClusterStatus

end ControllerSynthesis
