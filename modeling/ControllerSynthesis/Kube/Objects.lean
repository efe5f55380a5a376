/-
# The objects of a controller

The four objects that synthesis makes for a cluster, and the values they are
written as: version and kind first, then the fields in alphabetical order,
without those that are absent.

Key definitions: `ConfigMap`, `Service`, `Deployment`, `PodDisruptionBudget`.
-/
import ControllerSynthesis.Kube.Pod
import ControllerSynthesis.Settings

namespace ControllerSynthesis

/-- A configuration map. -/
structure ConfigMap where
  data : KeyMap String
  metadata : Metadata
  deriving Repr, DecidableEq

/-- A service. -/
structure Service where
  metadata : Metadata
  ports : List NamedPort
  selector : Labels
  type : ServiceType
  deriving Repr, DecidableEq

/-- A deployment. -/
structure Deployment where
  metadata : Metadata
  replicas : Int
  selector : LabelSelector
  template : PodTemplate
  deriving Repr, DecidableEq

/-- A limit on voluntary disruptions of the pods of a selector. -/
structure PodDisruptionBudget where
  metadata : Metadata
  minAvailable : Int
  selector : LabelSelector
  deriving Repr, DecidableEq

/-- The value of an object: its version, its kind and its fields. -/
def objectJson (apiVersion kind : String) (fields : List (String × Json)) : Json :=
  .obj (("apiVersion", .str apiVersion) :: ("kind", .str kind) :: fields)

/-- The configuration map as a value. -/
def ConfigMap.toJson (c : ConfigMap) : Json :=
  objectJson "v1" "ConfigMap" [("data", Json.ofKeyMap c.data), ("metadata", c.metadata.toJson)]

/-- The port of a service as a value. -/
def NamedPort.toJson (p : NamedPort) : Json :=
  .obj [("name", .str p.name), ("port", .int p.port)]

/-- The service as a value. -/
def Service.toJson (s : Service) : Json :=
  objectJson "v1" "Service" [
    ("metadata", s.metadata.toJson),
    ("spec", .obj [
      ("ports", jsonList NamedPort.toJson s.ports),
      ("selector", Json.ofKeyMap s.selector),
      ("type", .str s.type.name)])]

/-- The deployment as a value. -/
def Deployment.toJson (d : Deployment) : Json :=
  objectJson "apps/v1" "Deployment" [
    ("metadata", d.metadata.toJson),
    ("spec", .obj [
      ("replicas", .int d.replicas),
      ("selector", d.selector.toJson),
      ("template", d.template.toJson)])]

/-- The budget as a value. -/
def PodDisruptionBudget.toJson (b : PodDisruptionBudget) : Json :=
  objectJson "policy/v1" "PodDisruptionBudget" [
    ("metadata", b.metadata.toJson),
    ("spec", .obj [
      ("minAvailable", .int b.minAvailable),
      ("selector", b.selector.toJson)])]

end ControllerSynthesis
