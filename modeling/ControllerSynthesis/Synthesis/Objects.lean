/-
# Synthesis

The four objects of a cluster's controller. Each needs the name and the
namespace of the cluster, the deployment also what its pods need. Synthesis
makes all four or reports the first field that is missing.

Key definitions: `configMap`, `service`, `deployment`, `disruptionBudget`,
`ControllerObjects`, `synthesize`, `synthesisLog`.
-/
import ControllerSynthesis.Synthesis.Configuration
import ControllerSynthesis.Synthesis.Pod

namespace ControllerSynthesis

/-- The objects of a cluster's controller. -/
structure ControllerObjects where
  configMap : ConfigMap
  service : Service
  deployment : Deployment
  disruptionBudget : PodDisruptionBudget
  deriving Repr, DecidableEq

/-- The controller's configuration map. -/
def configMap (c : Cluster) (settings : Settings) : Except MissingField ConfigMap := do
  let name ← c.requireName
  let ns ← c.requireNamespace
  return {
    data := configData name c.spec settings
    metadata := Naming.metadata name ns Naming.controllerRole }

/-- The controller's service; it is reached from inside unless access from
outside is enabled. -/
def service (c : Cluster) (settings : Settings) : Except MissingField Service := do
  let name ← c.requireName
  let ns ← c.requireNamespace
  return {
    metadata := Naming.metadata name ns Naming.controllerRole
    ports := settings.ports
    selector := Naming.labels name Naming.controllerRole
    type := c.externalServiceType?.getD .clusterIP }

/-- The controller's deployment. -/
def deployment (c : Cluster) (settings : Settings) : Except MissingField Deployment := do
  let name ← c.requireName
  let ns ← c.requireNamespace
  let template ← podTemplate c settings
  return {
    metadata := Naming.metadata name ns Naming.controllerRole
    replicas := c.spec.pravega.controllerReplicas
    selector := Naming.selector name Naming.controllerRole
    template := template }

/-- The limit on disruptions of the controller's pods. -/
def disruptionBudget (c : Cluster) (settings : Settings) :
    Except MissingField PodDisruptionBudget := do
  let name ← c.requireName
  let ns ← c.requireNamespace
  return {
    metadata := Naming.metadata name ns Naming.controllerRole
    minAvailable := settings.minAvailable
    selector := Naming.selector name Naming.controllerRole }

/-- All objects of a cluster's controller. -/
def synthesize (c : Cluster) (settings : Settings) : Except MissingField ControllerObjects := do
  return {
    configMap := ← configMap c settings
    service := ← service c settings
    deployment := ← deployment c settings
    disruptionBudget := ← disruptionBudget c settings }

/-! ### What is told on the way -/

/-- What is told of an object, which begins when the name and the namespace of the
cluster are there; `next` is what is told of its parts. -/
def objectLog (c : Cluster) (object : String) (values : List (String × Log.Value))
    (next : String → List Log.Event) : List Log.Event :=
  Log.after c.requireName fun name =>
    Log.after c.requireNamespace fun ns =>
      .debug ("Building controller " ++ object)
        ([("cluster_name", .text name), ("namespace", .text ns)] ++ values) :: next name

/-- What is told of the configuration map. -/
def configMapLog (c : Cluster) (settings : Settings) : List Log.Event :=
  objectLog c "ConfigMap" [] fun name => configDataLog name c.spec settings

/-- What is told of the service. -/
def serviceLog (c : Cluster) : List Log.Event :=
  objectLog c "Service" [("service_type", .text (c.externalServiceType?.getD .clusterIP).name)] fun _ => []

/-- What is told of the deployment. -/
def deploymentLog (c : Cluster) (settings : Settings) : List Log.Event :=
  objectLog c "Deployment" [("replicas", .number c.spec.pravega.controllerReplicas)] fun _ =>
    podTemplateLog c settings

/-- What is told of the limit on disruptions. -/
def disruptionBudgetLog (c : Cluster) (settings : Settings) : List Log.Event :=
  objectLog c "PodDisruptionBudget" [("min_available", .number settings.minAvailable)] fun _ => []

/-- What is told of all objects. -/
def synthesisLog (c : Cluster) (settings : Settings) : List Log.Event :=
  configMapLog c settings ++ Log.after (configMap c settings) fun _ =>
    serviceLog c ++ Log.after (service c settings) fun _ =>
      deploymentLog c settings ++ Log.after (deployment c settings) fun _ =>
        disruptionBudgetLog c settings

end ControllerSynthesis
