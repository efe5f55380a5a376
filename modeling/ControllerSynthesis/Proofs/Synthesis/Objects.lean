/-
# What synthesis makes

Synthesis succeeds exactly if the name and the namespace of the cluster and the pod of
its controller can be had, and its objects are those made from these three. The pod can
be had exactly if its container can, and if TLS finds its secret. So what synthesis
makes is said once, and no proof about the objects goes through its steps.

Key definitions: `ControllerObjects.made`, `ControllerObjects.metadatas`, `PodSpec.base`.
Key theorems: `synthesize_eq`, `synthesize_eq_ok`, `podSpec_eq_ok`.
-/
import ControllerSynthesis.Synthesis.Objects

namespace ControllerSynthesis

variable {c : Cluster} {settings : Settings}

/-! ### Texts that must not be empty -/

theorem nonEmpty?_eq_some {text : Option String} {t : String} :
    nonEmpty? text = some t ↔ text = some t ∧ t ≠ "" := by
  simp [nonEmpty?, Option.filter_eq_some_iff]

theorem Cluster.requireName_eq_ok {name : String} :
    c.requireName = .ok name ↔ c.metadata.name = some name ∧ name ≠ "" := by
  rw [← nonEmpty?_eq_some, requireName]
  split <;> simp_all

/-! ### The objects and the pod -/

/-- The controller's objects for a name, a namespace and a pod. -/
def ControllerObjects.made (c : Cluster) (settings : Settings) (name ns : String) (pod : PodSpec) :
    ControllerObjects where
  configMap := {
    data := configData name c.spec settings
    metadata := Naming.metadata name ns Naming.controllerRole }
  service := {
    metadata := Naming.metadata name ns Naming.controllerRole
    ports := settings.ports
    selector := Naming.labels name Naming.controllerRole
    type := c.externalServiceType?.getD .clusterIP }
  deployment := {
    metadata := Naming.metadata name ns Naming.controllerRole
    replicas := c.spec.pravega.controllerReplicas
    selector := Naming.selector name Naming.controllerRole
    template := {
      metadata := {
        annotations := some (KeyMap.ofList [(versionKey, c.spec.version)])
        labels := some (Naming.labels name Naming.controllerRole) }
      spec := pod } }
  disruptionBudget := {
    metadata := Naming.metadata name ns Naming.controllerRole
    minAvailable := settings.minAvailable
    selector := Naming.selector name Naming.controllerRole }

/-- The metadata of the objects, in the order in which they are applied. -/
def ControllerObjects.metadatas (r : ControllerObjects) : List Metadata :=
  [r.configMap.metadata, r.service.metadata, r.deployment.metadata, r.disruptionBudget.metadata]

/-- The objects of a cluster have one metadata. -/
theorem ControllerObjects.metadatas_made (c : Cluster) (settings : Settings) (name ns : String) (pod : PodSpec) :
    (made c settings name ns pod).metadatas = List.replicate 4 (Naming.metadata name ns Naming.controllerRole) := rfl

/-- **What synthesis makes**: the objects for the name, the namespace and the pod of the
cluster. -/
theorem synthesize_eq (c : Cluster) (settings : Settings) : synthesize c settings = do
    let name ← c.requireName
    let ns ← c.requireNamespace
    let pod ← podSpec c settings
    return ControllerObjects.made c settings name ns pod := by
  unfold synthesize configMap service deployment disruptionBudget podTemplate
  cases c.requireName with
  | error fault => rfl
  | ok name =>
    cases c.requireNamespace with
    | error fault => rfl
    | ok ns => cases podSpec c settings <;> rfl

/-- When it makes them. -/
theorem synthesize_eq_ok {r : ControllerObjects} : synthesize c settings = .ok r ↔
    ∃ (name ns : String) (pod : PodSpec), c.requireName = .ok name ∧ c.requireNamespace = .ok ns ∧
      podSpec c settings = .ok pod ∧ r = ControllerObjects.made c settings name ns pod := by
  rw [synthesize_eq]
  cases c.requireName with
  | error fault => simp [bind, Except.bind]
  | ok name =>
    cases c.requireNamespace with
    | error fault => simp [bind, Except.bind]
    | ok ns => cases podSpec c settings <;> simp [bind, Except.bind, pure, Except.pure, eq_comm]

/-- The controller's pod around its container, without TLS. -/
def PodSpec.base (cluster : String) (spec : ClusterSpec) (settings : Settings) (container : Container) : PodSpec where
  affinity := some (antiAffinity Naming.controllerRole cluster settings)
  containers := [container]
  serviceAccountName := nonEmpty? spec.pravega.controllerServiceAccountName

/-- The controller's pod, and when it can be had. -/
theorem podSpec_eq_ok {pod : PodSpec} : podSpec c settings = .ok pod ↔
    ∃ (name : String) (container : Container), c.requireName = .ok name ∧
      controllerContainer name c.spec settings = .ok container ∧
      (PodSpec.base name c.spec settings container).withTls name c.spec.tls settings = .ok pod := by
  unfold podSpec basePodSpec PodSpec.base
  cases c.requireName with
  | error fault => simp [bind, Except.bind]
  | ok name =>
    cases made : controllerContainer name c.spec settings with
    | error fault => simp [bind, Except.bind, made]
    | ok container => simp [bind, Except.bind, pure, Except.pure, made]

end ControllerSynthesis
