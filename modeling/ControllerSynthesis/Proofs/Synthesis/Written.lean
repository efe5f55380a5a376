/-
# What the controller's objects are written as

The four objects of a controller are written as values that can be read back: their
numbers are those of the cluster and of the settings, and fit into their widths, and
none of them is nested deeper than its own structure, however many texts they hold.
Nothing that synthesis makes has further members, of which the depth would be open.

Key definitions: `Settings.IsSized`, `Container.IsSized`, `PodSpec.IsSized`.
Key theorems: `isSized_podSpec`, `readable_of_synthesize`.
-/
import ControllerSynthesis.Proofs.Cluster.Canonical
import ControllerSynthesis.Proofs.Json.Readable
import ControllerSynthesis.Proofs.Synthesis.Pod

namespace ControllerSynthesis

open Record

variable {depth : Nat}

/-! ### Widths -/

/-- The counts of the timing fit into their width. -/
structure ProbeTiming.IsSized (t : ProbeTiming) : Prop where
  initial : ∀ n ∈ t.initialDelaySeconds, Width.i32.holds n = true
  period : Width.i32.holds t.periodSeconds = true
  failures : Width.i32.holds t.failureThreshold = true

/-- The counts of the settings fit into their width. -/
structure Settings.IsSized (s : Settings) : Prop where
  restPort : Width.i32.holds s.restPort.port = true
  grpcPort : Width.i32.holds s.grpcPort.port = true
  readiness : s.readiness.IsSized
  liveness : s.liveness.IsSized
  weight : Width.i32.holds s.antiAffinityWeight = true
  available : Width.i32.holds s.minAvailable = true

theorem Settings.isSized_default : Settings.IsSized {} := by
  have readiness : ProbeTiming.IsSized ⟨none, 5, 12⟩ := ⟨nofun, by decide, by decide⟩
  have liveness : ProbeTiming.IsSized ⟨some 60, 15, 4⟩ := ⟨by decide, by decide, by decide⟩
  exact ⟨by decide, by decide, readiness, liveness, by decide, by decide⟩

/-- The counts of a probe fit into 64 bits. -/
structure ExecProbe.IsSized (p : ExecProbe) : Prop where
  failures : isWordSize p.failureThreshold = true
  initial : ∀ n ∈ p.initialDelaySeconds, isWordSize n = true
  period : isWordSize p.periodSeconds = true

/-- The numbers of a container fit into 64 bits, and it has no further members. -/
structure Container.IsSized (c : Container) : Prop where
  env : ∀ entries ∈ c.env, ∀ v ∈ entries, v.others = .empty
  ports : ∀ ports ∈ c.ports, ∀ p ∈ ports, isWordSize p.containerPort = true ∧ p.others = .empty
  liveness : ∀ p ∈ c.livenessProbe, p.IsSized
  readiness : ∀ p ∈ c.readinessProbe, p.IsSized
  mounts : ∀ mounts ∈ c.volumeMounts, ∀ m ∈ mounts, m.others = .empty
  others : c.others = .empty

/-- The numbers of a pod fit into 64 bits, and it has no further members. -/
structure PodSpec.IsSized (p : PodSpec) : Prop where
  containers : ∀ c ∈ p.containers, c.IsSized
  affinity : ∀ a ∈ p.affinity, ∀ t ∈ a.preferred, isWordSize t.weight = true
  volumes : ∀ volumes ∈ p.volumes, ∀ v ∈ volumes, v.others = .empty ∧ ∀ s ∈ v.secret, s.others = .empty
  others : p.others = .empty

/-! ### Parts -/

theorem OwnerReference.readable_toJson (r : OwnerReference) : r.toJson.Readable (depth + 1) := by
  simp [toJson]

theorem Metadata.readable_toJson {m : Metadata} (plain : m.IsPlain) : m.toJson.Readable (depth + 3) := by
  have grace : ∀ n ∈ m.deletionGracePeriodSeconds, isWordSize n = true := fun n mem =>
    isWordSize_of_holds (plain.grace n mem)
  have generation : ∀ n ∈ m.generation, isWordSize n = true := fun n mem =>
    isWordSize_of_holds (plain.generation n mem)
  simpa [toJson, plain.noCreation, plain.noDeletion, plain.noManagers, OwnerReference.readable_toJson] using
    And.intro grace generation

theorem ResourceClaim.readable_toJson (c : ResourceClaim) : c.toJson.Readable (depth + 1) := by
  simp [toJson]

theorem Resources.readable_toJson (r : Resources) : r.toJson.Readable (depth + 3) := by
  simp [toJson, ResourceClaim.readable_toJson]

theorem EnvVar.readable_toJson {v : EnvVar} (alone : v.others = .empty) : v.toJson.Readable (depth + 1) := by
  simp [toJson, alone]

theorem VolumeMount.readable_toJson {m : VolumeMount} (alone : m.others = .empty) : m.toJson.Readable (depth + 1) := by
  simp [toJson, alone]

theorem ExecProbe.readable_toJson {p : ExecProbe} (sized : p.IsSized) : p.toJson.Readable (depth + 3) := by
  have initial := sized.initial
  simpa [toJson, sized.failures, sized.period] using initial

theorem ContainerPort.readable_toJson {p : ContainerPort} (sized : isWordSize p.containerPort = true)
    (alone : p.others = .empty) : p.toJson.Readable (depth + 1) := by
  simp [toJson, sized, alone]

theorem Container.readable_toJson {c : Container} (sized : c.IsSized) : c.toJson.Readable (depth + 4) := by
  have env : ∀ entries ∈ c.env, ∀ v ∈ entries, v.toJson.Readable (depth + 2) := fun entries mem v member =>
    EnvVar.readable_toJson (sized.env entries mem v member)
  have ports : ∀ ports ∈ c.ports, ∀ p ∈ ports, p.toJson.Readable (depth + 2) := fun ports mem p member =>
    ContainerPort.readable_toJson (sized.ports ports mem p member).1 (sized.ports ports mem p member).2
  have mounts : ∀ mounts ∈ c.volumeMounts, ∀ m ∈ mounts, m.toJson.Readable (depth + 2) := fun mounts mem m member =>
    VolumeMount.readable_toJson (sized.mounts mounts mem m member)
  have liveness : ∀ p ∈ c.livenessProbe, p.toJson.Readable (depth + 3) := fun p mem =>
    ExecProbe.readable_toJson (sized.liveness p mem)
  have readiness : ∀ p ∈ c.readinessProbe, p.toJson.Readable (depth + 3) := fun p mem =>
    ExecProbe.readable_toJson (sized.readiness p mem)
  simpa [toJson, sized.others, Resources.readable_toJson] using
    And.intro env (And.intro liveness (And.intro ports (And.intro readiness mounts)))

theorem SecretSource.readable_toJson {s : SecretSource} (alone : s.others = .empty) :
    s.toJson.Readable (depth + 1) := by
  simp [toJson, alone]

theorem Volume.readable_toJson {v : Volume} (alone : v.others = .empty) (secret : ∀ s ∈ v.secret, s.others = .empty) :
    v.toJson.Readable (depth + 2) := by
  have source : ∀ s ∈ v.secret, s.toJson.Readable (depth + 1) := fun s mem =>
    SecretSource.readable_toJson (secret s mem)
  simpa [toJson, alone] using source

theorem LabelRequirement.readable_toJson (r : LabelRequirement) : r.toJson.Readable (depth + 2) := by
  simp [toJson]

theorem LabelSelector.readable_toJson (s : LabelSelector) : s.toJson.Readable (depth + 4) := by
  simp [toJson, LabelRequirement.readable_toJson]

theorem AvoidanceTerm.readable_toJson {t : AvoidanceTerm} (sized : isWordSize t.weight = true) :
    t.toJson.Readable (depth + 6) := by
  simp [toJson, sized, LabelSelector.readable_toJson]

theorem PodSpec.readable_toJson {p : PodSpec} (sized : p.IsSized) : p.toJson.Readable (depth + 10) := by
  have containers : ∀ c ∈ p.containers, c.toJson.Readable (depth + 8) := fun c mem =>
    Container.readable_toJson (sized.containers c mem)
  have affinity : ∀ a ∈ p.affinity, a.toJson.Readable (depth + 9) := fun a mem => by
    have terms : ∀ t ∈ a.preferred, t.toJson.Readable (depth + 6) := fun t member =>
      AvoidanceTerm.readable_toJson (sized.affinity a mem t member)
    simpa [PodAntiAffinity.toJson] using terms
  have volumes : ∀ volumes ∈ p.volumes, ∀ v ∈ volumes, v.toJson.Readable (depth + 8) := fun volumes mem v member =>
    Volume.readable_toJson (sized.volumes volumes mem v member).1 (sized.volumes volumes mem v member).2
  simpa [toJson, sized.others] using And.intro affinity (And.intro containers volumes)

/-! ### What synthesis makes -/

theorem Naming.isPlain_metadata (cluster ns role : String) : (Naming.metadata cluster ns role).IsPlain :=
  ⟨nofun, nofun, rfl, rfl, rfl⟩

variable {c : Cluster} {settings : Settings}

theorem isSized_portProbe {port : Int} {timing : ProbeTiming} (sized : timing.IsSized) :
    (portProbe port timing).IsSized :=
  ⟨isWordSize_of_holds sized.failures, fun n mem => isWordSize_of_holds (sized.initial n mem),
    isWordSize_of_holds sized.period⟩

/-- A connected container has no numbers but those of the settings. -/
theorem Container.IsConnected.isSized {container : Container} {cluster : String}
    (connected : container.IsConnected cluster settings) (sized : settings.IsSized)
    (mounts : ∀ mounts ∈ container.volumeMounts, ∀ m ∈ mounts, m.others = .empty) : container.IsSized := by
  refine ⟨?_, ?_, ?_, ?_, mounts, connected.others⟩
  · rw [connected.env]
    nofun
  · rw [connected.ports]
    rintro ports ⟨⟩ p mem
    obtain ⟨port, member, rfl⟩ := List.mem_map.mp mem
    refine ⟨?_, rfl⟩
    rcases List.mem_cons.mp member with rfl | member
    · exact isWordSize_of_holds sized.restPort
    · rw [List.mem_singleton.mp member]
      exact isWordSize_of_holds sized.grpcPort
  · rw [connected.liveness]
    rintro p ⟨⟩
    exact isSized_portProbe sized.liveness
  · rw [connected.readiness]
    rintro p ⟨⟩
    exact isSized_portProbe sized.readiness

theorem isSized_podSpec (sized : settings.IsSized) {name : String} (named : c.requireName = .ok name)
    {pod : PodSpec} (made : podSpec c settings = .ok pod) : pod.IsSized := by
  obtain ⟨affinity, others, container, containers, connected, secretMounted⟩ := podSpec_cases named made
  refine ⟨?_, ?_, ?_, others⟩
  · rw [containers]
    intro other mem
    rw [List.mem_singleton.mp mem]
    refine connected.isSized sized ?_
    rcases secretMounted with ⟨-, -, none⟩ | ⟨_, _, -, -, -, one⟩
    · rw [none]
      nofun
    · rw [one]
      rintro mounts ⟨⟩ m mem
      rw [List.mem_singleton.mp mem]
      rfl
  · rw [affinity]
    rintro a ⟨⟩ t mem
    rw [List.mem_singleton.mp mem]
    exact isWordSize_of_holds sized.weight
  · rcases secretMounted with ⟨-, none, -⟩ | ⟨_, _, -, -, one, -⟩
    · rw [none]
      nofun
    · rw [one]
      rintro volumes ⟨⟩ v mem
      rw [List.mem_singleton.mp mem]
      exact ⟨rfl, fun s own => by cases own; rfl⟩

/-! ### Objects -/

theorem ConfigMap.readable_toJson {m : ConfigMap} (plain : m.metadata.IsPlain) :
    m.toJson.Readable (depth + 4) := by
  simp [toJson, objectJson, Metadata.readable_toJson plain]

theorem Service.readable_toJson {s : Service} (plain : s.metadata.IsPlain)
    (ports : ∀ p ∈ s.ports, isWordSize p.port = true) : s.toJson.Readable (depth + 4) := by
  simpa [toJson, objectJson, NamedPort.toJson, Metadata.readable_toJson plain] using ports

theorem Deployment.readable_toJson {d : Deployment} (plain : d.metadata.IsPlain)
    (replicas : isWordSize d.replicas = true) (template : d.template.metadata.IsPlain)
    (pod : d.template.spec.IsSized) : d.toJson.Readable (depth + 13) := by
  simp [toJson, objectJson, PodTemplate.toJson, replicas, Metadata.readable_toJson plain,
    Metadata.readable_toJson template, LabelSelector.readable_toJson, PodSpec.readable_toJson pod]

theorem PodDisruptionBudget.readable_toJson {b : PodDisruptionBudget} (plain : b.metadata.IsPlain)
    (available : isWordSize b.minAvailable = true) : b.toJson.Readable (depth + 6) := by
  simp [toJson, objectJson, available, Metadata.readable_toJson plain, LabelSelector.readable_toJson]

/-- The values of the objects, in the order in which they are applied. -/
def ControllerObjects.values (r : ControllerObjects) : List Json :=
  [r.configMap.toJson, r.service.toJson, r.deployment.toJson, r.disruptionBudget.toJson]

/-- **The objects that synthesis makes can be read back** from what they are written
as. -/
theorem readable_of_synthesize (sized : settings.IsSized)
    (replicas : Width.i32.holds c.spec.pravega.controllerReplicas = true) {r : ControllerObjects}
    (made : synthesize c settings = .ok r) : ∀ v ∈ r.values, v.Readable (deepest - 1) := by
  obtain ⟨name, ns, pod, named, -, podMade, rfl⟩ := synthesize_eq_ok.mp made
  have plain : (Naming.metadata name ns Naming.controllerRole).IsPlain := Naming.isPlain_metadata ..
  have podSized : pod.IsSized := isSized_podSpec sized named podMade
  intro v mem
  simp only [ControllerObjects.values, List.mem_cons, List.not_mem_nil, or_false] at mem
  rcases mem with rfl | rfl | rfl | rfl
  · exact ConfigMap.readable_toJson plain
  · refine Service.readable_toJson plain fun port mem => ?_
    rcases List.mem_cons.mp mem with rfl | mem
    · exact isWordSize_of_holds sized.restPort
    · rw [List.mem_singleton.mp mem]
      exact isWordSize_of_holds sized.grpcPort
  · exact Deployment.readable_toJson plain (isWordSize_of_holds replicas) ⟨nofun, nofun, rfl, rfl, rfl⟩ podSized
  · exact PodDisruptionBudget.readable_toJson plain (isWordSize_of_holds sized.available)

end ControllerSynthesis
