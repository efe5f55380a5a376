/-
# The controller's pod

The pod of a controller is the pod around its container, and where TLS is enabled that
pod with the secret of TLS mounted. The container is connected to the rest by names and
numbers: the configuration map it takes its environment from, its ports, and the port
its probes check. Where TLS is enabled without a secret there is no pod.

Key definitions: `TlsSpec.demand?`, `Container.IsConnected`.
Key theorems: `PodSpec.withTls_eq`, `PodSpec.withTls_cases`, `isConnected_controllerContainer`,
`podSpec_cases`.
-/
import ControllerSynthesis.Proofs.Synthesis.Objects

namespace ControllerSynthesis

variable {c : Cluster} {settings : Settings}

/-! ### The step that mounts the secret -/

theorem TlsSpec.secret?_eq_some {tls : TlsSpec} {secret : String} :
    tls.secret? = some secret ↔ tls.enabled = true ∧ tls.controllerSecret = some secret ∧ secret ≠ "" := by
  rw [← nonEmpty?_eq_some, secret?]
  split <;> simp_all

/-- What TLS settings ask for: nothing unless they are there and enabled, and then their
secret, if it has a name. -/
def TlsSpec.demand? (tls : Option TlsSpec) : Option (Option String) :=
  (tls.filter TlsSpec.enabled).map fun t => nonEmpty? t.controllerSecret

/-- **The step does what the settings ask for.** -/
theorem PodSpec.withTls_eq (pod : PodSpec) (cluster : String) (tls : Option TlsSpec) (settings : Settings) :
    pod.withTls cluster tls settings =
      (TlsSpec.demand? tls).elim (.ok pod) fun secret? =>
        secret?.elim (.error ⟨cluster, .secret⟩) fun secret => .ok (pod.mounting secret settings) := by
  cases tls with
  | none => rfl
  | some t =>
    obtain ⟨enabled, secret⟩ := t
    cases enabled with
    | false => rfl
    | true =>
      cases named : nonEmpty? secret <;>
        simp [withTls, TlsSpec.demand?, TlsSpec.secret?, Option.filter_some, named]

/-- A pod stays as it is where TLS is not enabled. -/
theorem PodSpec.withTls_off {cluster : String} {tls : Option TlsSpec} (off : ∀ t, tls = some t → t.enabled = false)
    (pod : PodSpec) (settings : Settings) : pod.withTls cluster tls settings = .ok pod := by
  unfold withTls
  split
  · rfl
  · simp [off _ rfl]

/-- Where TLS is enabled, a pod gets the secret of TLS. -/
theorem PodSpec.withTls_on {cluster : String} {tls : TlsSpec} {secret : String} (named : tls.secret? = some secret)
    (pod : PodSpec) (settings : Settings) :
    pod.withTls cluster (some tls) settings = .ok (pod.mounting secret settings) := by
  simp [withTls, (TlsSpec.secret?_eq_some.mp named).1, named]

/-- A pod cannot be had where TLS is enabled without a secret. -/
theorem PodSpec.withTls_unnamed {cluster : String} {tls : TlsSpec} (on : tls.enabled = true)
    (unnamed : tls.secret? = none) (pod : PodSpec) (settings : Settings) :
    pod.withTls cluster (some tls) settings = .error ⟨cluster, .secret⟩ := by
  simp [withTls, on, unnamed]

/-- A pod with TLS is the pod as it was, or the pod with the secret mounted. -/
theorem PodSpec.withTls_cases {pod other : PodSpec} {cluster : String} {tls : Option TlsSpec}
    (made : pod.withTls cluster tls settings = .ok other) :
    (∀ t, tls = some t → t.enabled = false) ∧ other = pod ∨
      ∃ t secret, tls = some t ∧ t.secret? = some secret ∧ other = pod.mounting secret settings := by
  by_cases off : ∀ t, tls = some t → t.enabled = false
  · rw [withTls_off off] at made
    exact .inl ⟨off, (Except.ok.inj made).symm⟩
  · simp only [Classical.not_forall, Bool.not_eq_false] at off
    obtain ⟨t, rfl, on⟩ := off
    cases named : t.secret? with
    | none =>
      rw [withTls_unnamed on named] at made
      cases made
    | some secret =>
      rw [withTls_on named] at made
      exact .inr ⟨t, secret, rfl, named, (Except.ok.inj made).symm⟩

/-! ### The container and the pod -/

/-- What a container of the controller is connected to, whatever it mounts. It has no
variables of its own, and no further members. -/
structure Container.IsConnected (k : Container) (cluster : String) (settings : Settings) : Prop where
  env : k.env = none
  environment : k.envFrom = some [Naming.resourceName cluster Naming.controllerRole]
  ports : k.ports = some (settings.ports.map fun p => { containerPort := p.port, name := some p.name })
  liveness : k.livenessProbe = some (portProbe settings.grpcPort.port settings.liveness)
  readiness : k.readinessProbe = some (portProbe settings.grpcPort.port settings.readiness)
  others : k.others = .empty

/-- The container of the controller is connected, and mounts nothing yet. -/
theorem isConnected_controllerContainer {cluster : String} {spec : ClusterSpec} {k : Container}
    (made : controllerContainer cluster spec settings = .ok k) :
    k.IsConnected cluster settings ∧ k.volumeMounts = none := by
  unfold controllerContainer at made
  split at made
  · cases made
  · cases made
    exact ⟨⟨rfl, rfl, rfl, rfl, rfl, rfl⟩, rfl⟩

/-- **The controller's pod** has one container, and either neither TLS nor a volume, or
the secret of TLS as its only volume, which the container mounts. -/
theorem podSpec_cases {name : String} (named : c.requireName = .ok name) {pod : PodSpec}
    (made : podSpec c settings = .ok pod) :
    pod.affinity = some (antiAffinity Naming.controllerRole name settings) ∧ pod.others = .empty ∧
    ∃ k : Container, pod.containers = [k] ∧ k.IsConnected name settings ∧
      ((∀ tls, c.spec.tls = some tls → tls.enabled = false) ∧ pod.volumes = none ∧ k.volumeMounts = none ∨
        ∃ tls secret, c.spec.tls = some tls ∧ tls.secret? = some secret ∧
          pod.volumes = some [tlsVolume secret settings] ∧ k.volumeMounts = some [tlsMount settings]) := by
  obtain ⟨name', k, named', containerMade, podMade⟩ := podSpec_eq_ok.mp made
  obtain rfl : name' = name := Except.ok.inj (named'.symm.trans named)
  obtain ⟨connected, unmounted⟩ := isConnected_controllerContainer containerMade
  rcases PodSpec.withTls_cases podMade with ⟨off, rfl⟩ | ⟨tls, secret, own, secretNamed, rfl⟩
  · exact ⟨rfl, rfl, k, rfl, connected, .inl ⟨off, rfl, unmounted⟩⟩
  · refine ⟨rfl, rfl, _, rfl, ?_, .inr ⟨tls, secret, own, secretNamed, rfl, ?_⟩⟩
    · exact ⟨connected.env, connected.environment, connected.ports, connected.liveness, connected.readiness,
        connected.others⟩
    · simp [appendTo, unmounted]

end ControllerSynthesis
