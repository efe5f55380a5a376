/-
# What the objects say about one another

The objects of a controller refer to one another by names and numbers that are written
down in several places: the name of the configuration map, the ports of the container
and of the service, the texts of these ports in the configuration and in the commands of
the probes, the volume of a mount. They agree in all of these places, whatever the
settings are, since each name and number comes from one source.

Key definitions: `Record.Width.read?`, `PodSpec.MountsResolve`.
Key theorems: `Record.Width.read?_text`, `references_resolve`.
-/
import ControllerSynthesis.Proofs.KeyMap
import ControllerSynthesis.Proofs.Number.Digits
import ControllerSynthesis.Proofs.Synthesis.Pod

namespace ControllerSynthesis

/-! ### Numbers in texts -/

/-- The integer of a width that a decimal text is read as; one that does not fit is
none. -/
def Record.Width.read? (width : Width) (text : String) : Option Int :=
  (Digits.toInt? 10 text.toList).filter fun n => width.holds n

/-- A number that fits is read back from its text. -/
theorem Record.Width.read?_text {width : Width} {n : Int} (fits : width.holds n = true) :
    width.read? (Digits.text n) = some n := by
  rw [read?, Digits.text, String.toList_ofList, Digits.toInt?_ofInt, Option.filter_some, if_pos fits]

variable {c : Cluster} {settings : Settings}

theorem get?_restPort (cluster : String) (spec : ClusterSpec) (settings : Settings) :
    (configData cluster spec settings).get? "REST_SERVER_PORT" = some (Digits.text settings.restPort.port) := by
  simp [configData, KeyMap.ofList]

theorem get?_grpcPort (cluster : String) (spec : ClusterSpec) (settings : Settings) :
    (configData cluster spec settings).get? "CONTROLLER_SERVER_PORT" = some (Digits.text settings.grpcPort.port) := by
  simp [configData, KeyMap.ofList]

/-! ### Volumes and mounts -/

/-- The volumes and mounts of a pod fit together: volumes have different names, and each
mount names one of them. -/
structure PodSpec.MountsResolve (pod : PodSpec) : Prop where
  distinct : ((pod.volumes.getD []).map (·.name)).Nodup
  named : ∀ k ∈ pod.containers, ∀ m ∈ k.volumeMounts.getD [],
    ∃ v, (pod.volumes.getD []).filter (fun v => v.name = m.name) = [v]

theorem mountsResolve_podSpec {name : String} (named : c.requireName = .ok name) {pod : PodSpec}
    (made : podSpec c settings = .ok pod) : pod.MountsResolve := by
  obtain ⟨-, -, k, containers, -, ⟨-, volumes, mounts⟩ | ⟨tls, secret, -, -, volumes, mounts⟩⟩ :=
    podSpec_cases named made
  · refine ⟨by simp [volumes], fun other mem m mount => ?_⟩
    rw [containers, List.mem_singleton] at mem
    rw [mem, mounts] at mount
    cases mount
  · refine ⟨by simp [volumes], fun other mem m mount => ⟨tlsVolume secret settings, ?_⟩⟩
    rw [containers, List.mem_singleton] at mem
    rw [mem, mounts, Option.getD_some, List.mem_singleton] at mount
    simp [volumes, mount, tlsVolume, tlsMount]

/-- There is a volume exactly where TLS is enabled. -/
theorem volumes_podSpec_iff {name : String} (named : c.requireName = .ok name) {pod : PodSpec}
    (made : podSpec c settings = .ok pod) :
    pod.volumes.getD [] ≠ [] ↔ ∃ tls, c.spec.tls = some tls ∧ tls.enabled = true := by
  obtain ⟨-, -, k, -, -, ⟨off, volumes, -⟩ | ⟨tls, secret, own, secretNamed, volumes, -⟩⟩ :=
    podSpec_cases named made
  · have none : ¬ ∃ tls, c.spec.tls = some tls ∧ tls.enabled = true := by
      rintro ⟨tls, own, on⟩
      rw [off tls own] at on
      cases on
    simp [volumes, none]
  · have on : tls.enabled = true := (TlsSpec.secret?_eq_some.mp secretNamed).1
    simp [volumes, own, on]

/-! ### What synthesis makes -/

/-- **The objects agree on everything they say about one another.** They share a name
and a namespace. The container takes its environment from the configuration map and has
the ports of the service, in their order; their numbers can be read from the
configuration, and both probes check the second one, in the words of the configuration.
Each mount names one volume, and there is a volume exactly where TLS is enabled: the
secret of TLS, mounted once where the settings say. -/
theorem references_resolve {r : ControllerObjects}
    (restFits : Record.Width.i32.holds settings.restPort.port = true)
    (grpcFits : Record.Width.i32.holds settings.grpcPort.port = true)
    (made : synthesize c settings = .ok r) :
    ∃ (name ns restText grpcText : String) (container : Container) (live ready : ExecProbe),
      (∀ m ∈ r.metadatas, m.name = some name ∧ m.namespaceName = some ns) ∧
      r.deployment.template.spec.containers = [container] ∧
      container.envFrom = some [name] ∧
      container.ports = some (r.service.ports.map fun p => { containerPort := p.port, name := some p.name }) ∧
      r.service.ports = [settings.restPort, settings.grpcPort] ∧
      r.configMap.data.get? "REST_SERVER_PORT" = some restText ∧
      Record.Width.i32.read? restText = some settings.restPort.port ∧
      r.configMap.data.get? "CONTROLLER_SERVER_PORT" = some grpcText ∧
      Record.Width.i32.read? grpcText = some settings.grpcPort.port ∧
      container.livenessProbe = some live ∧ container.readinessProbe = some ready ∧
      (∀ probe ∈ [live, ready], probe.command = ["/bin/sh", "-c",
        "netstat -ltn 2> /dev/null | grep " ++ grpcText ++ " || ss -ltn 2> /dev/null | grep " ++ grpcText]) ∧
      r.deployment.template.spec.MountsResolve ∧
      (r.deployment.template.spec.volumes.getD [] ≠ [] ↔
        ∃ tls, c.spec.tls = some tls ∧ tls.enabled = true) ∧
      ∀ tls, c.spec.tls = some tls → tls.enabled = true →
        ∃ secret volume mount, tls.controllerSecret = some secret ∧
          r.deployment.template.spec.volumes = some [volume] ∧
          volume.secret = some { secretName := some secret } ∧
          container.volumeMounts = some [mount] ∧ mount.name = volume.name ∧
          mount.mountPath = settings.tlsMountPath := by
  obtain ⟨name, ns, pod, named, -, podMade, rfl⟩ := synthesize_eq_ok.mp made
  obtain ⟨-, -, k, containers, connected, secretMounted⟩ := podSpec_cases named podMade
  refine ⟨_, ns, _, _, k, _, _, ?_, containers, connected.environment, connected.ports, rfl,
    get?_restPort name c.spec settings, Record.Width.read?_text restFits,
    get?_grpcPort name c.spec settings, Record.Width.read?_text grpcFits,
    connected.liveness, connected.readiness, ?_, mountsResolve_podSpec named podMade,
    volumes_podSpec_iff named podMade, ?_⟩
  · rw [ControllerObjects.metadatas_made]
    intro m mem
    rw [List.eq_of_mem_replicate mem]
    exact ⟨rfl, rfl⟩
  · intro probe mem
    simp only [List.mem_cons, List.not_mem_nil, or_false] at mem
    rcases mem with rfl | rfl <;> rfl
  · intro tls own on
    rcases secretMounted with ⟨off, -, -⟩ | ⟨other, secret, given, secretNamed, volumes, mounts⟩
    · rw [off tls own] at on
      cases on
    · obtain rfl : tls = other := Option.some.inj (own.symm.trans given)
      exact ⟨secret, tlsVolume secret settings, tlsMount settings,
        (TlsSpec.secret?_eq_some.mp secretNamed).2.1, volumes, rfl, mounts, rfl, rfl⟩

/-- A cluster with TLS. -/
def secured : Cluster where
  metadata := { name := some "demo", namespaceName := some "pravega" }
  spec := {
    version := "0.5.0"
    zookeeperUri := "zk:2181"
    tls := some { enabled := true, controllerSecret := some "tls-secret" }
    pravega := { controllerResources := some {} } }

/-- Settings with the lowest and the highest number a port can have. -/
def extreme : Settings where
  restPort := ⟨"", -2147483648⟩
  grpcPort := ⟨"", 2147483647⟩
  tlsVolumeName := "tls-secret"
  tlsMountPath := ""

theorem references_resolve_extreme : ∃ r restText grpcText container mount,
    synthesize secured extreme = .ok r ∧
      r.configMap.data.get? "REST_SERVER_PORT" = some restText ∧
      Record.Width.i32.read? restText = some (-2147483648) ∧
      r.configMap.data.get? "CONTROLLER_SERVER_PORT" = some grpcText ∧
      Record.Width.i32.read? grpcText = some 2147483647 ∧
      r.deployment.template.spec.containers = [container] ∧
      container.volumeMounts = some [mount] ∧ mount.mountPath = "" := by
  obtain ⟨r, made⟩ : ∃ r, synthesize secured extreme = .ok r := ⟨_, rfl⟩
  obtain ⟨name, ns, restText, grpcText, container, live, ready, -, containers, -, -, -, rest, restRead, grpc,
    grpcRead, -, -, -, -, -, secretMounted⟩ := references_resolve (by decide) (by decide) made
  obtain ⟨secret, volume, mount, -, -, -, mounts, -, path⟩ := secretMounted _ rfl rfl
  exact ⟨r, restText, grpcText, container, mount, made, rest, restRead, grpc, grpcRead, containers, mounts, path⟩

end ControllerSynthesis
