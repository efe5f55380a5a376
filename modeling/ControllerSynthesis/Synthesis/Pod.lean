/-
# The pods of the controller

The controller's container, the pod around it, and the step that mounts the TLS
secret. The pod needs compute resources for its container and, when TLS is
enabled, the name of a secret.

Key definitions: `healthCheck`, `antiAffinity`, `controllerContainer`,
`basePodSpec`, `PodSpec.withTls`, `podSpec`, `podTemplate`, `podTemplateLog`.
-/
import ControllerSynthesis.Kube.Objects
import ControllerSynthesis.Log
import ControllerSynthesis.Synthesis.Naming

namespace ControllerSynthesis

/-- The command that succeeds while a port is listened on. -/
def healthCheck (port : Int) : List String :=
  let text := Digits.text port
  ["/bin/sh", "-c",
    "netstat -ltn 2> /dev/null | grep " ++ text ++ " || ss -ltn 2> /dev/null | grep " ++ text]

/-- The probe that checks a port. -/
def portProbe (port : Int) (timing : ProbeTiming) : ExecProbe where
  command := healthCheck port
  failureThreshold := timing.failureThreshold
  initialDelaySeconds := timing.initialDelaySeconds
  periodSeconds := timing.periodSeconds

/-- The wish to run apart from the other pods of the component. -/
def antiAffinity (role cluster : String) (settings : Settings) : PodAntiAffinity where
  preferred := [{
    selector := {
      matchExpressions := some [⟨Naming.roleLabel, [role]⟩, ⟨Naming.clusterLabel, [cluster]⟩] }
    topologyKey := settings.antiAffinityTopologyKey
    weight := settings.antiAffinityWeight }]

/-- The container of the controller; it must be given compute resources. -/
def controllerContainer (cluster : String) (spec : ClusterSpec) (settings : Settings) :
    Except MissingField Container :=
  match spec.pravega.controllerResources with
  | none => .error ⟨cluster, .resources⟩
  | some resources =>
    let image := spec.pravega.image.getD {}
    .ok {
      args := some ["controller"]
      envFrom := some [Naming.resourceName cluster Naming.controllerRole]
      image := some (image.reference spec.version)
      imagePullPolicy := some image.pullPolicyOrDefault
      livenessProbe := some (portProbe settings.grpcPort.port settings.liveness)
      name := "pravega-controller"
      ports := some (settings.ports.map fun p => { containerPort := p.port, name := some p.name })
      readinessProbe := some (portProbe settings.grpcPort.port settings.readiness)
      resources := some resources }

/-- What is told of the container. -/
def controllerContainerLog (cluster : String) (spec : ClusterSpec) (settings : Settings) : List Log.Event :=
  Log.after (controllerContainer cluster spec settings) fun _ =>
    [.debug "Controller container image" [
      ("image", .text ((spec.pravega.image.getD {}).reference spec.version))]]

/-- The controller's pod without TLS. -/
def basePodSpec (cluster : String) (spec : ClusterSpec) (settings : Settings) :
    Except MissingField PodSpec := do
  let container ← controllerContainer cluster spec settings
  return {
    affinity := some (antiAffinity Naming.controllerRole cluster settings)
    containers := [container]
    serviceAccountName := nonEmpty? spec.pravega.controllerServiceAccountName }

/-- The volume of the TLS secret. -/
def tlsVolume (secret : String) (settings : Settings) : Volume where
  name := settings.tlsVolumeName
  secret := some { secretName := some secret }

/-- The mount of the TLS secret. -/
def tlsMount (settings : Settings) : VolumeMount where
  mountPath := settings.tlsMountPath
  name := settings.tlsVolumeName

/-- A list, if there is one, with an item behind it. -/
def appendTo {α : Type} (items : Option (List α)) (item : α) : Option (List α) :=
  some (items.getD [] ++ [item])

/-- The pod with the secret as a further volume, mounted in its first container. -/
def PodSpec.mounting (pod : PodSpec) (secret : String) (settings : Settings) : PodSpec :=
  { pod with
    volumes := appendTo pod.volumes (tlsVolume secret settings)
    containers :=
      match pod.containers with
      | [] => []
      | c :: cs => { c with volumeMounts := appendTo c.volumeMounts (tlsMount settings) } :: cs }

/-- The pod with TLS as asked for: as it is unless TLS is enabled, and then with
its secret mounted. -/
def PodSpec.withTls (pod : PodSpec) (cluster : String) (tls : Option TlsSpec)
    (settings : Settings) : Except MissingField PodSpec :=
  match tls with
  | none => .ok pod
  | some tls =>
    if tls.enabled then
      match tls.secret? with
      | some secret => .ok (pod.mounting secret settings)
      | none => .error ⟨cluster, .secret⟩
    else .ok pod

/-- What is told of TLS. -/
def tlsLog (tls : Option TlsSpec) (settings : Settings) : List Log.Event :=
  match tls.bind TlsSpec.secret? with
  | some secret =>
    [.debug "Mounting controller TLS secret" [
      ("secret", .text secret), ("mount_path", .text settings.tlsMountPath)]]
  | none => []

/-- The controller's pod. -/
def podSpec (c : Cluster) (settings : Settings) : Except MissingField PodSpec := do
  let name ← c.requireName
  let pod ← basePodSpec name c.spec settings
  pod.withTls name c.spec.tls settings

/-- What is told of the pod. -/
def podSpecLog (c : Cluster) (settings : Settings) : List Log.Event :=
  Log.after c.requireName fun name =>
    controllerContainerLog name c.spec settings ++
      Log.after (basePodSpec name c.spec settings) fun _ => tlsLog c.spec.tls settings

/-- The annotation that holds the version of the cluster. -/
def versionKey : String := "pravega.version"

/-- The template of the controller's pods. -/
def podTemplate (c : Cluster) (settings : Settings) : Except MissingField PodTemplate := do
  let name ← c.requireName
  let spec ← podSpec c settings
  return {
    metadata := {
      annotations := some (KeyMap.ofList [(versionKey, c.spec.version)])
      labels := some (Naming.labels name Naming.controllerRole) }
    spec := spec }

/-- What is told of the template. -/
def podTemplateLog (c : Cluster) (settings : Settings) : List Log.Event :=
  Log.after c.requireName fun name =>
    .debug "Building controller pod template" [("cluster_name", .text name)] :: podSpecLog c settings

end ControllerSynthesis
