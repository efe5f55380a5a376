/-
# Pods

The parts of a pod that synthesis writes and that callers may bring along:
containers with their probes, ports, environment and mounts, the volumes of the
pod, and where it prefers not to run. Records of pods are lenient when read.

Callers may bring along more than synthesis writes. What has no field of its own
in a record is among its `others`, under its key and as it is written: the
further members that these records have, and a member with a field that only
synthesis fills, such as a probe.

Key definitions: `Container`, `Volume`, `PodSpec`, `PodTemplate`, `Others`.
-/
import ControllerSynthesis.Cluster.Metadata
import ControllerSynthesis.Cluster.Resources
import ControllerSynthesis.Kube.Selector

namespace ControllerSynthesis

open Record

/-- Members of a record that have no field of their own, under their keys. -/
abbrev Others := KeyMap Json

/-- A port of a container. -/
structure ContainerPort where
  containerPort : Int
  name : Option String := none
  others : Others := .empty
  deriving Repr, DecidableEq

/-- A variable of a container's environment. -/
structure EnvVar where
  name : String
  value : Option String := none
  others : Others := .empty
  deriving Repr, DecidableEq

/-- A check that runs a command in a container. -/
structure ExecProbe where
  command : List String
  failureThreshold : Int
  initialDelaySeconds : Option Int := none
  periodSeconds : Int
  deriving Repr, DecidableEq

/-- A place where a container sees a volume. -/
structure VolumeMount where
  mountPath : String
  name : String
  readOnly : Option Bool := none
  subPath : Option String := none
  others : Others := .empty
  deriving Repr, DecidableEq

/-- A container of a pod. -/
structure Container where
  args : Option (List String) := none
  env : Option (List EnvVar) := none
  /-- The configuration maps whose entries become variables, by name. -/
  envFrom : Option (List String) := none
  image : Option String := none
  imagePullPolicy : Option String := none
  livenessProbe : Option ExecProbe := none
  name : String
  ports : Option (List ContainerPort) := none
  readinessProbe : Option ExecProbe := none
  resources : Option Resources := none
  volumeMounts : Option (List VolumeMount) := none
  others : Others := .empty
  deriving Repr, DecidableEq

/-- A volume that holds the files of a secret. -/
structure SecretSource where
  isOptional : Option Bool := none
  secretName : Option String := none
  others : Others := .empty
  deriving Repr, DecidableEq

/-- A volume of a pod. Every source but a secret is among the others. -/
structure Volume where
  name : String
  secret : Option SecretSource := none
  others : Others := .empty
  deriving Repr, DecidableEq

/-- A wish, of some weight, not to run where pods that `selector` selects run. -/
structure AvoidanceTerm where
  selector : LabelSelector
  topologyKey : String
  weight : Int
  deriving Repr, DecidableEq

/-- Where a pod prefers not to run. -/
structure PodAntiAffinity where
  preferred : List AvoidanceTerm
  deriving Repr, DecidableEq

/-- What runs in a pod. -/
structure PodSpec where
  affinity : Option PodAntiAffinity := none
  containers : List Container
  hostNetwork : Option Bool := none
  nodeSelector : Option (KeyMap String) := none
  serviceAccountName : Option String := none
  volumes : Option (List Volume) := none
  others : Others := .empty
  deriving Repr, DecidableEq

/-- What the pods of a deployment are made from. -/
structure PodTemplate where
  metadata : Metadata
  spec : PodSpec
  deriving Repr, DecidableEq

/-- A list of parts as a value. -/
def jsonList {α : Type} (toJson : α → Json) (items : List α) : Json :=
  .arr (items.map toJson)

/-- Fields that may be absent, and hold any value. -/
def keptFields (keys : List String) : Fields :=
  keys.foldr (fun key rest => .cons key (.lenient none) .any rest) .nil

namespace Others

/-- The members of an object under other keys than these. -/
def ofJson (own : List String) (value : Json) : Others :=
  match value with
  | .obj members => KeyMap.ofList (members.filter fun m => m.1 ∉ own)
  | _ => .empty

/-- Members in the order of their keys, and the others at their places among them. -/
def among (others : Others) (members : List (String × Json)) : List (String × Json) :=
  others.entries.foldl (fun done m => KeyMap.insertEntry m.1 m.2 done) members

@[simp] theorem among_empty (members : List (String × Json)) : among .empty members = members := rfl

end Others

namespace ContainerPort

/-- The shape of container ports. -/
def shape : Shape :=
  .record "ContainerPort" false <|
    .cons "containerPort" (.lenient (some (.int 0))) (.integer .i32) <|
    .cons "name" (.lenient none) .text <|
    keptFields ["hostIP", "hostPort", "protocol"]

/-- The port of a canonical value. -/
def ofJson (value : Json) : ContainerPort where
  containerPort := value.intAt "containerPort"
  name := value.textAt? "name"
  others := .ofJson ["containerPort", "name"] value

/-- The port as a value. -/
def toJson (p : ContainerPort) : Json :=
  .obj <| p.others.among <|
    [("containerPort", .int p.containerPort)] ++ Json.optional "name" (p.name.map .str)

end ContainerPort

namespace EnvVar

/-- The shape of variables. -/
def shape : Shape :=
  .record "EnvVar" false <|
    .cons "name" (.lenient (some (.str ""))) .text <|
    .cons "value" (.lenient none) .text <|
    keptFields ["valueFrom"]

/-- The variable of a canonical value. -/
def ofJson (value : Json) : EnvVar where
  name := value.textAt "name"
  value := value.textAt? "value"
  others := .ofJson ["name", "value"] value

/-- The variable as a value. -/
def toJson (v : EnvVar) : Json :=
  .obj <| v.others.among <| [("name", .str v.name)] ++ Json.optional "value" (v.value.map .str)

end EnvVar

namespace ExecProbe

/-- The probe as a value. -/
def toJson (p : ExecProbe) : Json :=
  .obj <|
    [("exec", .obj [("command", Json.texts p.command)]),
      ("failureThreshold", .int p.failureThreshold)] ++
    Json.optional "initialDelaySeconds" (p.initialDelaySeconds.map .int) ++
    [("periodSeconds", .int p.periodSeconds)]

end ExecProbe

namespace VolumeMount

/-- The shape of mounts. -/
def shape : Shape :=
  .record "VolumeMount" false <|
    .cons "mountPath" (.lenient (some (.str ""))) .text <|
    .cons "name" (.lenient (some (.str ""))) .text <|
    .cons "readOnly" (.lenient none) .flag <|
    .cons "subPath" (.lenient none) .text <|
    keptFields ["mountPropagation", "recursiveReadOnly", "subPathExpr"]

/-- The mount of a canonical value. -/
def ofJson (value : Json) : VolumeMount where
  mountPath := value.textAt "mountPath"
  name := value.textAt "name"
  readOnly := value.flagAt? "readOnly"
  subPath := value.textAt? "subPath"
  others := .ofJson ["mountPath", "name", "readOnly", "subPath"] value

/-- The mount as a value. -/
def toJson (m : VolumeMount) : Json :=
  .obj <| m.others.among <|
    [("mountPath", .str m.mountPath), ("name", .str m.name)] ++
    Json.optional "readOnly" (m.readOnly.map .bool) ++
    Json.optional "subPath" (m.subPath.map .str)

end VolumeMount

namespace Container

/-- The shape of containers. -/
def shape : Shape :=
  .record "Container" false <|
    .cons "args" (.lenient none) (.list .text) <|
    .cons "env" (.lenient none) (.list EnvVar.shape) <|
    .cons "image" (.lenient none) .text <|
    .cons "imagePullPolicy" (.lenient none) .text <|
    .cons "name" (.lenient (some (.str ""))) .text <|
    .cons "ports" (.lenient none) (.list ContainerPort.shape) <|
    .cons "resources" (.lenient none) Resources.shape <|
    .cons "volumeMounts" (.lenient none) (.list VolumeMount.shape) <|
    keptFields ["command", "envFrom", "lifecycle", "livenessProbe", "readinessProbe", "resizePolicy", "restartPolicy",
      "securityContext", "startupProbe", "stdin", "stdinOnce", "terminationMessagePath", "terminationMessagePolicy",
      "tty", "volumeDevices", "workingDir"]

/-- The container of a canonical value. -/
def ofJson (value : Json) : Container where
  args := value.textsAt? "args"
  env := (value.itemsAt? "env").map fun items => items.map EnvVar.ofJson
  image := value.textAt? "image"
  imagePullPolicy := value.textAt? "imagePullPolicy"
  name := value.textAt "name"
  ports := (value.itemsAt? "ports").map fun items => items.map ContainerPort.ofJson
  resources := (value.recordAt? "resources").map Resources.ofJson
  volumeMounts := (value.itemsAt? "volumeMounts").map fun items => items.map VolumeMount.ofJson
  others := .ofJson ["args", "env", "image", "imagePullPolicy", "name", "ports", "resources", "volumeMounts"] value

/-- The container as a value. -/
def toJson (c : Container) : Json :=
  .obj <| c.others.among <|
    Json.optional "args" (c.args.map Json.texts) ++
    Json.optional "env" (c.env.map (jsonList EnvVar.toJson)) ++
    Json.optional "envFrom" (c.envFrom.map (jsonList fun name =>
      .obj [("configMapRef", .obj [("name", .str name)])])) ++
    Json.optional "image" (c.image.map .str) ++
    Json.optional "imagePullPolicy" (c.imagePullPolicy.map .str) ++
    Json.optional "livenessProbe" (c.livenessProbe.map ExecProbe.toJson) ++
    [("name", .str c.name)] ++
    Json.optional "ports" (c.ports.map (jsonList ContainerPort.toJson)) ++
    Json.optional "readinessProbe" (c.readinessProbe.map ExecProbe.toJson) ++
    Json.optional "resources" (c.resources.map Resources.toJson) ++
    Json.optional "volumeMounts" (c.volumeMounts.map (jsonList VolumeMount.toJson))

end Container

namespace SecretSource

/-- The shape of secret volumes. -/
def shape : Shape :=
  .record "SecretVolumeSource" false <|
    .cons "optional" (.lenient none) .flag <|
    .cons "secretName" (.lenient none) .text <|
    keptFields ["defaultMode", "items"]

/-- The source of a canonical value. -/
def ofJson (value : Json) : SecretSource where
  isOptional := value.flagAt? "optional"
  secretName := value.textAt? "secretName"
  others := .ofJson ["optional", "secretName"] value

/-- The source as a value. -/
def toJson (s : SecretSource) : Json :=
  .obj <| s.others.among <|
    Json.optional "optional" (s.isOptional.map .bool) ++
    Json.optional "secretName" (s.secretName.map .str)

end SecretSource

namespace Volume

/-- The shape of volumes. -/
def shape : Shape :=
  .record "Volume" false <|
    .cons "name" (.lenient (some (.str ""))) .text <|
    .cons "secret" (.lenient none) SecretSource.shape <|
    .cons "configMap" (.lenient none) (.record "ConfigMapVolumeSource" false <|
      .cons "name" (.lenient (some (.str ""))) .text <| keptFields ["defaultMode", "items", "optional"]) <|
    .cons "emptyDir" (.lenient none) (.record "EmptyDirVolumeSource" false <| keptFields ["medium", "sizeLimit"]) <|
    keptFields ["awsElasticBlockStore", "azureDisk", "azureFile", "cephfs", "cinder", "csi", "downwardAPI",
      "ephemeral", "fc", "flexVolume", "flocker", "gcePersistentDisk", "gitRepo", "glusterfs", "hostPath", "image",
      "iscsi", "nfs", "persistentVolumeClaim", "photonPersistentDisk", "portworxVolume", "projected", "quobyte",
      "rbd", "scaleIO", "storageos", "vsphereVolume"]

/-- The volume of a canonical value. -/
def ofJson (value : Json) : Volume where
  name := value.textAt "name"
  secret := (value.recordAt? "secret").map SecretSource.ofJson
  others := .ofJson ["name", "secret"] value

/-- The volume as a value. -/
def toJson (v : Volume) : Json :=
  .obj <| v.others.among <|
    [("name", .str v.name)] ++ Json.optional "secret" (v.secret.map SecretSource.toJson)

end Volume

namespace AvoidanceTerm

/-- The term as a value. -/
def toJson (t : AvoidanceTerm) : Json :=
  .obj [
    ("podAffinityTerm", .obj [("labelSelector", t.selector.toJson), ("topologyKey", .str t.topologyKey)]),
    ("weight", .int t.weight)]

end AvoidanceTerm

namespace PodAntiAffinity

/-- The preferences as a value. -/
def toJson (a : PodAntiAffinity) : Json :=
  .obj [("podAntiAffinity", .obj [
    ("preferredDuringSchedulingIgnoredDuringExecution", jsonList AvoidanceTerm.toJson a.preferred)])]

end PodAntiAffinity

namespace PodSpec

/-- The shape of pod specifications. -/
def shape : Shape :=
  .record "PodSpec" false <|
    .cons "containers" (.lenient (some (.arr []))) (.list Container.shape) <|
    .cons "hostNetwork" (.lenient none) .flag <|
    .cons "nodeSelector" (.lenient none) (.map .text) <|
    .cons "serviceAccountName" (.lenient none) .text <|
    .cons "volumes" (.lenient none) (.list Volume.shape) <|
    keptFields ["activeDeadlineSeconds", "affinity", "automountServiceAccountToken", "dnsConfig", "dnsPolicy",
      "enableServiceLinks", "ephemeralContainers", "hostAliases", "hostIPC", "hostPID", "hostUsers", "hostname",
      "imagePullSecrets", "initContainers", "nodeName", "os", "overhead", "preemptionPolicy", "priority",
      "priorityClassName", "readinessGates", "resourceClaims", "restartPolicy", "runtimeClassName", "schedulerName",
      "schedulingGates", "securityContext", "serviceAccount", "setHostnameAsFQDN", "shareProcessNamespace",
      "subdomain", "terminationGracePeriodSeconds", "tolerations", "topologySpreadConstraints"]

/-- The specification of a canonical value. -/
def ofJson (value : Json) : PodSpec where
  containers := (value.itemsAt "containers").map Container.ofJson
  hostNetwork := value.flagAt? "hostNetwork"
  nodeSelector := value.keyMapAt? "nodeSelector"
  serviceAccountName := value.textAt? "serviceAccountName"
  volumes := (value.itemsAt? "volumes").map fun items => items.map Volume.ofJson
  others := .ofJson ["containers", "hostNetwork", "nodeSelector", "serviceAccountName", "volumes"] value

/-- The specification as a value. -/
def toJson (p : PodSpec) : Json :=
  .obj <| p.others.among <|
    Json.optional "affinity" (p.affinity.map PodAntiAffinity.toJson) ++
    [("containers", jsonList Container.toJson p.containers)] ++
    Json.optional "hostNetwork" (p.hostNetwork.map .bool) ++
    Json.optional "nodeSelector" (p.nodeSelector.map Json.ofKeyMap) ++
    Json.optional "serviceAccountName" (p.serviceAccountName.map .str) ++
    Json.optional "volumes" (p.volumes.map (jsonList Volume.toJson))

end PodSpec

namespace PodTemplate

/-- The template as a value. -/
def toJson (t : PodTemplate) : Json :=
  .obj [("metadata", t.metadata.toJson), ("spec", t.spec.toJson)]

end PodTemplate

end ControllerSynthesis
