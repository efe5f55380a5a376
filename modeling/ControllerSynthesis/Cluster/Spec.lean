/-
# What is asked of a cluster

The specification of a Pravega cluster: its version, where Zookeeper is, TLS,
access from outside, and the controller. Its records are strict. An absent part
and a part that is switched off are different values with the same effect; the
functions here say which parts count.

Key definitions: `ClusterSpec`, `TlsSpec.secret?`, `ExternalAccess.serviceType?`,
`ImageSpec.reference`, `ImageSpec.pullPolicyOrDefault`.
-/
import ControllerSynthesis.Cluster.Resources

namespace ControllerSynthesis

open Record

/-- The text, unless it is absent or empty. -/
def nonEmpty? (text : Option String) : Option String :=
  text.filter fun t => t ≠ ""

/-- TLS for the controller. -/
structure TlsSpec where
  enabled : Bool := false
  /-- The secret with the certificate and the key. -/
  controllerSecret : Option String := none
  deriving Repr, DecidableEq

/-- The ways in which a service is reached. -/
inductive ServiceType where
  | clusterIP
  | nodePort
  | loadBalancer
  deriving Repr, DecidableEq, Inhabited

/-- Access to the controller from outside. -/
structure ExternalAccess where
  enabled : Bool := false
  type : Option ServiceType := none
  deriving Repr, DecidableEq

/-- The image of a container. -/
structure ImageSpec where
  repository : Option String := none
  tag : Option String := none
  pullPolicy : Option String := none
  deriving Repr, DecidableEq

/-- The controller of a cluster. -/
structure PravegaSpec where
  controllerReplicas : Int := 1
  controllerResources : Option Resources := none
  controllerServiceAccountName : Option String := none
  image : Option ImageSpec := none
  /-- Options passed to the controller by name. -/
  options : KeyMap String := KeyMap.empty
  deriving Repr, DecidableEq

/-- What is asked of a cluster. -/
structure ClusterSpec where
  version : String
  zookeeperUri : String
  tls : Option TlsSpec := none
  externalAccess : Option ExternalAccess := none
  pravega : PravegaSpec := {}
  deriving Repr, DecidableEq

namespace TlsSpec

/-- The shape of TLS settings. -/
def shape : Shape :=
  .record "TlsSpec" true <|
    .cons "enabled" (.defaulted (.bool false)) .flag <|
    .cons "controllerSecret" .nullable .text .nil

/-- The settings of a canonical value. -/
def ofJson (value : Json) : TlsSpec where
  enabled := value.flagAt "enabled"
  controllerSecret := value.textAt? "controllerSecret"

/-- The canonical value of TLS settings. -/
def toJson (t : TlsSpec) : Json :=
  .obj [("enabled", .bool t.enabled), ("controllerSecret", Json.textOrNull t.controllerSecret)]

/-- The secret in use: none unless TLS is enabled and the secret has a name. -/
def secret? (t : TlsSpec) : Option String :=
  if t.enabled then nonEmpty? t.controllerSecret else none

end TlsSpec

namespace ServiceType

/-- All service types, in the order of messages. -/
def all : List ServiceType := [clusterIP, nodePort, loadBalancer]

/-- The name of a service type. -/
def name : ServiceType → String
  | clusterIP => "ClusterIP"
  | nodePort => "NodePort"
  | loadBalancer => "LoadBalancer"

/-- The shape of service types. -/
def shape : Shape := .choice (all.map name)

/-- The service type of a name. -/
def ofName? (text : String) : Option ServiceType :=
  all.find? fun t => t.name = text

/-- The service type of a canonical value. -/
def ofJson? (value : Json) : Option ServiceType :=
  value.asText?.bind ofName?

/-- The canonical value of a service type. -/
def toJson (t : ServiceType) : Json := .str t.name

end ServiceType

namespace ExternalAccess

/-- The shape of access settings. -/
def shape : Shape :=
  .record "ExternalAccess" true <|
    .cons "enabled" (.defaulted (.bool false)) .flag <|
    .cons "type" .nullable ServiceType.shape .nil

/-- The settings of a canonical value. -/
def ofJson (value : Json) : ExternalAccess where
  enabled := value.flagAt "enabled"
  type := ServiceType.ofJson? (value.get "type")

/-- The canonical value of access settings. -/
def toJson (a : ExternalAccess) : Json :=
  .obj [("enabled", .bool a.enabled), ("type", (a.type.map ServiceType.toJson).getD .null)]

/-- The service type asked for, if access is enabled; a load balancer unless
another one is named. -/
def serviceType? (a : ExternalAccess) : Option ServiceType :=
  if a.enabled then some (a.type.getD .loadBalancer) else none

end ExternalAccess

namespace ImageSpec

/-- The repository of an image that names none. -/
def defaultRepository : String := "pravega/pravega"

/-- The pull policy of an image that names none. -/
def defaultPullPolicy : String := "IfNotPresent"

/-- The shape of images. -/
def shape : Shape :=
  .record "ImageSpec" true <|
    .cons "repository" .nullable .text <|
    .cons "tag" .nullable .text <|
    .cons "pullPolicy" .nullable .text .nil

/-- The image of a canonical value. -/
def ofJson (value : Json) : ImageSpec where
  repository := value.textAt? "repository"
  tag := value.textAt? "tag"
  pullPolicy := value.textAt? "pullPolicy"

/-- The canonical value of an image. -/
def toJson (i : ImageSpec) : Json :=
  .obj [("repository", Json.textOrNull i.repository), ("tag", Json.textOrNull i.tag),
    ("pullPolicy", Json.textOrNull i.pullPolicy)]

/-- The part of the reference that names the image's tag: the version of the
cluster unless the image has a tag of its own. -/
def tagOr (i : ImageSpec) (version : String) : String :=
  (nonEmpty? i.tag).getD version

/-- The reference `repository:tag`. -/
def reference (i : ImageSpec) (version : String) : String :=
  (nonEmpty? i.repository).getD defaultRepository ++ ":" ++ i.tagOr version

/-- The pull policy in use. -/
def pullPolicyOrDefault (i : ImageSpec) : String :=
  (nonEmpty? i.pullPolicy).getD defaultPullPolicy

end ImageSpec

namespace PravegaSpec

/-- The shape of the controller's part. -/
def shape : Shape :=
  .record "PravegaSpec" true <|
    .cons "controllerReplicas" (.defaulted (.int 1)) (.integer .i32) <|
    .cons "controllerResources" .nullable Resources.shape <|
    .cons "controllerServiceAccountName" .nullable .text <|
    .cons "image" .nullable ImageSpec.shape <|
    .cons "options" (.defaulted (.obj [])) (.map .text) .nil

/-- The controller's part of a canonical value. -/
def ofJson (value : Json) : PravegaSpec where
  controllerReplicas := value.intAt "controllerReplicas"
  controllerResources := (value.recordAt? "controllerResources").map Resources.ofJson
  controllerServiceAccountName := value.textAt? "controllerServiceAccountName"
  image := (value.recordAt? "image").map ImageSpec.ofJson
  options := (value.keyMapAt? "options").getD KeyMap.empty

/-- The canonical value of the controller's part. -/
def toJson (p : PravegaSpec) : Json :=
  .obj [("controllerReplicas", .int p.controllerReplicas),
    ("controllerResources", (p.controllerResources.map Resources.toJson).getD .null),
    ("controllerServiceAccountName", Json.textOrNull p.controllerServiceAccountName),
    ("image", (p.image.map ImageSpec.toJson).getD .null),
    ("options", Json.ofKeyMap p.options)]

end PravegaSpec

namespace ClusterSpec

/-- The shape of specifications. -/
def shape : Shape :=
  .record "PravegaClusterSpec" true <|
    .cons "version" .required .text <|
    .cons "zookeeperUri" .required .text <|
    .cons "tls" .nullable TlsSpec.shape <|
    .cons "externalAccess" .nullable ExternalAccess.shape <|
    .cons "pravega" (.defaulted (PravegaSpec.toJson {})) PravegaSpec.shape .nil

/-- The specification of a canonical value. -/
def ofJson (value : Json) : ClusterSpec where
  version := value.textAt "version"
  zookeeperUri := value.textAt "zookeeperUri"
  tls := (value.recordAt? "tls").map TlsSpec.ofJson
  externalAccess := (value.recordAt? "externalAccess").map ExternalAccess.ofJson
  pravega := PravegaSpec.ofJson (value.get "pravega")

/-- The canonical value of a specification. -/
def toJson (s : ClusterSpec) : Json :=
  .obj [("version", .str s.version), ("zookeeperUri", .str s.zookeeperUri),
    ("tls", (s.tls.map TlsSpec.toJson).getD .null),
    ("externalAccess", (s.externalAccess.map ExternalAccess.toJson).getD .null),
    ("pravega", s.pravega.toJson)]

end ClusterSpec

end ControllerSynthesis
