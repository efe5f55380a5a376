/-
# Clusters

A Pravega cluster as an object: metadata, specification and status. Its name and
its namespace are needed to build anything for it; an empty one counts as none.

Key definitions: `Cluster`, `Cluster.ofJson`, `Cluster.toJson`,
`Cluster.requireName`, `Cluster.requireNamespace`, `MissingField`.
-/
import ControllerSynthesis.Cluster.Metadata
import ControllerSynthesis.Cluster.Spec
import ControllerSynthesis.Cluster.Status

namespace ControllerSynthesis

open Record

/-- A Pravega cluster. -/
structure Cluster where
  metadata : Metadata
  spec : ClusterSpec
  status : Option ClusterStatus := none
  deriving Repr, DecidableEq

/-- The fields that synthesis needs. -/
inductive RequiredField where
  | name
  | namespaceName
  | resources
  | secret
  deriving Repr, DecidableEq

/-- A field that synthesis needs and a cluster does not have. -/
structure MissingField where
  /-- The name of the cluster, or a stand-in when it has none. -/
  cluster : String
  field : RequiredField
  deriving Repr, DecidableEq

/-- The path of a required field. -/
def RequiredField.path : RequiredField → String
  | name => "metadata.name"
  | namespaceName => "metadata.namespace"
  | resources => "spec.pravega.controllerResources"
  | secret => "spec.tls.controllerSecret"

/-- The error in words. -/
def MissingField.message (e : MissingField) : String :=
  "PravegaCluster '" ++ e.cluster ++ "' is missing required field '" ++ e.field.path ++ "'"

namespace Cluster

/-- The group of the resource type. -/
def group : String := "pravega.pravega.io"

/-- The version of the resource type. -/
def resourceVersion : String := "v1alpha1"

/-- Group and version of the resource type. -/
def apiVersion : String := group ++ "/" ++ resourceVersion

/-- The kind of the resource type. -/
def kind : String := "PravegaCluster"

/-- The plural under which the resource type is addressed. -/
def plural : String := "pravegaclusters"

/-- The shape of clusters. The group, version and kind of a document are unknown
keys to it. -/
def shape : Shape :=
  .record "PravegaCluster" true <|
    .cons "metadata" .required Metadata.shape <|
    .cons "spec" .required ClusterSpec.shape <|
    .cons "status" .omitted ClusterStatus.shape .nil

/-- The cluster of a canonical value. -/
def ofJson (value : Json) : Cluster where
  metadata := Metadata.ofJson (value.get "metadata")
  spec := ClusterSpec.ofJson (value.get "spec")
  status := (value.recordAt? "status").map ClusterStatus.ofJson

/-- The canonical value of a cluster, with its version and kind in front. -/
def toJson (c : Cluster) : Json :=
  .obj <|
    [("apiVersion", .str apiVersion), ("kind", .str kind),
      ("metadata", c.metadata.toJson), ("spec", c.spec.toJson)] ++
    Json.optional "status" (c.status.map ClusterStatus.toJson)

/-- A new cluster of that name, without a namespace or a status. -/
def named (name : String) (spec : ClusterSpec) : Cluster where
  metadata := { name := some name }
  spec := spec

/-- What messages call a cluster without a name. -/
def unnamed : String := "<unnamed>"

/-- The name of the cluster. -/
def requireName (c : Cluster) : Except MissingField String :=
  match nonEmpty? c.metadata.name with
  | some name => .ok name
  | none => .error ⟨unnamed, .name⟩

/-- The namespace of the cluster; its name is needed first. -/
def requireNamespace (c : Cluster) : Except MissingField String := do
  let name ← c.requireName
  match nonEmpty? c.metadata.namespaceName with
  | some ns => return ns
  | none => throw ⟨name, .namespaceName⟩

/-- The service type asked for from outside, if any. -/
def externalServiceType? (c : Cluster) : Option ServiceType :=
  c.spec.externalAccess.bind ExternalAccess.serviceType?

end Cluster

end ControllerSynthesis
