/-
# Manifests

A manifest is YAML text. The manifest of a cluster is read with a namespace that
may be given from outside: it goes before the one in the manifest, and without
either the default is taken. The objects of a controller are written as one
document each.

Key definitions: `Manifest.read`, `Manifest.readLog`, `Manifest.write`,
`Manifest.render`.
-/
import ControllerSynthesis.Record.OfYaml
import ControllerSynthesis.Synthesis.Objects
import ControllerSynthesis.Yaml.Writing

namespace ControllerSynthesis.Manifest

/-- The namespace of clusters for which none is given. -/
def defaultNamespace : String := "default"

/-- The namespace of a cluster, when one may be given from outside. -/
def effectiveNamespace (given own : Option String) : String :=
  (given.or own).getD defaultNamespace

/-- The cluster in the effective namespace. -/
def place (given : Option String) (c : Cluster) : Cluster :=
  { c with metadata.namespaceName := some (effectiveNamespace given c.metadata.namespaceName) }

/-- The cluster of a manifest, in the namespace that is given, in its own, or in
the default one. -/
def read (text : String) (given : Option String) : Record.Result Cluster :=
  (Cluster.shape.ofYaml text).map fun value => place given (Cluster.ofJson value)

/-- What is told when a cluster is read. -/
def readLog (text : String) (given : Option String) : List Log.Event :=
  Log.after (read text given) fun c =>
    [.debug "Loaded PravegaCluster manifest" [
      ("name", .optional c.metadata.name), ("namespace", .optional c.metadata.namespaceName)]]

/-- The manifest of a cluster. -/
def write (c : Cluster) : String :=
  Yaml.write c.toJson

/-- The manifest of the controller's objects: one document for each, in the
order in which they are applied. -/
def render (objects : ControllerObjects) : String :=
  Yaml.writeStream
    [objects.configMap.toJson, objects.service.toJson, objects.deployment.toJson,
      objects.disruptionBudget.toJson]

end ControllerSynthesis.Manifest
