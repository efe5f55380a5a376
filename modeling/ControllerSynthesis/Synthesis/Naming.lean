/-
# Names and labels

All objects of a component of a cluster share a name and a set of labels, and
their selectors ask for exactly these labels.

Key definitions: `Naming.resourceName`, `Naming.labels`, `Naming.selector`,
`Naming.metadata`.
-/
import ControllerSynthesis.Cluster.Metadata
import ControllerSynthesis.Kube.Selector

namespace ControllerSynthesis.Naming

/-- The role of the controller. -/
def controllerRole : String := "pravega-controller"

/-- The label that holds the role of a component. -/
def roleLabel : String := "component"

/-- The label that holds the name of the cluster. -/
def clusterLabel : String := "pravega_cluster"

/-- The name of a component's objects. -/
def resourceName (cluster role : String) : String :=
  cluster ++ "-" ++ role

/-- The labels of a component's objects. -/
def labels (cluster role : String) : Labels :=
  KeyMap.ofList [
    ("app", "pravega-cluster"),
    (clusterLabel, cluster),
    (roleLabel, role),
    ("app.kubernetes.io/name", "pravega"),
    ("app.kubernetes.io/instance", cluster),
    ("app.kubernetes.io/component", role),
    ("app.kubernetes.io/managed-by", "pravega-operator"),
    ("app.kubernetes.io/part-of", "pravega")]

/-- The selector of a component's objects. -/
def selector (cluster role : String) : LabelSelector where
  matchLabels := some (labels cluster role)

/-- The metadata of a component's objects. -/
def metadata (cluster ns role : String) : Metadata where
  name := some (resourceName cluster role)
  namespaceName := some ns
  labels := some (labels cluster role)

end ControllerSynthesis.Naming
