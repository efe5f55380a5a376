/-
# Sessions of edits

A session holds a cluster and the settings under which its objects are made.
Edits change one field of it at a time. A reload writes the cluster as a manifest
and reads it again; it alone can fail, and the session then stays as it was.

Key definitions: `Session`, `Edit`, `Session.apply`, `Session.objects`.
-/
import ControllerSynthesis.Manifest

namespace ControllerSynthesis

/-- A cluster and the settings under which its objects are made. -/
structure Session where
  cluster : Cluster
  settings : Settings := {}
  deriving Repr, DecidableEq

/-- A change of the options. -/
inductive OptionEdit where
  | insert (key value : String)
  | remove (key : String)
  | clear
  deriving Repr, DecidableEq

/-- A change of a session. -/
inductive Edit where
  | name (value : Option String)
  | namespaceName (value : Option String)
  | serviceAccount (value : Option String)
  | version (value : String)
  | zookeeperUri (value : String)
  | replicas (value : Int)
  | tls (value : Option TlsSpec)
  | externalAccess (value : Option ExternalAccess)
  | image (value : Option ImageSpec)
  | resources (value : Option Resources)
  | options (edit : OptionEdit)
  | settings (changes : List Settings.Change)
  | resetSettings
  /-- Written as a manifest and read again, in a namespace that may be given. -/
  | reload (given : Option String)
  deriving Repr, DecidableEq

/-- The options after a change. -/
def OptionEdit.apply (options : KeyMap String) : OptionEdit → KeyMap String
  | insert key value => options.insert key value
  | remove key => options.erase key
  | clear => KeyMap.empty

/-- The cluster after a change of its options. -/
def Cluster.editOptions (c : Cluster) (edit : OptionEdit) : Cluster :=
  { c with spec.pravega.options := edit.apply c.spec.pravega.options }

namespace Session

/-- The session with another cluster. -/
def withCluster (s : Session) (c : Cluster) : Session :=
  { s with cluster := c }

/-- The session after a change. -/
def apply (s : Session) (edit : Edit) : Record.Result Session :=
  let c := s.cluster
  match edit with
  | .name value => .ok (s.withCluster { c with metadata.name := value })
  | .namespaceName value => .ok (s.withCluster { c with metadata.namespaceName := value })
  | .serviceAccount value =>
    .ok (s.withCluster { c with spec.pravega.controllerServiceAccountName := value })
  | .version value => .ok (s.withCluster { c with spec.version := value })
  | .zookeeperUri value => .ok (s.withCluster { c with spec.zookeeperUri := value })
  | .replicas value => .ok (s.withCluster { c with spec.pravega.controllerReplicas := value })
  | .tls value => .ok (s.withCluster { c with spec.tls := value })
  | .externalAccess value => .ok (s.withCluster { c with spec.externalAccess := value })
  | .image value => .ok (s.withCluster { c with spec.pravega.image := value })
  | .resources value => .ok (s.withCluster { c with spec.pravega.controllerResources := value })
  | .options edit => .ok (s.withCluster (c.editOptions edit))
  | .settings changes => .ok { s with settings := s.settings.applyAll changes }
  | .resetSettings => .ok { s with settings := {} }
  | .reload given => (Manifest.read (Manifest.write c) given).map s.withCluster

/-- The objects of the cluster. -/
def objects (s : Session) : Except MissingField ControllerObjects :=
  synthesize s.cluster s.settings

end Session

end ControllerSynthesis
