/-
# Settings of the controller

The fixed values that synthesis puts into the objects of a cluster. None of them
comes from the cluster. The defaults fit the controller's image.

Key definitions: `Settings`, `Settings.Change`, `Settings.apply`.
-/
import ControllerSynthesis.Cluster.Basic

namespace ControllerSynthesis

/-- A network port with its name. -/
structure NamedPort where
  name : String
  port : Int
  deriving Repr, DecidableEq

/-- The timing of a probe. Without an initial delay it starts at once. -/
structure ProbeTiming where
  initialDelaySeconds : Option Int := none
  periodSeconds : Int
  failureThreshold : Int
  deriving Repr, DecidableEq

/-- Security values handed to the controller as they are. -/
structure SecuritySettings where
  authorizationEnabled : String := "false"
  tokenSigningKey : String := "secret"
  userPasswordFile : String := "/etc/pravega/conf/passwd"
  tlsEnabled : String := "false"
  deriving Repr, DecidableEq

/-- The flags of the controller's virtual machine. -/
structure JvmSettings where
  /-- Flags that are always given, first of all. -/
  baseline : List String :=
    ["-Xms512m", "-XX:+ExitOnOutOfMemoryError", "-XX:+CrashOnOutOfMemoryError",
      "-XX:+HeapDumpOnOutOfMemoryError"]
  /-- The property that carries the name of the cluster. -/
  clusterNameProperty : String := "pravegaservice.clusterName"
  /-- Flags given from a version on. -/
  gated : List String :=
    ["-XX:+UnlockExperimentalVMOptions", "-XX:+UseCGroupMemoryLimitForHeap", "-XX:MaxRAMFraction=2"]
  /-- The first version with the gated flags. -/
  gatedMinVersion : String := "0.4.0"
  deriving Repr, DecidableEq

/-- The fixed values of synthesis. -/
structure Settings where
  restPort : NamedPort := ⟨"rest", 10080⟩
  grpcPort : NamedPort := ⟨"grpc", 9090⟩
  readiness : ProbeTiming := ⟨none, 5, 12⟩
  liveness : ProbeTiming := ⟨some 60, 15, 4⟩
  tlsVolumeName : String := "tls-secret"
  tlsMountPath : String := "/etc/secret-volume"
  security : SecuritySettings := {}
  jvm : JvmSettings := {}
  antiAffinityWeight : Int := 100
  antiAffinityTopologyKey : String := "kubernetes.io/hostname"
  minAvailable : Int := 1
  deriving Repr, DecidableEq

/-- A change of one of the fixed values. -/
inductive Settings.Change where
  | restPort (value : NamedPort)
  | grpcPort (value : NamedPort)
  | readiness (value : ProbeTiming)
  | liveness (value : ProbeTiming)
  | tlsVolumeName (value : String)
  | tlsMountPath (value : String)
  | authorizationEnabled (value : String)
  | tokenSigningKey (value : String)
  | userPasswordFile (value : String)
  | tlsEnabled (value : String)
  | baseline (value : List String)
  | gated (value : List String)
  | clusterNameProperty (value : String)
  | gatedMinVersion (value : String)
  | antiAffinityWeight (value : Int)
  | antiAffinityTopologyKey (value : String)
  | minAvailable (value : Int)
  deriving Repr, DecidableEq

namespace Settings

/-- The settings after a change. -/
def apply (s : Settings) : Change → Settings
  | .restPort value => { s with restPort := value }
  | .grpcPort value => { s with grpcPort := value }
  | .readiness value => { s with readiness := value }
  | .liveness value => { s with liveness := value }
  | .tlsVolumeName value => { s with tlsVolumeName := value }
  | .tlsMountPath value => { s with tlsMountPath := value }
  | .authorizationEnabled value => { s with security.authorizationEnabled := value }
  | .tokenSigningKey value => { s with security.tokenSigningKey := value }
  | .userPasswordFile value => { s with security.userPasswordFile := value }
  | .tlsEnabled value => { s with security.tlsEnabled := value }
  | .baseline value => { s with jvm.baseline := value }
  | .gated value => { s with jvm.gated := value }
  | .clusterNameProperty value => { s with jvm.clusterNameProperty := value }
  | .gatedMinVersion value => { s with jvm.gatedMinVersion := value }
  | .antiAffinityWeight value => { s with antiAffinityWeight := value }
  | .antiAffinityTopologyKey value => { s with antiAffinityTopologyKey := value }
  | .minAvailable value => { s with minAvailable := value }

/-- The settings after several changes, from the first to the last. -/
def applyAll (s : Settings) (changes : List Change) : Settings :=
  changes.foldl apply s

/-- The ports of the controller, in the order of the container and the service. -/
def ports (s : Settings) : List NamedPort := [s.restPort, s.grpcPort]

end Settings

end ControllerSynthesis
