/-
# The configuration of the controller

The flags for the controller's virtual machine and the entries of its
configuration map. The flags are, in this order: the baseline, the property with
the name of the cluster, the flags gated by the version, and one property for
each option in the order of the option names.

Key definitions: `javaFlags`, `configData`, `configDataLog`.
-/
import ControllerSynthesis.Settings
import ControllerSynthesis.Version.Comparison

namespace ControllerSynthesis

/-- The flag that sets a system property. -/
def propertyFlag (name value : String) : String :=
  "-D" ++ name ++ "=" ++ value

/-- The flags that the version of the cluster turns on. -/
def gatedFlags (spec : ClusterSpec) (jvm : JvmSettings) : List String :=
  if Version.gate spec.version jvm.gatedMinVersion .greaterOrEqual then jvm.gated else []

/-- The flags for the options of the cluster. -/
def optionFlags (options : KeyMap String) : List String :=
  options.entries.map fun e => propertyFlag e.1 e.2

/-- The flags for the controller's virtual machine. -/
def javaFlags (cluster : String) (spec : ClusterSpec) (settings : Settings) : List String :=
  settings.jvm.baseline ++ [propertyFlag settings.jvm.clusterNameProperty cluster] ++
    gatedFlags spec settings.jvm ++ optionFlags spec.pravega.options

/-- What is told of the flags. -/
def javaFlagsLog (spec : ClusterSpec) (jvm : JvmSettings) : List Log.Event :=
  Version.gateLog spec.version jvm.gatedMinVersion .greaterOrEqual ++
    [.debug "Evaluated version-gated JVM options" [
      ("version", .text spec.version), ("threshold", .text jvm.gatedMinVersion),
      ("gated", .flag (Version.gate spec.version jvm.gatedMinVersion .greaterOrEqual))]]

/-- The entries of the controller's configuration map. -/
def configData (cluster : String) (spec : ClusterSpec) (settings : Settings) : KeyMap String :=
  KeyMap.ofList [
    ("CLUSTER_NAME", cluster),
    ("ZK_URL", spec.zookeeperUri),
    ("JAVA_OPTS", " ".intercalate (javaFlags cluster spec settings)),
    ("REST_SERVER_PORT", Digits.text settings.restPort.port),
    ("CONTROLLER_SERVER_PORT", Digits.text settings.grpcPort.port),
    ("AUTHORIZATION_ENABLED", settings.security.authorizationEnabled),
    ("TOKEN_SIGNING_KEY", settings.security.tokenSigningKey),
    ("USER_PASSWORD_FILE", settings.security.userPasswordFile),
    ("TLS_ENABLED", settings.security.tlsEnabled),
    ("WAIT_FOR", spec.zookeeperUri)]

/-- What is told of the entries. -/
def configDataLog (cluster : String) (spec : ClusterSpec) (settings : Settings) : List Log.Event :=
  .debug "Building controller configuration data" [
    ("cluster_name", .text cluster), ("option_count", .number spec.pravega.options.entries.length)] ::
    javaFlagsLog spec settings.jvm

end ControllerSynthesis
