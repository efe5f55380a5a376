/-
# What each object depends on

Each object is made from a part of the cluster and of the settings, and nothing else has
an influence on it: clusters and settings that agree on this part give the same object,
or the same failure. Of the configuration, the keys never change, and most values come
from the settings alone.

Agreement is a relation between two runs, one for each object. It is carried through the
helpers that the object is made with, one after the other.

Key definitions: `Service.SameInputs`, `PodDisruptionBudget.SameInputs`,
`ConfigMap.SameInputs`, `Deployment.SameInputs`.
Key theorems: `service_congr`, `disruptionBudget_congr`, `configMap_congr`,
`deployment_congr`, `objects_depend_on_inputs`.
-/
import ControllerSynthesis.Proofs.Steps
import ControllerSynthesis.Proofs.KeyMap
import ControllerSynthesis.Synthesis.Objects

namespace ControllerSynthesis

variable {c d : Cluster} {s t : Settings} {name : String}

/-! ### Agreement -/

/-- Clusters with one name and one namespace. -/
structure Cluster.SamePlace (c d : Cluster) : Prop where
  name : c.metadata.name = d.metadata.name
  namespaceName : c.metadata.namespaceName = d.metadata.namespaceName

/-- Agreement on what a service is made from. -/
structure Service.SameInputs (c d : Cluster) (s t : Settings) : Prop extends c.SamePlace d where
  type : c.externalServiceType? = d.externalServiceType?
  restPort : s.restPort = t.restPort
  grpcPort : s.grpcPort = t.grpcPort

/-- Agreement on what a limit on disruptions is made from. -/
structure PodDisruptionBudget.SameInputs (c d : Cluster) (s t : Settings) : Prop extends c.SamePlace d where
  minAvailable : s.minAvailable = t.minAvailable

/-- Agreement on what a configuration map is made from. Of the version only the outcome
of the gate counts, and of the ports only their numbers. -/
structure ConfigMap.SameInputs (c d : Cluster) (s t : Settings) : Prop extends c.SamePlace d where
  zookeeperUri : c.spec.zookeeperUri = d.spec.zookeeperUri
  options : c.spec.pravega.options = d.spec.pravega.options
  gate : Version.gate c.spec.version s.jvm.gatedMinVersion .greaterOrEqual =
    Version.gate d.spec.version t.jvm.gatedMinVersion .greaterOrEqual
  restNumber : s.restPort.port = t.restPort.port
  grpcNumber : s.grpcPort.port = t.grpcPort.port
  security : s.security = t.security
  jvm : s.jvm = t.jvm

/-- Agreement on what a deployment is made from: the whole part of the controller except
for its options, and of the settings all that concerns its pods. -/
structure Deployment.SameInputs (c d : Cluster) (s t : Settings) : Prop extends c.SamePlace d where
  version : c.spec.version = d.spec.version
  pravega : { c.spec.pravega with options := d.spec.pravega.options } = d.spec.pravega
  tls : c.spec.tls = d.spec.tls
  restPort : s.restPort = t.restPort
  grpcPort : s.grpcPort = t.grpcPort
  readiness : s.readiness = t.readiness
  liveness : s.liveness = t.liveness
  tlsVolumeName : s.tlsVolumeName = t.tlsVolumeName
  tlsMountPath : s.tlsMountPath = t.tlsMountPath
  antiAffinityWeight : s.antiAffinityWeight = t.antiAffinityWeight
  antiAffinityTopologyKey : s.antiAffinityTopologyKey = t.antiAffinityTopologyKey

/-! ### Names and namespaces -/

theorem Cluster.requireName_congr (name : c.metadata.name = d.metadata.name) : c.requireName = d.requireName := by
  rw [requireName, requireName, name]

theorem Cluster.requireNamespace_congr (same : c.SamePlace d) : c.requireNamespace = d.requireNamespace := by
  rw [requireNamespace, requireNamespace, requireName_congr same.name, same.namespaceName]

/-! ### The service and the limit on disruptions -/

theorem Settings.ports_congr (rest : s.restPort = t.restPort) (grpc : s.grpcPort = t.grpcPort) : s.ports = t.ports := by
  rw [ports, ports, rest, grpc]

/-- **A service** depends on the place of its cluster, the type asked for and the ports. -/
theorem service_congr (same : Service.SameInputs c d s t) : service c s = service d t := by
  rw [service, service, Cluster.requireName_congr same.name, Cluster.requireNamespace_congr same.toSamePlace,
    Settings.ports_congr same.restPort same.grpcPort, same.type]

/-- **A limit on disruptions** depends on the place of its cluster and on its number. -/
theorem disruptionBudget_congr (same : PodDisruptionBudget.SameInputs c d s t) :
    disruptionBudget c s = disruptionBudget d t := by
  rw [disruptionBudget, disruptionBudget, Cluster.requireName_congr same.name,
    Cluster.requireNamespace_congr same.toSamePlace, same.minAvailable]

/-! ### The configuration map -/

theorem javaFlags_congr (same : ConfigMap.SameInputs c d s t) (name : String) :
    javaFlags name c.spec s = javaFlags name d.spec t := by
  have gated : gatedFlags c.spec s.jvm = gatedFlags d.spec t.jvm := by
    rw [gatedFlags, gatedFlags, same.gate, same.jvm]
  rw [javaFlags, javaFlags, gated, same.jvm, same.options]

theorem configData_congr (same : ConfigMap.SameInputs c d s t) (name : String) :
    configData name c.spec s = configData name d.spec t := by
  rw [configData, configData, javaFlags_congr same, same.zookeeperUri, same.restNumber, same.grpcNumber,
    same.security]

/-- **A configuration map** does not depend on the version but for the gate. -/
theorem configMap_congr (same : ConfigMap.SameInputs c d s t) : configMap c s = configMap d t := by
  unfold configMap
  rw [Cluster.requireName_congr same.name, Cluster.requireNamespace_congr same.toSamePlace]
  simp only [configData_congr same]

/-! ### The deployment -/

namespace Deployment.SameInputs

theorem replicas (same : SameInputs c d s t) :
    c.spec.pravega.controllerReplicas = d.spec.pravega.controllerReplicas :=
  (congrArg PravegaSpec.controllerReplicas same.pravega :)

theorem resources (same : SameInputs c d s t) :
    c.spec.pravega.controllerResources = d.spec.pravega.controllerResources :=
  (congrArg PravegaSpec.controllerResources same.pravega :)

theorem serviceAccount (same : SameInputs c d s t) :
    c.spec.pravega.controllerServiceAccountName = d.spec.pravega.controllerServiceAccountName :=
  (congrArg PravegaSpec.controllerServiceAccountName same.pravega :)

theorem image (same : SameInputs c d s t) : c.spec.pravega.image = d.spec.pravega.image :=
  (congrArg PravegaSpec.image same.pravega :)

end Deployment.SameInputs

theorem controllerContainer_congr (same : Deployment.SameInputs c d s t) (name : String) :
    controllerContainer name c.spec s = controllerContainer name d.spec t := by
  rw [controllerContainer, controllerContainer, same.resources, same.image, same.version, same.grpcPort,
    same.liveness, same.readiness, Settings.ports_congr same.restPort same.grpcPort]

theorem antiAffinity_congr (same : Deployment.SameInputs c d s t) (role name : String) :
    antiAffinity role name s = antiAffinity role name t := by
  rw [antiAffinity, antiAffinity, same.antiAffinityWeight, same.antiAffinityTopologyKey]

theorem basePodSpec_congr (same : Deployment.SameInputs c d s t) (name : String) :
    basePodSpec name c.spec s = basePodSpec name d.spec t := by
  rw [basePodSpec, basePodSpec, controllerContainer_congr same, antiAffinity_congr same, same.serviceAccount]

theorem PodSpec.mounting_congr (same : Deployment.SameInputs c d s t) (pod : PodSpec) (secret : String) :
    pod.mounting secret s = pod.mounting secret t := by
  rw [mounting, mounting, tlsVolume, tlsVolume, tlsMount, tlsMount, same.tlsVolumeName, same.tlsMountPath]

theorem PodSpec.withTls_congr (same : Deployment.SameInputs c d s t) (pod : PodSpec) (name : String) :
    pod.withTls name c.spec.tls s = pod.withTls name d.spec.tls t := by
  unfold withTls
  simp only [same.tls, mounting_congr same]

theorem podSpec_congr (same : Deployment.SameInputs c d s t) : podSpec c s = podSpec d t := by
  unfold podSpec
  rw [Cluster.requireName_congr same.name]
  simp only [basePodSpec_congr same, PodSpec.withTls_congr same]

theorem podTemplate_congr (same : Deployment.SameInputs c d s t) : podTemplate c s = podTemplate d t := by
  rw [podTemplate, podTemplate, Cluster.requireName_congr same.name, podSpec_congr same, same.version]

/-- **A deployment** does not depend on the options, nor on where Zookeeper is. -/
theorem deployment_congr (same : Deployment.SameInputs c d s t) : deployment c s = deployment d t := by
  rw [deployment, deployment, Cluster.requireName_congr same.name, Cluster.requireNamespace_congr same.toSamePlace,
    podTemplate_congr same, same.replicas]

/-! ### The keys of the configuration -/

/-- **The keys of the configuration** are the same for all clusters and settings. -/
theorem keys_configData (name : String) (spec : ClusterSpec) (settings : Settings) :
    (configData name spec settings).entries.map (·.1) =
      ["AUTHORIZATION_ENABLED", "CLUSTER_NAME", "CONTROLLER_SERVER_PORT", "JAVA_OPTS", "REST_SERVER_PORT",
        "TLS_ENABLED", "TOKEN_SIGNING_KEY", "USER_PASSWORD_FILE", "WAIT_FOR", "ZK_URL"] := by
  simp +decide only [configData, KeyMap.ofList, KeyMap.insert, KeyMap.insertEntry, KeyMap.empty, List.foldl, if_true,
    if_false, List.map]

/-- The keys whose values come from the cluster. -/
def clusterKeys : List String := ["CLUSTER_NAME", "ZK_URL", "WAIT_FOR", "JAVA_OPTS"]

/-- The values at all other keys come from the settings alone. -/
theorem get?_configData_of_not_mem {key : String} (other : key ∉ clusterKeys) (name name' : String)
    (spec spec' : ClusterSpec) (settings : Settings) :
    (configData name spec settings).get? key = (configData name' spec' settings).get? key := by
  simp only [clusterKeys, List.mem_cons, List.not_mem_nil, or_false, not_or] at other
  simp [configData, KeyMap.ofList, Ne.symm other.1, Ne.symm other.2.1, Ne.symm other.2.2.1, Ne.symm other.2.2.2]

/-- The data of a configuration map is the configuration of its cluster. -/
theorem data_configMap {m : ConfigMap} (made : configMap c s = .ok m) :
    ∃ name, c.requireName = .ok name ∧ m.data = configData name c.spec s := by
  unfold configMap at made
  obtain ⟨name, named, made⟩ := bind_eq_ok.mp made
  obtain ⟨ns, -, made⟩ := bind_eq_ok.mp made
  exact ⟨name, named, (congrArg ConfigMap.data (Except.ok.inj made)).symm⟩

/-! ### All objects -/

/-- **Of the metadata only the name and the namespace count**, and of the status nothing. -/
theorem synthesize_congr_metadata {metadata : Metadata} {status : Option ClusterStatus}
    (same : Cluster.SamePlace { c with metadata := metadata, status := status } c) (s : Settings) :
    synthesize { c with metadata := metadata, status := status } s = synthesize c s := by
  rw [synthesize, synthesize,
    configMap_congr ⟨same, rfl, rfl, rfl, rfl, rfl, rfl, rfl⟩,
    service_congr ⟨same, rfl, rfl, rfl⟩,
    deployment_congr ⟨same, rfl, rfl, rfl, rfl, rfl, rfl, rfl, rfl, rfl, rfl, rfl⟩,
    disruptionBudget_congr ⟨same, rfl⟩]

/-- **Each object depends on its own inputs and on nothing else.** Two runs that agree on
them give the same object or the same failure. The configuration has the same ten keys in
all runs, two of them with where Zookeeper is, and under the same settings clusters differ
at no other keys than these two, the name and the flags. -/
theorem objects_depend_on_inputs (c d : Cluster) (s t : Settings) :
    (Service.SameInputs c d s t → service c s = service d t) ∧
    (PodDisruptionBudget.SameInputs c d s t → disruptionBudget c s = disruptionBudget d t) ∧
    (ConfigMap.SameInputs c d s t → configMap c s = configMap d t) ∧
    (Deployment.SameInputs c d s t → deployment c s = deployment d t) ∧
    (∀ m, configMap c s = .ok m → ∃ name, c.requireName = .ok name ∧ m.data = configData name c.spec s) ∧
    (∀ (name : String) (spec : ClusterSpec) (settings : Settings),
      (configData name spec settings).entries.map (·.1) =
        ["AUTHORIZATION_ENABLED", "CLUSTER_NAME", "CONTROLLER_SERVER_PORT", "JAVA_OPTS", "REST_SERVER_PORT",
          "TLS_ENABLED", "TOKEN_SIGNING_KEY", "USER_PASSWORD_FILE", "WAIT_FOR", "ZK_URL"] ∧
      (configData name spec settings).get? "WAIT_FOR" = some spec.zookeeperUri ∧
      (configData name spec settings).get? "ZK_URL" = some spec.zookeeperUri) ∧
    (∀ (name name' : String) (spec spec' : ClusterSpec) (settings : Settings) (key : String),
      key ∉ ["CLUSTER_NAME", "ZK_URL", "WAIT_FOR", "JAVA_OPTS"] →
        (configData name spec settings).get? key = (configData name' spec' settings).get? key) ∧
    ∀ (metadata : Metadata) (status : Option ClusterStatus),
      metadata.name = c.metadata.name → metadata.namespaceName = c.metadata.namespaceName →
        synthesize { c with metadata := metadata, status := status } s = synthesize c s := by
  refine ⟨service_congr, disruptionBudget_congr, configMap_congr, deployment_congr, fun _ => data_configMap,
    fun name spec settings => ⟨keys_configData name spec settings, ?_, ?_⟩, ?_, ?_⟩
  · simp [configData, KeyMap.ofList]
  · simp [configData, KeyMap.ofList]
  · intro name name' spec spec' settings key other
    exact get?_configData_of_not_mem other name name' spec spec' settings
  · intro metadata status name ns
    exact synthesize_congr_metadata ⟨name, ns⟩ s

/-- A cluster before an upgrade, and after it with other options and a status. -/
def upgraded : Cluster × Cluster :=
  let before : Cluster := {
    metadata := { name := some "demo", namespaceName := some "pravega" }
    spec := { version := "0.5.0", zookeeperUri := "zk:2181", pravega := { controllerResources := some {} } } }
  (before, { before with spec.version := "0.6.0-rc1", status := some { observedGeneration := some 2 } })

/-- The upgrade does not move the gate, so it concerns the deployment alone, which other
options do not concern. The configuration has what it had for the settings, and the
status has no effect. -/
theorem objects_depend_on_inputs_upgraded :
    service upgraded.1 {} = service upgraded.2 {} ∧
      disruptionBudget upgraded.1 {} = disruptionBudget upgraded.2 {} ∧
      configMap upgraded.1 {} = configMap upgraded.2 {} ∧
      deployment upgraded.1 {} =
        deployment { upgraded.1 with spec.pravega.options := KeyMap.empty.insert "k" "v" } {} ∧
      (∃ m, configMap upgraded.2 {} = .ok m ∧ m.data = configData "demo" upgraded.2.spec {}) ∧
      (configData "demo" upgraded.1.spec {}).get? "TLS_ENABLED" =
        (configData "other" upgraded.2.spec {}).get? "TLS_ENABLED" ∧
      synthesize upgraded.2 {} = synthesize { upgraded.2 with status := none } {} := by
  obtain ⟨service, budget, map, -⟩ := objects_depend_on_inputs upgraded.1 upgraded.2 {} {}
  obtain ⟨-, -, -, deployment, -⟩ := objects_depend_on_inputs upgraded.1
    { upgraded.1 with spec.pravega.options := KeyMap.empty.insert "k" "v" } {} {}
  obtain ⟨-, -, -, -, data, -, values, metadata⟩ := objects_depend_on_inputs upgraded.2 upgraded.2 {} {}
  obtain ⟨m, made⟩ : ∃ m, configMap upgraded.2 {} = .ok m := ⟨_, rfl⟩
  obtain ⟨name, named, same⟩ := data m made
  cases named
  exact ⟨service ⟨⟨rfl, rfl⟩, rfl, rfl, rfl⟩, budget ⟨⟨rfl, rfl⟩, rfl⟩,
    map ⟨⟨rfl, rfl⟩, rfl, rfl, by decide, rfl, rfl, rfl, rfl⟩,
    deployment ⟨⟨rfl, rfl⟩, rfl, rfl, rfl, rfl, rfl, rfl, rfl, rfl, rfl, rfl, rfl⟩,
    ⟨m, made, same⟩, values _ _ _ _ _ _ (by decide), (metadata upgraded.2.metadata none rfl rfl).symm⟩

end ControllerSynthesis
