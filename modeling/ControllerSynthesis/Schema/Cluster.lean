/-
# The schema of clusters

The schema of the resource type, with the notes that its users see: what the
specification and the status of a cluster may hold.

Key definitions: `Schema.clusterSpec`, `Schema.clusterStatus`, `Schema.cluster`.
-/
import ControllerSynthesis.Cluster.Basic
import ControllerSynthesis.Schema.Basic

namespace ControllerSynthesis.Schema

/-! ### Notes -/

/-- Paragraphs with an empty line between them. -/
def paragraphs (parts : List String) : String :=
  "\n\n".intercalate parts

/-- The address of a page. -/
def address (scheme page : String) : String :=
  scheme ++ "://" ++ page

/-- The notes of a field that must be given or has a fallback. -/
def noted (description : String) : Notes :=
  { description := some description }

/-- The notes of a field that may be null. -/
def optionally (description : String) : Notes :=
  { description := some description, nullable := true }

/-- A text that may be null. -/
def optionalText (description : String) : Schema :=
  text (optionally description) []

/-- A switch that is off unless it is given. -/
def switch (description : String) : Schema :=
  flag { description := some description, fallback := some (.bool false) }

/-! ### Compute resources -/

/-- The note on quantities. -/
def quantityNote : String :=
  paragraphs [
    "Quantity is a fixed-point representation of a number. It provides convenient " ++
      "marshaling/unmarshaling in JSON and YAML, in addition to String() and AsInt64() " ++
      "accessors.",
    "The serialization format is:",
    "``` <quantity>        ::= <signedNumber><suffix>",
    "\t(Note that <suffix> may be empty, from the \"\" case in <decimalSI>.)",
    "<digit>           ::= 0 | 1 | ... | 9 <digits>          ::= <digit> | <digit><digits> " ++
      "<number>          ::= <digits> | <digits>.<digits> | <digits>. | .<digits> <sign>     " ++
      "       ::= \"+\" | \"-\" <signedNumber>    ::= <number> | <sign><number> <suffix>     " ++
      "     ::= <binarySI> | <decimalExponent> | <decimalSI> <binarySI>        ::= Ki | Mi | " ++
      "Gi | Ti | Pi | Ei",
    "\t(International System of units; See: " ++ address "http" "physics.nist.gov/cuu/Units/binary.html" ++ ")",
    "<decimalSI>       ::= m | \"\" | k | M | G | T | P | E",
    "\t(Note that 1024 = 1Ki but 1000 = 1k; I didn't choose the capitalization.)",
    "<decimalExponent> ::= \"e\" <signedNumber> | \"E\" <signedNumber> ```",
    "No matter which of the three exponent forms is used, no quantity may represent a " ++
      "number greater than 2^63-1 in magnitude, nor may it have more than 3 decimal places. " ++
      "Numbers larger or more precise will be capped or rounded up. (E.g.: 0.1m will rounded " ++
      "up to 1m.) This may be extended in the future if we require larger or smaller " ++
      "quantities.",
    "When a Quantity is parsed from a string, it will remember the type of suffix it had, " ++
      "and will use the same type again when it is serialized.",
    "Before serializing, Quantity will be put in \"canonical form\". This means that " ++
      "Exponent/suffix will be adjusted up or down (with a corresponding increase or " ++
      "decrease in Mantissa) such that:",
    "- No precision is lost - No fractional digits will be emitted - The exponent (or " ++
      "suffix) is as large as possible.",
    "The sign will be omitted unless the number is negative.",
    "Examples:",
    "- 1.5 will be serialized as \"1500m\" - 1.5Gi will be serialized as \"1536Mi\"",
    "Note that the quantity will NEVER be internally represented by a floating point " ++
      "number. That is the whole point of this exercise.",
    "Non-canonical values will still parse as long as they are well formed, but will be " ++
      "re-emitted in their canonical form. (So always use canonical form, or don't diff.)",
    "This format is intended to make it difficult to use these numbers without writing " ++
      "some sort of special handling code in the hopes that that will cause implementors to " ++
      "also use a fixed point implementation."
  ]

/-- The page on compute resources. -/
def resourcesPage : String :=
  address "https" "kubernetes.io/docs/concepts/configuration/manage-resources-containers/"

/-- The schema of a claim on a resource of the pod. -/
def resourceClaim : Schema :=
  record (noted "ResourceClaim references one entry in PodSpec.ResourceClaims.")
    (.cons "name"
      (text (noted <|
        "Name must match the name of one entry in pod.spec.resourceClaims of the Pod where " ++
        "this field is used. It makes that resource available inside a container.") []) <|
    .cons "request"
      (text (noted <|
        "Request is the name chosen for a request in the referenced claim. If empty, " ++
        "everything from the claim is made available, otherwise only the result of this " ++
        "request.") []) .nil)
    ["name"]

/-- The schema of compute resources. -/
def resources (notes : Notes) : Schema :=
  record notes
    (.cons "claims"
      (list (noted <| paragraphs [
        "Claims lists the names of resources, defined in spec.resourceClaims, that are " ++
          "used by this container.",
        "This is an alpha field and requires enabling the DynamicResourceAllocation " ++
          "feature gate.",
        "This field is immutable. It can only be set for containers."]) resourceClaim) <|
    .cons "limits"
      (map (noted <|
        "Limits describes the maximum amount of compute resources allowed. More info: " ++
        resourcesPage) (quantity (noted quantityNote))) <|
    .cons "requests"
      (map (noted <|
        "Requests describes the minimum amount of compute resources required. If Requests is " ++
        "omitted for a container, it defaults to Limits if that is explicitly specified, " ++
        "otherwise to an implementation-defined value. Requests cannot exceed Limits. More " ++
        "info: " ++
        resourcesPage) (quantity (noted quantityNote))) .nil)
    []

/-! ### The specification -/

/-- The schema of TLS settings. -/
def tls : Schema :=
  record (optionally "TLS configuration for the controller.")
    (.cons "controllerSecret"
      (optionalText <| paragraphs [
        "Name of the Secret holding the controller certificate and key.",
        "Required when `enabled` is true."]) <|
    .cons "enabled" (switch "Run the controller with TLS material mounted.") .nil)
    []

/-- The schema of access from outside. -/
def externalAccess : Schema :=
  record (optionally "External access configuration for the controller service.")
    (.cons "enabled" (switch "Expose the controller outside the cluster.") <|
    .cons "type"
      (text (optionally "Kubernetes Service type.") (ServiceType.all.map ServiceType.name)) .nil)
    []

/-- The schema of an image. -/
def image : Schema :=
  record (optionally "Container image configuration.")
    (.cons "pullPolicy" (optionalText "Image pull policy. Defaults to `IfNotPresent`.") <|
    .cons "repository" (optionalText "Image repository. Defaults to `pravega/pravega`.") <|
    .cons "tag" (optionalText "Image tag. Defaults to the cluster version.") .nil)
    []

/-- The greatest number of replicas that the schema allows. -/
def mostReplicas : Nat := 100

/-- The schema of the controller. -/
def controller : Schema :=
  record
    { description := some "Pravega component configuration."
      fallback := some ({} : PravegaSpec).toJson }
    (.cons "controllerReplicas"
      (integer
        { description := some (paragraphs ["Number of controller replicas.", "Defaults to 1."])
          fallback := some (.int 1) }
        .i32 (some (0, mostReplicas))) <|
    .cons "controllerResources"
      (resources (optionally "Compute resources for the controller container. Required.")) <|
    .cons "controllerServiceAccountName"
      (optionalText
        "Service account the controller pods run as. Platform default when unset.") <|
    .cons "image" image <|
    .cons "options"
      (map
        { description := some (paragraphs [
            "Free-form Pravega options, passed to the JVM as `-D<name>=<value>`.",
            "Applied in lexicographic order of option name."])
          fallback := some (.obj []) }
        (text {} [])) .nil)
    []

/-- The notes on the specification, with an example. -/
def specNote : String :=
  "\n".intercalate [
    "`PravegaCluster` describes one Pravega deployment on Kubernetes.",
    "",
    "# Example",
    "",
    "```yaml",
    "apiVersion: pravega.pravega.io/v1alpha1",
    "kind: PravegaCluster",
    "metadata:",
    "  name: demo",
    "  namespace: pravega",
    "spec:",
    "  version: \"0.4.0\"",
    "  zookeeperUri: zk-client:2181",
    "  externalAccess:",
    "    enabled: true",
    "    type: LoadBalancer",
    "  pravega:",
    "    controllerReplicas: 2",
    "    controllerResources:",
    "      requests:",
    "        cpu: 500m",
    "        memory: 1Gi",
    "    options:",
    "      controller.retention.frequencyMinutes: \"10\"",
    "```"]

/-- The schema of the specification of a cluster. -/
def clusterSpec : Schema :=
  record (noted specNote)
    (.cons "externalAccess" externalAccess <|
    .cons "pravega" controller <|
    .cons "tls" tls <|
    .cons "version"
      (text (noted <| paragraphs [
        "Pravega version. Selects the image tag (unless overridden) and version-gated\n" ++
          "JVM options.",
        "Example: \"0.4.0\""]) []) <|
    .cons "zookeeperUri"
      (text (noted <| paragraphs [
        "Zookeeper connection string, e.g. `zk-client:2181`.",
        "The controller connects to it and waits for it before starting."]) []) .nil)
    ["version", "zookeeperUri"]

/-! ### The status -/

/-- The schema of a condition. -/
def condition : Schema :=
  record (noted "Condition represents an observation of a resource's current state.")
    (.cons "lastTransitionTime" (optionalText "RFC3339 timestamp of the last transition.") <|
    .cons "message" (optionalText "Human-readable message.") <|
    .cons "reason" (optionalText "Machine-readable reason for the last transition.") <|
    .cons "status" (text (noted "Status of the condition: True, False, or Unknown.") []) <|
    .cons "type" (text (noted "Type of condition, e.g. Ready.") []) .nil)
    ["status", "type"]

/-- The schema of the status of a cluster. -/
def clusterStatus : Schema :=
  record (optionally "`PravegaCluster` status. Written by the reconciler, never by synthesis.")
    (.cons "conditions" (list { fallback := some (.arr []) } condition) <|
    .cons "controllerReadyReplicas" (integer { nullable := true } .i32 none) <|
    .cons "observedGeneration" (integer { nullable := true } .i64 none) .nil)
    []

/-- The schema of a cluster, its metadata apart. -/
def cluster : Schema :=
  record
    { description := some <|
        "PravegaCluster describes a Pravega deployment. The operator synthesizes the " ++
        "controller Deployment, ConfigMap, Service and PodDisruptionBudget from it."
      title := some Cluster.kind }
    (.cons "spec" clusterSpec <| .cons "status" clusterStatus .nil)
    ["spec"]

end ControllerSynthesis.Schema
