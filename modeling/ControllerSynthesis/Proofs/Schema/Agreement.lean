/-
# The schema and the decoder agree

Whoever follows the published schema is understood: a value other than null that is
valid against the schema of a specification or of a status is decoded as one, if its
numbers are integers. And what is written for a specification or a status is valid
against its schema, for the number of replicas is one that the schema allows.

Key definitions: `Schema.published`.
Key theorems: `Schema.conforms_clusterSpec`, `Schema.conforms_clusterStatus`,
`Schema.published_agrees`.
-/
import ControllerSynthesis.Json.Pointer
import ControllerSynthesis.Proofs.Cluster.Canonical
import ControllerSynthesis.Proofs.Record.Codec
import ControllerSynthesis.Proofs.Schema.Covering
import ControllerSynthesis.Schema.Definition

namespace ControllerSynthesis
namespace Schema

open Json

variable {α : Type} {toJson : α → Json} {notes : Notes} {schema : Schema} {properties : Properties} {key : String}
  {members : List (String × Json)}

/-! ### Written values -/

theorem conforms_str (t : String) : conforms (text notes []).toJson (.str t) = true :=
  (conforms_text (show Json.str t ≠ .null from nofun)).mpr ⟨t, rfl, .inl rfl⟩

theorem conforms_bool (b : Bool) : conforms (flag notes).toJson (.bool b) = true :=
  (conforms_flag (show Json.bool b ≠ .null from nofun)).mpr ⟨b, rfl⟩

theorem conforms_int {width : Record.Width} {n : Int} (holds : width.holds n = true) :
    conforms (integer notes width none).toJson (.int n) = true :=
  (conforms_integer (show Json.int n ≠ .null from nofun)).mpr ⟨(inFormat_int width n).mpr holds, nofun, rfl⟩

theorem conforms_getD {value : Option α} (nullable : schema.nullable = true)
    (valid : ∀ a, conforms schema.toJson (toJson a) = true) :
    conforms schema.toJson ((value.map toJson).getD .null) = true := by
  cases value with
  | none => exact (conforms_null schema).trans nullable
  | some a => exact valid a

theorem conforms_textOrNull {description : String} (value : Option String) :
    conforms (optionalText description).toJson (textOrNull value) = true := by
  rw [textOrNull_eq]
  exact conforms_getD rfl conforms_str

theorem conforms_arr (valid : ∀ a, conforms schema.toJson (toJson a) = true) (items : List α) :
    conforms (list notes schema).toJson (.arr (items.map toJson)) = true := by
  refine (conforms_list (show Json.arr _ ≠ .null from nofun)).mpr ⟨_, rfl, fun i mem => ?_⟩
  obtain ⟨a, -, rfl⟩ := List.mem_map.mp mem
  exact valid a

theorem conforms_keyMap (valid : ∀ t : String, conforms schema.toJson (.str t) = true) (m : KeyMap String) :
    conforms (map notes schema).toJson (ofKeyMap m) = true := by
  refine (conforms_map (show ofKeyMap m ≠ .null from nofun)).mpr ⟨_, rfl, fun e mem => ?_⟩
  obtain ⟨entry, -, rfl⟩ := List.mem_map.mp mem
  exact valid entry.2

/-! ### Written records -/

theorem conforms_obj {required : List String}
    (given : ∀ key ∈ required, (lookup key members).isSome = true)
    (allowed : propertiesAllow properties.toMembers (.obj members) = true) :
    conforms (record notes properties required).toJson (.obj members) = true :=
  (conforms_record (show Json.obj members ≠ .null from nofun)).mpr ⟨members, rfl, given, allowed⟩

theorem allow_nil : propertiesAllow Properties.nil.toMembers (.obj members) = true := rfl

/-- A field that is left out without a value. -/
theorem allow_optional (value : Option α) (found : lookup key members = value.map toJson)
    (valid : ∀ a ∈ value, conforms schema.toJson (toJson a) = true)
    (others : propertiesAllow properties.toMembers (.obj members) = true) :
    propertiesAllow (Properties.cons key schema properties).toMembers (.obj members) = true := by
  rw [Properties.toMembers, propertiesAllow, others, Bool.and_true, member?, found]
  cases value with
  | none => rfl
  | some a => exact valid a rfl

/-- A field that has a value. -/
theorem allow_member {value : Json} (found : lookup key members = some value)
    (valid : conforms schema.toJson value = true)
    (others : propertiesAllow properties.toMembers (.obj members) = true) :
    propertiesAllow (Properties.cons key schema properties).toMembers (.obj members) = true := by
  rw [Properties.toMembers, propertiesAllow, others, Bool.and_true, member?, found]
  exact valid

/-! ### What is written for a cluster -/

theorem conforms_resourceClaim (c : ResourceClaim) : conforms resourceClaim.toJson c.toJson = true := by
  refine conforms_obj (by simp [lookup]) ?_
  refine allow_member (by simp [lookup]) (conforms_str c.name) ?_
  exact allow_optional c.request (by simp [lookup]) (fun t _ => conforms_str t) allow_nil

theorem conforms_resources (notes : Notes) (r : Resources) : conforms (resources notes).toJson r.toJson = true := by
  have quantities (m : KeyMap String) {notes : Notes} :
      conforms (map notes (quantity (noted quantityNote))).toJson (ofKeyMap m) = true :=
    conforms_keyMap (fun t => (conforms_quantity (show Json.str t ≠ .null from nofun)).mpr (.inl rfl)) m
  refine conforms_obj nofun ?_
  refine allow_optional r.claims (by simp) (fun items _ => conforms_arr conforms_resourceClaim items) ?_
  refine allow_optional r.limits (by simp) (fun m _ => quantities m) ?_
  exact allow_optional r.requests (by simp) (fun m _ => quantities m) allow_nil

theorem conforms_tls (t : TlsSpec) : conforms tls.toJson t.toJson = true := by
  refine conforms_obj nofun ?_
  refine allow_member rfl (conforms_textOrNull t.controllerSecret) ?_
  exact allow_member rfl (conforms_bool t.enabled) allow_nil

theorem conforms_externalAccess (a : ExternalAccess) : conforms externalAccess.toJson a.toJson = true := by
  refine conforms_obj nofun ?_
  refine allow_member rfl (conforms_bool a.enabled) ?_
  refine allow_member rfl (conforms_getD rfl fun t => ?_) allow_nil
  refine (conforms_text (show Json.str t.name ≠ .null from nofun)).mpr ⟨t.name, rfl, .inr ?_⟩
  cases t <;> decide

theorem conforms_image (i : ImageSpec) : conforms image.toJson i.toJson = true := by
  refine conforms_obj nofun ?_
  refine allow_member rfl (conforms_textOrNull i.pullPolicy) ?_
  refine allow_member rfl (conforms_textOrNull i.repository) ?_
  exact allow_member rfl (conforms_textOrNull i.tag) allow_nil

/-- The bounds on the number of replicas. -/
theorem conforms_replicas {n : Int} (least : 0 ≤ n) (most : n ≤ mostReplicas) {notes : Notes} :
    conforms (integer notes .i32 (some (0, mostReplicas))).toJson (.int n) = true := by
  have highest : (boundJson mostReplicas).fraction? = some (((mostReplicas * Nat.pow 2 46 : Nat) : Int), Nat.pow 2 46) :=
    by decide
  obtain ⟨d, lowest⟩ : ∃ d, (boundJson 0).fraction? = some (0, d) := ⟨_, rfl⟩
  have wide : (mostReplicas : Int) < Record.Width.i32.bound := by decide
  have holds : Record.Width.i32.holds n = true := by
    simp only [Record.Width.holds, Bool.and_eq_true, decide_eq_true_eq]
    omega
  have there : Json.int n ≠ .null := by simp
  refine (conforms_integer there).mpr ⟨(inFormat_int .i32 n).mpr holds, ?_, rfl⟩
  rintro r ⟨⟩
  have number : (int n).fraction? = some (n, 1) := rfl
  simp only [atMost, highest, lowest, number, decide_eq_true_eq]
  refine ⟨?_, ?_⟩
  · rw [Int.natCast_one, Int.mul_one, Int.natCast_mul]
    exact Int.mul_le_mul_of_nonneg_right most (Int.natCast_nonneg _)
  · rw [Int.natCast_one, Int.zero_mul]
    exact Int.mul_nonneg least (Int.natCast_nonneg d)

theorem conforms_controller {p : PravegaSpec} (least : 0 ≤ p.controllerReplicas)
    (most : p.controllerReplicas ≤ mostReplicas) : conforms controller.toJson p.toJson = true := by
  refine conforms_obj nofun ?_
  refine allow_member rfl (conforms_replicas least most) ?_
  refine allow_member rfl (conforms_getD rfl (conforms_resources _)) ?_
  refine allow_member rfl (conforms_textOrNull p.controllerServiceAccountName) ?_
  refine allow_member rfl (conforms_getD rfl conforms_image) ?_
  exact allow_member rfl (conforms_keyMap conforms_str p.options) allow_nil

/-- **What is written for a specification is valid**, for a number of replicas that the
schema allows. -/
theorem conforms_clusterSpec {s : ClusterSpec} (least : 0 ≤ s.pravega.controllerReplicas)
    (most : s.pravega.controllerReplicas ≤ mostReplicas) : conforms clusterSpec.toJson s.toJson = true := by
  refine conforms_obj (List.forall_mem_cons.mpr ⟨rfl, List.forall_mem_singleton.mpr rfl⟩) ?_
  refine allow_member rfl (conforms_getD rfl conforms_externalAccess) ?_
  refine allow_member rfl (conforms_controller least most) ?_
  refine allow_member rfl (conforms_getD rfl conforms_tls) ?_
  refine allow_member rfl (conforms_str s.version) ?_
  exact allow_member rfl (conforms_str s.zookeeperUri) allow_nil

theorem conforms_condition (c : Condition) : conforms condition.toJson c.toJson = true := by
  refine conforms_obj (List.forall_mem_cons.mpr ⟨rfl, List.forall_mem_singleton.mpr rfl⟩) ?_
  refine allow_optional c.lastTransitionTime (by simp [lookup]) (fun t _ => conforms_str t) ?_
  refine allow_optional c.message (by simp [lookup]) (fun t _ => conforms_str t) ?_
  refine allow_optional c.reason (by simp [lookup]) (fun t _ => conforms_str t) ?_
  refine allow_member (by simp [lookup]) (conforms_str c.status) ?_
  exact allow_member (by simp [lookup]) (conforms_str c.type) allow_nil

/-- **What is written for a status is valid.** -/
theorem conforms_clusterStatus {s : ClusterStatus} (sized : s.IsSized) :
    conforms clusterStatus.toJson s.toJson = true := by
  refine conforms_obj nofun ?_
  refine allow_member (by simp [lookup]) (conforms_arr conforms_condition s.conditions) ?_
  refine allow_optional s.controllerReadyReplicas (by simp [lookup])
    (fun n mem => conforms_int (sized.ready n mem)) ?_
  exact allow_optional s.observedGeneration (by simp [lookup])
    (fun n mem => conforms_int (sized.observed n mem)) allow_nil

/-! ### The published schema -/

/-- The schema of a part of a cluster in the published definition. -/
def published (part : String) : Json :=
  (definition.at? ("/spec/versions/0/schema/openAPIV3Schema/properties/" ++ part)).getD .null

theorem published_spec : published "spec" = clusterSpec.toJson := by rfl

theorem published_status : published "status" = clusterStatus.toJson := by rfl

theorem decode_of_covers {codec : Record.Codec α} (covers : codec.shape.covers schema = true) {value : Json}
    (there : value ≠ .null) (regular : value.IsRegular) (valid : conforms schema.toJson value = true) :
    ∃ a, codec.decode value = .ok a := by
  obtain ⟨made, decoded⟩ := Record.decodes_of_covers covers valid there regular
  exact ⟨codec.ofJson made, congrArg (Except.map codec.ofJson) decoded⟩

/-- **The published schema and the decoder agree.** -/
theorem published_agrees :
    (∀ value : Json, value ≠ .null → value.IsRegular → conforms (published "spec") value = true →
      ∃ s, ClusterSpec.codec.decode value = .ok s) ∧
    (∀ s : ClusterSpec, 0 ≤ s.pravega.controllerReplicas → s.pravega.controllerReplicas ≤ 100 →
      conforms (published "spec") s.toJson = true) ∧
    (∀ value : Json, value ≠ .null → value.IsRegular → conforms (published "status") value = true →
      ∃ s, ClusterStatus.codec.decode value = .ok s) ∧
    ∀ s : ClusterStatus, s.IsSized → conforms (published "status") s.toJson = true := by
  rw [published_spec, published_status]
  exact ⟨fun value => decode_of_covers rfl, fun s => conforms_clusterSpec,
    fun value => decode_of_covers rfl, fun s => conforms_clusterStatus⟩

/-- A specification with what the schema requires and a quantity that is a number, and a
status with a null. -/
theorem published_agrees_sparse :
    (∃ s, ClusterSpec.codec.decode (.obj [("version", .str "0.9"), ("zookeeperUri", .str "zk:2181"),
      ("pravega", .obj [("controllerResources", .obj [("limits", .obj [("cpu", .int 2)])])])]) = .ok s) ∧
    conforms (published "spec") ({ version := "", zookeeperUri := "", pravega := { controllerReplicas := 100 } } :
      ClusterSpec).toJson = true ∧
    (∃ s, ClusterStatus.codec.decode (.obj [("observedGeneration", .null)]) = .ok s) ∧
    conforms (published "status") ({ observedGeneration := some 7 } : ClusterStatus).toJson = true :=
  ⟨published_agrees.1 _ nofun ⟨by decide, by decide⟩ (by rw [published_spec]; decide),
    published_agrees.2.1 _ (by decide) (by decide),
    published_agrees.2.2.1 _ nofun ⟨by decide, by decide⟩ (by rw [published_status]; decide),
    published_agrees.2.2.2 _ ⟨fun n mem => by cases mem; decide, nofun⟩⟩

end Schema

end ControllerSynthesis
