/-
# Clusters as canonical values

The value of a cluster is canonical for the shape of clusters, apart from the
version and the kind in front, and what is read off the canonical value is the
cluster. This holds of every part of a cluster. Of its integers it is asked that
they fit into their width, and of its metadata that the times in it and the fields of
managers read back: times in whole seconds do, of years from the year zero on. Metadata
without times and managers is such.

Key definitions: `Cluster.IsReadable`, `Cluster.IsPlain`.
Key theorems: `Cluster.canonical_members`, `Cluster.ofJson_members`.
-/
import ControllerSynthesis.Cluster.Basic
import ControllerSynthesis.Proofs.Json.Access
import ControllerSynthesis.Proofs.Record.Canonical

namespace ControllerSynthesis

namespace Record

/-! ### Values that are there -/

/-- A canonical value that is not null. -/
def Shape.Given (any : Nat → Json → Prop) (shape : Shape) (depth : Nat) (value : Json) : Prop :=
  shape.Canonical any depth value ∧ value ≠ .null

variable {any : Nat → Json → Prop} {key : String} {presence : Presence} {shape : Shape} {rest : Fields}
  {depth : Nat} {others : List (String × Json)}

theorem given_text (text : String) : Shape.text.Given any depth (.str text) := ⟨⟨text, rfl⟩, nofun⟩

theorem given_quantity (text : String) : Shape.quantity.Given any depth (.str text) := ⟨⟨text, rfl⟩, nofun⟩

theorem given_flag (b : Bool) : Shape.flag.Given any depth (.bool b) := ⟨⟨b, rfl⟩, nofun⟩

theorem given_integer {width : Width} {n : Int} (holds : width.holds n = true) :
    (Shape.integer width).Given any depth (.int n) := ⟨⟨n, rfl, holds⟩, nofun⟩

theorem given_timestamp {t : Calendar.Instant} (read : Calendar.Instant.read t.text = .ok t) :
    Shape.timestamp.Given any depth t.toJson :=
  ⟨⟨_, rfl, readTimestamp_eq_ok.mpr ⟨rfl, t, by rwa [String.toList_ofList]⟩⟩, nofun⟩

theorem given_record {name : String} {strict : Bool} {fields : Fields} {members : List (String × Json)}
    (canonical : fields.Canonical any (depth + 1) members) :
    (Shape.record name strict fields).Given any depth (.obj members) := ⟨⟨members, rfl, canonical⟩, nofun⟩

theorem given_list {α : Type} {toJson : α → Json} {items : List α}
    (all : ∀ a ∈ items, shape.Given any (depth + 1) (toJson a)) :
    (Shape.list shape).Given any depth (.arr (items.map toJson)) := by
  refine ⟨⟨_, rfl, fun i mem => ?_⟩, nofun⟩
  obtain ⟨a, member, rfl⟩ := List.mem_map.mp mem
  exact (all a member).1

theorem given_keyMap (all : ∀ text : String, shape.Given any (depth + 1) (.str text)) (m : KeyMap String) :
    (Shape.map shape).Given any depth (Json.ofKeyMap m) := by
  refine ⟨⟨_, rfl, List.pairwise_map.mpr m.ascending, fun e mem => ?_⟩, nofun⟩
  obtain ⟨entry, -, rfl⟩ := List.mem_map.mp mem
  exact (all entry.2).1

theorem given_map {α : Type} {toJson : α → Json} {value : Option α}
    (all : ∀ a ∈ value, shape.Given any depth (toJson a)) :
    ∀ v ∈ value.map toJson, shape.Given any depth v := by
  cases value with
  | none => nofun
  | some a =>
    intro v mem
    cases mem
    exact all a rfl

/-! ### Fields one by one -/

theorem canonical_nil : Fields.nil.Canonical any depth [] := rfl

/-- A field that has a value. -/
theorem canonical_member {value : Json} (single : key ∉ rest.keys) (given : shape.Given any depth value)
    (later : rest.Canonical any depth others) :
    (Fields.cons key presence shape rest).Canonical any depth ((key, value) :: others) :=
  ⟨single, some value, others, rfl, later, given⟩

/-- A field that is null without a value. -/
theorem canonical_nullable {value : Option Json} (single : key ∉ rest.keys)
    (given : ∀ v ∈ value, shape.Given any depth v) (later : rest.Canonical any depth others) :
    (Fields.cons key .nullable shape rest).Canonical any depth ((key, value.getD .null) :: others) := by
  cases value with
  | none => exact ⟨single, none, others, rfl, later, rfl⟩
  | some value => exact canonical_member single (given value rfl) later

/-- A field that is left out without a value. -/
theorem canonical_optional {value : Option Json} (single : key ∉ rest.keys)
    (left : presence.mayLack = true ∧ presence.kept key none = []) (given : ∀ v ∈ value, shape.Given any depth v)
    (later : rest.Canonical any depth others) :
    (Fields.cons key presence shape rest).Canonical any depth (Json.optional key value ++ others) := by
  cases value with
  | none => exact ⟨single, none, others, by rw [left.2]; rfl, later, left.1⟩
  | some value => exact canonical_member single (given value rfl) later

theorem canonical_optional_last {value : Option Json} (left : presence.mayLack = true ∧ presence.kept key none = [])
    (given : ∀ v ∈ value, shape.Given any depth v) :
    (Fields.cons key presence shape .nil).Canonical any depth (Json.optional key value) := by
  have canonical : (Fields.cons key presence shape .nil).Canonical any depth (Json.optional key value ++ []) :=
    canonical_optional (by simp [Fields.keys]) left given canonical_nil
  rwa [List.append_nil] at canonical

end Record

open Record

variable {any : Nat → Json → Prop} {depth : Nat}

/-- A time that reads back. -/
theorem Json.asText?_getD_instant {value : Option Calendar.Instant}
    (read : ∀ t ∈ value, Calendar.Instant.read t.text = .ok t) :
    ((value.map Calendar.Instant.toJson).getD .null).asText?.bind Calendar.Instant.ofText? = value := by
  cases value with
  | none => rfl
  | some t =>
    have own : Calendar.Instant.ofText? (String.ofList t.text) = some t := by
      rw [Calendar.Instant.ofText?, String.toList_ofList, read t rfl]
      rfl
    exact own

theorem textOrNull_eq (text : Option String) : Json.textOrNull text = (text.map .str).getD .null := by
  cases text <;> rfl

/-! ### Resources -/

namespace ResourceClaim

theorem given_toJson (c : ResourceClaim) (depth : Nat) : shape.Given any depth c.toJson := by
  refine given_record (canonical_member (by decide) (given_text _) ?_)
  exact canonical_optional_last ⟨rfl, rfl⟩ (given_map fun text _ => given_text text)

theorem ofJson_toJson (c : ResourceClaim) : ofJson c.toJson = c := by
  cases c
  simp [ofJson, toJson, Json.textAt, Json.textAt?, Json.lookup]

end ResourceClaim

namespace Resources

theorem given_toJson (r : Resources) (depth : Nat) : shape.Given any depth r.toJson := by
  refine given_record ?_
  rw [List.append_assoc]
  refine canonical_optional (by decide) ⟨rfl, rfl⟩ (given_map fun items _ => given_list fun c _ =>
    c.given_toJson _) ?_
  refine canonical_optional (by decide) ⟨rfl, rfl⟩ (given_map fun m _ => given_keyMap given_quantity m) ?_
  exact canonical_optional_last ⟨rfl, rfl⟩ (given_map fun m _ => given_keyMap given_quantity m)

theorem ofJson_toJson (r : Resources) : ofJson r.toJson = r := by
  cases r
  simp [ofJson, toJson, Json.itemsAt?, Json.keyMapAt?, Json.asItems?_getD ResourceClaim.ofJson_toJson]

end Resources

/-! ### What is asked for -/

namespace TlsSpec

theorem given_toJson (t : TlsSpec) (depth : Nat) : shape.Given any depth t.toJson := by
  refine given_record (canonical_member (by decide) (given_flag _) ?_)
  rw [textOrNull_eq]
  exact canonical_nullable (by decide) (given_map fun text _ => given_text text) canonical_nil

theorem ofJson_toJson (t : TlsSpec) : ofJson t.toJson = t := by
  cases t
  simp [ofJson, toJson, Json.flagAt, Json.flagAt?, Json.textAt?, Json.lookup]

end TlsSpec

namespace ServiceType

theorem given_toJson (t : ServiceType) (depth : Nat) : shape.Given any depth t.toJson :=
  ⟨⟨t.name, by cases t <;> decide, rfl⟩, nofun⟩

theorem ofJson?_toJson (t : ServiceType) : ofJson? t.toJson = some t := by
  cases t <;> decide

end ServiceType

namespace ExternalAccess

theorem given_toJson (a : ExternalAccess) (depth : Nat) : shape.Given any depth a.toJson := by
  refine given_record (canonical_member (by decide) (given_flag _) ?_)
  exact canonical_nullable (by decide) (given_map fun t _ => t.given_toJson _) canonical_nil

theorem ofJson_toJson (a : ExternalAccess) : ofJson a.toJson = a := by
  have type : ∀ t : Option ServiceType, ServiceType.ofJson? ((t.map ServiceType.toJson).getD .null) = t
    | none => rfl
    | some t => t.ofJson?_toJson
  cases a
  simp [ofJson, toJson, Json.flagAt, Json.flagAt?, Json.lookup, type]

end ExternalAccess

namespace ImageSpec

theorem given_toJson (i : ImageSpec) (depth : Nat) : shape.Given any depth i.toJson := by
  refine given_record ?_
  simp only [textOrNull_eq]
  refine canonical_nullable (by decide) (given_map fun text _ => given_text text) ?_
  refine canonical_nullable (by decide) (given_map fun text _ => given_text text) ?_
  exact canonical_nullable (by decide) (given_map fun text _ => given_text text) canonical_nil

theorem ofJson_toJson (i : ImageSpec) : ofJson i.toJson = i := by
  cases i
  simp [ofJson, toJson, Json.textAt?, Json.lookup]

end ImageSpec

namespace PravegaSpec

theorem given_toJson {p : PravegaSpec} (replicas : Width.i32.holds p.controllerReplicas = true) (depth : Nat) :
    shape.Given any depth p.toJson := by
  refine given_record (canonical_member (by decide) (given_integer replicas) ?_)
  rw [textOrNull_eq]
  refine canonical_nullable (by decide) (given_map fun r _ => r.given_toJson _) ?_
  refine canonical_nullable (by decide) (given_map fun text _ => given_text text) ?_
  refine canonical_nullable (by decide) (given_map fun i _ => i.given_toJson _) ?_
  exact canonical_member (by decide) (given_keyMap given_text p.options) canonical_nil

theorem ofJson_toJson (p : PravegaSpec) : ofJson p.toJson = p := by
  cases p
  simp [ofJson, toJson, Json.intAt, Json.intAt?, Json.textAt?, Json.recordAt?, Json.keyMapAt?, Json.lookup,
    Json.asRecord?_getD Resources.ofJson_toJson fun _ => ⟨_, rfl⟩,
    Json.asRecord?_getD ImageSpec.ofJson_toJson fun _ => ⟨_, rfl⟩]

end PravegaSpec

namespace ClusterSpec

theorem given_toJson {s : ClusterSpec} (replicas : Width.i32.holds s.pravega.controllerReplicas = true)
    (depth : Nat) : shape.Given any depth s.toJson := by
  refine given_record (canonical_member (by decide) (given_text _) ?_)
  refine canonical_member (by decide) (given_text _) ?_
  refine canonical_nullable (by decide) (given_map fun t _ => t.given_toJson _) ?_
  refine canonical_nullable (by decide) (given_map fun a _ => a.given_toJson _) ?_
  exact canonical_member (by decide) (PravegaSpec.given_toJson replicas _) canonical_nil

theorem ofJson_toJson (s : ClusterSpec) : ofJson s.toJson = s := by
  cases s
  simp [ofJson, toJson, Json.textAt, Json.textAt?, Json.recordAt?, Json.lookup, PravegaSpec.ofJson_toJson,
    Json.asRecord?_getD TlsSpec.ofJson_toJson fun _ => ⟨_, rfl⟩,
    Json.asRecord?_getD ExternalAccess.ofJson_toJson fun _ => ⟨_, rfl⟩]

end ClusterSpec

/-! ### What is observed -/

namespace Condition

theorem given_toJson (c : Condition) (depth : Nat) : shape.Given any depth c.toJson := by
  refine given_record ?_
  simp only [List.append_assoc, List.cons_append, List.nil_append]
  refine canonical_member (by decide) (given_text _) ?_
  refine canonical_member (by decide) (given_text _) ?_
  refine canonical_optional (by decide) ⟨rfl, rfl⟩ (given_map fun text _ => given_text text) ?_
  refine canonical_optional (by decide) ⟨rfl, rfl⟩ (given_map fun text _ => given_text text) ?_
  exact canonical_optional_last ⟨rfl, rfl⟩ (given_map fun text _ => given_text text)

theorem ofJson_toJson (c : Condition) : ofJson c.toJson = c := by
  cases c
  simp [ofJson, toJson, Json.textAt, Json.textAt?, Json.lookup]

end Condition

namespace ClusterStatus

/-- The counts fit into their widths. -/
structure IsSized (s : ClusterStatus) : Prop where
  observed : ∀ n ∈ s.observedGeneration, Width.i64.holds n = true
  ready : ∀ n ∈ s.controllerReadyReplicas, Width.i32.holds n = true

theorem given_toJson {s : ClusterStatus} (sized : s.IsSized) (depth : Nat) : shape.Given any depth s.toJson := by
  refine given_record ?_
  rw [List.append_assoc]
  refine canonical_member (by decide) (given_list fun c _ => c.given_toJson _) ?_
  refine canonical_optional (by decide) ⟨rfl, rfl⟩ (given_map fun n mem => given_integer (sized.observed n mem)) ?_
  exact canonical_optional_last ⟨rfl, rfl⟩ (given_map fun n mem => given_integer (sized.ready n mem))

theorem ofJson_toJson (s : ClusterStatus) : ofJson s.toJson = s := by
  have conditions (items : List Condition) : (items.map Condition.toJson).map Condition.ofJson = items := by
    rw [List.map_map]
    exact (List.map_congr_left fun c _ => c.ofJson_toJson).trans (List.map_id items)
  cases s
  simp [ofJson, toJson, Json.itemsAt, Json.itemsAt?, Json.intAt?, Json.lookup, conditions]

end ClusterStatus

/-! ### Metadata -/

namespace OwnerReference

theorem given_toJson (r : OwnerReference) (depth : Nat) : shape.Given any depth r.toJson := by
  refine given_record ?_
  simp only [List.append_assoc]
  refine canonical_member (by decide) (given_text _) ?_
  refine canonical_optional (by decide) ⟨rfl, rfl⟩ (given_map fun b _ => given_flag b) ?_
  refine canonical_optional (by decide) ⟨rfl, rfl⟩ (given_map fun b _ => given_flag b) ?_
  refine canonical_member (by decide) (given_text _) ?_
  refine canonical_member (by decide) (given_text _) ?_
  exact canonical_member (by decide) (given_text _) canonical_nil

theorem ofJson_toJson (r : OwnerReference) : ofJson r.toJson = r := by
  cases r
  simp [ofJson, toJson, Json.textAt, Json.textAt?, Json.flagAt?, Json.lookup]

end OwnerReference

namespace ManagedFields

/-- The time reads back, and the fields can be read in so many lists and mappings. -/
structure IsReadable (any : Nat → Json → Prop) (depth : Nat) (m : ManagedFields) : Prop where
  fields : ∀ v ∈ m.fieldsV1, any depth v ∧ v ≠ .null
  time : ∀ t ∈ m.time, Calendar.Instant.read t.text = .ok t

theorem given_toJson {m : ManagedFields} (readable : m.IsReadable any (depth + 1)) :
    shape.Given any depth m.toJson := by
  have text (value : Option String) : ∀ v ∈ value.map Json.str, Shape.text.Given any (depth + 1) v :=
    given_map fun text _ => given_text text
  refine given_record ?_
  simp only [List.append_assoc]
  refine canonical_optional (by decide) ⟨rfl, rfl⟩ (text _) ?_
  refine canonical_optional (by decide) ⟨rfl, rfl⟩ (text _) ?_
  refine canonical_optional (by decide) ⟨rfl, rfl⟩ readable.fields ?_
  refine canonical_optional (by decide) ⟨rfl, rfl⟩ (text _) ?_
  refine canonical_optional (by decide) ⟨rfl, rfl⟩ (text _) ?_
  refine canonical_optional (by decide) ⟨rfl, rfl⟩ (text _) ?_
  exact canonical_optional_last ⟨rfl, rfl⟩ (given_map fun t mem => given_timestamp (readable.time t mem))

theorem ofJson_toJson {m : ManagedFields} (readable : m.IsReadable any depth) : ofJson m.toJson = m := by
  have time := Json.asText?_getD_instant readable.time
  cases m
  simp [ofJson, toJson, Json.textAt?, Json.member?, Json.instantAt?, time]

end ManagedFields

namespace Metadata

/-- The counts fit into their widths, the times read back, and so does what the managers
did, in so many lists and mappings. -/
structure IsReadable (any : Nat → Json → Prop) (depth : Nat) (m : Metadata) : Prop where
  grace : ∀ n ∈ m.deletionGracePeriodSeconds, Width.i64.holds n = true
  generation : ∀ n ∈ m.generation, Width.i64.holds n = true
  creation : ∀ t ∈ m.creationTimestamp, Calendar.Instant.read t.text = .ok t
  deletion : ∀ t ∈ m.deletionTimestamp, Calendar.Instant.read t.text = .ok t
  managers : ∀ items ∈ m.managedFields, ∀ f ∈ items, f.IsReadable any (depth + 2)

/-- Metadata without times and managers, of which the counts fit into their widths. -/
structure IsPlain (m : Metadata) : Prop where
  grace : ∀ n ∈ m.deletionGracePeriodSeconds, Width.i64.holds n = true
  generation : ∀ n ∈ m.generation, Width.i64.holds n = true
  noCreation : m.creationTimestamp = none
  noDeletion : m.deletionTimestamp = none
  noManagers : m.managedFields = none

theorem IsPlain.isReadable {m : Metadata} (plain : m.IsPlain) : m.IsReadable any depth where
  grace := plain.grace
  generation := plain.generation
  creation := by simp [plain.noCreation]
  deletion := by simp [plain.noDeletion]
  managers := by simp [plain.noManagers]

theorem given_toJson {m : Metadata} (readable : m.IsReadable any (depth + 1)) : shape.Given any depth m.toJson := by
  have text (value : Option String) : ∀ v ∈ value.map Json.str, Shape.text.Given any (depth + 1) v :=
    given_map fun text _ => given_text text
  have texts (items : List String) : (Shape.list .text).Given any (depth + 1) (Json.texts items) :=
    given_list fun text _ => given_text text
  have map (value : Option (KeyMap String)) :
      ∀ v ∈ value.map Json.ofKeyMap, (Shape.map .text).Given any (depth + 1) v :=
    given_map fun m _ => given_keyMap given_text m
  refine given_record ?_
  simp only [List.append_assoc]
  refine canonical_optional (by decide) ⟨rfl, rfl⟩ (map _) ?_
  refine canonical_optional (by decide) ⟨rfl, rfl⟩
    (given_map fun t mem => given_timestamp (readable.creation t mem)) ?_
  refine canonical_optional (by decide) ⟨rfl, rfl⟩ (given_map fun n mem => given_integer (readable.grace n mem)) ?_
  refine canonical_optional (by decide) ⟨rfl, rfl⟩
    (given_map fun t mem => given_timestamp (readable.deletion t mem)) ?_
  refine canonical_optional (by decide) ⟨rfl, rfl⟩ (given_map fun items _ => texts items) ?_
  refine canonical_optional (by decide) ⟨rfl, rfl⟩ (text _) ?_
  refine canonical_optional (by decide) ⟨rfl, rfl⟩
    (given_map fun n mem => given_integer (readable.generation n mem)) ?_
  refine canonical_optional (by decide) ⟨rfl, rfl⟩ (map _) ?_
  refine canonical_optional (by decide) ⟨rfl, rfl⟩ (given_map fun items mem => given_list fun f member =>
    ManagedFields.given_toJson (readable.managers items mem f member)) ?_
  refine canonical_optional (by decide) ⟨rfl, rfl⟩ (text _) ?_
  refine canonical_optional (by decide) ⟨rfl, rfl⟩ (text _) ?_
  refine canonical_optional (by decide) ⟨rfl, rfl⟩
    (given_map fun items _ => given_list fun r _ => r.given_toJson _) ?_
  refine canonical_optional (by decide) ⟨rfl, rfl⟩ (text _) ?_
  refine canonical_optional (by decide) ⟨rfl, rfl⟩ (text _) ?_
  exact canonical_optional_last ⟨rfl, rfl⟩ (text _)

theorem ofJson_toJson {m : Metadata} (readable : m.IsReadable any depth) : ofJson m.toJson = m := by
  have creation := Json.asText?_getD_instant readable.creation
  have deletion := Json.asText?_getD_instant readable.deletion
  have managers := Json.asItems?_getD_of_mem fun items mem f member =>
    ManagedFields.ofJson_toJson (readable.managers items mem f member)
  cases m
  simp [ofJson, toJson, Json.textAt?, Json.textsAt?, Json.itemsAt?, Json.intAt?, Json.keyMapAt?, Json.instantAt?,
    Json.asItems?_getD OwnerReference.ofJson_toJson, creation, deletion, managers]

end Metadata

/-! ### Clusters -/

namespace Cluster

/-- A cluster without times and managers in its metadata, of which all counts fit
into their widths. -/
structure IsPlain (c : Cluster) : Prop where
  metadata : c.metadata.IsPlain
  replicas : Width.i32.holds c.spec.pravega.controllerReplicas = true
  status : ∀ s ∈ c.status, s.IsSized

/-- The members of a cluster behind its version and its kind. -/
def members (c : Cluster) : List (String × Json) :=
  ("metadata", c.metadata.toJson) :: ("spec", c.spec.toJson) ::
    Json.optional "status" (c.status.map ClusterStatus.toJson)

theorem toJson_eq (c : Cluster) :
    c.toJson = .obj ([("apiVersion", .str apiVersion), ("kind", .str kind)] ++ c.members) := rfl

/-- The fields of clusters. -/
def fields : Fields :=
  .cons "metadata" .required Metadata.shape <|
    .cons "spec" .required ClusterSpec.shape <|
    .cons "status" .omitted ClusterStatus.shape .nil

theorem shape_eq : shape = .record "PravegaCluster" true fields := rfl

/-- The version and the kind are no fields of clusters. -/
theorem marks_not_mem_keys :
    ∀ m ∈ [("apiVersion", Json.str apiVersion), ("kind", .str kind)], m.1 ∉ fields.keys := by
  intro m mem
  rcases List.mem_cons.mp mem with rfl | mem
  · decide
  · rw [List.mem_singleton.mp mem]
    decide

/-- The counts of a cluster fit into their widths, and its metadata can be read. -/
structure IsReadable (any : Nat → Json → Prop) (c : Cluster) : Prop where
  metadata : c.metadata.IsReadable any 2
  replicas : Width.i32.holds c.spec.pravega.controllerReplicas = true
  status : ∀ s ∈ c.status, s.IsSized

theorem IsPlain.isReadable {c : Cluster} (plain : c.IsPlain) : c.IsReadable any where
  metadata := plain.metadata.isReadable
  replicas := plain.replicas
  status := plain.status

/-- **The members of a cluster are canonical.** -/
theorem canonical_members {c : Cluster} (readable : c.IsReadable any) : fields.Canonical any 1 c.members := by
  refine canonical_member (by decide) (Metadata.given_toJson readable.metadata) ?_
  refine canonical_member (by decide) (ClusterSpec.given_toJson readable.replicas _) ?_
  exact canonical_optional_last ⟨rfl, rfl⟩
    (given_map fun s mem => ClusterStatus.given_toJson (readable.status s mem) _)

/-- **They are read as the cluster.** -/
theorem ofJson_members {c : Cluster} (readable : c.IsReadable any) : ofJson (.obj c.members) = c := by
  have metadata := Metadata.ofJson_toJson readable.metadata
  cases c
  simp [ofJson, members, Json.recordAt?, Json.lookup, metadata, ClusterSpec.ofJson_toJson,
    Json.asRecord?_getD ClusterStatus.ofJson_toJson fun _ => ⟨_, rfl⟩]

end Cluster

end ControllerSynthesis
