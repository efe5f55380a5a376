/-
# What is decoded is decoded again

The value that a member of a domain type is written as is decoded to that member. This
holds of every member that is kept in memory, as far as its counts fit into their widths
and the times in it read back; what decoding gives has such counts. Its times may have
fractions of a second, which are not written. So what metadata is written as is decoded
to that metadata with its times in whole seconds, which is written as the same. But a time
of a year before the year zero is written with four digits behind its sign, and with these
it is not read: what such metadata, or a cluster with it, is written as is not decoded at
all.

Key definitions: `Record.Codec.Restores`, `Record.Codec.Rewrites`,
`Calendar.Instant.IsEarly`, `Metadata.times`, `Metadata.cut`.
Key theorems: `PravegaSpec.holds_of_decode`, `Metadata.rewrites_or_not_decode`,
`Cluster.rewrites_or_not_decode`, `decode_restores`.
-/
import ControllerSynthesis.Proofs.Calendar.Reading
import ControllerSynthesis.Proofs.Cluster.Canonical
import ControllerSynthesis.Proofs.Json.Ordered
import ControllerSynthesis.Proofs.Record.Codec
import ControllerSynthesis.Proofs.Record.Outcome

namespace ControllerSynthesis

open Record

/-! ### Times -/

namespace Calendar.Instant

/-- A point in time of a year before the year zero. -/
def IsEarly (t : Instant) : Prop :=
  t.date.year < 0

instance : DecidablePred IsEarly :=
  fun t => inferInstanceAs (Decidable (t.date.year < 0))

/-- In whole seconds a point in time reads back, unless it is early. -/
theorem read_cut {t : Instant} (late : ¬t.IsEarly) : read t.cut.text = .ok t.cut := by
  rw [text_cut]
  exact read_text (Int.not_lt.mp late)

@[simp] theorem toJson_cut (t : Instant) : t.cut.toJson = t.toJson := rfl

end Calendar.Instant

namespace Record

/-! ### Members of types -/

namespace Codec

variable {α : Type} {c : Codec α} {a : α}

/-- A member of a domain type is what its own value is decoded to. -/
def Restores (c : Codec α) (a : α) : Prop :=
  c.decode (c.toJson a) = .ok a

/-- What a member of a domain type is written as is decoded, and written as the same
again. -/
def Rewrites (c : Codec α) (a : α) : Prop :=
  ∃ again, c.decode (c.toJson a) = .ok again ∧ c.toJson again = c.toJson a

theorem restores_of_given (given : c.shape.Given isOrdered 0 (c.toJson a)) (read : c.ofJson (c.toJson a) = a) :
    c.Restores a := by
  rw [Restores, decode, ofJson_canonical given.1, Except.map, read]

/-- A member is rewritten if it is written as one that is restored. -/
theorem rewrites_of_restores {b : α} (same : c.toJson b = c.toJson a) (restores : c.Restores b) : c.Rewrites a := by
  rw [Restores, same] at restores
  exact ⟨b, restores, same⟩

end Codec

/-! ### Members of outcomes -/

section

variable {fields : Fields} {members : List (String × Json)} {key : String} {presence : Presence}

/-- The integers of an outcome fit into their widths, if those do that stand in for them. -/
theorem Fields.Give.holds {width : Width} (give : fields.Give members)
    (declared : fields.find? key = some (presence, .integer width))
    (standIns : ∀ n, Json.int n ∈ presence.standIns → width.holds n = true) :
    ∀ n ∈ (Json.obj members).intAt? key, width.holds n = true := by
  refine give.get declared (motive := fun made => ∀ n ∈ made.asInt?, width.holds n = true) nofun ?_ ?_
  · intro value made _ decoded n mem
    obtain ⟨m, rfl, holds⟩ := ofJson_integer_eq_ok decoded
    cases mem
    exact holds
  · intro made stands n mem
    exact standIns n (Json.asInt?_eq_some.mp mem ▸ stands)

/-- An object with an early time in it is not decoded. -/
theorem not_ofJson_of_time (key : String) {name : String} {strict : Bool} {t : Calendar.Instant} (early : t.IsEarly)
    (mem : (key, t.toJson) ∈ members) (declared : fields.find? key = some (presence, .timestamp)) (made : Json) :
    (Shape.record name strict fields).ofJson (.obj members) ≠ .ok made := by
  intro read
  obtain ⟨own, read⟩ := decoded_of_mem read key mem declared nofun
  obtain ⟨text, same, -, again, read⟩ := ofJson_timestamp_eq_ok.mp read
  cases same
  rw [String.toList_ofList] at read
  exact Calendar.Instant.not_read_text early again read

end

end Record

/-! ### What is asked for and what is observed -/

theorem Resources.restores (r : Resources) : codec.Restores r :=
  Codec.restores_of_given (r.given_toJson 0) r.ofJson_toJson

theorem TlsSpec.restores (t : TlsSpec) : codec.Restores t :=
  Codec.restores_of_given (t.given_toJson 0) t.ofJson_toJson

theorem ServiceType.restores (t : ServiceType) : codec.Restores t :=
  Codec.restores_of_given (t.given_toJson 0) (congrArg (Option.getD · _) t.ofJson?_toJson)

theorem ExternalAccess.restores (a : ExternalAccess) : codec.Restores a :=
  Codec.restores_of_given (a.given_toJson 0) a.ofJson_toJson

theorem ImageSpec.restores (i : ImageSpec) : codec.Restores i :=
  Codec.restores_of_given (i.given_toJson 0) i.ofJson_toJson

theorem Condition.restores (c : Condition) : codec.Restores c :=
  Codec.restores_of_given (c.given_toJson 0) c.ofJson_toJson

namespace PravegaSpec

theorem restores {p : PravegaSpec} (replicas : Width.i32.holds p.controllerReplicas = true) : codec.Restores p :=
  Codec.restores_of_given (given_toJson replicas 0) p.ofJson_toJson

theorem holds_of_ofJson {value made : Json} (decoded : shape.ofJson value = .ok made) :
    Width.i32.holds (ofJson made).controllerReplicas = true := by
  obtain ⟨members, rfl, give⟩ := ofJson_record_gives (by decide) decoded
  have holds := @Fields.Give.holds _ _ "controllerReplicas" _ .i32 give rfl
    fun n mem => by cases List.mem_singleton.mp mem; decide
  show Width.i32.holds (((Json.obj members).intAt? "controllerReplicas").getD 0) = true
  cases count : (Json.obj members).intAt? "controllerReplicas" with
  | none => decide
  | some n => exact holds n count

/-- **The number of replicas that decoding gives fits into its width.** -/
theorem holds_of_decode {value : Json} {p : PravegaSpec} (decoded : codec.decode value = .ok p) :
    Width.i32.holds p.controllerReplicas = true := by
  obtain ⟨made, own, rfl⟩ := map_eq_ok.mp decoded
  exact holds_of_ofJson own

end PravegaSpec

namespace ClusterSpec

theorem restores {s : ClusterSpec} (replicas : Width.i32.holds s.pravega.controllerReplicas = true) :
    codec.Restores s :=
  Codec.restores_of_given (given_toJson replicas 0) s.ofJson_toJson

theorem holds_of_ofJson {value made : Json} (decoded : shape.ofJson value = .ok made) :
    Width.i32.holds (ofJson made).pravega.controllerReplicas = true := by
  obtain ⟨members, rfl, give⟩ := ofJson_record_gives (by decide) decoded
  refine give.get rfl (motive := fun made => Width.i32.holds (PravegaSpec.ofJson made).controllerReplicas = true)
    (by decide) (fun _ => PravegaSpec.holds_of_ofJson) fun made stands => ?_
  rw [List.mem_singleton.mp stands, PravegaSpec.ofJson_toJson]
  decide

theorem holds_of_decode {value : Json} {s : ClusterSpec} (decoded : codec.decode value = .ok s) :
    Width.i32.holds s.pravega.controllerReplicas = true := by
  obtain ⟨made, own, rfl⟩ := map_eq_ok.mp decoded
  exact holds_of_ofJson own

end ClusterSpec

namespace ClusterStatus

theorem restores {s : ClusterStatus} (sized : s.IsSized) : codec.Restores s :=
  Codec.restores_of_given (given_toJson sized 0) s.ofJson_toJson

theorem isSized_of_ofJson {value made : Json} (decoded : shape.ofJson value = .ok made) : (ofJson made).IsSized := by
  obtain ⟨members, rfl, give⟩ := ofJson_record_gives (by decide) decoded
  exact ⟨give.holds rfl nofun, give.holds rfl nofun⟩

theorem isSized_of_decode {value : Json} {s : ClusterStatus} (decoded : codec.decode value = .ok s) : s.IsSized := by
  obtain ⟨made, own, rfl⟩ := map_eq_ok.mp decoded
  exact isSized_of_ofJson own

end ClusterStatus

/-! ### Metadata -/

/-- What a manager did, as decoding gives it. -/
structure ManagedFields.IsDecoded (f : ManagedFields) : Prop where
  fields : ∀ v ∈ f.fieldsV1, v.ordered = v ∧ v ≠ .null

theorem ManagedFields.isDecoded_of_ofJson {value made : Json} (decoded : shape.ofJson value = .ok made) :
    (ofJson made).IsDecoded := by
  obtain ⟨members, rfl, give⟩ := ofJson_record_gives (by decide) decoded
  refine ⟨fun v mem => ?_⟩
  obtain ⟨presence, shape, declared, gives⟩ := give "fieldsV1" v mem
  cases declared
  rcases gives with ⟨given, there, decoded⟩ | stands
  · cases decoded
    exact ⟨given.ordered_ordered, mt Json.ordered_eq_null.mp (there rfl)⟩
  · cases stands

/-- What a manager did, with its time in whole seconds. -/
def ManagedFields.cut (f : ManagedFields) : ManagedFields :=
  { f with time := f.time.map Calendar.Instant.cut }

@[simp] theorem ManagedFields.toJson_cut (f : ManagedFields) : f.cut.toJson = f.toJson := by
  simp [toJson, cut, Function.comp_def]

namespace Metadata

/-- All times in the metadata of an object. -/
def times (m : Metadata) : List Calendar.Instant :=
  m.creationTimestamp.toList ++ m.deletionTimestamp.toList ++
    (m.managedFields.getD []).filterMap ManagedFields.time

/-- The metadata with its times in whole seconds. -/
def cut (m : Metadata) : Metadata :=
  { m with
    creationTimestamp := m.creationTimestamp.map Calendar.Instant.cut
    deletionTimestamp := m.deletionTimestamp.map Calendar.Instant.cut
    managedFields := m.managedFields.map fun items => items.map ManagedFields.cut }

/-- **Fractions of a second are not written.** -/
@[simp] theorem toJson_cut (m : Metadata) : m.cut.toJson = m.toJson := by
  simp [toJson, cut, Function.comp_def]

/-- Metadata as decoding gives it. -/
structure IsDecoded (m : Metadata) : Prop where
  grace : ∀ n ∈ m.deletionGracePeriodSeconds, Width.i64.holds n = true
  generation : ∀ n ∈ m.generation, Width.i64.holds n = true
  managers : ∀ items ∈ m.managedFields, ∀ f ∈ items, f.IsDecoded

theorem isDecoded_of_ofJson {value made : Json} (decoded : shape.ofJson value = .ok made) :
    (ofJson made).IsDecoded := by
  obtain ⟨members, rfl, give⟩ := ofJson_record_gives (by decide) decoded
  refine ⟨give.holds rfl nofun, give.holds rfl nofun, ?_⟩
  intro items mem
  obtain ⟨all, list, rfl⟩ := Option.map_eq_some_iff.mp mem
  have managers : ∀ all ∈ ((Json.obj members).get "managedFields").asItems?, ∀ i ∈ all,
      (ManagedFields.ofJson i).IsDecoded := by
    refine give.get rfl (motive := fun made => ∀ all ∈ made.asItems?, ∀ i ∈ all, (ManagedFields.ofJson i).IsDecoded)
      nofun ?_ nofun
    intro value made _ decoded all mem i member
    obtain ⟨items, others, -, rfl, run⟩ := ofJson_list_eq_ok decoded
    cases mem
    obtain ⟨own, decoded⟩ := (decodeItems_eq_ok run).2 i member
    exact ManagedFields.isDecoded_of_ofJson decoded
  exact List.forall_mem_map.mpr (managers all list)

theorem mem_times {m : Metadata} {t : Calendar.Instant} : t ∈ m.times ↔
    t ∈ m.creationTimestamp ∨ t ∈ m.deletionTimestamp ∨ ∃ items ∈ m.managedFields, ∃ f ∈ items, t ∈ f.time := by
  cases managers : m.managedFields <;> simp [times, managers]

/-- With its times in whole seconds, decoded metadata can be read, unless it has an early
time. -/
theorem IsDecoded.isReadable_cut {m : Metadata} (decoded : m.IsDecoded) (late : ∀ t ∈ m.times, ¬t.IsEarly)
    (depth : Nat) : m.cut.IsReadable isOrdered depth where
  grace := decoded.grace
  generation := decoded.generation
  creation := by
    intro t mem
    obtain ⟨own, stands, rfl⟩ := Option.map_eq_some_iff.mp mem
    exact Calendar.Instant.read_cut (late own (mem_times.mpr (.inl stands)))
  deletion := by
    intro t mem
    obtain ⟨own, stands, rfl⟩ := Option.map_eq_some_iff.mp mem
    exact Calendar.Instant.read_cut (late own (mem_times.mpr (.inr (.inl stands))))
  managers := by
    intro items mem
    obtain ⟨all, stands, rfl⟩ := Option.map_eq_some_iff.mp mem
    refine List.forall_mem_map.mpr fun f member => ⟨(decoded.managers all stands f member).fields, fun t time => ?_⟩
    obtain ⟨own, since, rfl⟩ := Option.map_eq_some_iff.mp time
    exact Calendar.Instant.read_cut (late own (mem_times.mpr (.inr (.inr ⟨all, stands, f, member, since⟩))))

/-- With an early time metadata is not decoded. -/
theorem not_ofJson {m : Metadata} {t : Calendar.Instant} (mem : t ∈ m.times) (early : t.IsEarly) (made : Json) :
    shape.ofJson m.toJson ≠ .ok made := by
  rcases mem_times.mp mem with mem | mem | ⟨items, mem, f, member, own⟩
  · refine not_ofJson_of_time "creationTimestamp" early ?_ rfl made
    simp [Option.mem_def.mp mem]
  · refine not_ofJson_of_time "deletionTimestamp" early ?_ rfl made
    simp [Option.mem_def.mp mem]
  · intro read
    obtain ⟨list, read⟩ := @decoded_of_mem _ _ _ _ _ read "managedFields" _ _
      (.arr (items.map ManagedFields.toJson)) (by simp [Option.mem_def.mp mem]) rfl nofun
    obtain ⟨values, all, same, -, run⟩ := ofJson_list_eq_ok read
    cases same
    obtain ⟨made, read⟩ := (decodeItems_eq_ok run).1 f.toJson (List.mem_map_of_mem member)
    refine not_ofJson_of_time "time" early ?_ rfl made read
    simp [Option.mem_def.mp own]

theorem restores {m : Metadata} (readable : m.IsReadable isOrdered 1) : codec.Restores m :=
  Codec.restores_of_given (given_toJson readable) (ofJson_toJson readable)

theorem isDecoded_of_decode {value : Json} {m : Metadata} (decoded : codec.decode value = .ok m) : m.IsDecoded := by
  obtain ⟨made, own, rfl⟩ := map_eq_ok.mp decoded
  exact isDecoded_of_ofJson own

/-- **What decoded metadata is written as is decoded again and written as the same,
unless it has an early time**: then it is not decoded. -/
theorem rewrites_or_not_decode {value : Json} {m : Metadata} (decoded : codec.decode value = .ok m) :
    ((∀ t ∈ m.times, ¬t.IsEarly) → codec.Rewrites m) ∧
      ((∃ t ∈ m.times, t.IsEarly) → ∀ other, codec.decode m.toJson ≠ .ok other) := by
  have canonical := isDecoded_of_decode decoded
  constructor
  · intro late
    exact Codec.rewrites_of_restores m.toJson_cut (restores (canonical.isReadable_cut late 1))
  · rintro ⟨t, mem, early⟩ other again
    obtain ⟨made, own, -⟩ := map_eq_ok.mp again
    exact not_ofJson mem early made own

end Metadata

/-! ### Clusters -/

namespace Cluster

/-- A cluster as decoding gives it. -/
structure IsDecoded (c : Cluster) : Prop where
  metadata : c.metadata.IsDecoded
  replicas : Width.i32.holds c.spec.pravega.controllerReplicas = true
  status : ∀ s ∈ c.status, s.IsSized

theorem isDecoded_of_decode {value : Json} {c : Cluster} (decoded : codec.decode value = .ok c) : c.IsDecoded := by
  obtain ⟨made, own, rfl⟩ := map_eq_ok.mp decoded
  obtain ⟨members, rfl, give⟩ := ofJson_record_gives (by decide) own
  refine ⟨?_, ?_, ?_⟩
  · exact give.get rfl (motive := fun made => (Metadata.ofJson made).IsDecoded)
      ⟨nofun, nofun, nofun⟩ (fun _ => Metadata.isDecoded_of_ofJson) nofun
  · exact give.get rfl
      (motive := fun made => Width.i32.holds (ClusterSpec.ofJson made).pravega.controllerReplicas = true)
      (by decide) (fun _ => ClusterSpec.holds_of_ofJson) nofun
  · refine give.get rfl (motive := fun made => ∀ s ∈ made.asRecord?.map ClusterStatus.ofJson, s.IsSized)
      nofun ?_ nofun
    intro value made _ decoded s mem
    obtain ⟨record, same, rfl⟩ := Option.map_eq_some_iff.mp mem
    exact Json.eq_of_asRecord? same ▸ ClusterStatus.isSized_of_ofJson decoded

theorem restores {c : Cluster} (readable : c.IsReadable isOrdered) : codec.Restores c := by
  have decoded : shape.ofJson c.toJson = .ok (.obj c.members) := by
    rw [toJson_eq, shape_eq]
    exact jsonFormat_reads.decode_record_behind (canonical_members readable) marks_not_mem_keys
  have read : codec.decode c.toJson = .ok (ofJson (.obj c.members)) := congrArg (Except.map ofJson) decoded
  rwa [ofJson_members readable] at read

/-- The cluster with the times in its metadata in whole seconds. -/
def cut (c : Cluster) : Cluster :=
  { c with metadata := c.metadata.cut }

theorem toJson_cut (c : Cluster) : c.cut.toJson = c.toJson := by
  simp [toJson, cut]

/-- **What a decoded cluster is written as is decoded again and written as the same,
unless it has an early time**: then it is not decoded. -/
theorem rewrites_or_not_decode {value : Json} {c : Cluster} (decoded : codec.decode value = .ok c) :
    ((∀ t ∈ c.metadata.times, ¬t.IsEarly) → codec.Rewrites c) ∧
      ((∃ t ∈ c.metadata.times, t.IsEarly) → ∀ other, codec.decode c.toJson ≠ .ok other) := by
  have canonical := isDecoded_of_decode decoded
  constructor
  · intro late
    have readable : c.cut.IsReadable isOrdered :=
      ⟨canonical.metadata.isReadable_cut late 2, canonical.replicas, canonical.status⟩
    exact Codec.rewrites_of_restores c.toJson_cut (restores readable)
  · rintro ⟨t, mem, early⟩ other again
    obtain ⟨made, own, -⟩ := map_eq_ok.mp again
    obtain ⟨metadata, own⟩ := @decoded_of_mem _ _ _ _ _ own "metadata" _ _ c.metadata.toJson (by simp) rfl nofun
    exact Metadata.not_ofJson mem early metadata own

end Cluster

/-! ### All types -/

/-- Whatever a value is decoded to is what its own value is decoded to. -/
def Record.Codec.IsIdempotent {α : Type} (c : Record.Codec α) : Prop :=
  ∀ value a, c.decode value = .ok a → c.Restores a

/-- **Decoding is idempotent on what is written**, unless a time is early; of all types but
metadata and clusters nothing is lost in writing. -/
theorem decode_restores :
    (Resources.codec.IsIdempotent ∧ TlsSpec.codec.IsIdempotent ∧ ServiceType.codec.IsIdempotent ∧
      ExternalAccess.codec.IsIdempotent ∧ ImageSpec.codec.IsIdempotent ∧ PravegaSpec.codec.IsIdempotent ∧
      ClusterSpec.codec.IsIdempotent ∧ Condition.codec.IsIdempotent ∧ ClusterStatus.codec.IsIdempotent) ∧
    (∀ value m, Metadata.codec.decode value = .ok m →
      ((∀ t ∈ m.times, ¬t.IsEarly) → Metadata.codec.Rewrites m) ∧
        ((∃ t ∈ m.times, t.IsEarly) → ∀ other, Metadata.codec.decode m.toJson ≠ .ok other)) ∧
    (∀ value c, Cluster.codec.decode value = .ok c →
      ((∀ t ∈ c.metadata.times, ¬t.IsEarly) → Cluster.codec.Rewrites c) ∧
        ((∃ t ∈ c.metadata.times, t.IsEarly) → ∀ other, Cluster.codec.decode c.toJson ≠ .ok other)) ∧
    (∀ r, Resources.codec.Restores r) ∧ (∀ t, TlsSpec.codec.Restores t) ∧ (∀ t, ServiceType.codec.Restores t) ∧
    (∀ a, ExternalAccess.codec.Restores a) ∧ (∀ i, ImageSpec.codec.Restores i) ∧
    (∀ p : PravegaSpec, Width.i32.holds p.controllerReplicas = true → PravegaSpec.codec.Restores p) ∧
    (∀ s : ClusterSpec, Width.i32.holds s.pravega.controllerReplicas = true → ClusterSpec.codec.Restores s) ∧
    (∀ c, Condition.codec.Restores c) ∧ ∀ s : ClusterStatus, s.IsSized → ClusterStatus.codec.Restores s :=
  ⟨⟨fun _ r _ => r.restores, fun _ t _ => t.restores, fun _ t _ => t.restores, fun _ a _ => a.restores,
      fun _ i _ => i.restores, fun _ _ decoded => PravegaSpec.restores (PravegaSpec.holds_of_decode decoded),
      fun _ _ decoded => ClusterSpec.restores (ClusterSpec.holds_of_decode decoded), fun _ c _ => c.restores,
      fun _ _ decoded => ClusterStatus.restores (ClusterStatus.isSized_of_decode decoded)⟩,
    fun _ _ => Metadata.rewrites_or_not_decode, fun _ _ => Cluster.rewrites_or_not_decode,
    Resources.restores, TlsSpec.restores, ServiceType.restores, ExternalAccess.restores, ImageSpec.restores,
    fun _ => PravegaSpec.restores, fun _ => ClusterSpec.restores, Condition.restores,
    fun _ => ClusterStatus.restores⟩

/-- A specification with a service type. -/
def reachable : ClusterSpec where
  version := "0.9"
  zookeeperUri := "zk:2181"
  externalAccess := some { enabled := true, type := some .nodePort }

/-- The same specification, given as lists of fields. -/
def reachableFields : Json :=
  .arr [.str "0.9", .str "zk:2181", .null, .arr [.bool true, .obj [("NodePort", .null)]]]

/-- Metadata in another form than it is written in, with a fraction of a second and the
first time of the year zero. -/
def givenMetadata : Json :=
  .obj [("creationTimestamp", .str "2025-01-02T02:04:05.9Z"), ("x", .int 1), ("managedFields", .arr [
    .obj [("fieldsV1", .obj [("b", .int 1), ("a", .null)]), ("time", .str "0000-01-01 00Z")]])]

/-- The form that it is written in. -/
def writtenMetadata : Json :=
  .obj [("creationTimestamp", .str "2025-01-02T02:04:05Z"), ("managedFields", .arr [
    .obj [("fieldsV1", .obj [("a", .null), ("b", .int 1)]), ("time", .str "0000-01-01T00:00:00Z")]])]

/-- A cluster of the last second before the year zero. -/
def givenCluster : Json :=
  .obj [("metadata", .obj [("creationTimestamp", .str "-000001-12-31T23:59:60Z")]), ("spec", reachableFields)]

/-- Metadata and clusters in other forms than those that are written, with a fraction of a
second, with early times and without, and counts at the ends of their widths. -/
theorem decode_restores_rewritten :
    (∃ m, Metadata.codec.decode givenMetadata = .ok m ∧ m.toJson = writtenMetadata ∧ Metadata.codec.Rewrites m) ∧
    (∀ other, Metadata.codec.decode (.obj [("deletionTimestamp", .str "-0001-12-31T23:59:59Z")]) ≠ .ok other) ∧
    Cluster.codec.Rewrites { metadata := { generation := some 1 }, spec := reachable, status := some {} } ∧
    (∃ c, Cluster.codec.decode givenCluster = .ok c ∧ ∀ other, Cluster.codec.decode c.toJson ≠ .ok other) ∧
    PravegaSpec.codec.Restores { controllerReplicas := -2147483648 } ∧
    ClusterSpec.codec.Restores { reachable with pravega.controllerReplicas := 2147483647 } ∧
    ClusterStatus.codec.Restores { observedGeneration := some 9223372036854775807 } := by
  obtain ⟨-, metadata, cluster, -, -, -, -, -, pravega, spec, -, status⟩ := decode_restores
  refine ⟨?_, ?_, ?_, ?_, pravega _ (by decide), spec _ (by decide), status _ ⟨fun n mem => ?_, nofun⟩⟩
  · exact ⟨_, rfl, rfl, (metadata givenMetadata _ rfl).1 (by decide)⟩
  · exact (metadata (.obj [("deletionTimestamp", .str "-000001-12-31T23:59:60Z")]) _ rfl).2 (by decide)
  · exact (cluster (.obj [("spec", reachableFields), ("status", .obj []),
      ("metadata", .obj [("generation", .int 1), ("name", .null)])]) _ rfl).1 (by decide)
  · exact ⟨_, rfl, (cluster givenCluster _ rfl).2 (by decide)⟩
  · cases mem
    decide

/-- A time of the year −9999, which is read with six digits and written with four. -/
theorem decode_early : ∃ m,
    Metadata.codec.decode (.obj [("creationTimestamp", .str "-009999-01-02T01:59:59Z")]) = .ok m ∧
      m.toJson = .obj [("creationTimestamp", .str "-9999-01-02T01:59:59Z")] ∧
      ∀ other, Metadata.codec.decode (.obj [("creationTimestamp", .str "-9999-01-02T01:59:59Z")]) ≠ .ok other := by
  have decoded : Metadata.codec.decode (.obj [("creationTimestamp", .str "-009999-01-02T01:59:59Z")]) =
      .ok { creationTimestamp := some ⟨-377705023201, 0, by decide, by decide⟩ } := by
    rfl
  exact ⟨_, decoded, rfl, (Metadata.rewrites_or_not_decode decoded).2 ⟨_, List.mem_cons_self, by decide⟩⟩

end ControllerSynthesis
