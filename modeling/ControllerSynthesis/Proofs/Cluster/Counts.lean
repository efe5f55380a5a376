/-
# The counts of a cluster

A cluster has three counts: the replicas that are asked for, those that are ready, and
the generation that was observed. Each is an integer at the end of a path through the
records of the cluster, and each has a width. Decoding the record that has the count
with any integer in its place succeeds if the integer fits into the width, and then
changes the count to it and nothing else. So a cluster in memory, whose counts may be any
integers, is decoded from its own value exactly if its counts fit.

Key definitions: `Record.Codec.TakesIntegers`, `Cluster.Count`, `Cluster.counts`.
Key theorems: `PravegaSpec.takesIntegers`, `ClusterStatus.takesIntegers_ready`,
`ClusterStatus.takesIntegers_observed`, `Cluster.decode_toJson_iff`.
-/
import ControllerSynthesis.Proofs.Cluster.Defaults
import ControllerSynthesis.Proofs.Cluster.Restoring
import ControllerSynthesis.Proofs.Record.Integers

namespace ControllerSynthesis

open Record

/-! ### Records with an integer in place of a count -/

namespace Record

/-- A value of the type is decoded with an integer under the key if the integer fits into
the width, and only then. It is the value as it was, with the integer put in. -/
structure Codec.TakesIntegers {α : Type} (c : Codec α) (key : String) (width : Width) (put : α → Int → α) : Prop where
  decodes : ∀ members a, c.decode (.obj members) = .ok a → ∀ (n : Int) (value : Json), value.Spells n →
    ((∃ b, c.decode (.obj (setting key value members)) = .ok b) ↔ width.holds n = true)
  exact : ∀ members a, c.decode (.obj members) = .ok a → ∀ (n : Int) (value : Json), value.Spells n →
    ∀ b, c.decode (.obj (setting key value members)) = .ok b → b = put a n

/-- **A record takes integers under the key of an integer field** if what is read of it
is changed by that member alone. -/
theorem Codec.takesIntegers {α : Type} {c : Codec α} {name key : String} {strict : Bool} {fields : Fields}
    {presence : Presence} {width : Width} {put : α → Int → α} (record : c.shape = .record name strict fields)
    (distinct : fields.keys.Nodup) (declared : fields.find? key = some (presence, .integer width))
    (changed : ∀ (made other : Json) (n : Int), other.get key = .int n →
      (∀ own, own ≠ key → other.get own = made.get own) → c.ofJson other = put (c.ofJson made) n) :
    c.TakesIntegers key width put where
  decodes members a decoded n value spells := by
    obtain ⟨made, own⟩ := Codec.decodes_iff.mp ⟨a, decoded⟩
    rw [record] at own
    rw [Codec.decodes_iff, record]
    exact (ofJson_setting_spelled distinct own declared spells).1
  exact members a decoded n value spells b again := by
    obtain ⟨made, own, rfl⟩ := map_eq_ok.mp decoded
    obtain ⟨other, later, rfl⟩ := map_eq_ok.mp again
    rw [record] at own later
    obtain ⟨member, others⟩ := (ofJson_setting_spelled distinct own declared spells).2 other later
    exact changed made other n member others

end Record

theorem PravegaSpec.takesIntegers :
    codec.TakesIntegers "controllerReplicas" .i32 fun p n => { p with controllerReplicas := n } := by
  refine Codec.takesIntegers rfl (by decide) rfl fun made other n member others => ?_
  show ofJson other = { ofJson made with controllerReplicas := n }
  simp [ofJson, Json.intAt, Json.intAt?, Json.recordAt?, Json.textAt?, Json.keyMapAt?, member, others]

theorem ClusterStatus.takesIntegers_ready :
    codec.TakesIntegers "controllerReadyReplicas" .i32 fun s n => { s with controllerReadyReplicas := some n } := by
  refine Codec.takesIntegers rfl (by decide) rfl fun made other n member others => ?_
  show ofJson other = { ofJson made with controllerReadyReplicas := some n }
  simp [ofJson, Json.intAt?, Json.itemsAt, Json.itemsAt?, member, others]

theorem ClusterStatus.takesIntegers_observed :
    codec.TakesIntegers "observedGeneration" .i64 fun s n => { s with observedGeneration := some n } := by
  refine Codec.takesIntegers rfl (by decide) rfl fun made other n member others => ?_
  show ofJson other = { ofJson made with observedGeneration := some n }
  simp [ofJson, Json.intAt?, Json.itemsAt, Json.itemsAt?, member, others]

/-! ### Whole clusters -/

namespace Cluster

/-- A count: where it is in the value of a cluster, and how wide it may be. -/
structure Count where
  path : List String
  width : Width
  value : Int

/-- The path to the replicas that are asked for. -/
def replicasPath : List String := ["spec", "pravega", "controllerReplicas"]

/-- The path to the replicas that are ready. -/
def readyPath : List String := ["status", "controllerReadyReplicas"]

/-- The path to the generation that was observed. -/
def observedPath : List String := ["status", "observedGeneration"]

/-- The counts of a cluster. -/
def counts (c : Cluster) : List Count :=
  ⟨replicasPath, .i32, c.spec.pravega.controllerReplicas⟩ ::
    ((c.status.bind ClusterStatus.observedGeneration).toList.map fun n => ⟨observedPath, .i64, n⟩) ++
    (c.status.bind ClusterStatus.controllerReadyReplicas).toList.map fun n => ⟨readyPath, .i32, n⟩

variable {c : Cluster}

theorem forall_mem_counts {P : Count → Prop} : (∀ count ∈ c.counts, P count) ↔
    P ⟨replicasPath, .i32, c.spec.pravega.controllerReplicas⟩ ∧
      ∀ s ∈ c.status, (∀ n ∈ s.observedGeneration, P ⟨observedPath, .i64, n⟩) ∧
        ∀ n ∈ s.controllerReadyReplicas, P ⟨readyPath, .i32, n⟩ := by
  cases h : c.status with
  | none => simp [counts, h]
  | some s =>
    cases observed : s.observedGeneration <;> cases ready : s.controllerReadyReplicas <;>
      simp [counts, h, observed, ready]

/-- The counts of a cluster fit into their widths. -/
def IsSized (c : Cluster) : Prop :=
  ∀ count ∈ c.counts, count.width.holds count.value = true

theorem isSized_iff : c.IsSized ↔
    Width.i32.holds c.spec.pravega.controllerReplicas = true ∧ ∀ s ∈ c.status, s.IsSized := by
  rw [IsSized, forall_mem_counts]
  exact and_congr_right fun _ => forall₂_congr fun s _ => ⟨fun h => ⟨h.1, h.2⟩, fun h => ⟨h.observed, h.ready⟩⟩

/-- A count is an integer of its width, by the shape of clusters. -/
theorem at?_path : ∀ count ∈ c.counts, shape.at? count.path = some (.integer count.width) :=
  forall_mem_counts.mpr ⟨rfl, fun _ _ => ⟨fun _ _ => rfl, fun _ _ => rfl⟩⟩

/-- It is at its place in the value of the cluster. -/
theorem get_path : ∀ count ∈ c.counts, count.path.foldl Json.get c.toJson = .int count.value := by
  refine forall_mem_counts.mpr ⟨?_, fun s status => ⟨fun n observed => ?_, fun n ready => ?_⟩⟩
  · rfl
  · simp [observedPath, toJson, ClusterStatus.toJson, Json.lookup, Option.mem_def.mp status, Option.mem_def.mp observed]
  · simp [readyPath, toJson, ClusterStatus.toJson, Json.lookup, Option.mem_def.mp status, Option.mem_def.mp ready]

/-- What is read of a value has the count that is at its place there. -/
theorem replicas_ofJson {value : Json} {n : Int} (integer : replicasPath.foldl Json.get value = .int n) :
    (ofJson value).spec.pravega.controllerReplicas = n := by
  have own : ((value.get "spec").get "pravega").get "controllerReplicas" = .int n := integer
  show (((value.get "spec").get "pravega").intAt "controllerReplicas") = n
  rw [Json.intAt, Json.intAt?, own]
  rfl

theorem status_ofJson {value : Json} {key : String} {n : Int}
    (integer : ["status", key].foldl Json.get value = .int n) :
    ∃ s, (ofJson value).status = some s ∧ (key = "observedGeneration" → s.observedGeneration = some n) ∧
      (key = "controllerReadyReplicas" → s.controllerReadyReplicas = some n) := by
  have own : (value.get "status").intAt? key = some n := by
    rw [Json.intAt?, show (value.get "status").get key = .int n from integer, Json.asInt?_int]
  have there : value.recordAt? "status" = some (value.get "status") := by
    rw [Json.recordAt?]
    cases status : value.get "status" with
    | obj members => rfl
    | _ =>
      rw [status] at own
      cases own
  refine ⟨ClusterStatus.ofJson (value.get "status"), by rw [ofJson, there, Option.map_some], ?_, ?_⟩
  · rintro rfl
    exact own
  · rintro rfl
    exact own

/-- **A cluster is decoded from its own value** exactly if its counts fit into their
widths, and then it is decoded to itself. -/
theorem decode_toJson_iff (readable : c.metadata.IsReadable isOrdered 2) :
    ((∃ loaded, codec.decode c.toJson = .ok loaded) ↔ c.IsSized) ∧
      ∀ loaded, codec.decode c.toJson = .ok loaded → loaded = c := by
  have fit : (∃ loaded, codec.decode c.toJson = .ok loaded) → c.IsSized := by
    intro decodes count mem
    obtain ⟨made, own⟩ := Codec.decodes_iff.mp decodes
    exact holds_of_foldl (at?_path count mem) own (get_path count mem)
  have restored (sized : c.IsSized) : codec.decode c.toJson = .ok c := by
    obtain ⟨replicas, status⟩ := isSized_iff.mp sized
    exact restores ⟨readable, replicas, status⟩
  refine ⟨⟨fit, fun sized => ⟨c, restored sized⟩⟩, fun loaded same => ?_⟩
  cases same.symm.trans (restored (fit ⟨loaded, same⟩))
  rfl

end Cluster

/-- What can be read of metadata in YAML is in order, as it must be in JSON. -/
theorem Metadata.IsReadable.ordered {m : Metadata} {depth : Nat} (readable : m.IsReadable readsAny depth) :
    m.IsReadable isOrdered depth where
  grace := readable.grace
  generation := readable.generation
  creation := readable.creation
  deletion := readable.deletion
  managers items mem f member :=
    have own := readable.managers items mem f member
    ⟨fun v there => ⟨(own.fields v there).1.2.2, (own.fields v there).2⟩, own.time⟩

end ControllerSynthesis
