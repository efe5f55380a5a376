/-
# Clusters written and read again

The manifest of a cluster, read in a namespace that may be given, is the cluster
with its namespace filled in. So a reload in a session is a change of the namespace
and of nothing else, and it cannot fail. Every other change of a session does the
same in every namespace, apart from setting it. So a session with a reload in it
goes on as the session without it, in another namespace.

Times and what managers did are not asked for here, and the counts of a cluster
must fit into their widths. Both are kept by the changes of a session.

Key definitions: `Session.run`, `Session.inNamespace`, `Edit.namespaceAfter`.
Key theorems: `Manifest.read_write`, `Session.run_reload`, `Session.reload_roundTrip`.
-/
import ControllerSynthesis.Proofs.Cluster.Canonical
import ControllerSynthesis.Proofs.Record.ReadYaml
import ControllerSynthesis.Session

namespace ControllerSynthesis

namespace Manifest

/-- **The members of a cluster are read as the cluster, whatever stands in front of them**
under names that are no fields of clusters. -/
theorem read_write_behind {c : Cluster} (readable : c.IsReadable Record.readsAny) {marks : List (String × Json)}
    (unknown : ∀ m ∈ marks, m.1 ∉ Cluster.fields.keys) (whole : Json.membersExact marks = true)
    (given : Option String) : read (Yaml.write (.obj (marks ++ c.members))) given = .ok (place given c) := by
  have canonical : Cluster.fields.Canonical Record.readsAny 1 c.members :=
    Cluster.canonical_members readable
  have all : Json.membersExact (marks ++ c.members) = true := by
    refine Json.membersExact_iff.mpr fun m mem => ?_
    rcases List.mem_append.mp mem with mem | mem
    · exact Json.membersExact_iff.mp whole m mem
    · exact Json.isExact_of_isIntegral (Json.membersIntegral_iff.mp canonical.membersIntegral m mem)
  have value : Cluster.shape.ofYaml (Yaml.write (.obj (marks ++ c.members))) = .ok (.obj c.members) := by
    rw [Cluster.shape_eq]
    exact Record.ofYaml_write all (List.append_ne_nil_of_right_ne_nil _ (List.cons_ne_nil _ _)) fun _ =>
      (Record.yamlFormat_reads _).decode_record_behind canonical unknown
  rw [read, value, Except.map, Cluster.ofJson_members readable]

/-- **A manifest is read as the cluster it was written for**, in the namespace that
is given, in its own or in the default one. -/
theorem read_write_readable {c : Cluster} (readable : c.IsReadable Record.readsAny) (given : Option String) :
    read (write c) given = .ok (place given c) := by
  rw [write, Cluster.toJson_eq]
  exact read_write_behind readable Cluster.marks_not_mem_keys rfl given

theorem read_write {c : Cluster} (plain : c.IsPlain) (given : Option String) :
    read (write c) given = .ok (place given c) :=
  read_write_readable plain.isReadable given

end Manifest

/-! ### Changes -/

/-- Whether the number of replicas that a change sets fits into its width. -/
def Edit.IsSized : Edit → Prop
  | .replicas value => Record.Width.i32.holds value = true
  | _ => True

/-- The namespace of a cluster after a change, from the one before it. -/
def Edit.namespaceAfter (own : Option String) : Edit → Option String
  | .namespaceName value => value
  | .reload given => some (Manifest.effectiveNamespace given own)
  | _ => own

namespace Session

/-- The session after a change, or as it was if the change fails. -/
def next (s : Session) (edit : Edit) : Session :=
  match s.apply edit with
  | .ok t => t
  | .error _ => s

/-- The session after changes, one after the other. -/
def run (s : Session) (edits : List Edit) : Session :=
  edits.foldl next s

/-- The session with its cluster in a namespace, or in none. -/
def inNamespace (s : Session) (ns : Option String) : Session :=
  s.withCluster { s.cluster with metadata.namespaceName := ns }

theorem run_append (s : Session) (a b : List Edit) : s.run (a ++ b) = (s.run a).run b :=
  List.foldl_append

theorem run_cons (s : Session) (edit : Edit) (edits : List Edit) : s.run (edit :: edits) = (s.next edit).run edits :=
  rfl

/-- **A reload sets the namespace** and changes nothing else. -/
theorem next_reload {s : Session} (plain : s.cluster.IsPlain) (given : Option String) :
    s.next (.reload given) =
      s.inNamespace (some (Manifest.effectiveNamespace given s.cluster.metadata.namespaceName)) := by
  have reloaded : s.apply (.reload given) = .ok (s.withCluster (Manifest.place given s.cluster)) := by
    rw [apply, Manifest.read_write plain given]
    rfl
  rw [next, reloaded]
  rfl

theorem isPlain_inNamespace {s : Session} (plain : s.cluster.IsPlain) (ns : Option String) :
    (s.inNamespace ns).cluster.IsPlain :=
  ⟨⟨plain.metadata.grace, plain.metadata.generation, plain.metadata.noCreation, plain.metadata.noDeletion,
    plain.metadata.noManagers⟩, plain.replicas, plain.status⟩

/-- What a manifest can carry stays so with a change. -/
theorem isPlain_next {s : Session} {edit : Edit} (plain : s.cluster.IsPlain) (sized : edit.IsSized) :
    (s.next edit).cluster.IsPlain := by
  cases edit with
  | replicas value => exact ⟨plain.metadata, sized, plain.status⟩
  | reload given =>
    rw [next_reload plain given]
    exact isPlain_inNamespace plain _
  | namespaceName value => exact isPlain_inNamespace plain value
  | name value =>
    exact ⟨⟨plain.metadata.grace, plain.metadata.generation, plain.metadata.noCreation,
      plain.metadata.noDeletion, plain.metadata.noManagers⟩, plain.replicas, plain.status⟩
  | _ => exact ⟨plain.metadata, plain.replicas, plain.status⟩

theorem isPlain_run {s : Session} (plain : s.cluster.IsPlain) : ∀ {edits : List Edit}, (∀ e ∈ edits, e.IsSized) →
    (s.run edits).cluster.IsPlain := by
  intro edits sized
  induction edits generalizing s with
  | nil => exact plain
  | cons edit edits ih =>
    exact ih (isPlain_next plain (sized edit List.mem_cons_self)) fun e mem => sized e (List.mem_cons_of_mem _ mem)

/-- A change does the same in every namespace. -/
theorem next_inNamespace {s : Session} (plain : s.cluster.IsPlain) (ns : Option String) (edit : Edit) :
    (s.inNamespace ns).next edit = (s.next edit).inNamespace (edit.namespaceAfter ns) := by
  cases edit with
  | reload given =>
    rw [next_reload plain given, next_reload (isPlain_inNamespace plain ns) given]
    rfl
  | _ => rfl

/-- So do changes one after the other. -/
theorem run_inNamespace {s : Session} (plain : s.cluster.IsPlain) {edits : List Edit} (sized : ∀ e ∈ edits, e.IsSized)
    (ns : Option String) :
    (s.inNamespace ns).run edits = (s.run edits).inNamespace (edits.foldl Edit.namespaceAfter ns) := by
  induction edits generalizing s ns with
  | nil => rfl
  | cons edit edits ih =>
    rw [run_cons, next_inNamespace plain ns edit]
    exact ih (isPlain_next plain (sized edit List.mem_cons_self))
      (fun e mem => sized e (List.mem_cons_of_mem _ mem)) _

/-- **A session with a reload in it goes on as the session without it**, in the
namespace that the reload sets, until that is changed. -/
theorem run_reload {s : Session} (plain : s.cluster.IsPlain) {before after : List Edit}
    (sized : ∀ e ∈ before ++ after, e.IsSized) (given : Option String) :
    s.run (before ++ .reload given :: after) =
      (s.run (before ++ after)).inNamespace (after.foldl Edit.namespaceAfter
        (some (Manifest.effectiveNamespace given (s.run before).cluster.metadata.namespaceName))) := by
  have reached : (s.run before).cluster.IsPlain :=
    isPlain_run plain fun e mem => sized e (List.mem_append_left _ mem)
  rw [run_append, run_append, run_cons, next_reload reached given]
  exact run_inNamespace reached (fun e mem => sized e (List.mem_append_right _ mem)) _

/-- **A reload fills in the namespace and loses nothing.** The cluster is read back
with its own namespace unless one is given, and with the default one if it has none.
Wherever the reload stands in a session, later changes lead where they would lead if
the namespace had been set there, and later objects are those of the session without
the reload, but for the namespace. -/
theorem reload_roundTrip (c : Cluster) (plain : c.IsPlain) :
    (∀ given : Option String, Manifest.read (Manifest.write c) given = .ok { c with
      metadata.namespaceName := some ((given.or c.metadata.namespaceName).getD "default") }) ∧
    ∀ (settings : Settings) (before after : List Edit), (∀ e ∈ before ++ after, e.IsSized) →
      ∀ (given : Option String) (ns : String),
      ns = (given.or (run ⟨c, settings⟩ before).cluster.metadata.namespaceName).getD "default" →
      run ⟨c, settings⟩ (before ++ .reload given :: after) =
          run ⟨c, settings⟩ (before ++ .namespaceName (some ns) :: after) ∧
        (run ⟨c, settings⟩ (before ++ .reload given :: after)).objects =
          ((run ⟨c, settings⟩ (before ++ after)).inNamespace
            (after.foldl Edit.namespaceAfter (some ns))).objects := by
  refine ⟨fun given => Manifest.read_write plain given, ?_⟩
  intro settings before after sized given ns same
  have start : (Session.mk c settings).cluster.IsPlain := plain
  have reached : (run ⟨c, settings⟩ before).cluster.IsPlain :=
    isPlain_run start fun e mem => sized e (List.mem_append_left _ mem)
  constructor
  · rw [run_append, run_append, run_cons, run_cons, next_reload reached given, same]
    rfl
  · rw [run_reload start sized given, same]
    rfl

/-- A cluster of texts that look like something else. -/
def lookalike : Cluster where
  metadata := { name := some "null", labels := some (KeyMap.ofList [("on", "---"), ("# 1", "a\n b")]) }
  spec := { version := "1.0", zookeeperUri := "zk: # 2181" }

theorem isPlain_lookalike : lookalike.IsPlain :=
  ⟨⟨nofun, nofun, rfl, rfl, rfl⟩, by decide, nofun⟩

theorem reload_roundTrip_lookalike :
    Manifest.read (Manifest.write lookalike) none =
        .ok { lookalike with metadata.namespaceName := some "default" } ∧
      (run ⟨lookalike, {}⟩ ([.replicas 3] ++ .reload none :: [.name (some "~")])).objects =
        ((run ⟨lookalike, {}⟩ ([.replicas 3] ++ [.name (some "~")])).inNamespace (some "default")).objects := by
  have sized : ∀ e ∈ [Edit.replicas 3] ++ [Edit.name (some "~")], e.IsSized := by
    intro e mem
    rcases List.mem_cons.mp mem with rfl | mem
    · exact (by decide : Record.Width.i32.holds 3 = true)
    · rw [List.mem_singleton.mp mem]
      trivial
  obtain ⟨read, session⟩ := reload_roundTrip lookalike isPlain_lookalike
  exact ⟨read none, (session {} _ _ sized none "default" rfl).2⟩

end Session

end ControllerSynthesis
