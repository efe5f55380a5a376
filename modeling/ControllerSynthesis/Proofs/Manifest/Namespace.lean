/-
# The namespace of a manifest that is read

A cluster is read in the namespace that is given, in its own, or in the default one: the
first of these that is there is taken, and it is not looked at whether it is empty. Where
it is not empty, this is the first of them that is not empty, and the namespace is never
what synthesis lacks. Where it is empty, the cluster is in the empty namespace, though its
own may be a better one, and nothing can be synthesized for it.

Key definitions: `Manifest.standing`, `Manifest.settledNamespace`.
Key theorems: `Manifest.read_eq_ok`, `Manifest.effectiveNamespace_eq_settled_iff`,
`Manifest.read_settles_namespace`.
-/
import ControllerSynthesis.Proofs.Steps
import ControllerSynthesis.Proofs.Manifest.RoundTrip
import ControllerSynthesis.Proofs.Synthesis.Required

namespace ControllerSynthesis.Manifest

/-- The cluster as it stands in a manifest. -/
def standing (text : String) : Record.Result Cluster :=
  (Cluster.shape.ofYaml text).map Cluster.ofJson

/-- The first namespace that is not empty of the one given, its own, and the default
one. -/
def settledNamespace (given own : Option String) : String :=
  ((nonEmpty? given).or (nonEmpty? own)).getD defaultNamespace

/-- What is read is the cluster of the manifest, in the effective namespace. -/
theorem read_eq_ok {text : String} {given : Option String} {c : Cluster} :
    read text given = .ok c ↔ ∃ m, standing text = .ok m ∧ place given m = c := by
  unfold read standing
  cases Cluster.shape.ofYaml text with
  | error why => simp [Except.map]
  | ok value => simp [Except.map]

theorem settledNamespace_ne_empty (given own : Option String) : settledNamespace given own ≠ "" := by
  unfold settledNamespace
  cases first : (nonEmpty? given).or (nonEmpty? own) with
  | none => exact (by decide : defaultNamespace ≠ "")
  | some ns =>
    rcases Option.or_eq_some_iff.mp first with found | ⟨-, found⟩
    · exact (nonEmpty?_eq_some.mp found).2
    · exact (nonEmpty?_eq_some.mp found).2

/-- **The effective namespace is the settled one** unless the first that is there is
empty. -/
theorem effectiveNamespace_eq_settled_iff {given own : Option String} :
    effectiveNamespace given own = settledNamespace given own ↔ given.or own ≠ some "" := by
  constructor
  · intro same empty
    apply settledNamespace_ne_empty given own
    rw [← same, effectiveNamespace, empty]
    rfl
  · intro there
    unfold effectiveNamespace settledNamespace
    cases given with
    | some ns =>
      have full : ns ≠ "" := fun empty => there (by rw [empty]; rfl)
      rw [nonEmpty?_eq_some.mpr ⟨rfl, full⟩]
      rfl
    | none =>
      cases own with
      | none => rfl
      | some ns =>
        have full : ns ≠ "" := fun empty => there (by rw [empty]; rfl)
        rw [nonEmpty?_eq_some.mpr ⟨rfl, full⟩]
        rfl

/-- **Reading settles the namespace, unless an empty one comes first.** What is read is
the cluster of the manifest in another namespace. Where the namespace given, or the
cluster's own if none is given, is not empty, this is the first of the one given, its own
and the default one that is not empty, and synthesis never lacks it. Where it is empty the
cluster is in the empty namespace, and synthesis fails for lack of it, or of the name. -/
theorem read_settles_namespace {text : String} {given : Option String} {c : Cluster}
    (loaded : read text given = .ok c) : ∃ m, standing text = .ok m ∧
      c = { m with metadata.namespaceName := c.metadata.namespaceName } ∧
      (given.or m.metadata.namespaceName ≠ some "" →
        c.metadata.namespaceName = some (settledNamespace given m.metadata.namespaceName) ∧
          settledNamespace given m.metadata.namespaceName ≠ "" ∧
          ∀ (settings : Settings) (fault : MissingField),
            synthesize c settings = .error fault → fault.field ≠ .namespaceName) ∧
      (given.or m.metadata.namespaceName = some "" →
        c.metadata.namespaceName = some "" ∧
          ∀ settings : Settings, ∃ fault, synthesize c settings = .error fault ∧
            (fault.field = .namespaceName ↔ c.Has .name)) := by
  obtain ⟨m, stands, rfl⟩ := read_eq_ok.mp loaded
  refine ⟨m, stands, rfl, ?_, ?_⟩
  · intro there
    have settled := effectiveNamespace_eq_settled_iff.mpr there
    have own : (place given m).metadata.namespaceName = some (settledNamespace given m.metadata.namespaceName) :=
      congrArg some settled
    have had : (place given m).Has .namespaceName := ⟨_, own, settledNamespace_ne_empty _ _⟩
    exact ⟨own, settledNamespace_ne_empty _ _, fun settings fault => field_ne_of_has had⟩
  · intro empty
    have own : (place given m).metadata.namespaceName = some "" := by
      show some ((given.or m.metadata.namespaceName).getD defaultNamespace) = some ""
      rw [empty]
      rfl
    have lacks : ¬ (place given m).Has .namespaceName := by
      rintro ⟨ns, same, full⟩
      rw [own] at same
      exact full (Option.some.inj same).symm
    exact ⟨own, fun settings => fails_of_no_namespace lacks⟩

/-- A cluster that is complete, in a namespace of its own. -/
def housed : Cluster where
  metadata := { name := some "demo", namespaceName := some "streaming" }
  spec := { version := "0.5.0", zookeeperUri := "zk:2181", pravega := { controllerResources := some {} } }

theorem isPlain_housed : housed.IsPlain :=
  ⟨⟨nofun, nofun, rfl, rfl, rfl⟩, by decide, nofun⟩

/-- Another namespace is taken instead of its own, and an empty one too. -/
theorem read_settles_namespace_housed :
    (read (write housed) (some "ops") = .ok (place (some "ops") housed) ∧
      (place (some "ops") housed).metadata.namespaceName = some "ops" ∧
      ∀ (settings : Settings) (fault : MissingField),
        synthesize (place (some "ops") housed) settings = .error fault → fault.field ≠ .namespaceName) ∧
    read (write housed) (some "") = .ok (place (some "") housed) ∧
      ∀ settings : Settings, ∃ fault, synthesize (place (some "") housed) settings = .error fault ∧
        (fault.field = .namespaceName ↔ (place (some "") housed).Has .name) := by
  have loaded := read_write isPlain_housed (some "ops")
  have loadedEmpty := read_write isPlain_housed (some "")
  obtain ⟨m, -, -, settles, -⟩ := read_settles_namespace loaded
  obtain ⟨m', -, -, -, fails⟩ := read_settles_namespace loadedEmpty
  have there : (some "ops").or m.metadata.namespaceName ≠ some "" := by simp
  exact ⟨⟨loaded, (settles there).1, (settles there).2.2⟩, loadedEmpty, (fails rfl).2⟩

/-- An empty namespace that is given hides the cluster's own, which would be the settled
one, and the cluster cannot be synthesized. -/
theorem read_empty_namespace : read (write housed) (some "") = .ok (place (some "") housed) ∧
    housed.metadata.namespaceName = some "streaming" ∧
    settledNamespace (some "") housed.metadata.namespaceName = "streaming" ∧
    (place (some "") housed).metadata.namespaceName = some "" ∧
    synthesize (place (some "") housed) {} = .error ⟨"demo", .namespaceName⟩ :=
  ⟨read_write isPlain_housed (some ""), rfl, by decide, rfl, rfl⟩

end ControllerSynthesis.Manifest
