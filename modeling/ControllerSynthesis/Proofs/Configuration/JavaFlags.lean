/-
# The flags of the controller's virtual machine

With the default settings the flags are the baseline, the property with the name
of the cluster, the flags for containers if the version of the cluster is one that
has them, and one property for each option, in ascending order of the names. The
flags for containers are given all or none: from release `0.4.0` on, not for its
pre-releases, and never for a text that is no version.

Key theorems: `gatedFlags_eq`, `javaFlags_default`.
-/
import ControllerSynthesis.Proofs.KeyMap
import ControllerSynthesis.Proofs.Version.Gate
import ControllerSynthesis.Synthesis.Configuration

namespace ControllerSynthesis

open Version (ofText Reaches)

/-- The gated flags are all there or none is. -/
theorem gatedFlags_eq_of_gate {spec : ClusterSpec} {jvm : JvmSettings} :
    (Version.gate spec.version jvm.gatedMinVersion .greaterOrEqual = true →
      gatedFlags spec jvm = jvm.gated) ∧
    (Version.gate spec.version jvm.gatedMinVersion .greaterOrEqual ≠ true →
      gatedFlags spec jvm = []) := by
  constructor
  · intro opened
    rw [gatedFlags, if_pos opened]
  · intro closed
    rw [gatedFlags, if_neg closed]

/-- The gated flags are there exactly from a release on. -/
theorem gatedFlags_eq {spec : ClusterSpec} {jvm : JvmSettings} {t : Version}
    (ht : ofText jvm.gatedMinVersion = .ok t) (release : t.pre = []) :
    ((∃ v, ofText spec.version = .ok v ∧ v.Reaches t) → gatedFlags spec jvm = jvm.gated) ∧
    ((¬ ∃ v, ofText spec.version = .ok v ∧ v.Reaches t) → gatedFlags spec jvm = []) := by
  rw [← Version.gate_iff_reaches ht release]
  exact gatedFlags_eq_of_gate

/-- Where gated flags are given the gate is open. -/
theorem gate_of_gatedFlags {spec : ClusterSpec} {jvm : JvmSettings} (given : gatedFlags spec jvm ≠ []) :
    Version.gate spec.version jvm.gatedMinVersion .greaterOrEqual = true := by
  by_cases opened : Version.gate spec.version jvm.gatedMinVersion .greaterOrEqual = true
  · exact opened
  · exact absurd (gatedFlags_eq_of_gate.2 opened) given

/-- **The flags with the default settings, exactly.** The options come in
ascending order of their names, each with its value. The flags for containers
depend on the version alone: they are there if it is read as a version that comes
after `0.4.0` by its numbers, with any pre-release, or as `0.4.0` without one, and
not otherwise. If they are there for a version they are for every later one. -/
theorem javaFlags_default (cluster : String) (spec : ClusterSpec) :
    javaFlags cluster spec {} =
      ["-Xms512m", "-XX:+ExitOnOutOfMemoryError", "-XX:+CrashOnOutOfMemoryError",
        "-XX:+HeapDumpOnOutOfMemoryError"] ++
      ["-D" ++ "pravegaservice.clusterName" ++ "=" ++ cluster] ++ gatedFlags spec {} ++
      spec.pravega.options.entries.map (fun e => "-D" ++ e.1 ++ "=" ++ e.2) ∧
    spec.pravega.options.entries.Pairwise (fun a b => a.1 < b.1) ∧
    (∀ name value, (name, value) ∈ spec.pravega.options.entries ↔
      spec.pravega.options.get? name = some value) ∧
    ((∃ v, ofText spec.version = .ok v ∧ v.Reaches ⟨0, 4, 0, [], []⟩) →
      gatedFlags spec {} = ["-XX:+UnlockExperimentalVMOptions", "-XX:+UseCGroupMemoryLimitForHeap",
        "-XX:MaxRAMFraction=2"]) ∧
    ((¬ ∃ v, ofText spec.version = .ok v ∧ v.Reaches ⟨0, 4, 0, [], []⟩) → gatedFlags spec {} = []) ∧
    (∀ later : ClusterSpec, gatedFlags spec {} ≠ [] →
      Version.compareTexts later.version spec.version ">=" = .ok true →
      gatedFlags later {} = gatedFlags spec {}) := by
  have threshold : ofText (JvmSettings.gatedMinVersion {}) = .ok ⟨0, 4, 0, [], []⟩ := rfl
  have gating : ((∃ v, ofText spec.version = .ok v ∧ v.Reaches ⟨0, 4, 0, [], []⟩) → _) ∧ _ :=
    gatedFlags_eq threshold rfl
  refine ⟨rfl, spec.pravega.options.ascending, spec.pravega.options.mem_entries_iff, gating.1,
    gating.2, ?_⟩
  intro later given after
  have opened := gate_of_gatedFlags given
  rw [gatedFlags_eq_of_gate.1 opened]
  exact gatedFlags_eq_of_gate.1 (Version.gate_mono opened after)

end ControllerSynthesis
