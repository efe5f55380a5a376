/-
# What a gate lets through

A gate that asks for a release and everything after it lets a text through exactly
if the text is a version whose numbers come after those of the release, with any
pre-release, or are the same, with none: the pre-releases of the threshold itself
come before it. A text that is no version never passes. Gates are monotone: what
is at least as late as a version that passes, passes.

Key definitions: `Version.Outnumbers`, `Version.Reaches`.
Key theorems: `Version.gate_iff_reaches`, `Version.gate_mono`.
-/
import ControllerSynthesis.Proofs.Version.Precedence

namespace ControllerSynthesis.Version

open Std

/-- The numbers of `v` come after those of `t`, the first difference deciding. -/
def Outnumbers (v t : Version) : Prop :=
  t.major < v.major ∨ t.major = v.major ∧
    (t.minor < v.minor ∨ t.minor = v.minor ∧ t.patch < v.patch)

/-- The version comes after the release `t`, as a release or as a pre-release of
a later one, or is that release. -/
def Reaches (v t : Version) : Prop :=
  v.Outnumbers t ∨ (v.major = t.major ∧ v.minor = t.minor ∧ v.patch = t.patch) ∧ v.pre = []

theorem preOrder_nil_ne_lt (pre : List (List Char)) : preOrder pre [] ≠ .lt ↔ pre = [] := by
  cases pre <;> simp [preOrder]

theorem then_compare_ne_lt (a b : Nat) (rest : Ordering) :
    (compare a b).then rest ≠ .lt ↔ b < a ∨ b = a ∧ rest ≠ .lt := by
  rcases Nat.lt_trichotomy a b with h | h | h
  · rw [Nat.compare_eq_lt.mpr h]
    simp only [Ordering.then_eq_lt, ne_eq, true_or, not_true_eq_false, false_iff, not_or, not_and]
    omega
  · rw [Nat.compare_eq_eq.mpr h]
    simp [h]
  · rw [Nat.compare_eq_gt.mpr h]
    simp [h]

/-- A version is not before a release exactly if it reaches it. -/
theorem precedence_ne_lt_iff {v t : Version} (release : t.pre = []) :
    precedence v t ≠ .lt ↔ v.Reaches t := by
  rw [precedence, release, then_compare_ne_lt, then_compare_ne_lt, then_compare_ne_lt,
    preOrder_nil_ne_lt]
  unfold Reaches Outnumbers
  by_cases none : v.pre = []
  · simp only [none, and_true]
    omega
  · simp only [none, and_false, or_false]

/-- A gate is open exactly if both texts are versions that compare as asked. -/
theorem gate_iff {version threshold : String} {comparison : Comparison} {t : Version}
    (ht : ofText threshold = .ok t) : gate version threshold comparison = true ↔
      ∃ v, ofText version = .ok v ∧ comparison.admits (precedence v t) = true := by
  cases hv : ofText version with
  | error e =>
    have closed : compareWith version threshold comparison = .error e := by
      simp only [compareWith, hv]
      rfl
    simp [gate, closed]
  | ok v => simp [gate, compareWith_of_ofText hv ht]

/-- **A gate on a release lets through exactly what reaches it.** -/
theorem gate_iff_reaches {version threshold : String} {t : Version}
    (ht : ofText threshold = .ok t) (release : t.pre = []) :
    gate version threshold .greaterOrEqual = true ↔ ∃ v, ofText version = .ok v ∧ v.Reaches t := by
  simp only [gate_iff ht, Comparison.admits, bne_iff_ne, precedence_ne_lt_iff release]

/-- The comparison that a text of an operator names decides, and both texts are
versions if it is answered. -/
theorem compareTexts_eq_ok {version threshold operator : String} {comparison : Comparison}
    (named : Comparison.parse? operator = some comparison) {answer : Bool}
    (h : compareTexts version threshold operator = .ok answer) :
    ∃ v t, ofText version = .ok v ∧ ofText threshold = .ok t ∧
      answer = comparison.admits (precedence v t) := by
  simp only [compareTexts, named] at h
  obtain ⟨v, hv, h⟩ := bind_eq_ok.mp h
  obtain ⟨t, ht, h⟩ := bind_eq_ok.mp h
  exact ⟨v, t, hv, ht, (Except.ok.inj h).symm⟩

/-- **Gates are monotone.** -/
theorem gate_mono {version later threshold : String}
    (passes : gate version threshold .greaterOrEqual = true)
    (after : compareTexts later version ">=" = .ok true) :
    gate later threshold .greaterOrEqual = true := by
  have named : Comparison.parse? ">=" = some .greaterOrEqual := rfl
  obtain ⟨w, v, hw, hv, admitted⟩ := compareTexts_eq_ok named after
  cases ht : ofText threshold with
  | error e =>
    have closed : compareWith version threshold .greaterOrEqual = .error e := by
      simp only [compareWith, hv, ht]
      rfl
    simp [gate, closed] at passes
  | ok t =>
    obtain ⟨v', hv', reached⟩ := (gate_iff ht).mp passes
    obtain rfl : v = v' := Except.ok.inj (hv.symm.trans hv')
    have reversed {x y : Version} (h : Comparison.admits .greaterOrEqual (precedence x y) = true) :
        precedence y x ≠ .gt := by
      have swap : precedence y x = (precedence x y).swap := OrientedCmp.eq_swap
      rw [swap]
      revert h
      cases precedence x y <;> decide
    have below : precedence t w ≠ .gt := (precedence_trans (reversed reached) (reversed admitted.symm)).1
    refine (gate_iff ht).mpr ⟨w, hw, ?_⟩
    have swap : precedence w t = (precedence t w).swap := OrientedCmp.eq_swap
    rw [swap]
    revert below
    cases precedence t w <;> decide

end ControllerSynthesis.Version
