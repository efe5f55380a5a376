/-
# The precedence of versions is a total preorder

`Version.precedence` is built from comparisons of numbers and from dictionary
orders. Each of its layers is brought into the form of a comparison by a key
followed by another comparison, and for these the laws of an order are known:
segments are compared by whether they are numbers, then by the length of those
that are, then by their characters; pre-releases by whether there is none, then
segment by segment. So versions are compared consistently whatever the length of
the pre-releases, and two of them come out equal exactly if they agree but for
the build metadata.

The six comparisons of texts read this one order.

Key theorems: `Version.precedence_trans`, `Version.precedence_eq_iff`,
`Version.segmented_pre`, `Version.compareWith_totalPreorder`.
-/
import ControllerSynthesis.Proofs.Version.Canonical
import ControllerSynthesis.Version.Comparison

namespace ControllerSynthesis.Version

open Std

/-! ### Dictionary orders -/

theorem lexicographic_eq_compareLex {α : Type} (order : α → α → Ordering) :
    ∀ as bs : List α, lexicographic order as bs = List.compareLex order as bs
  | [], [] => rfl
  | [], _ :: _ => rfl
  | _ :: _, [] => rfl
  | a :: as, b :: bs => by
    rw [lexicographic, List.compareLex_cons_cons, lexicographic_eq_compareLex order as bs]

theorem lexicographic_eq {α : Type} (order : α → α → Ordering) :
    lexicographic order = List.compareLex order :=
  funext fun as => funext fun bs => lexicographic_eq_compareLex order as bs

theorem charOrder_eq : charOrder = compareOn Char.toNat := rfl

instance : TransCmp charOrder := by
  rw [charOrder_eq]
  infer_instance

instance : LawfulEqCmp charOrder where
  compare_self {a} := Nat.compare_eq_eq.mpr (Eq.refl a.toNat)
  eq_of_compare h := Char.toNat_inj.mp (Nat.compare_eq_eq.mp h)

instance : TransCmp (lexicographic charOrder) := by
  rw [lexicographic_eq]
  infer_instance

instance : LawfulEqCmp (lexicographic charOrder) := by
  rw [lexicographic_eq]
  infer_instance

/-! ### Segments and pre-releases -/

/-- The length of a segment that is a number; the others count as equally long. -/
def numberLength (a : List Char) : Nat :=
  if a.all Digits.isDecimal then a.length else 0

/-- Segments are compared by whether they are numbers, then by the length of the
numbers, then by their characters. -/
theorem segmentOrder_eq : segmentOrder =
    compareLex (compareOn fun a : List Char => !a.all Digits.isDecimal)
      (compareLex (compareOn numberLength) (lexicographic charOrder)) := by
  funext a b
  cases ha : a.all Digits.isDecimal <;> cases hb : b.all Digits.isDecimal
  case false.false => simp [segmentOrder, compareLex, compareOn, numberLength, ha, hb]
  case true.true => simp [segmentOrder, compareLex, compareOn, numberLength, ha, hb]
  case false.true =>
    simp only [segmentOrder, compareLex, compareOn, ha, hb]
    rfl
  case true.false =>
    simp only [segmentOrder, compareLex, compareOn, ha, hb]
    rfl

instance : TransCmp segmentOrder := by
  rw [segmentOrder_eq]
  infer_instance

instance : LawfulEqCmp segmentOrder where
  compare_self {a} := by
    rw [segmentOrder_eq]
    exact ReflCmp.compare_self
  eq_of_compare {a b} h := by
    rw [segmentOrder_eq, compareLex_eq_eq, compareLex_eq_eq] at h
    exact LawfulEqCmp.eq_of_compare h.2.2

instance : TransCmp (lexicographic segmentOrder) := by
  rw [lexicographic_eq]
  infer_instance

instance : LawfulEqCmp (lexicographic segmentOrder) := by
  rw [lexicographic_eq]
  infer_instance

/-- Pre-releases are compared by whether there is none, then segment by segment. -/
theorem preOrder_eq : preOrder =
    compareLex (compareOn fun p : List (List Char) => p.isEmpty) (lexicographic segmentOrder) := by
  funext a b
  cases a <;> cases b <;> rfl

instance : TransCmp preOrder := by
  rw [preOrder_eq]
  infer_instance

instance : LawfulEqCmp preOrder where
  compare_self {a} := by
    rw [preOrder_eq]
    exact ReflCmp.compare_self
  eq_of_compare {a b} h := by
    rw [preOrder_eq, compareLex_eq_eq] at h
    exact LawfulEqCmp.eq_of_compare h.2

/-! ### Versions -/

/-- Versions are compared by the three numbers, then by the pre-release. -/
theorem precedence_eq : precedence =
    compareLex (compareOn major) (compareLex (compareOn minor)
      (compareLex (compareOn patch) fun v w => preOrder v.pre w.pre)) := rfl

instance : TransCmp fun v w : Version => preOrder v.pre w.pre where
  eq_swap {v w} := by
    have swap : preOrder v.pre w.pre = (preOrder w.pre v.pre).swap := OrientedCmp.eq_swap
    exact swap
  isLE_trans {u v w} huv hvw := by
    have trans : (preOrder u.pre w.pre).isLE := TransCmp.isLE_trans huv hvw
    exact trans

instance : TransCmp precedence := by
  rw [precedence_eq]
  infer_instance

/-- **The precedence is transitive**, and strictly so if one of the two steps is
strict. -/
theorem precedence_trans {u v w : Version} (huv : precedence u v ≠ .gt) (hvw : precedence v w ≠ .gt) :
    precedence u w ≠ .gt ∧
      (precedence u v = .lt ∨ precedence v w = .lt → precedence u w = .lt) := by
  have first : (precedence u v).isLE := Ordering.ne_gt_iff_isLE.mp huv
  have second : (precedence v w).isLE := Ordering.ne_gt_iff_isLE.mp hvw
  refine ⟨Ordering.ne_gt_iff_isLE.mpr (TransCmp.isLE_trans first second), ?_⟩
  rintro (h | h)
  · exact TransCmp.lt_of_lt_of_isLE h second
  · exact TransCmp.lt_of_isLE_of_lt first h

/-- **Versions are equal in precedence exactly if they agree but for the build
metadata.** -/
theorem precedence_eq_iff (v w : Version) : precedence v w = .eq ↔
    v.major = w.major ∧ v.minor = w.minor ∧ v.patch = w.patch ∧ v.pre = w.pre := by
  rw [precedence_eq]
  simp only [compareLex_eq_eq, compareOn, Nat.compare_eq_eq]
  have pre : preOrder v.pre w.pre = .eq ↔ v.pre = w.pre :=
    ⟨LawfulEqCmp.eq_of_compare, fun h => h ▸ ReflCmp.compare_self⟩
  rw [pre]

/-! ### The text of a pre-release -/

/-- Whether the segments are what stands between the dots of a text. -/
def Segmented (segments : List (List Char)) : Prop :=
  ∀ word ∈ segments, word ≠ [] ∧ '.' ∉ word

/-- Segments are determined by their text. -/
theorem joined_inj {us vs : List (List Char)} (hu : Segmented us) (hv : Segmented vs)
    (h : joined us = joined vs) : us = vs := by
  have split {ws : List (List Char)} (hw : Segmented ws) (nonempty : ws ≠ []) :
      (joined ws).splitOn '.' = ws :=
    List.splitOn_intercalate '.' (fun w m => (hw w m).2) nonempty
  have nothing {ws : List (List Char)} (hw : Segmented ws) (empty : joined ws = []) : ws = [] := by
    cases ws with
    | nil => rfl
    | cons w ws =>
      have unsplit := split hw (List.cons_ne_nil w ws)
      rw [empty] at unsplit
      exact absurd rfl (hw [] (unsplit ▸ List.mem_singleton.mpr rfl)).1
  by_cases hus : us = []
  · subst hus
    exact (nothing hv h.symm).symm
  · by_cases hvs : vs = []
    · subst hvs
      exact nothing hu h
    · rw [← split hu hus, h, split hv hvs]

theorem ne_dot_of_isSegmentChar {c : Char} (h : isSegmentChar c = true) : c ≠ '.' := by
  rintro rfl
  revert h
  decide

theorem segmented_of_isWellFormed {v : Version} (wellFormed : v.IsWellFormed) : Segmented v.pre := by
  intro word mem
  obtain ⟨nonempty, inside⟩ := (wellFormed.pre word mem).1
  exact ⟨nonempty, fun dot => ne_dot_of_isSegmentChar (inside '.' dot) rfl⟩

/-- The pre-release of a version that is read is determined by its text. -/
theorem segmented_pre {raw : String} {v : Version} (h : ofText raw = .ok v) : Segmented v.pre := by
  unfold ofText at h
  split at h
  · rename_i read
    cases h
    exact segmented_of_isWellFormed (read_eq_ok.mp read).1
  · contradiction

/-! ### Comparing texts -/

/-- Texts that are versions compare as these do. -/
theorem compareWith_of_ofText {a b : String} {v w : Version} (ha : ofText a = .ok v)
    (hb : ofText b = .ok w) (comparison : Comparison) :
    compareWith a b comparison = .ok (comparison.admits (precedence v w)) := by
  simp only [compareWith, ha, hb]
  rfl

/-- **Comparing versions by text is a total preorder, which the six comparisons
read consistently.** Exactly one of less, equal and greater holds; the other three
are their negations; less and greater are each other's converse; not to be greater
is transitive, strictly if one of the steps is strict; texts are equal exactly if
their versions agree in the numbers and in the text of the pre-release; and nothing
else of a text ever counts. -/
theorem compareWith_totalPreorder {a b c : String} {u v w : Version} (ha : ofText a = .ok u)
    (hb : ofText b = .ok v) (hc : ofText c = .ok w) :
    (compareWith a b .less = .ok true ∧ compareWith a b .equal = .ok false ∧
        compareWith a b .greater = .ok false ∨
      compareWith a b .less = .ok false ∧ compareWith a b .equal = .ok true ∧
        compareWith a b .greater = .ok false ∨
      compareWith a b .less = .ok false ∧ compareWith a b .equal = .ok false ∧
        compareWith a b .greater = .ok true) ∧
    (compareWith a b .notEqual = (compareWith a b .equal).map not ∧
      compareWith a b .greaterOrEqual = (compareWith a b .less).map not ∧
      compareWith a b .lessOrEqual = (compareWith a b .greater).map not) ∧
    compareWith a b .less = compareWith b a .greater ∧
    (compareWith a b .lessOrEqual = .ok true → compareWith b c .lessOrEqual = .ok true →
      compareWith a c .lessOrEqual = .ok true ∧
      (compareWith a b .less = .ok true ∨ compareWith b c .less = .ok true →
        compareWith a c .less = .ok true)) ∧
    (compareWith a b .equal = .ok true ↔
      u.major = v.major ∧ u.minor = v.minor ∧ u.patch = v.patch ∧ joined u.pre = joined v.pre) ∧
    (∀ (a' : String) (u' : Version), ofText a' = .ok u' → u'.major = u.major → u'.minor = u.minor →
      u'.patch = u.patch → joined u'.pre = joined u.pre → ∀ comparison : Comparison,
      compareWith a' b comparison = compareWith a b comparison ∧
        compareWith b a' comparison = compareWith b a comparison) := by
  have text : joined u.pre = joined v.pre ↔ u.pre = v.pre :=
    ⟨joined_inj (segmented_pre ha) (segmented_pre hb), congrArg joined⟩
  have swap : precedence v u = (precedence u v).swap := OrientedCmp.eq_swap
  simp only [compareWith_of_ofText ha hb, compareWith_of_ofText hb ha, compareWith_of_ofText hb hc,
    compareWith_of_ofText ha hc, Except.ok.injEq, Except.map, Comparison.admits, beq_iff_eq, bne_iff_ne]
  refine ⟨?_, ?_, ?_, precedence_trans, ?_, ?_⟩
  · cases precedence u v <;> decide
  · cases precedence u v <;> decide
  · rw [swap]
    cases precedence u v <;> rfl
  · rw [precedence_eq_iff, text]
  · intro a' u' ha' major minor patch pre comparison
    have samePre : u'.pre = u.pre := joined_inj (segmented_pre ha') (segmented_pre ha) pre
    have below : precedence u' v = precedence u v := by
      simp only [precedence, major, minor, patch, samePre]
    have above : precedence v u' = precedence v u := by
      simp only [precedence, major, minor, patch, samePre]
    rw [compareWith_of_ofText ha' hb, compareWith_of_ofText hb ha', below, above]
    exact ⟨rfl, rfl⟩

/-- A pre-release with build metadata, its release in another spelling, and a
later release with a pre-release of a longer number. -/
theorem compareWith_totalPreorder_releases :
    ofText "1.2.0-rc.9+b7" = .ok ⟨1, 2, 0, [['r', 'c'], ['9']], [['b', '7']]⟩ ∧
    ofText " v1.2 " = .ok ⟨1, 2, 0, [], []⟩ ∧
    ofText "1.2.1-10" = .ok ⟨1, 2, 1, [['1', '0']], []⟩ ∧
    compareWith "1.2.0-rc.9+b7" "1.2.1-10" .less = .ok true := by
  have first : ofText "1.2.0-rc.9+b7" = .ok ⟨1, 2, 0, [['r', 'c'], ['9']], [['b', '7']]⟩ := rfl
  have second : ofText " v1.2 " = .ok ⟨1, 2, 0, [], []⟩ := rfl
  have third : ofText "1.2.1-10" = .ok ⟨1, 2, 1, [['1', '0']], []⟩ := rfl
  have steps := (compareWith_totalPreorder first second third).2.2.2.1
  exact ⟨first, second, third,
    (steps (rfl) (rfl)).2 (.inl (rfl))⟩

end ControllerSynthesis.Version
