/-
# What the written words mean

The digits of an integer, after a minus sign if it is negative, mean this integer
and may be written plain, as may the words for null and for the truth values.

Key theorems: `Yaml.integer?_ofInt`, `Yaml.meaning_ofInt`, `Yaml.allowsPlain_ofInt`.
-/
import ControllerSynthesis.Proofs.Number.Digits
import ControllerSynthesis.Proofs.Yaml.PlainText

namespace ControllerSynthesis.Yaml

open Digits

/-! ### Digits -/

theorem forall_mem_ofNat {P : Char → Prop} (digits : ∀ d : Fin 10, P (char d)) (n : Nat) :
    ∀ c ∈ ofNat 10 n, P c := by
  intro c mem
  rcases mem_push (by decide) mem with mem | ⟨d, bound, rfl⟩
  · simp at mem
  · exact digits ⟨d, bound⟩

/-- Digits without a zero in front of others are their value. -/
theorem magnitude?_ofNat (n : Nat) : magnitude? (ofNat 10 n) = some n := by
  have value := @toNat?_ofNat 10 (by decide) (by decide) n
  rcases ofNat_cons n with zero | ⟨c, cs, same, first⟩
  · rw [zero] at value ⊢
    exact value
  · have unpadded : isZeroPadded (c :: cs) = false := by
      unfold isZeroPadded
      split
      · rename_i h
        exact absurd (List.cons.inj h).1 first
      · rfl
    rw [same] at value ⊢
    unfold magnitude?
    split
    · rename_i h
      exact absurd (List.cons.inj h).1 first
    · rename_i h
      exact absurd (List.cons.inj h).1 first
    · rename_i h
      exact absurd (List.cons.inj h).1 first
    · rw [if_neg (by simp [unpadded]), value]

/-! ### Integers -/

/-- **The digits of an integer are read back.** -/
theorem integer?_ofInt (z : Int) : integer? (ofInt z) = some z := by
  obtain ⟨n, ⟨same, rfl⟩ | ⟨same, rfl⟩⟩ := ofInt_eq z
  · obtain ⟨c, cs, digits, first⟩ := exists_cons_ofNat n
    have value := magnitude?_ofNat n
    rw [digits] at value
    rw [same, digits]
    unfold integer?
    split
    · rename_i h
      exact absurd (List.cons.inj h).1 (ne_of_isDecimal first (by decide))
    · rename_i h
      exact absurd (List.cons.inj h).1 (ne_of_isDecimal first (by decide))
    · rw [value]
      rfl
  · rw [same, integer?, magnitude?_ofNat]
    rfl

/-- A text that begins like a number is no word, so it means its integer. -/
theorem meaning_of_integer? {c : Char} {cs : List Char} {z : Int} (sign : c = '-' ∨ isDecimal c = true)
    (value : integer? (c :: cs) = some z) (size : isIntegerSize z = true) :
    meaning (c :: cs) = .integer z := by
  have ne (d : Char) (other : isDecimal d = false) (minus : d ≠ '-') : c ≠ d := by
    rcases sign with rfl | digit
    · exact minus.symm
    · exact ne_of_isDecimal digit other
  have null : isNull (c :: cs) = false := by
    simp [isNull, ne '~' (by decide) (by decide), ne 'n' (by decide) (by decide),
      ne 'N' (by decide) (by decide)]
  have flag : flag? (c :: cs) = none := by
    simp [flag?, ne 't' (by decide) (by decide), ne 'T' (by decide) (by decide),
      ne 'f' (by decide) (by decide), ne 'F' (by decide) (by decide)]
  simp [meaning, null, flag, value, Option.filter, size]

/-- **The digits of an integer mean the integer**, if it is not too large. -/
theorem meaning_ofInt {z : Int} (size : isIntegerSize z = true) : meaning (ofInt z) = .integer z := by
  have value := integer?_ofInt z
  obtain ⟨n, ⟨same, -⟩ | ⟨same, -⟩⟩ := ofInt_eq z
  · obtain ⟨c, cs, digits, first⟩ := exists_cons_ofNat n
    rw [same, digits] at value ⊢
    exact meaning_of_integer? (.inr first) value size
  · rw [same] at value ⊢
    exact meaning_of_integer? (.inl rfl) value size

/-! ### The plain style -/

theorem breaksOff_of_forall : ∀ {text : List Char} (before : Char),
    (∀ c ∈ text, c ≠ ':' ∧ c ≠ '#') → breaksOff before text = false
  | [], _, _ => rfl
  | c :: cs, before, h => by
    obtain ⟨colon, sign⟩ := h c (by simp)
    have later := breaksOff_of_forall c fun d mem => h d (List.mem_cons_of_mem _ mem)
    simp [breaksOff, colon, sign, later]

theorem endsWith_of_forall {q : Char → Bool} {text : List Char} (h : ∀ c ∈ text, q c = false) :
    endsWith q text = false := by
  cases ends : endsWith q text with
  | false => rfl
  | true =>
    obtain ⟨front, c, rfl, holds⟩ := exists_append_of_endsWith ends
    exact absurd holds (by simp [h c (by simp)])

/-- The characters that are not special inside a plain text. -/
def isInner (c : Char) : Bool :=
  isShown c && !isGap c && c != ':' && c != '#'

theorem isInner_iff {c : Char} :
    isInner c = true ↔ isShown c = true ∧ isSpace c = false ∧ isBreak c = false ∧ c ≠ ':' ∧ c ≠ '#' := by
  unfold isInner isGap isBlank isSpace
  simp only [Bool.and_eq_true, Bool.not_eq_true', Bool.or_eq_false_iff, bne_iff_ne, beq_eq_false_iff_ne, and_assoc]
  constructor
  · rintro ⟨shown, noSpace, -, others⟩
    exact ⟨shown, noSpace, others⟩
  · rintro ⟨shown, noSpace, others⟩
    refine ⟨shown, noSpace, ?_, others⟩
    rintro rfl
    exact absurd shown (by decide)

/-- A text of such characters may be written plain if it does not begin like something
else. -/
theorem allowsPlain_of_inner {c : Char} {cs : List Char} (inner : ∀ d ∈ c :: cs, isInner d = true)
    (unmarked : beginsLikeMark (c :: cs) = false) (plain : beginsOtherwise (c :: cs) = false) :
    allowsPlain (c :: cs) = true := by
  have noSpace : ∀ d ∈ c :: cs, isSpace d = false := fun d mem => (isInner_iff.mp (inner d mem)).2.1
  refine allowsPlain_cons_iff.mpr ⟨fun d mem => (isInner_iff.mp (inner d mem)).1,
    fun d mem => (isInner_iff.mp (inner d mem)).2.2.1, ?_, endsWith_of_forall noSpace, unmarked, plain, ?_⟩
  · rintro rfl
    exact absurd (noSpace ' ' (by simp)) (by decide)
  · exact breaksOff_of_forall c fun d mem => (isInner_iff.mp (inner d (List.mem_cons_of_mem _ mem))).2.2.2

/-- The characters that are not special anywhere in a plain text. -/
def isOrdinary (c : Char) : Bool :=
  isInner c && !isOpening c && c != '?' && c != '-' && c != '.'

theorem isOrdinary_iff {c : Char} : isOrdinary c = true ↔
    isInner c = true ∧ isOpening c = false ∧ c ≠ '?' ∧ c ≠ '-' ∧ c ≠ '.' := by
  simp [isOrdinary, and_assoc]

theorem beginsOtherwise_of_ordinary {c : Char} (ordinary : isOrdinary c = true) (cs : List Char) :
    beginsOtherwise (c :: cs) = false := by
  obtain ⟨inner, opening, question, hyphen, -⟩ := isOrdinary_iff.mp ordinary
  have colon := (isInner_iff.mp inner).2.2.2.1
  simp [beginsOtherwise, opening, isOpeningBeforeGap, colon, question, hyphen]

/-- A text of ordinary characters may be written plain, as may one behind a hyphen. -/
theorem allowsPlain_of_ordinary {c : Char} {cs : List Char} (first : c = '-' ∧ cs ≠ [] ∨ isOrdinary c = true)
    (later : ∀ d ∈ cs, isOrdinary d = true) : allowsPlain (c :: cs) = true := by
  have inner : ∀ d ∈ c :: cs, isInner d = true := by
    intro d mem
    rcases List.mem_cons.mp mem with rfl | mem
    · rcases first with ⟨rfl, -⟩ | ordinary
      · decide
      · exact (isOrdinary_iff.mp ordinary).1
    · exact (isOrdinary_iff.mp (later d mem)).1
  refine allowsPlain_of_inner inner ?_ ?_
  · unfold beginsLikeMark
    split
    · rename_i h
      obtain ⟨-, rfl⟩ := List.cons.inj h
      exact absurd rfl (isOrdinary_iff.mp (later '-' (by simp))).2.2.2.1
    · rename_i h
      obtain ⟨rfl, rfl⟩ := List.cons.inj h
      exact absurd rfl (isOrdinary_iff.mp (later '.' (by simp))).2.2.2.2
    · rfl
  · rcases first with ⟨rfl, nonempty⟩ | ordinary
    · obtain ⟨d, ds, rfl⟩ := List.exists_cons_of_ne_nil nonempty
      have opening : isOpening '-' = false := by decide
      have noGap : isGap d = false := by
        have own := (isOrdinary_iff.mp (later d (by simp))).1
        simp only [isInner, Bool.and_eq_true, Bool.not_eq_true'] at own
        exact own.1.1.2
      simp [beginsOtherwise, opening, atGap, noGap]
    · exact beginsOtherwise_of_ordinary ordinary cs

/-- A text of inner characters may be written plain behind an ordinary one. -/
theorem allowsPlain_of_ordinary_head {c : Char} {cs : List Char} (first : isOrdinary c = true)
    (later : ∀ d ∈ cs, isInner d = true) : allowsPlain (c :: cs) = true := by
  obtain ⟨inner, -, -, hyphen, dot⟩ := isOrdinary_iff.mp first
  refine allowsPlain_of_inner (List.forall_mem_cons.mpr ⟨inner, later⟩) ?_ (beginsOtherwise_of_ordinary first cs)
  unfold beginsLikeMark
  split
  · rename_i h
    exact absurd (List.cons.inj h).1 hyphen
  · rename_i h
    exact absurd (List.cons.inj h).1 dot
  · rfl

/-- The digits of an integer may be written plain. -/
theorem allowsPlain_ofInt (z : Int) : allowsPlain (ofInt z) = true := by
  obtain ⟨n, ⟨same, -⟩ | ⟨same, -⟩⟩ := ofInt_eq z
  · have ordinary := forall_mem_ofNat (P := fun c => isOrdinary c = true) (by decide) n
    obtain ⟨c, cs, digits, -⟩ := exists_cons_ofNat n
    rw [digits] at ordinary
    rw [same, digits]
    exact allowsPlain_of_ordinary (.inr (ordinary c (by simp)))
      fun d mem => ordinary d (List.mem_cons_of_mem _ mem)
  · rw [same]
    exact allowsPlain_of_ordinary (.inl ⟨rfl, ofNat_ne_nil 10 n⟩)
      (forall_mem_ofNat (by decide) n)

end ControllerSynthesis.Yaml
