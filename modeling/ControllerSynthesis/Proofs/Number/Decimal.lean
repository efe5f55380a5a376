/-
# Decimal numbers as text

The text of a decimal number has a digit at least, no other characters, and no zero in
front that it could do without; its value is the positional one. Each number has exactly
one such text, the digits that are written for it.

Key definitions: `Digits.worth`, `Digits.IsNumeral`.
Key theorems: `Digits.isNumeral_ofNat`, `Digits.eq_ofNat_worth`, `Digits.isNumeral_iff`.
-/
import ControllerSynthesis.Proofs.Number.Digits
import Mathlib.Data.List.Induction

namespace ControllerSynthesis.Digits

/-- The value of decimal digits that stand behind digits worth `value`. -/
def worth (value : Nat) (digits : List Char) : Nat :=
  digits.foldl (fun n c => n * 10 + decimal c) value

/-- Whether `text` is the decimal number `n`, without a zero in front that it could do
without. -/
structure IsNumeral (text : List Char) (n : Nat) : Prop where
  nonempty : text ≠ []
  digits : ∀ c ∈ text, isDecimal c = true
  shortest : text.head? = some '0' → text = ['0']
  value : worth 0 text = n

/-! ### Single digits -/

theorem toNat_of_isDecimal {c : Char} (digit : isDecimal c = true) : 48 ≤ c.toNat ∧ c.toNat ≤ 57 := by
  simp only [isDecimal, Bool.and_eq_true, decide_eq_true_eq, Char.le_def, UInt32.le_iff_toNat_le] at digit
  exact digit

theorem decimal_lt {c : Char} (digit : isDecimal c = true) : decimal c < 10 := by
  have bounds := toNat_of_isDecimal digit
  unfold decimal
  omega

theorem char_decimal {c : Char} (digit : isDecimal c = true) : char (decimal c) = c := by
  have bounds := toNat_of_isDecimal digit
  have code : 48 + decimal c = c.toNat := by
    unfold decimal
    omega
  unfold char
  rw [if_pos (decimal_lt digit)]
  exact (congrArg Char.ofNat code).trans (Char.ofNat_toNat c)

theorem decimal_char {d : Nat} (bound : d < 10) : decimal (char d) = d := by
  have all : ∀ d : Fin 10, decimal (char d) = d := by decide
  exact all ⟨d, bound⟩

theorem decimal_ne_zero {c : Char} (digit : isDecimal c = true) (other : c ≠ '0') : decimal c ≠ 0 := by
  intro zero
  have same := char_decimal digit
  rw [zero] at same
  exact other same.symm

/-! ### The value of a run of digits -/

@[simp]
theorem worth_nil (value : Nat) : worth value [] = value := rfl

@[simp]
theorem worth_cons (value : Nat) (c : Char) (cs : List Char) :
    worth value (c :: cs) = worth (value * 10 + decimal c) cs := by
  simp [worth]

theorem worth_snoc (value : Nat) (cs : List Char) (c : Char) :
    worth value (cs ++ [c]) = worth value cs * 10 + decimal c := by
  simp [worth]

/-- More digits are worth at least as much. -/
theorem le_worth : ∀ (digits : List Char) (value : Nat), value ≤ worth value digits
  | [], _ => Nat.le_refl _
  | c :: cs, value => by
    have later := le_worth cs (value * 10 + decimal c)
    rw [worth_cons]
    omega

/-! ### The digits of a number -/

/-- The digits in front of others do not depend on these, nor on the bound. -/
theorem push_eq {base : Nat} (two : 2 ≤ base) : ∀ {fuel n : Nat} (fuel' : Nat) (rest : List Char), n < fuel →
    n < fuel' → push base fuel n rest = push base fuel' n [] ++ rest
  | 0, _, _, _, enough, _ => absurd enough (Nat.not_lt_zero _)
  | _ + 1, _, 0, _, _, enough => absurd enough (Nat.not_lt_zero _)
  | fuel + 1, n, fuel' + 1, rest, enough, enough' => by
    unfold push
    by_cases small : n < base
    · rw [if_pos small, if_pos small, List.singleton_append]
    · have less := div_lt_of_le two (Nat.le_of_not_lt small)
      rw [if_neg small, if_neg small, push_eq two fuel' _ (by omega) (by omega),
        push_eq two fuel' [char (n % base)] (by omega) (by omega), List.append_assoc, List.singleton_append]

theorem ofNat_digit {d : Nat} (bound : d < 10) : ofNat 10 d = [char d] := by
  rw [ofNat, push, if_pos bound]

/-- A digit behind a number other than zero is the last one of ten times as much. -/
theorem ofNat_snoc {n d : Nat} (positive : n ≠ 0) (bound : d < 10) :
    ofNat 10 (n * 10 + d) = ofNat 10 n ++ [char d] := by
  have large : ¬ n * 10 + d < 10 := by omega
  have front : (n * 10 + d) / 10 = n := by omega
  have last : (n * 10 + d) % 10 = d := by omega
  rw [ofNat, push, if_neg large, front, last]
  exact push_eq (by decide) _ _ (by omega) (Nat.lt_succ_self n)

/-- The digits of a number are the decimal number. -/
theorem isNumeral_ofNat (n : Nat) : IsNumeral (ofNat 10 n) n where
  nonempty := ofNat_ne_nil 10 n
  digits _ mem := isDecimal_of_mem_ofNat mem
  shortest first := by
    rcases ofNat_cons n with zero | ⟨c, cs, same, other⟩
    · exact zero
    · rw [same] at first
      exact absurd (Option.some.inj first) other
  value := by
    induction n using Nat.strongRecOn with
    | ind n ih =>
      by_cases small : n < 10
      · rw [ofNat_digit small, worth_cons, worth_nil, Nat.zero_mul, Nat.zero_add, decimal_char small]
      · have split : n = n / 10 * 10 + n % 10 := by omega
        have bound : n % 10 < 10 := Nat.mod_lt _ (by decide)
        calc worth 0 (ofNat 10 n)
            = worth 0 (ofNat 10 (n / 10 * 10 + n % 10)) := by rw [← split]
          _ = worth 0 (ofNat 10 (n / 10) ++ [char (n % 10)]) := by rw [ofNat_snoc (by omega) bound]
          _ = n / 10 * 10 + n % 10 := by rw [worth_snoc, ih (n / 10) (by omega), decimal_char bound]
          _ = n := split.symm

/-- Every run of digits that does not begin with zero is what is written for its value. -/
theorem eq_ofNat_worth {digits : List Char} (nonempty : digits ≠ []) (all : ∀ c ∈ digits, isDecimal c = true)
    (other : digits.head? ≠ some '0') : worth 0 digits ≠ 0 ∧ digits = ofNat 10 (worth 0 digits) := by
  induction digits using List.reverseRecOn with
  | nil => exact absurd rfl nonempty
  | append_singleton front c ih =>
    have digit : isDecimal c = true := all c (by simp)
    by_cases first : front = []
    · subst first
      have positive : decimal c ≠ 0 := decimal_ne_zero digit fun zero => other (by rw [zero]; rfl)
      rw [List.nil_append, worth_cons, worth_nil, Nat.zero_mul, Nat.zero_add, ofNat_digit (decimal_lt digit),
        char_decimal digit]
      exact ⟨positive, rfl⟩
    · have head : (front ++ [c]).head? = front.head? := by
        obtain ⟨d, ds, rfl⟩ := List.exists_cons_of_ne_nil first
        rfl
      obtain ⟨positive, same⟩ := ih first (fun d mem => all d (List.mem_append_left _ mem)) (head ▸ other)
      rw [worth_snoc, ofNat_snoc positive (decimal_lt digit), char_decimal digit, ← same]
      exact ⟨by omega, rfl⟩

/-- **Each number has one text**, the digits that are written for it. -/
theorem isNumeral_iff {text : List Char} {n : Nat} : IsNumeral text n ↔ text = ofNat 10 n := by
  constructor
  · intro numeral
    by_cases zero : text.head? = some '0'
    · have value := numeral.value
      rw [numeral.shortest zero] at value ⊢
      rw [← value]
      decide
    · rw [← numeral.value]
      exact (eq_ofNat_worth numeral.nonempty numeral.digits zero).2
  · rintro rfl
    exact isNumeral_ofNat n

theorem ofNat_inj {m n : Nat} (same : ofNat 10 m = ofNat 10 n) : m = n := by
  rw [← (isNumeral_ofNat m).value, same, (isNumeral_ofNat n).value]

end ControllerSynthesis.Digits
