/-
# Integers in JSON text

The decimal text of an integer is read as the integer if it fits into 64 bits, with or
without a sign. That of any other integer is never read as an integer: it is read as a
number of the other kind, or refused.

Key theorems: `Json.read?_text`, `Json.float_of_read?_text`.
-/
import ControllerSynthesis.Json.Reading
import ControllerSynthesis.Proofs.Number.Digits
import ControllerSynthesis.Record.OfYaml
import Mathlib.Data.List.TakeWhile

namespace ControllerSynthesis.Json

open Digits (isDecimal)

/-! ### Digits -/

/-- What digits are read as, behind a minus sign or not. -/
def ofDigits? (negative : Bool) (digits : List Char) (value : Nat) : Option Json :=
  if !negative && value ≤ maxUnsigned then some (int value)
  else if negative && 0 < value && value ≤ Nat.pow 2 63 then some (int (-(value : Int)))
  else floatOf? negative digits [] 0

section

variable (n : Nat)

theorem takeWhile_ofNat : (Digits.ofNat 10 n).takeWhile isDecimal = Digits.ofNat 10 n :=
  List.takeWhile_eq_self_iff.mpr fun _ mem => Digits.isDecimal_of_mem_ofNat mem

theorem dropWhile_ofNat : (Digits.ofNat 10 n).dropWhile isDecimal = [] :=
  List.dropWhile_eq_nil_iff.mpr fun _ mem => Digits.isDecimal_of_mem_ofNat mem

theorem toNat?_ofNat : Digits.toNat? 10 (Digits.ofNat 10 n) = some n :=
  Digits.toNat?_ofNat (by decide) (by decide) n

/-- Digits do not begin with a zero that is not all of them. -/
theorem unpadded_ofNat : ¬(1 < (Digits.ofNat 10 n).length ∧ (Digits.ofNat 10 n).head? = some '0') := by
  rintro ⟨long, zero⟩
  rcases Digits.ofNat_cons n with single | ⟨c, cs, same, other⟩
  · simp [single] at long
  · simp [same, other] at zero

end

/-- The digits of a number are read to their end. -/
theorem number?_ofNat (n : Nat) :
    number? (Digits.ofNat 10 n) = (ofDigits? false (Digits.ofNat 10 n) n).map (·, []) := by
  obtain ⟨c, cs, same, digit⟩ := Digits.exists_cons_ofNat n
  have noSign : c ≠ '-' := Digits.ne_of_isDecimal digit (by decide)
  have taken := takeWhile_ofNat n
  have dropped := dropWhile_ofNat n
  have worth := toNat?_ofNat n
  have unpadded := unpadded_ofNat n
  rw [same] at taken dropped worth unpadded ⊢
  have run : number? (c :: cs) =
      if 0 < cs.length ∧ c = '0' then none
      else if n ≤ maxUnsigned then some (int n, [])
      else (floatOf? false (c :: cs) [] 0).bind fun value => some (value, []) := by
    simp [number?, noSign, taken, dropped, worth, exponent?]
  rw [run, if_neg (by simpa using unpadded), ofDigits?]
  by_cases fits : n ≤ maxUnsigned
  · simp [fits]
  · cases floatOf? false (c :: cs) [] 0 <;> simp [fits]

/-- So are those behind a minus sign. -/
theorem number?_minus (n : Nat) :
    number? ('-' :: Digits.ofNat 10 n) = (ofDigits? true (Digits.ofNat 10 n) n).map (·, []) := by
  have run : number? ('-' :: Digits.ofNat 10 n) =
      if 1 < (Digits.ofNat 10 n).length ∧ (Digits.ofNat 10 n).head? = some '0' then none
      else if 0 < n ∧ n ≤ Nat.pow 2 63 then some (int (-n), [])
      else (floatOf? true (Digits.ofNat 10 n) [] 0).bind fun value => some (value, []) := by
    simp [number?, takeWhile_ofNat, dropWhile_ofNat, toNat?_ofNat, exponent?]
  rw [run, if_neg (unpadded_ofNat n), ofDigits?]
  by_cases fits : 0 < n ∧ n ≤ Nat.pow 2 63
  · rw [if_pos fits, if_neg (by simp), if_pos (by simpa using fits)]
    rfl
  · rw [if_neg fits, if_neg (by simp), if_neg (by simpa using fits)]
    cases floatOf? true (Digits.ofNat 10 n) [] 0 <;> rfl

/-! ### Whole texts -/

/-- A text that begins with a digit or a minus sign is read as a number. -/
theorem value?_of_sign {c : Char} (sign : c = '-' ∨ isDecimal c = true) (fuel : Nat) (cs : List Char) :
    value? (fuel + 1) (c :: cs) = number? (c :: cs) := by
  have other (d : Char) (ne : '-' ≠ d) (none : isDecimal d = false) : c ≠ d := by
    rcases sign with rfl | digit
    · exact ne
    · exact Digits.ne_of_isDecimal digit none
  have blanks : skipBlanks (c :: cs) = c :: cs := by
    rw [skipBlanks, if_neg]
    rintro (same | same | same | same) <;> exact other _ (by decide) (by decide) same
  rw [value?, blanks]
  split
  case h_1 none => cases none
  case h_8 => rfl
  all_goals
    rename_i begins
    exact absurd (List.cons.inj begins).1 (other _ (by decide) (by decide))

/-- The text of a number is read to its end. -/
theorem read?_of_number? {c : Char} {cs : List Char} (sign : c = '-' ∨ isDecimal c = true) {value : Option Json}
    (number : number? (c :: cs) = value.map (·, [])) : read? (String.ofList (c :: cs)) = value := by
  rw [read?, String.toList_ofList, value?_of_sign sign, number]
  cases value <;> rfl

/-- A number that is not whole, or has too many digits, is of the other kind. -/
theorem float_of_floatOf? {negative : Bool} {whole behind : List Char} {exponent : Int} {value : Json}
    (made : floatOf? negative whole behind exponent = some value) : ∃ x, value = .float x := by
  unfold floatOf? at made
  simp only [Option.bind_eq_bind, Option.bind_eq_some_iff, Option.pure_def] at made
  obtain ⟨_, -, made⟩ := made
  split at made <;> split at made
  all_goals
    obtain ⟨x, -, same⟩ := Option.bind_eq_some_iff.mp made
    exact ⟨_, (Option.some.inj same).symm⟩

theorem isWordSize_ofNat (m : Nat) : Record.isWordSize (.ofNat m) = decide (m ≤ maxUnsigned) := by
  have bound : maxUnsigned + 1 = Nat.pow 2 64 := by decide
  have above : -(Nat.pow 2 63 : Int) ≤ Int.ofNat m := by
    have := Int.natCast_nonneg m
    have : 0 < (Nat.pow 2 63 : Int) := by decide
    show _ ≤ (m : Int)
    omega
  rw [Record.isWordSize, decide_eq_true above, Bool.true_and, decide_eq_decide, ← bound]
  show (m : Int) < _ ↔ _
  omega

theorem isWordSize_negSucc (m : Nat) : Record.isWordSize (.negSucc m) = decide (m + 1 ≤ Nat.pow 2 63) := by
  have below : Int.negSucc m < (Nat.pow 2 64 : Int) := Int.lt_trans (b := 0) (Int.negSucc_lt_zero m) (by decide)
  rw [Record.isWordSize, decide_eq_true below, Bool.and_true, decide_eq_decide]
  show _ ≤ -((m + 1 : Nat) : Int) ↔ _
  omega

/-- The text of an integer is read as the integer, or as what its digits give otherwise. -/
theorem read?_text_eq (n : Int) : ∃ negative digits,
    read? (Digits.text n) = if Record.isWordSize n then some (.int n) else floatOf? negative digits [] 0 := by
  cases n with
  | ofNat m =>
    obtain ⟨c, cs, same, digit⟩ := Digits.exists_cons_ofNat m
    have number := number?_ofNat m
    rw [same] at number
    refine ⟨false, c :: cs, ?_⟩
    rw [isWordSize_ofNat, Digits.text, Digits.ofInt, same, read?_of_number? (.inr digit) number, ofDigits?]
    by_cases fits : m ≤ maxUnsigned <;> simp [fits]
  | negSucc m =>
    refine ⟨true, Digits.ofNat 10 (m + 1), ?_⟩
    rw [isWordSize_negSucc, Digits.text, Digits.ofInt, read?_of_number? (.inl rfl) (number?_minus (m + 1)), ofDigits?]
    by_cases fits : m + 1 ≤ Nat.pow 2 63
    · simp only [fits, decide_true, if_true]
      rfl
    · simp [fits]

variable {n : Int}

/-- **An integer of 64 bits is read as itself.** -/
theorem read?_text (size : Record.isWordSize n = true) : read? (Digits.text n) = some (.int n) := by
  obtain ⟨negative, digits, read⟩ := read?_text_eq n
  rw [read, if_pos size]

/-- **Any other integer is not read as one.** -/
theorem float_of_read?_text (wide : Record.isWordSize n = false) {value : Json}
    (read : read? (Digits.text n) = some value) : ∃ x, value = .float x := by
  obtain ⟨negative, digits, same⟩ := read?_text_eq n
  rw [same, if_neg (by simp [wide])] at read
  exact float_of_floatOf? read

end ControllerSynthesis.Json
