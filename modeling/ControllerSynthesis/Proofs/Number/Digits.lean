/-
# Digits are read back

The digits of a number in a base, read in that base, are worth the number. This
holds for letters in either case, behind leading zeros, and for integers with
their sign. The digits of a number other than zero do not begin with zero, so
they are never taken for something else than a number.

Key theorems: `Digits.fold?_push`, `Digits.toNat?_ofNat`, `Digits.toNat?_padded`,
`Digits.length_padded`, `Digits.isDecimal_of_mem_ofNat`, `Digits.ofNat_cons`,
`Digits.toInt?_ofInt`.
-/
import ControllerSynthesis.Number.Digits
import Mathlib.Algebra.Group.Nat.Defs

namespace ControllerSynthesis.Digits

attribute [local simp] push fold?

/-! ### Single digits -/

/-- Whether a way to write digits keeps their values in a base. -/
def Keeps (recode : Char → Char) (base : Nat) : Prop :=
  ∀ d < base, value? (recode (char d)) = some d

theorem keeps_id {base : Nat} (small : base ≤ 36) : Keeps id base := by
  intro d bound
  have all : ∀ d : Fin 36, value? (char d) = some d.val := by decide
  exact all ⟨d, Nat.lt_of_lt_of_le bound small⟩

theorem isDecimal_char {d : Nat} (bound : d < 10) : isDecimal (char d) = true := by
  have all : ∀ d : Fin 10, isDecimal (char d) = true := by decide
  exact all ⟨d, bound⟩

theorem char_ne_zero {d : Nat} (bound : d < 10) (positive : 0 < d) : char d ≠ '0' := by
  have all : ∀ d : Fin 10, 0 < d.val → char d ≠ '0' := by decide
  exact all ⟨d, bound⟩ positive

/-! ### The digits of a number -/

theorem div_lt_of_le {base n : Nat} (two : 2 ≤ base) (large : base ≤ n) : n / base < n :=
  Nat.div_lt_self (by omega) (by omega)

/-- The digits of a number are worth it, whatever stands behind them. -/
theorem fold?_push {recode : Char → Char} {base : Nat} (keeps : Keeps recode base) (two : 2 ≤ base) :
    ∀ {fuel n : Nat} (rest : List Char), n < fuel →
      fold? base 0 ((push base fuel n rest).map recode) = fold? base n (rest.map recode)
  | 0, _, _, enough => absurd enough (Nat.not_lt_zero _)
  | fuel + 1, n, rest, enough => by
    rw [push]
    by_cases small : n < base
    · rw [if_pos small, List.map_cons, fold?, keeps n small]
      simp [small]
    · have bound : n % base < base := Nat.mod_lt _ (by omega)
      have fewer : n / base < fuel := by
        have := div_lt_of_le two (Nat.le_of_not_lt small)
        omega
      rw [if_neg small, fold?_push keeps two _ fewer, List.map_cons, fold?, keeps _ bound]
      simp [bound, Nat.div_add_mod']

/-- The digits of a number other than zero begin with another digit than zero. -/
theorem push_cons {base : Nat} (two : 2 ≤ base) : ∀ {fuel n : Nat} (rest : List Char), n < fuel →
    n ≠ 0 → ∃ d cs, d < base ∧ 0 < d ∧ push base fuel n rest = char d :: cs
  | 0, _, _, enough, _ => absurd enough (Nat.not_lt_zero _)
  | fuel + 1, n, rest, enough, positive => by
    rw [push]
    by_cases small : n < base
    · exact ⟨n, rest, small, Nat.pos_of_ne_zero positive, by rw [if_pos small]⟩
    · have fewer : n / base < fuel := by
        have := div_lt_of_le two (Nat.le_of_not_lt small)
        omega
      have more : n / base ≠ 0 := by
        have : 0 < n / base := Nat.div_pos (Nat.le_of_not_lt small) (by omega)
        omega
      obtain ⟨d, cs, bound, first, same⟩ := push_cons two (char (n % base) :: rest) fewer more
      exact ⟨d, cs, bound, first, by rw [if_neg small, same]⟩

theorem push_cons_ne_nil (base : Nat) : ∀ (fuel n : Nat) (c : Char) (cs : List Char),
    push base fuel n (c :: cs) ≠ []
  | 0, _, _, _ => by simp [push]
  | fuel + 1, n, c, cs => by
    rw [push]
    split
    · simp
    · exact push_cons_ne_nil base fuel _ _ _

theorem ofNat_ne_nil (base n : Nat) : ofNat base n ≠ [] := by
  rw [ofNat, push]
  split
  · simp
  · exact push_cons_ne_nil base n _ _ _

theorem mem_push {base : Nat} (positive : 0 < base) {c : Char} : ∀ {fuel n : Nat} {rest : List Char},
    c ∈ push base fuel n rest → c ∈ rest ∨ ∃ d < base, c = char d
  | 0, _, _, h => .inl h
  | fuel + 1, n, rest, h => by
    rw [push] at h
    split at h
    · rename_i small
      rcases List.mem_cons.mp h with h | h
      · exact .inr ⟨n, small, h⟩
      · exact .inl h
    · rcases mem_push positive h with h | h
      · rcases List.mem_cons.mp h with h | h
        · exact .inr ⟨n % base, Nat.mod_lt _ positive, h⟩
        · exact .inl h
      · exact .inr h

theorem length_push_le {base : Nat} : ∀ {width n : Nat} (fuel : Nat) (rest : List Char),
    n < base ^ (width + 1) → (push base fuel n rest).length ≤ width + 1 + rest.length
  | _, _, 0, _, _ => by simp [push]
  | width, n, fuel + 1, rest, bound => by
    rw [push]
    split
    · simp only [List.length_cons]
      omega
    · rename_i large
      cases width with
      | zero => exact absurd (by simpa using bound) large
      | succ width =>
        have below : n / base < base ^ (width + 1) :=
          Nat.div_lt_of_lt_mul (by rwa [Nat.mul_comm, ← Nat.pow_succ])
        have := length_push_le fuel (char (n % base) :: rest) below
        simp only [List.length_cons] at this
        omega

/-! ### Reading them back -/

theorem toNat?_of_ne_nil {base : Nat} {cs : List Char} (nonempty : cs ≠ []) :
    toNat? base cs = fold? base 0 cs := by
  cases cs with
  | nil => exact absurd rfl nonempty
  | cons c cs => rfl

/-- **The digits of a number are read back.** -/
theorem toNat?_ofNat {base : Nat} (two : 2 ≤ base) (small : base ≤ 36) (n : Nat) :
    toNat? base (ofNat base n) = some n := by
  have folded := fold?_push (keeps_id small) two [] (Nat.lt_succ_self n)
  rw [List.map_id] at folded
  rw [toNat?_of_ne_nil (ofNat_ne_nil base n), ofNat, folded]
  rfl

theorem fold?_zeros {base : Nat} (positive : 0 < base) (cs : List Char) : ∀ k : Nat,
    fold? base 0 (List.replicate k '0' ++ cs) = fold? base 0 cs
  | 0 => rfl
  | k + 1 => by
    have zero : value? '0' = some 0 := by decide
    rw [List.replicate_succ, List.cons_append, fold?, zero]
    simpa [positive] using fold?_zeros positive cs k

theorem length_padded {base width n : Nat} (bound : n < base ^ (width + 1)) :
    (padded base (width + 1) n).length = width + 1 := by
  have short : (ofNat base n).length ≤ width + 1 := by
    simpa [ofNat] using length_push_le (n + 1) [] bound
  simp only [padded, List.length_append, List.length_replicate]
  omega

theorem mem_padded {base width n : Nat} (positive : 0 < base) {c : Char}
    (mem : c ∈ padded base width n) : c = '0' ∨ ∃ d < base, c = char d := by
  simp only [padded, List.mem_append] at mem
  rcases mem with mem | mem
  · exact .inl (List.eq_of_mem_replicate mem)
  · rcases mem_push positive mem with mem | digit
    · simp at mem
    · exact .inr digit

/-- Digits behind leading zeros are read back, in either case. -/
theorem toNat?_padded {recode : Char → Char} {base : Nat} (keeps : Keeps recode base)
    (zero : recode '0' = '0') (two : 2 ≤ base) (width n : Nat) :
    toNat? base ((padded base width n).map recode) = some n := by
  have nonempty : (padded base width n).map recode ≠ [] := by
    simp [padded, ofNat_ne_nil]
  rw [toNat?_of_ne_nil nonempty, padded, List.map_append, List.map_replicate, zero,
    fold?_zeros (by omega), ofNat, fold?_push keeps two [] (Nat.lt_succ_self n)]
  rfl

/-! ### Decimal digits -/

theorem isDecimal_of_mem_ofNat {n : Nat} {c : Char} (h : c ∈ ofNat 10 n) : isDecimal c = true := by
  rcases mem_push (by decide) h with h | ⟨d, bound, rfl⟩
  · simp at h
  · exact isDecimal_char bound

/-- The decimal digits of a number are its only one, or begin with another digit
than zero. -/
theorem ofNat_cons (n : Nat) :
    ofNat 10 n = ['0'] ∨ ∃ c cs, ofNat 10 n = c :: cs ∧ c ≠ '0' := by
  by_cases zero : n = 0
  · subst zero
    exact .inl (by decide)
  · have two : 2 ≤ 10 := by decide
    obtain ⟨d, cs, bound, first, same⟩ := push_cons two [] (Nat.lt_succ_self n) zero
    exact .inr ⟨char d, cs, same, char_ne_zero bound first⟩

theorem exists_cons_ofNat (n : Nat) : ∃ c cs, ofNat 10 n = c :: cs ∧ isDecimal c = true := by
  cases same : ofNat 10 n with
  | nil => exact absurd same (ofNat_ne_nil 10 n)
  | cons c cs => exact ⟨c, cs, rfl, isDecimal_of_mem_ofNat (n := n) (by simp [same])⟩

theorem ne_of_isDecimal {c d : Char} (digit : isDecimal c = true) (other : isDecimal d = false) :
    c ≠ d := by
  rintro rfl
  simp [digit] at other

/-! ### Integers -/

/-- The characters of an integer are digits behind a first one, which is a digit
or the minus sign of a number. -/
theorem ofInt_eq (z : Int) : ∃ n : Nat,
    (ofInt z = ofNat 10 n ∧ z = n) ∨ (ofInt z = '-' :: ofNat 10 n ∧ z = -(n : Int)) := by
  cases z with
  | ofNat n => exact ⟨n, .inl ⟨rfl, rfl⟩⟩
  | negSucc n => exact ⟨n + 1, .inr ⟨rfl, rfl⟩⟩

theorem ofInt_ne_nil (z : Int) : ofInt z ≠ [] := by
  obtain ⟨n, ⟨same, -⟩ | ⟨same, -⟩⟩ := ofInt_eq z
  · rw [same]
    exact ofNat_ne_nil 10 n
  · simp [same]

/-- **The digits of an integer are read back**, with its sign. -/
theorem toInt?_ofInt (z : Int) : toInt? 10 (ofInt z) = some z := by
  have value (n : Nat) : toNat? 10 (ofNat 10 n) = some n := toNat?_ofNat (by decide) (by decide) n
  obtain ⟨n, ⟨same, rfl⟩ | ⟨same, rfl⟩⟩ := ofInt_eq z
  · obtain ⟨c, cs, digits, first⟩ := exists_cons_ofNat n
    have worth := value n
    rw [digits] at worth
    rw [same, digits]
    unfold toInt?
    split
    · rename_i plus
      exact absurd (List.cons.inj plus).1 (ne_of_isDecimal first (by decide))
    · rename_i minus
      exact absurd (List.cons.inj minus).1 (ne_of_isDecimal first (by decide))
    · rw [worth]
      rfl
  · rw [same, toInt?, value]
    rfl

end ControllerSynthesis.Digits
