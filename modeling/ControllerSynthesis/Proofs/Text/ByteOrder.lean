/-
# The order of texts by their bytes

Texts are in order by their code points, the first difference deciding. Their bytes in
UTF-8 are in the same order: a greater code point has a greater byte where its bytes
first differ from those of a smaller one, and no code point's bytes begin with those of
another.

Key definitions: `Text.bytes`.
Key theorems: `Text.utf8EncodeChar_append_lt`, `Text.bytes_lt_iff`.
-/

namespace ControllerSynthesis.Text

open String (utf8EncodeChar)

/-- The bytes of a text in UTF-8. -/
def bytes (s : String) : List UInt8 :=
  s.toUTF8.data.toList

theorem bytes_eq (s : String) : bytes s = s.toList.flatMap utf8EncodeChar := by
  conv => lhs; rw [bytes, ← String.ofList_toList (s := s), String.toUTF8_eq_toByteArray]
  exact List.toList_data_toByteArray

theorem toNat_lt (c : Char) : c.toNat < 0x110000 := by
  have valid : c.toNat < 0xD800 ∨ (0xDFFF < c.toNat ∧ c.toNat < 0x110000) := c.valid
  omega

/-- The bytes of a smaller code point come before those of a greater one, whatever stands
behind them. -/
theorem utf8EncodeChar_append_lt {c d : Char} (before : c < d) (x y : List UInt8) :
    utf8EncodeChar c ++ x < utf8EncodeChar d ++ y := by
  have less : c.val.toNat < d.val.toNat := before
  have bound : d.val.toNat < 0x110000 := toNat_lt d
  -- Six bits at a time, so that the digits of both are compared one after the other.
  have twelve (n : Nat) : n / 4096 = n / 64 / 64 := by omega
  have eighteen (n : Nat) : n / 262144 = n / 64 / 64 / 64 := by omega
  have value (n : Nat) : (UInt8.ofNat n).toNat = n % 256 := UInt8.toNat_ofNat'
  -- Bytes of different number differ in the first one, others in their first digit that differs.
  fun_cases utf8EncodeChar c <;> fun_cases utf8EncodeChar d <;>
    simp only [twelve, eighteen, value, List.cons_append, List.nil_append, List.cons_lt_cons_iff,
      UInt8.lt_iff_toNat_lt, ← UInt8.toNat_inj] at * <;> omega

theorem append_lt_append_iff (front x y : List UInt8) : front ++ x < front ++ y ↔ x < y := by
  induction front with
  | nil => rfl
  | cons b front ih => simp [ih]

/-- Characters are in the order of their bytes. -/
theorem flatMap_lt_iff : ∀ s t : List Char, s.flatMap utf8EncodeChar < t.flatMap utf8EncodeChar ↔ s < t
  | [], [] => by simp
  | [], d :: t => by
    cases bytes : utf8EncodeChar d with
    | nil => exact absurd bytes String.utf8EncodeChar_ne_nil
    | cons b bs => simp [bytes]
  | c :: s, [] => by simp
  | c :: s, d :: t => by
    rw [List.flatMap_cons, List.flatMap_cons, List.cons_lt_cons_iff]
    by_cases before : c < d
    · simp [before, utf8EncodeChar_append_lt before]
    · by_cases after : d < c
      · have bytesAfter := utf8EncodeChar_append_lt after (t.flatMap utf8EncodeChar) (s.flatMap utf8EncodeChar)
        have different : c ≠ d := fun same => Char.lt_irrefl c (same ▸ after)
        simp [before, different, List.lt_asymm bytesAfter]
      · obtain rfl : c = d := Char.le_antisymm (Char.not_lt.mp after) (Char.not_lt.mp before)
        simp [append_lt_append_iff, flatMap_lt_iff s t]

/-- **Texts are in the order of their bytes.** -/
theorem bytes_lt_iff {s t : String} : bytes s < bytes t ↔ s < t := by
  rw [bytes_eq, bytes_eq]
  exact flatMap_lt_iff s.toList t.toList

end ControllerSynthesis.Text
