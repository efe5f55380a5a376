/-
# Escapes are read back

Behind a backslash every character has an escape of one letter, or of a letter and
the digits of its code point. It consists of characters that are shown, ends no
line, and stands for its character whatever follows. It takes at most four times
as many bytes as the character itself.

Key theorems: `Yaml.escape?_escape`, `Yaml.byteSize_doubleQuotedChar_le`.
-/
import ControllerSynthesis.Proofs.Number.Digits
import ControllerSynthesis.Proofs.Text.ByteOrder
import ControllerSynthesis.Proofs.Yaml.Place
import ControllerSynthesis.Yaml.Scalar.Quoted

namespace ControllerSynthesis.Yaml

open Digits
open Text (toNat_lt)

/-! ### The digits of a code point -/

/-- A character on a line whose width is one byte. -/
def isNarrow (c : Char) : Bool :=
  isShown c && !isBreak c && c.utf8Size == 1

theorem keeps_upper : Keeps upper 16 := by
  intro d bound
  have all : ∀ d : Fin 16, value? (upper (char d)) = some d.val := by decide
  exact all ⟨d, bound⟩

theorem isNarrow_upper {d : Nat} (bound : d < 16) : isNarrow (upper (char d)) = true := by
  have all : ∀ d : Fin 16, isNarrow (upper (char d)) = true := by decide
  exact all ⟨d, bound⟩

/-- The digits of a code point, with letters in upper case. -/
def codeDigits (width n : Nat) : List Char :=
  (padded 16 width n).map upper

theorem isNarrow_of_mem_codeDigits {width n : Nat} {c : Char} (mem : c ∈ codeDigits width n) :
    isNarrow c = true := by
  obtain ⟨d, digit, rfl⟩ := List.mem_map.mp mem
  rcases mem_padded (by decide) digit with rfl | ⟨d, bound, rfl⟩
  · decide
  · exact isNarrow_upper bound

theorem length_codeDigits {width n : Nat} (bound : n < 16 ^ (width + 1)) :
    (codeDigits (width + 1) n).length = width + 1 := by
  rw [codeDigits, List.length_map, length_padded bound]

theorem toNat?_codeDigits (width n : Nat) : toNat? 16 (codeDigits width n) = some n :=
  toNat?_padded keeps_upper (by decide) (by decide) width n

theorem codeEscape_eq (c : Char) : codeEscape c =
    if c.toNat ≤ 0xFF then 'x' :: codeDigits 2 c.toNat
    else if c.toNat ≤ 0xFFFF then 'u' :: codeDigits 4 c.toNat
    else 'U' :: codeDigits 8 c.toNat := rfl

theorem codePoint?_toNat (c : Char) : codePoint? c.toNat = some c := by
  have valid : c.toNat < 0xD800 ∨ (0xDFFF < c.toNat ∧ c.toNat < 0x110000) := c.valid
  rw [codePoint?, if_pos (by omega), Char.ofNat_toNat]

/-! ### Escapes -/

/-- Whether a text behind a backslash is an escape of a character: it is narrow and
is read as that character, whatever follows. -/
def Escapes (c : Char) (text : List Char) : Prop :=
  (∀ d ∈ text, isNarrow d = true) ∧ ∃ d ds, text = d :: ds ∧
    ∀ more : List Located, characters (more.take ds.length) = ds → escape? d more = some (c, ds.length)

theorem escapes_short {c d : Char} (narrow : isNarrow d = true) (short : shortEscape? d = some c) :
    Escapes c [d] := by
  refine ⟨by simpa using narrow, d, [], rfl, fun more _ => ?_⟩
  simp [escape?, short]

theorem escapes_code {c d : Char} {width : Nat} (narrow : isNarrow d = true)
    (short : shortEscape? d = none) (wide : escapeWidth? d = some (width + 1))
    (bound : c.toNat < 16 ^ (width + 1)) : Escapes c (d :: codeDigits (width + 1) c.toNat) := by
  have length := length_codeDigits bound
  refine ⟨?_, d, codeDigits (width + 1) c.toNat, rfl, fun more read => ?_⟩
  · intro e mem
    rcases List.mem_cons.mp mem with rfl | mem
    · exact narrow
    · exact isNarrow_of_mem_codeDigits mem
  · rw [length] at read
    rw [length, escape?, short]
    simp only [wide, Option.bind_eq_bind, Option.bind_some, read, length, ↓reduceIte,
      toNat?_codeDigits, codePoint?_toNat]
    rfl

/-- A code point has an escape. -/
theorem escapes_codeEscape (c : Char) : Escapes c (codeEscape c) := by
  have bound := toNat_lt c
  rw [codeEscape_eq]
  split
  · exact escapes_code (by decide) (by decide) (by decide) (by omega)
  · split
    · exact escapes_code (by decide) (by decide) (by decide) (by omega)
    · exact escapes_code (by decide) (by decide) (by decide) (by omega)

theorem escapes_ite {c : Char} {p : Prop} [Decidable p] {yes no : List Char}
    (whenYes : p → Escapes c yes) (whenNo : Escapes c no) : Escapes c (if p then yes else no) := by
  by_cases h : p
  · rw [if_pos h]
    exact whenYes h
  · rw [if_neg h]
    exact whenNo

theorem escapes_named {c d e : Char} (narrow : isNarrow d = true) (short : shortEscape? d = some e)
    (same : c = e) : Escapes c [d] :=
  escapes_short narrow (same ▸ short)

theorem escapes_numbered {c d : Char} {n : Nat} (narrow : isNarrow d = true)
    (short : shortEscape? d = some (Char.ofNat n)) (same : c.toNat = n) : Escapes c [d] := by
  rw [← same, Char.ofNat_toNat] at short
  exact escapes_short narrow short

/-- **Every character has an escape.** -/
theorem escapes_escape (c : Char) : Escapes c (escape c) := by
  unfold escape
  refine escapes_ite (escapes_named (by decide) (by decide)) ?_
  refine escapes_ite (escapes_named (by decide) (by decide)) ?_
  refine escapes_ite (escapes_named (by decide) (by decide)) ?_
  refine escapes_ite (escapes_named (by decide) (by decide)) ?_
  refine escapes_ite (escapes_named (by decide) (by decide)) ?_
  refine escapes_ite (escapes_numbered (by decide) (by decide)) ?_
  refine escapes_ite (escapes_numbered (by decide) (by decide)) ?_
  refine escapes_ite (escapes_numbered (by decide) (by decide)) ?_
  refine escapes_ite (escapes_numbered (by decide) (by decide)) ?_
  refine escapes_ite (escapes_numbered (by decide) (by decide)) ?_
  refine escapes_ite (escapes_numbered (by decide) (by decide)) ?_
  refine escapes_ite (escapes_named (by decide) (by decide)) ?_
  refine escapes_ite (escapes_named (by decide) (by decide)) ?_
  refine escapes_ite (escapes_named (by decide) (by decide)) ?_
  exact escapes_codeEscape c

/-! ### Characters between double quotes -/

theorem shown_of_narrow {text : List Char} (narrow : ∀ c ∈ text, isNarrow c = true) : Shown text := by
  intro c mem
  have := narrow c mem
  simp only [isNarrow, Bool.and_eq_true] at this
  exact this.1.1

theorem unbroken_of_narrow {text : List Char} (narrow : ∀ c ∈ text, isNarrow c = true) :
    Unbroken text := by
  intro c mem
  have := narrow c mem
  simp only [isNarrow, Bool.and_eq_true, Bool.not_eq_true'] at this
  exact this.1.2

theorem byteSize_of_narrow : ∀ {text : List Char}, (∀ c ∈ text, isNarrow c = true) →
    byteSize text = text.length
  | [], _ => rfl
  | c :: cs, narrow => by
    have first := narrow c (by simp)
    simp only [isNarrow, Bool.and_eq_true, beq_iff_eq] at first
    rw [byteSize_cons, first.2, byteSize_of_narrow fun d mem => narrow d (List.mem_cons_of_mem _ mem),
      List.length_cons, Nat.add_comm]

theorem one_le_utf8Size (c : Char) : 1 ≤ c.utf8Size := c.utf8Size_pos

theorem utf8Size_of_lt {c : Char} (wide : 0xFF < c.toNat) : 2 ≤ c.utf8Size := by
  have narrow : ¬ c.val ≤ UInt32.ofNatLT 0x7F (by decide) := by
    intro small
    have : c.toNat ≤ 0x7F := small
    omega
  simp only [Char.utf8Size, if_neg narrow]
  split
  · exact Nat.le_refl 2
  · split <;> decide

theorem utf8Size_of_beyond {c : Char} (wide : 0xFFFF < c.toNat) : c.utf8Size = 4 := by
  have narrow {n : UInt32} (small : n.toNat ≤ 0xFFFF) : ¬ c.val ≤ n := by
    intro le
    have : c.toNat ≤ n.toNat := le
    omega
  simp only [Char.utf8Size]
  rw [if_neg (narrow (by decide)), if_neg (narrow (by decide)), if_neg (narrow (by decide))]

/-- An escape has no more than two bytes, or four for each byte of the character. -/
theorem length_escape_le (c : Char) : (escape c).length + 1 ≤ 4 * c.utf8Size := by
  have one := one_le_utf8Size c
  have bound := toNat_lt c
  have ite {p : Prop} [Decidable p] {a : Char} {no : List Char} (rest : no.length + 1 ≤ 4 * c.utf8Size) :
      (if p then [a] else no).length + 1 ≤ 4 * c.utf8Size := by
    split
    · simp only [List.length_cons, List.length_nil]
      omega
    · exact rest
  unfold escape
  iterate 14 refine ite ?_
  rw [codeEscape_eq]
  split
  · rw [List.length_cons, length_codeDigits (by omega)]
    omega
  · split
    · have := utf8Size_of_lt (c := c) (by omega)
      rw [List.length_cons, length_codeDigits (by omega)]
      omega
    · have := utf8Size_of_beyond (c := c) (by omega)
      rw [List.length_cons, length_codeDigits (by omega)]
      omega

/-- A character between double quotes is itself or has its escape. -/
theorem doubleQuotedChar_cases (c : Char) :
    (doubleQuotedChar c = [c] ∧ isShown c = true ∧ isBreak c = false ∧ c ≠ '"' ∧ c ≠ '\\') ∨
      doubleQuotedChar c = '\\' :: escape c := by
  unfold doubleQuotedChar
  split
  · rename_i h
    simp only [Bool.and_eq_true, Bool.not_eq_true', bne_iff_ne] at h
    exact .inl ⟨rfl, h.1.1.1, h.1.1.2, h.1.2, h.2⟩
  · exact .inr rfl

theorem isNarrow_of_mem_backslash {c d : Char} (mem : d ∈ '\\' :: escape c) : isNarrow d = true := by
  rcases List.mem_cons.mp mem with rfl | mem
  · decide
  · exact (escapes_escape c).1 d mem

theorem shown_doubleQuotedChar (c : Char) : Shown (doubleQuotedChar c) := by
  rcases doubleQuotedChar_cases c with ⟨same, shown, -⟩ | same
  · rw [same]
    exact shown_cons.mpr ⟨shown, shown_nil⟩
  · rw [same]
    exact shown_of_narrow fun d => isNarrow_of_mem_backslash

theorem unbroken_doubleQuotedChar (c : Char) : Unbroken (doubleQuotedChar c) := by
  rcases doubleQuotedChar_cases c with ⟨same, -, unbroken, -⟩ | same
  · rw [same]
    exact unbroken_cons.mpr ⟨unbroken, unbroken_nil⟩
  · rw [same]
    exact unbroken_of_narrow fun d => isNarrow_of_mem_backslash

/-- A character takes at most four times its bytes. -/
theorem byteSize_doubleQuotedChar_le (c : Char) : byteSize (doubleQuotedChar c) ≤ 4 * c.utf8Size := by
  rcases doubleQuotedChar_cases c with ⟨same, -⟩ | same
  · have one := one_le_utf8Size c
    rw [same, byteSize_cons, byteSize_nil]
    omega
  · rw [same, byteSize_of_narrow fun d => isNarrow_of_mem_backslash, List.length_cons]
    exact length_escape_le c

end ControllerSynthesis.Yaml
