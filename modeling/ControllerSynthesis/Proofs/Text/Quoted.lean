/-
# A quoted character is told from all others

What a message shows of a character determines the character, whatever the message goes
on with: an escape begins with a backslash, which no character that is shown as it is can
be, and the digits of a code point end at the brace behind them.

Key definitions: `Text.unquoted?`.
Key theorems: `Text.unquoted?_quotedChar`, `Text.quotedChar_inj`.
-/
import ControllerSynthesis.Proofs.Number.Digits
import ControllerSynthesis.Proofs.Steps
import ControllerSynthesis.Text.Characters

namespace ControllerSynthesis.Text

/-- The character whose quotation a text begins with. -/
def unquoted? : List Char → Option Char
  | '\'' :: '\\' :: 'u' :: _ :: digits =>
    (Digits.toNat? 16 (digits.takeWhile (· != '\x7d'))).map Char.ofNat
  | '\'' :: '\\' :: '0' :: _ => some '\x00'
  | '\'' :: '\\' :: 't' :: _ => some '\t'
  | '\'' :: '\\' :: 'r' :: _ => some '\r'
  | '\'' :: '\\' :: 'n' :: _ => some '\n'
  | '\'' :: '\\' :: c :: _ => some c
  | '\'' :: c :: _ => some c
  | _ => none

theorem ne_brace_of_mem_ofNat {n : Nat} : ∀ c ∈ Digits.ofNat 16 n, (c != '\x7d') = true := by
  intro c mem
  rcases Digits.mem_push (by decide) mem with mem | ⟨d, bound, rfl⟩
  · cases mem
  · have all : ∀ d : Fin 16, (Digits.char d != '\x7d') = true := by decide
    exact all ⟨d, bound⟩

/-- **A quoted character is read back**, whatever stands behind it. -/
theorem unquoted?_quotedChar (c : Char) (rest : List Char) :
    unquoted? ((quotedChar c).toList ++ rest) = some c := by
  rw [quotedChar, String.toList_ofList]
  by_cases named : c ∈ ['\x00', '\t', '\r', '\n', '\\', '\'']
  · simp only [List.mem_cons, List.not_mem_nil, or_false] at named
    rcases named with rfl | rfl | rfl | rfl | rfl | rfl
    all_goals rfl
  · simp only [List.mem_cons, List.not_mem_nil, or_false, not_or] at named
    obtain ⟨zero, tab, feed, line, slash, mark⟩ := named
    have code : c.toNat ≠ 0 := fun same => zero (Char.toNat_inj.mp same)
    rw [shown, if_neg code, if_neg tab, if_neg feed, if_neg line, if_neg (by simp [slash, mark])]
    split
    · have digits : (Digits.ofNat 16 c.toNat ++ '\x7d' :: '\'' :: rest).takeWhile (· != '\x7d') =
          Digits.ofNat 16 c.toNat := takeWhile_stops ne_brace_of_mem_ofNat (stops_cons.mpr rfl)
      have value : Digits.toNat? 16 (Digits.ofNat 16 c.toNat) = some c.toNat :=
        Digits.toNat?_ofNat (by decide) (by decide) c.toNat
      simp only [codePointEscape, List.cons_append, List.append_assoc, List.nil_append]
      rw [unquoted?, digits, value, Option.map_some, Char.ofNat_toNat]
    · simp [unquoted?, slash]

/-- **Quotations of two characters** differ before either ends. -/
theorem quotedChar_inj {c d : Char} {front tail tail' : String}
    (same : front ++ quotedChar c ++ tail = front ++ quotedChar d ++ tail') : c = d := by
  rw [String.append_assoc, String.append_assoc, String.append_right_inj] at same
  have read := unquoted?_quotedChar c tail.toList
  rw [← String.toList_append, same, String.toList_append, unquoted?_quotedChar] at read
  exact (Option.some.inj read).symm

end ControllerSynthesis.Text
