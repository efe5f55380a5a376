/-
# What is left of a text without the white space around it

A text is white space, a middle part, and white space; if the middle part neither begins
nor ends with white space, it is what the cut at both ends leaves, and there is no other.

Key definitions: `Text.AreBlank`, `Text.IsTrimmed`.
Key theorems: `Text.isTrimmed_iff`.
-/
import ControllerSynthesis.Proofs.Steps
import ControllerSynthesis.Text.Characters

namespace ControllerSynthesis.Text

/-- Whether a text is white space throughout. -/
def AreBlank (text : List Char) : Prop :=
  ∀ c ∈ text, isBlank c = true

/-- Whether `body` is what stands in `text` between the white space around it. -/
def IsTrimmed (text body : List Char) : Prop :=
  ∃ lead tail, text = lead ++ body ++ tail ∧ AreBlank lead ∧ AreBlank tail ∧
    (∀ c ∈ body.head?, isBlank c = false) ∧ ∀ c ∈ body.getLast?, isBlank c = false

theorem areBlank_takeWhile (text : List Char) : AreBlank (text.takeWhile isBlank) :=
  fun _ mem => List.mem_takeWhile_imp mem

theorem areBlank_reverse {text : List Char} (blank : AreBlank text) : AreBlank text.reverse :=
  fun c mem => blank c (List.mem_reverse.mp mem)

/-- The end of a text is the start of it in reverse. -/
theorem trimEnd_append {rest tail : List Char} (blank : AreBlank tail)
    (other : ∀ c ∈ rest.getLast?, isBlank c = false) : trimEnd (rest ++ tail) = rest := by
  have stops : Stops isBlank rest.reverse := by
    rwa [Stops, List.head?_reverse]
  rw [trimEnd, List.reverse_append, dropWhile_stops (areBlank_reverse blank) stops, List.reverse_reverse]

theorem trimEnd_split (text : List Char) : ∃ tail, AreBlank tail ∧ text = trimEnd text ++ tail := by
  refine ⟨_, areBlank_reverse (areBlank_takeWhile text.reverse), ?_⟩
  rw [trimEnd, ← List.reverse_append, List.takeWhile_append_dropWhile, List.reverse_reverse]

theorem trim_of_isTrimmed {text body : List Char} (trimmed : IsTrimmed text body) : trim text = body := by
  obtain ⟨lead, tail, rfl, blankLead, blankTail, first, last⟩ := trimmed
  cases body with
  | nil =>
    have nothing : ∀ c ∈ lead ++ [] ++ tail, isBlank c = true := by
      intro c mem
      rw [List.append_nil] at mem
      exact (List.mem_append.mp mem).elim (blankLead c) (blankTail c)
    rw [trim, trimStart, List.dropWhile_eq_nil_iff.mpr nothing]
    rfl
  | cons c body =>
    have stops : Stops isBlank (c :: body ++ tail) := stops_cons.mpr (first c rfl)
    rw [trim, trimStart, List.append_assoc, dropWhile_stops blankLead stops]
    exact trimEnd_append blankTail last

theorem isTrimmed_trim (text : List Char) : IsTrimmed text (trim text) := by
  obtain ⟨tail, blank, split⟩ := trimEnd_split (trimStart text)
  refine ⟨text.takeWhile isBlank, tail, ?_, areBlank_takeWhile text, blank, ?_, ?_⟩
  · rw [List.append_assoc]
    exact List.takeWhile_append_dropWhile.symm.trans (congrArg (text.takeWhile isBlank ++ ·) split)
  · intro c mem
    have first : c ∈ (trimStart text).head? := by
      rw [split, Option.mem_def, List.head?_append]
      exact Option.or_eq_some_iff.mpr (.inl mem)
    exact stops_dropWhile text c first
  · intro c mem
    rw [trim, trimEnd, List.getLast?_reverse] at mem
    exact stops_dropWhile _ c mem

/-- **The cut at both ends leaves what stands between the white space**, and this is only
one text. -/
theorem isTrimmed_iff {text body : List Char} : IsTrimmed text body ↔ trim text = body :=
  ⟨trim_of_isTrimmed, fun same => same ▸ isTrimmed_trim text⟩

end ControllerSynthesis.Text
