/-
# Plain text is read back

A text that may be written plain is read as a whole: nothing in it ends a plain
scalar. It is over where a colon or the end of the line follows, and in the second
case the reader goes on to the next token.

Key definitions: `Yaml.heldGap`, `Yaml.StartsToken`.
Key theorems: `Yaml.readPlain_of_allowsPlain`, `Yaml.readPlain_colon`,
`Yaml.readPlain_lineEnd`.
-/
import ControllerSynthesis.Proofs.Yaml.Place
import ControllerSynthesis.Yaml.Scalar.Plain

namespace ControllerSynthesis.Yaml

/-! ### Gaps without a break -/

/-- The gap that spaces are, the latest first. -/
def heldGap (spaces : List Char) : Gap :=
  if spaces.isEmpty then .nothing else .blanks spaces

theorem heldGap_nil : heldGap [] = .nothing := rfl

theorem extend_heldGap (spaces : List Char) : (heldGap spaces).extend ' ' = heldGap (' ' :: spaces) := by
  cases spaces <;> rfl

theorem text_heldGap (spaces : List Char) : (heldGap spaces).text = spaces.reverse := by
  cases spaces <;> rfl

theorem isBroken_heldGap (spaces : List Char) : (heldGap spaces).isBroken = false := by
  cases spaces <;> rfl

theorem heldGap_ne_nothing {spaces : List Char} : heldGap spaces ≠ .nothing ↔ spaces ≠ [] := by
  cases spaces <;> simp [heldGap]

/-! ### What does not end a plain scalar -/

/-- A mark stands at the start of a line only. -/
theorem atDocumentMark_of_column {c : Char} {p : Place} (rest : List Located) (h : 0 < p.column) :
    atDocumentMark (⟨c, p⟩ :: rest) = false := by
  have inside : (⟨c, p⟩ : Located).startsLine = false := beq_false_of_ne (Nat.ne_of_gt h)
  have none (mark : Char) : atMark mark (⟨c, p⟩ :: rest) = false := by
    unfold atMark
    split
    · rename_i same
      cases same
      simp [inside]
    · rfl
  simp [atDocumentMark, none]

theorem atLocatedGap_append {cs : List Char} (shown : Shown cs) (nonempty : cs ≠ []) (p : Place)
    (tail : List Char) : atLocatedGap (locate p (cs ++ tail)) = atGap cs := by
  cases cs with
  | nil => exact absurd rfl nonempty
  | cons d ds =>
    rw [List.cons_append, locate_cons (shown_cons.mp shown).1]
    rfl

/-- A colon in a text that does not break off there is no end of it. -/
theorem stopsHere_append {c : Char} {cs : List Char} (shown : Shown cs)
    (inside : (c == ':' && atGap cs) = false) (p q : Place) (tail : List Char) :
    stopsHere false (⟨c, p⟩ :: locate q (cs ++ tail)) = false := by
  cases cs with
  | nil =>
    have other : (c == ':') = false := by simpa [atGap] using inside
    simp [stopsHere, other]
  | cons d ds =>
    simp only [stopsHere, Bool.false_and, Bool.or_false]
    rw [atLocatedGap_append shown (List.cons_ne_nil d ds)]
    exact inside

theorem hasLostColon_block (text : List Located) : hasLostColon false text = false := by
  unfold hasLostColon
  split <;> simp

theorem endsWith_cons {q : Char → Bool} {c : Char} {cs : List Char} (more : cs ≠ []) :
    endsWith q (c :: cs) = endsWith q cs := by
  rw [endsWith, endsWith, List.getLast?_cons_of_ne_nil more]

/-- What makes a text fit for the plain style. -/
theorem allowsPlain_cons_iff {c : Char} {cs : List Char} : allowsPlain (c :: cs) = true ↔
    Shown (c :: cs) ∧ Unbroken (c :: cs) ∧ c ≠ ' ' ∧ endsWith isSpace (c :: cs) = false ∧
      beginsLikeMark (c :: cs) = false ∧ beginsOtherwise (c :: cs) = false ∧
      breaksOff c cs = false := by
  have unbroken : Unbroken (c :: cs) ↔ (c :: cs).any isBreak = false := by
    simp [Unbroken]
  have space : c ≠ ' ' ↔ beginsWith isSpace (c :: cs) = false := by
    simp [beginsWith, isSpace]
  rw [allowsPlain, isIndicated, shown_iff_all, unbroken, space]
  simp only [Bool.and_eq_true, Bool.not_eq_true', Bool.or_eq_false_iff, and_assoc]

/-- Words are read one by one up to the last. The text before ends with `before`,
and `spaces` stand behind it. -/
theorem readPlain_words {limit : Nat} : ∀ {text : List Char} {before : Char} {done spaces : List Char}
    {p : Place}, Shown text → Unbroken text → text ≠ [] → endsWith isSpace text = false →
    breaksOff before text = false → (spaces ≠ [] → before = ' ') → limit ≤ p.column → 0 < p.column →
    ∀ tail : List Char, readPlain false limit done (heldGap spaces) (locate p (text ++ tail)) =
      readPlain false limit (text.reverse ++ spaces ++ done) .nothing (locate (finish p text) tail)
  | [], _, _, _, _, _, _, nonempty, _, _, _, _, _, _ => absurd rfl nonempty
  | c :: cs, before, done, spaces, p, shown, unbroken, _, ends, goesOn, held, wide, inside, tail => by
    obtain ⟨first, rest⟩ := shown_cons.mp shown
    obtain ⟨here, later⟩ := unbroken_cons.mp unbroken
    simp only [breaksOff, Bool.or_eq_false_iff] at goesOn
    obtain ⟨⟨colon, sign⟩, goesOn⟩ := goesOn
    have next : p.behind c = p.next c.utf8Size := p.behind_of_noBreak here
    rw [List.cons_append, locate_cons first, finish_cons first, next, readPlain]
    by_cases space : c = ' '
    · subst space
      have more : cs ≠ [] := by
        rintro rfl
        simp [endsWith, isSpace] at ends
      have ends : endsWith isSpace cs = false := by
        simpa [endsWith_cons more] using ends
      rw [if_pos isGap_space, isBroken_heldGap, extend_heldGap]
      simp only [Bool.false_and, Bool.false_eq_true, ↓reduceIte]
      rw [readPlain_words rest later more ends goesOn (fun _ => rfl)
        (Nat.le_trans wide (Nat.le_succ _)) (Nat.succ_pos _)]
      simp
    · have word : isGap c = false := by simp [isGap_of_isShown first, space, here]
      have sameWord : ¬ (heldGap spaces ≠ .nothing ∧
          stopsWord false limit (⟨c, p⟩ :: locate (p.next c.utf8Size) (cs ++ tail)) = true) := by
        rintro ⟨gap, stops⟩
        have blank : before = ' ' := held (heldGap_ne_nothing.mp gap)
        have plainSign : (c == '#') = false := by simpa [blank, isGap_space] using sign
        have enough : (decide (p.column < limit)) = false := by simpa using wide
        have noMark := atDocumentMark_of_column (c := c) (locate (p.next c.utf8Size) (cs ++ tail)) inside
        simp [stopsWord, enough, noMark, plainSign] at stops
      rw [if_neg (by simp [word]), if_neg sameWord, if_neg (by simp [hasLostColon_block]),
        if_neg (by simp [stopsHere_append rest colon]), text_heldGap, List.reverse_reverse]
      by_cases ended : cs = []
      · subst ended
        simp [finish_nil]
      · have ends : endsWith isSpace cs = false := by
          simpa [endsWith_cons ended] using ends
        rw [← heldGap_nil, readPlain_words rest later ended ends goesOn (by simp)
          (Nat.le_trans wide (Nat.le_succ _)) (Nat.succ_pos _), heldGap_nil]
        simp

/-- **A text that may be written plain is read as a whole.** Its first character
may stand anywhere; the others stand behind it and are indented enough. -/
theorem readPlain_of_allowsPlain {limit : Nat} {text : List Char} (allowed : allowsPlain text = true)
    (nonempty : text ≠ []) {p : Place} (wide : limit ≤ p.column + 1) (tail : List Char) :
    readPlain false limit [] .nothing (locate p (text ++ tail)) =
      readPlain false limit text.reverse .nothing (locate (finish p text) tail) := by
  cases text with
  | nil => exact absurd rfl nonempty
  | cons c cs =>
    obtain ⟨shown, unbroken, space, ends, -, otherwise, goesOn⟩ := allowsPlain_cons_iff.mp allowed
    obtain ⟨first, rest⟩ := shown_cons.mp shown
    obtain ⟨here, later⟩ := unbroken_cons.mp unbroken
    have word : isGap c = false := by simp [isGap_of_isShown first, space, here]
    simp only [beginsOtherwise, isOpeningBeforeGap, Bool.or_eq_false_iff] at otherwise
    have colon : (c == ':' && atGap cs) = false := by
      cases hc : c == ':' <;> simp_all
    have next : p.behind c = p.next c.utf8Size := p.behind_of_noBreak here
    rw [List.cons_append, locate_cons first, finish_cons first, next, readPlain]
    rw [if_neg (by simp [word]), if_neg (by simp), if_neg (by simp [hasLostColon_block]),
      if_neg (by simp [stopsHere_append rest colon])]
    by_cases ended : cs = []
    · subst ended
      simp [finish_nil, Gap.text]
    · have ends : endsWith isSpace cs = false := by
        simpa [endsWith_cons ended] using ends
      have pushed : c :: Gap.nothing.text.reverse ++ [] = [c] := rfl
      rw [pushed, ← heldGap_nil, readPlain_words rest later ended ends goesOn (by simp) wide
        (Nat.succ_pos _), heldGap_nil]
      simp

/-! ### What ends a plain scalar -/

/-- Whether a text is at its end or goes on with a token. -/
def StartsToken : List Char → Prop
  | [] => True
  | c :: _ => isGap c = false ∧ c ≠ '#'

/-- A colon with a gap behind it ends a plain scalar. -/
theorem readPlain_colon {limit : Nat} {done more : List Char} {p : Place}
    (gap : atLocatedGap (locate (p.behind ':') more) = true) :
    readPlain false limit done .nothing (locate p (':' :: more)) =
      some ⟨done.reverse, false, locate p (':' :: more)⟩ := by
  have shown : isShown ':' = true := by decide
  rw [locate_cons shown, readPlain]
  have word : isGap ':' = false := by decide
  rw [if_neg (by simp [word]), if_neg (by simp), if_neg (by simp [hasLostColon_block]),
    if_pos (by simp [stopsHere, gap])]
  rfl

/-- Spaces behind the end of a line are passed. -/
theorem readPlain_pad {limit : Nat} {done : List Char} {first : Char} {more : List Char} :
    ∀ (n : Nat) (p : Place) (next : List Char),
      readPlain false limit done (.folded first more) (locate p (pad n ++ next)) =
        readPlain false limit done (.folded first more) (locate (finish p (pad n)) next)
  | 0, p, next => by simp [pad, finish_nil]
  | n + 1, p, next => by
    rw [pad_succ, List.cons_append, locate_cons isShown_space, finish_cons isShown_space, readPlain]
    rw [if_pos isGap_space, if_neg (by simp)]
    exact readPlain_pad n _ next

/-- The end of the line ends a plain scalar in front of a line that is indented
less. -/
theorem readPlain_lineEnd {limit column : Nat} {done next : List Char} {p : Place}
    (shown : Shown next) (starts : StartsToken next) (narrow : column < limit) :
    readPlain false limit done .nothing (locate p ('\n' :: pad column ++ next)) =
      some ⟨done.reverse, true, locate (finish p ('\n' :: pad column)) next⟩ := by
  rw [List.cons_append, locate_cons isShown_feed, finish_cons isShown_feed, readPlain]
  have feed : isGap '\n' = true := by decide
  rw [if_pos feed, if_neg (by simp [Gap.isBroken])]
  have extended : Gap.nothing.extend '\n' = .folded '\n' [] := rfl
  rw [extended, readPlain_pad]
  cases next with
  | nil =>
    rw [locate_nil, readPlain]
    rfl
  | cons c cs =>
    obtain ⟨word, sign⟩ := starts
    have place : (finish (p.behind '\n') (pad column)).column = column := by
      rw [finish_pad, Place.behind_of_break _ isBreak_feed]
      simp [Place.nextLine]
    have stops : stopsWord false limit
        (⟨c, finish (p.behind '\n') (pad column)⟩ ::
          locate ((finish (p.behind '\n') (pad column)).behind c) cs) = true := by
      simp [stopsWord, place, narrow]
    rw [locate_cons (shown_cons.mp shown).1, readPlain]
    rw [if_neg (by simp [word]), if_pos ⟨by simp, stops⟩]
    rfl

end ControllerSynthesis.Yaml
