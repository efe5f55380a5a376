/-
# A text is one token

Whatever style a text is written in, the scanner takes it as a whole, with the end
of its line, and gives it back as the text of one token. A text in front of its
colon is taken as a key, since it is on one line and near enough.

Key definitions: `Yaml.formOf`, `Yaml.scalarToken`.
Key theorems: `Yaml.Scanner.leadsTo_text`, `Yaml.Scanner.leadsTo_simpleKey`.
-/
import ControllerSynthesis.Proofs.Yaml.LiteralText
import ControllerSynthesis.Proofs.Yaml.Marks
import ControllerSynthesis.Proofs.Yaml.QuotedText

namespace ControllerSynthesis.Yaml

/-! ### Styles -/

/-- How a text stands in a document. -/
def formOf (text : List Char) : Form :=
  match style text with
  | .plain => .plain
  | .literal => .literal
  | .singleQuoted => .marked
  | .doubleQuoted => .marked

/-- The token of a text. -/
def scalarToken (text : List Char) : Token :=
  .scalar (formOf text) text

theorem not_mem_of_contains {text : List Char} (h : ¬ text.contains '\n' = true) : '\n' ∉ text := by
  intro mem
  exact h (List.contains_iff_mem.mpr mem)

theorem style_plain {text : List Char} (h : style text = .plain) :
    isPlainText text = true ∧ allowsPlain text = true := by
  unfold style at h
  split at h
  · split at h <;> cases h
  · split at h
    · rename_i both
      exact Bool.and_eq_true_iff.mp both
    · split at h <;> cases h

theorem style_singleQuoted {text : List Char} (h : style text = .singleQuoted) :
    '\n' ∉ text ∧ allowsSingleQuotes text = true := by
  unfold style at h
  split at h
  · split at h <;> cases h
  · rename_i noFeed
    split at h
    · cases h
    · split at h
      · rename_i allowed
        exact ⟨not_mem_of_contains noFeed, allowed⟩
      · cases h

theorem style_literal {text : List Char} (h : style text = .literal) :
    '\n' ∈ text ∧ allowsLines text = true := by
  unfold style at h
  split at h
  · rename_i feed
    split at h
    · rename_i allowed
      exact ⟨List.contains_iff_mem.mp feed, allowed⟩
    · cases h
  · split at h
    · cases h
    · split at h <;> cases h

theorem ne_nil_of_isPlainText {text : List Char} (h : isPlainText text = true) : text ≠ [] := by
  rintro rfl
  exact absurd h (by decide)

/-- A text with its style's reasons. -/
theorem writeText_cases (column : Nat) (text : List Char) :
    (style text = .plain ∧ writeText column text = text ∧ allowsPlain text = true ∧ text ≠ []) ∨
      (style text = .singleQuoted ∧ writeText column text = '\'' :: quotedTail column '\'' false text ∧
        '\n' ∉ text ∧ allowsSingleQuotes text = true) ∨
      (style text = .doubleQuoted ∧ writeText column text = '"' :: doubleQuotedTail text) ∨
      (style text = .literal ∧ writeText column text ++ lineEnd text = '|' :: literalTail column text ∧
        '\n' ∈ text ∧ allowsLines text = true) := by
  cases h : style text with
  | plain =>
    obtain ⟨plain, allowed⟩ := style_plain h
    exact .inl ⟨rfl, by rw [writeText, h], allowed, ne_nil_of_isPlainText plain⟩
  | singleQuoted =>
    obtain ⟨noFeed, allowed⟩ := style_singleQuoted h
    exact .inr (.inl ⟨rfl, by rw [writeText, h, ← singleQuoted_eq], noFeed, allowed⟩)
  | doubleQuoted => exact .inr (.inr (.inl ⟨rfl, by rw [writeText, h]; rfl⟩))
  | literal =>
    obtain ⟨feed, allowed⟩ := style_literal h
    have ends : lineEnd text = closingBreak text := by
      simp [lineEnd, h, closingBreak]
    refine .inr (.inr (.inr ⟨rfl, ?_, feed, allowed⟩))
    rw [writeText, h, ends, literal, literalTail, indented_closingBreak]
    simp

theorem lineEnd_of_ne {text : List Char} (h : style text ≠ .literal) : lineEnd text = ['\n'] := by
  rw [lineEnd, if_neg (by simp [h])]

theorem shown_of_allowsPlain {text : List Char} (h : allowsPlain text = true) : Shown text := by
  simp only [allowsPlain, Bool.and_eq_true] at h
  exact shown_iff_all.mpr h.1.1.1.1

theorem unbroken_of_allowsPlain {text : List Char} (h : allowsPlain text = true) : Unbroken text := by
  simp only [allowsPlain, Bool.and_eq_true, Bool.not_eq_true', List.any_eq_false] at h
  intro c mem
  simpa using h.1.1.1.2 c mem

/-- What is written consists of characters that are shown. -/
theorem shown_writeText (column : Nat) (text : List Char) :
    Shown (writeText column text ++ lineEnd text) := by
  have feed : Shown ['\n'] := shown_cons.mpr ⟨isShown_feed, shown_nil⟩
  rcases writeText_cases column text with ⟨style, same, allowed, -⟩ | ⟨style, same, -, allowed⟩ |
    ⟨style, same⟩ | ⟨-, same, -, allowed⟩
  · rw [same, lineEnd_of_ne (by simp [style])]
    exact shown_append.mpr ⟨shown_of_allowsPlain allowed, feed⟩
  · rw [same, lineEnd_of_ne (by simp [style])]
    exact shown_append.mpr ⟨shown_cons.mpr ⟨by decide,
      shown_quotedTail column _ _ (allowsSingleQuotes_iff.mp allowed).1⟩, feed⟩
  · rw [same, lineEnd_of_ne (by simp [style])]
    exact shown_append.mpr ⟨shown_cons.mpr ⟨by decide, shown_doubleQuotedTail text⟩, feed⟩
  · rw [same]
    exact shown_cons.mpr ⟨by decide, shown_literalTail column (allowsLines_iff.mp allowed).1⟩

/-- A text on one line is written on one line, with at most four times its bytes. -/
theorem writeText_of_unbroken (column : Nat) {text : List Char} (unbroken : Unbroken text) :
    style text ≠ .literal ∧ Unbroken (writeText column text) ∧
      byteSize (writeText column text) ≤ 4 * byteSize text + 2 := by
  rcases writeText_cases column text with ⟨style, same, allowed, -⟩ | ⟨style, same, -⟩ |
    ⟨style, same⟩ | ⟨-, -, feed, -⟩
  · rw [same]
    exact ⟨by simp [style], unbroken, by omega⟩
  · obtain ⟨line, short⟩ := quotedTail_of_unbroken column (by decide : isBreak '\'' = false) unbroken
    have one : Char.utf8Size '\'' = 1 := by decide
    rw [same, byteSize_cons]
    exact ⟨by simp [style], unbroken_cons.mpr ⟨by decide, line⟩, by omega⟩
  · have short := byteSize_doubleQuotedTail_le text
    have one : Char.utf8Size '"' = 1 := by decide
    rw [same, byteSize_cons]
    exact ⟨by simp [style], unbroken_cons.mpr ⟨by decide, unbroken_doubleQuotedTail text⟩, by omega⟩
  · exact absurd (unbroken '\n' feed) (by simp [isBreak_feed])

theorem startsToken_of_allowsPlain {text : List Char} (allowed : allowsPlain text = true) (nonempty : text ≠ [])
    (more : List Char) : StartsToken (text ++ more) := by
  obtain ⟨c, cs, rfl⟩ := List.exists_cons_of_ne_nil nonempty
  obtain ⟨shown, unbroken, space, -, -, otherwise, -⟩ := allowsPlain_cons_iff.mp allowed
  have here := (unbroken_cons.mp unbroken).1
  refine ⟨by simp [isGap_of_isShown (shown_cons.mp shown).1, space, here], ?_⟩
  rintro rfl
  exact absurd otherwise (by simp [beginsOtherwise, isOpening])

/-- A written text begins like a token. -/
theorem startsToken_writeText (column : Nat) (text more : List Char) :
    StartsToken (writeText column text ++ more) := by
  cases h : style text with
  | plain =>
    obtain ⟨plain, allowed⟩ := style_plain h
    rw [writeText, h]
    exact startsToken_of_allowsPlain allowed (ne_nil_of_isPlainText plain) more
  | singleQuoted => rw [writeText, h]; exact ⟨by decide, by decide⟩
  | doubleQuoted => rw [writeText, h]; exact ⟨by decide, by decide⟩
  | literal => rw [writeText, h]; exact ⟨by decide, by decide⟩

end ControllerSynthesis.Yaml
namespace ControllerSynthesis.Yaml.Scanner

variable {p : Place} {text more next : List Char} {indents : List Nat} {tokens : List Token}
  {keyAllowed : Bool} {k : Nat}

/-! ### Taking a scalar -/

theorem beginsLikeMark_append {t : Char} {ts : List Char} (other : beginsLikeMark text = false)
    (nonempty : text ≠ []) (hyphen : t ≠ '-') (dot : t ≠ '.') :
    beginsLikeMark (text ++ t :: ts) = false := by
  match text, nonempty with
  | [a], _ =>
    unfold beginsLikeMark
    split <;> simp_all
  | [a, b], _ =>
    unfold beginsLikeMark
    split <;> simp_all
  | a :: b :: c :: cs, _ =>
    rw [← other]
    unfold beginsLikeMark
    split <;> split <;> simp_all

/-- A token that begins a text is taken, and possible keys on its line are over when
scanning has landed on a later one. -/
theorem leadsTo_token {c : Char} {cs rest : List Char} {q : Place} {token : Token} {allowed : Bool}
    {candidate : Option Candidate} {line : Nat} (shown : Shown (c :: cs)) (shownRest : Shown rest)
    (other : beginsLikeMark (c :: cs) = false) (isToken : token ≠ .streamEnd)
    (shorter : rest.length < (c :: cs).length) (ended : IsOver candidate line)
    (take : atMark '-' (locate p (c :: cs)) = false → atMark '.' (locate p (c :: cs)) = false →
      (on p (c :: cs) indents tokens keyAllowed none).takeToken ⟨c, p⟩ (locate (p.behind c) cs) =
        some (on q rest indents (token :: tokens) allowed candidate))
    (lands : ∀ kept, IsOver kept line →
      Lands (on q rest indents (token :: tokens) allowed kept) k next indents (token :: tokens)) :
    LeadsTo (on p (c :: cs) indents tokens keyAllowed none) k next indents (token :: tokens) := by
  obtain ⟨kept, keptOver, settled⟩ := settle_isOver shownRest ended
  have taken := takeNext_mark shown other settled rfl take
  refine LeadsTo.of_take taken (by simpa using isToken) ?_ rfl (lands kept keptOver)
  rw [rest_on, rest_on, length_locate shown, length_locate shownRest]
  exact shorter

section Plain

variable {c : Char} {cs : List Char} (allowed : allowsPlain (c :: cs) = true)

include allowed

theorem isOpening_of_allowsPlain : isOpening c = false := by
  obtain ⟨-, -, -, -, -, otherwise, -⟩ := allowsPlain_cons_iff.mp allowed
  simp only [beginsOtherwise, Bool.or_eq_false_iff] at otherwise
  exact otherwise.1

/-- A mark that begins a plain text has no gap behind it. -/
theorem noGap_of_allowsPlain (mark : isOpeningBeforeGap c = true) :
    atLocatedGap (locate (p.behind c) (cs ++ more)) = false := by
  obtain ⟨shown, -, -, -, -, otherwise, -⟩ := allowsPlain_cons_iff.mp allowed
  have gap : atGap cs = false := by
    simp only [beginsOtherwise, mark, Bool.true_and, Bool.or_eq_false_iff] at otherwise
    exact otherwise.2
  cases cs with
  | nil => cases gap
  | cons d ds => rw [atLocatedGap_append (shown_cons.mp shown).2 (List.cons_ne_nil d ds), gap]

theorem beginsPlain_of_allowsPlain : beginsPlain false c (locate (p.behind c) (cs ++ more)) = true := by
  obtain ⟨shown, unbroken, space, -⟩ := allowsPlain_cons_iff.mp allowed
  have word : isGap c = false := by
    simp [isGap_of_isShown (shown_cons.mp shown).1, space, (unbroken_cons.mp unbroken).1]
  by_cases mark : isOpeningBeforeGap c = true
  · have gap := @noGap_of_allowsPlain p more c cs allowed mark
    have blank : (locate (p.behind c) (cs ++ more)).head?.any (fun d => isBlank d.char) = false := by
      cases tail : locate (p.behind c) (cs ++ more) with
      | nil => rfl
      | cons d ds =>
        rw [tail] at gap
        simp only [atLocatedGap, isGap, Bool.or_eq_false_iff] at gap
        simpa using gap.1
    simp only [isOpeningBeforeGap, Bool.or_eq_true, beq_iff_eq] at mark
    rcases mark with (rfl | rfl) | rfl <;> simp [beginsPlain, gap, blank]
  · simp only [isOpeningBeforeGap, Bool.not_eq_true, Bool.or_eq_false_iff] at mark
    simp [beginsPlain, word, isReserved, isOpening_of_allowsPlain allowed, mark]

/-- A character that begins a plain text begins a plain scalar. -/
theorem takeToken_plain (noStart : atMark '-' (locate p (c :: cs ++ more)) = false)
    (noEnd : atMark '.' (locate p (c :: cs ++ more)) = false) {candidate : Option Candidate} :
    (on p (c :: cs ++ more) indents tokens keyAllowed candidate).takeToken ⟨c, p⟩
        (locate (p.behind c) (cs ++ more)) =
      (on p (c :: cs ++ more) indents tokens keyAllowed candidate).takePlain := by
  have begins := @beginsPlain_of_allowsPlain p more c cs allowed
  have other (d : Char) (opening : isOpening d = true) : c ≠ d := by
    rintro rfl
    exact absurd opening (Bool.eq_false_iff.mp (isOpening_of_allowsPlain allowed))
  have noMark (d : Char) (mark : isOpeningBeforeGap d = true) :
      ¬ (c = d ∧ atLocatedGap (locate (p.behind c) (cs ++ more)) = true) := by
    rintro ⟨rfl, gap⟩
    rw [noGap_of_allowsPlain allowed mark] at gap
    cases gap
  have percent : ((⟨c, p⟩ : Located).startsLine && c == '%') = false := by
    simp [other '%' (by decide)]
  simp only [takeToken, rest_on, noStart, noEnd, inFlow_on, percent, begins, Bool.false_eq_true,
    false_or, ↓reduceIte, noMark '-' (by decide), noMark '?' (by decide), noMark ':' (by decide)]
  simp [other '[' (by decide), other ']' (by decide), other '\x7b' (by decide), other '\x7d' (by decide),
    other ',' (by decide), other '*' (by decide), other '&' (by decide), other '!' (by decide),
    other '|' (by decide), other '>' (by decide), other '\'' (by decide), other '"' (by decide)]

end Plain

theorem takePlain_on {rest : List Char} {q : Place} {broken : Bool} (shown : Shown text)
    (read : readPlain false (indents.head?.elim 0 (· + 1)) [] .nothing (locate p text) =
      some ⟨more, broken, locate q rest⟩) (ends : Yaml.finish p text = Yaml.finish q rest) :
    (on p text indents tokens keyAllowed none).takePlain =
      some (on q rest indents (.scalar .plain more :: tokens) broken
        (noted p indents tokens keyAllowed)) := by
  rw [takePlain, noteCandidate_on shown]
  simp only [Option.bind_eq_bind, Option.bind_some, inFlow_on, indents_on, rest_on, read]
  simp [on, allowKey, continueAt, push, ends]

/-- A plain text in front of a token that is indented less is a plain scalar. -/
theorem leadsTo_plain {parent : Nat} {above : List Nat} (allowed : allowsPlain text = true)
    (nonempty : text ≠ []) (inside : parent < p.column) (narrow : k ≤ parent) (shown : Shown next)
    (starts : StartsToken next) :
    LeadsTo (on p (text ++ ('\n' :: pad k ++ next)) (parent :: above) tokens keyAllowed none) k next
      (parent :: above) (.scalar .plain text :: tokens) := by
  have textShown := shown_of_allowsPlain allowed
  have gap : Shown ('\n' :: pad k) := shown_cons.mpr ⟨isShown_feed, shown_pad k⟩
  have whole : Shown (text ++ ('\n' :: pad k ++ next)) :=
    shown_append.mpr ⟨textShown, shown_append.mpr ⟨gap, shown⟩⟩
  obtain ⟨q, place⟩ : ∃ q, Yaml.finish (Yaml.finish p text) ('\n' :: pad k) = q := ⟨_, rfl⟩
  have read : readPlain false (parent + 1) [] .nothing (locate p (text ++ ('\n' :: pad k ++ next))) =
      some ⟨text, true, locate q next⟩ := by
    rw [readPlain_of_allowsPlain allowed nonempty (by omega),
      readPlain_lineEnd shown starts (by omega : k < parent + 1), place, List.reverse_reverse]
  have ends : Yaml.finish p (text ++ ('\n' :: pad k ++ next)) = Yaml.finish q next := by
    rw [finish_append textShown, finish_append gap, place]
  have below : q.column = k ∧ p.line < q.line := by
    have line := line_le_finish textShown p
    rw [← place, finish_cons isShown_feed, finish_pad, Place.behind_of_break _ isBreak_feed]
    simp only [Place.nextLine]
    omega
  have free : (parent :: above).head? ≠ some p.column := by simpa using Nat.ne_of_lt inside
  have ended : IsOver (noted p (parent :: above) tokens keyAllowed) q.line := isOver_noted free below.2
  cases text with
  | nil => exact absurd rfl nonempty
  | cons c cs =>
    have other : beginsLikeMark (c :: cs) = false :=
      (allowsPlain_cons_iff.mp allowed).2.2.2.2.1
    rw [List.cons_append]
    refine leadsTo_token whole shown (beginsLikeMark_append other nonempty (by decide) (by decide)) (by simp)
      ?_ ended ?_ fun kept keptOver => lands_front below.1 shown starts keptOver
    · simp only [List.length_cons, List.length_append]
      omega
    · intro noStart noEnd
      exact (takeToken_plain allowed noStart noEnd).trans (takePlain_on whole read ends)

/-- A plain text in front of a colon is a plain scalar. -/
theorem takeToken_plainKey {c : Char} {cs : List Char} (allowed : allowsPlain (c :: cs) = true)
    (wide : indents.head?.elim 0 (· + 1) ≤ p.column + 1) (shown : Shown more)
    (gap : atLocatedGap (locate ((Yaml.finish p (c :: cs)).behind ':') more) = true)
    (noStart : atMark '-' (locate p (c :: cs ++ ':' :: more)) = false)
    (noEnd : atMark '.' (locate p (c :: cs ++ ':' :: more)) = false) :
    (on p (c :: cs ++ ':' :: more) indents tokens keyAllowed none).takeToken ⟨c, p⟩
        (locate (p.behind c) (cs ++ ':' :: more)) =
      some (on (Yaml.finish p (c :: cs)) (':' :: more) indents (.scalar .plain (c :: cs) :: tokens) false
        (noted p indents tokens keyAllowed)) := by
  have textShown := shown_of_allowsPlain allowed
  have whole : Shown (c :: cs ++ ':' :: more) :=
    shown_append.mpr ⟨textShown, shown_cons.mpr ⟨by decide, shown⟩⟩
  have read : readPlain false (indents.head?.elim 0 (· + 1)) [] .nothing
      (locate p (c :: cs ++ ':' :: more)) =
        some ⟨c :: cs, false, locate (Yaml.finish p (c :: cs)) (':' :: more)⟩ := by
    rw [readPlain_of_allowsPlain allowed (List.cons_ne_nil c cs) wide, readPlain_colon gap,
      List.reverse_reverse]
  exact (takeToken_plain allowed noStart noEnd).trans
    (takePlain_on whole read (finish_append textShown _ _))

/-! ### Quotes and lines -/

theorem takeKeyable_on {written : List Char} {token : Token} (shown : Shown (written ++ more)) :
    (on p (written ++ more) indents tokens keyAllowed none).takeKeyable
        (some (token, locate (Yaml.finish p written) more)) =
      some (on (Yaml.finish p written) more indents (token :: tokens) false
        (noted p indents tokens keyAllowed)) := by
  rw [takeKeyable, noteCandidate_on shown]
  simp only [Option.bind_eq_bind, Option.bind_some, allowKey_on,
    continueAt_on (shown_append.mp shown).1, push_on]
  rfl

/-- A text that may be written between single quotes is a scalar between them. -/
theorem takeToken_singleQuoted {column : Nat} {t : Char} {ts : List Char} (wide : 0 < column)
    (allowed : allowsSingleQuotes text = true) (noFeed : '\n' ∉ text) (shown : Shown (t :: ts))
    (other : t ≠ '\'')
    (noStart : atMark '-' (locate p ('\'' :: quotedTail column '\'' false text ++ t :: ts)) = false)
    (noEnd : atMark '.' (locate p ('\'' :: quotedTail column '\'' false text ++ t :: ts)) = false) :
    (on p ('\'' :: quotedTail column '\'' false text ++ t :: ts) indents tokens keyAllowed
        none).takeToken ⟨'\'', p⟩
        (locate (p.behind '\'') (quotedTail column '\'' false text ++ t :: ts)) =
      some (on (Yaml.finish p ('\'' :: quotedTail column '\'' false text)) (t :: ts) indents
        (.scalar .marked text :: tokens) false (noted p indents tokens keyAllowed)) := by
  have quote : isShown '\'' = true := by decide
  have unbroken : isBreak '\'' = false := by decide
  have whole : Shown ('\'' :: quotedTail column '\'' false text ++ t :: ts) :=
    shown_append.mpr ⟨shown_cons.mpr ⟨quote,
      shown_quotedTail column _ _ (allowsSingleQuotes_iff.mp allowed).1⟩, shown⟩
  have inside : 0 < (p.behind '\'').column := by
    rw [p.behind_of_noBreak unbroken]
    exact Nat.succ_pos _
  have read := readSingleQuoted_singleQuoted wide inside allowed noFeed (shown_cons.mp shown).1 other ts
  have taken := @takeKeyable_on p (t :: ts) indents tokens keyAllowed
    ('\'' :: quotedTail column '\'' false text) (.scalar .marked text) whole
  rw [finish_cons quote] at taken ⊢
  rw [← taken]
  simp only [takeToken, rest_on, noStart, noEnd, read]
  simp

/-- Any text may be written between double quotes. -/
theorem takeToken_doubleQuoted (shown : Shown more)
    (noStart : atMark '-' (locate p ('"' :: doubleQuotedTail text ++ more)) = false)
    (noEnd : atMark '.' (locate p ('"' :: doubleQuotedTail text ++ more)) = false) :
    (on p ('"' :: doubleQuotedTail text ++ more) indents tokens keyAllowed none).takeToken ⟨'"', p⟩
        (locate (p.behind '"') (doubleQuotedTail text ++ more)) =
      some (on (Yaml.finish p ('"' :: doubleQuotedTail text)) more indents
        (.scalar .marked text :: tokens) false (noted p indents tokens keyAllowed)) := by
  have quote : isShown '"' = true := by decide
  have unbroken : isBreak '"' = false := by decide
  have whole : Shown ('"' :: doubleQuotedTail text ++ more) :=
    shown_append.mpr ⟨shown_cons.mpr ⟨quote, shown_doubleQuotedTail text⟩, shown⟩
  have inside : 0 < (p.behind '"').column := by
    rw [p.behind_of_noBreak unbroken]
    exact Nat.succ_pos _
  have read := readDoubleQuoted_doubleQuoted inside text more
  have taken := @takeKeyable_on p more indents tokens keyAllowed ('"' :: doubleQuotedTail text)
    (.scalar .marked text) whole
  rw [finish_cons quote] at taken ⊢
  rw [← taken]
  simp only [takeToken, rest_on, noStart, noEnd, read]
  simp

theorem shown_block {parent : Nat} (allowed : allowsLines text = true) :
    Shown (literalTail (parent + 2) text ++ pad k) :=
  shown_append.mpr ⟨shown_literalTail _ (allowsLines_iff.mp allowed).1, shown_pad k⟩

/-- Behind a text written line by line the next token is the first of its line. -/
theorem column_block {parent : Nat} (allowed : allowsLines text = true) (p : Place) :
    (Yaml.finish p (literalTail (parent + 2) text ++ pad k)).column = k := by
  have shown := (allowsLines_iff.mp allowed).1
  have lines := shown_indented (parent + 2) true (shown_append.mpr ⟨shown, shown_closingBreak text⟩)
  have ended : ∀ q : Place, (Yaml.finish q
      (indented (parent + 2) true (text ++ closingBreak text))).column = 0 :=
    column_finish_of_endsBreak lines (by rw [endsWith_indented, endsWith_closingBreak])
  rw [finish_append (shown_literalTail _ shown), finish_pad, literalTail,
    finish_append (shown_literalMarks text), finish_cons isShown_feed, ended, Nat.zero_add]

/-- A text that may be written line by line is a literal scalar in front of a token
that is indented less. -/
theorem leadsTo_literal {parent : Nat} {above : List Nat} (allowed : allowsLines text = true)
    (nonempty : text ≠ []) (narrow : k ≤ parent) (shown : Shown next) (starts : StartsToken next) :
    LeadsTo (on p ('|' :: (literalTail (parent + 2) text ++ pad k ++ next)) (parent :: above) tokens
      keyAllowed none) k next (parent :: above) (.scalar .literal text :: tokens) := by
  have bar : isShown '|' = true := by decide
  have block := @shown_block text k parent allowed
  have whole : Shown ('|' :: (literalTail (parent + 2) text ++ pad k ++ next)) :=
    shown_cons.mpr ⟨bar, shown_append.mpr ⟨block, shown⟩⟩
  obtain ⟨q, place⟩ : ∃ q, Yaml.finish (p.behind '|') (literalTail (parent + 2) text ++ pad k) = q :=
    ⟨_, rfl⟩
  have column : q.column = k := place ▸ column_block allowed _
  have read := readBlock_literal (p := p.behind '|') (allowsLines_iff.mp allowed).1 nonempty
    (by omega : k < parent + 2) shown starts
  have ends : Yaml.finish p ('|' :: (literalTail (parent + 2) text ++ pad k ++ next)) =
      Yaml.finish q next := by
    rw [finish_cons bar, finish_append block, place]
  rw [place] at read
  have kind : (Form.literal != .literal) = false := by decide
  have taken : (on p ('|' :: (literalTail (parent + 2) text ++ pad k ++ next)) (parent :: above) tokens
      keyAllowed none).takeBlock .literal (locate (p.behind '|')
        (literalTail (parent + 2) text ++ pad k ++ next)) =
      some (on q next (parent :: above) (.scalar .literal text :: tokens) true none) := by
    rw [takeBlock, dropCandidate_on]
    simp only [Option.bind_eq_bind, Option.bind_some, indents_on, List.head?_cons, kind, read]
    simpa [on, allowKey, continueAt, push] using ends
  refine leadsTo_token whole shown rfl (by simp) ?_ (isOver_none q.line) ?_
    fun kept keptOver => lands_front column shown starts keptOver
  · simp only [List.length_cons, List.length_append]
    omega
  · intro noStart noEnd
    rw [← taken]
    simp only [takeToken, rest_on, noStart, noEnd]
    simp

/-! ### Texts as values and as keys -/

/-- A text between quotes is one token, and ends on its line. -/
theorem leadsTo_quoted {parent : Nat} {above : List Nat} {first : Char} {written : List Char}
    (inside : parent < p.column) (shown : Shown next) (starts : StartsToken next)
    (shownWritten : Shown (first :: written))
    (other : beginsLikeMark (first :: written ++ '\n' :: (pad k ++ next)) = false)
    (take : atMark '-' (locate p (first :: written ++ '\n' :: (pad k ++ next))) = false →
      atMark '.' (locate p (first :: written ++ '\n' :: (pad k ++ next))) = false →
      (on p (first :: written ++ '\n' :: (pad k ++ next)) (parent :: above) tokens keyAllowed
        none).takeToken ⟨first, p⟩ (locate (p.behind first) (written ++ '\n' :: (pad k ++ next))) =
        some (on (Yaml.finish p (first :: written)) ('\n' :: (pad k ++ next)) (parent :: above)
          (.scalar .marked text :: tokens) false (noted p (parent :: above) tokens keyAllowed))) :
    LeadsTo (on p (first :: written ++ '\n' :: (pad k ++ next)) (parent :: above) tokens keyAllowed
      none) k next (parent :: above) (.scalar .marked text :: tokens) := by
  have free : (parent :: above).head? ≠ some p.column := by simpa using Nat.ne_of_lt inside
  have ends : Shown ('\n' :: (pad k ++ next)) :=
    shown_cons.mpr ⟨isShown_feed, shown_append.mpr ⟨shown_pad k, shown⟩⟩
  have line : p.line < (Yaml.finish p (first :: written)).line + 1 :=
    Nat.lt_succ_of_le (line_le_finish shownWritten p)
  refine leadsTo_token (shown_append.mpr ⟨shownWritten, ends⟩) ends other (by simp) ?_
    (isOver_noted free line) take fun kept keptOver => lands_lineEnd shown starts keptOver
  show ('\n' :: (pad k ++ next)).length < (first :: (written ++ '\n' :: (pad k ++ next))).length
  simp only [List.length_cons, List.length_append]
  omega

theorem leadsTo_singleQuoted {parent : Nat} {above : List Nat} (inside : parent < p.column)
    (allowed : allowsSingleQuotes text = true) (noFeed : '\n' ∉ text) (shown : Shown next)
    (starts : StartsToken next) :
    LeadsTo (on p ('\'' :: quotedTail (parent + 2) '\'' false text ++ '\n' :: (pad k ++ next)) (parent :: above)
      tokens keyAllowed none) k next (parent :: above) (.scalar .marked text :: tokens) := by
  have ends : Shown ('\n' :: (pad k ++ next)) :=
    shown_cons.mpr ⟨isShown_feed, shown_append.mpr ⟨shown_pad k, shown⟩⟩
  have written : Shown ('\'' :: quotedTail (parent + 2) '\'' false text) :=
    shown_cons.mpr ⟨by decide, shown_quotedTail _ _ _ (allowsSingleQuotes_iff.mp allowed).1⟩
  exact leadsTo_quoted inside shown starts written rfl fun noStart noEnd =>
    takeToken_singleQuoted (Nat.succ_pos _) allowed noFeed ends (by decide) noStart noEnd

theorem leadsTo_doubleQuoted {parent : Nat} {above : List Nat} (inside : parent < p.column)
    (shown : Shown next) (starts : StartsToken next) :
    LeadsTo (on p ('"' :: doubleQuotedTail text ++ '\n' :: (pad k ++ next)) (parent :: above) tokens keyAllowed
      none) k next (parent :: above) (.scalar .marked text :: tokens) := by
  have ends : Shown ('\n' :: (pad k ++ next)) :=
    shown_cons.mpr ⟨isShown_feed, shown_append.mpr ⟨shown_pad k, shown⟩⟩
  have written : Shown ('"' :: doubleQuotedTail text) :=
    shown_cons.mpr ⟨by decide, shown_doubleQuotedTail text⟩
  exact leadsTo_quoted inside shown starts written rfl fun noStart noEnd =>
    takeToken_doubleQuoted ends noStart noEnd

/-- **A written text is one token**, in front of a token that is indented less. -/
theorem leadsTo_text {parent : Nat} {above : List Nat} (inside : parent < p.column) (narrow : k ≤ parent)
    (shown : Shown next) (starts : StartsToken next) (text : List Char) :
    LeadsTo (on p (writeText (parent + 2) text ++ lineEnd text ++ pad k ++ next) (parent :: above) tokens
      keyAllowed none) k next (parent :: above) (scalarToken text :: tokens) := by
  rcases writeText_cases (parent + 2) text with ⟨style, same, allowed, nonempty⟩ |
    ⟨style, same, noFeed, allowed⟩ | ⟨style, same⟩ | ⟨style, same, feed, allowed⟩
  · have token : scalarToken text = .scalar .plain text := by rw [scalarToken, formOf, style]
    rw [same, lineEnd_of_ne (by simp [style]), token]
    simpa using leadsTo_plain allowed nonempty inside narrow shown starts
  · have token : scalarToken text = .scalar .marked text := by rw [scalarToken, formOf, style]
    rw [same, lineEnd_of_ne (by simp [style]), token]
    simpa using leadsTo_singleQuoted inside allowed noFeed shown starts
  · have token : scalarToken text = .scalar .marked text := by rw [scalarToken, formOf, style]
    rw [same, lineEnd_of_ne (by simp [style]), token]
    simpa using leadsTo_doubleQuoted inside shown starts
  · have token : scalarToken text = .scalar .literal text := by rw [scalarToken, formOf, style]
    have nonempty : text ≠ [] := List.ne_nil_of_mem feed
    rw [same, token]
    simpa using leadsTo_literal allowed nonempty narrow shown starts

/-- A possible key that is near stays one in front of its colon. -/
theorem advance_candidate {candidate : Candidate} (shown : Shown text) (starts : StartsToken text)
    (near : isPast p candidate = false) (closed : closedBlocks p.column indents tokens = (indents, tokens)) :
    (on p text indents tokens keyAllowed (some candidate)).advance =
      some (on p text indents tokens keyAllowed (some candidate)) := by
  have skipped : (on p text indents tokens keyAllowed (some candidate)).skipToToken =
      on p text indents tokens keyAllowed (some candidate) := by
    rw [skipToToken]
    simp [on, inFlow, skipGaps_token shown starts]
  rw [advance, skipped, settle_near shown near, Option.map_some, closeBlocks_on shown, closed]

theorem closedBlocks_of_le {column : Nat} (outside : ∀ c ∈ indents.head?, c ≤ column)
    (tokens : List Token) : closedBlocks column indents tokens = (indents, tokens) := by
  cases indents with
  | nil => rfl
  | cons c cs =>
    have le : c ≤ column := outside c rfl
    rw [closedBlocks, if_neg (Nat.not_lt.mpr le)]

/-- A key as the writer has it in front of its colon: near enough to be one. -/
def IsNearKey (text : List Char) : Prop :=
  Unbroken text ∧ byteSize text ≤ longestKey

/-- The text of a key is one token, in front of its colon. -/
theorem takeToken_key {column : Nat} (wide : 0 < column) (key : IsNearKey text) (shown : Shown more)
    (outside : ∀ c ∈ indents.head?, c ≤ p.column)
    (gap : ∀ q : Place, atLocatedGap (locate q more) = true) : ∃ c cs, writeText column text = c :: cs ∧
      beginsLikeMark (writeText column text ++ ':' :: more) = false ∧
      (atMark '-' (locate p (c :: cs ++ ':' :: more)) = false →
        atMark '.' (locate p (c :: cs ++ ':' :: more)) = false →
        (on p (c :: cs ++ ':' :: more) indents tokens keyAllowed none).takeToken ⟨c, p⟩
            (locate (p.behind c) (cs ++ ':' :: more)) =
          some (on (Yaml.finish p (c :: cs)) (':' :: more) indents (scalarToken text :: tokens) false
            (noted p indents tokens keyAllowed))) := by
  have ends : Shown (':' :: more) := shown_cons.mpr ⟨by decide, shown⟩
  rcases writeText_cases column text with ⟨style, same, allowed, nonempty⟩ |
    ⟨style, same, noFeed, allowed⟩ | ⟨style, same⟩ | ⟨style, -⟩
  · have token : scalarToken text = .scalar .plain text := by rw [scalarToken, formOf, style]
    have limit : indents.head?.elim 0 (· + 1) ≤ p.column + 1 := by
      cases indents with
      | nil => exact Nat.zero_le _
      | cons c cs => exact Nat.succ_le_succ (outside c rfl)
    rw [same, token]
    cases text with
    | nil => exact absurd rfl nonempty
    | cons c cs =>
      have other : beginsLikeMark (c :: cs) = false := (allowsPlain_cons_iff.mp allowed).2.2.2.2.1
      exact ⟨c, cs, rfl, beginsLikeMark_append other nonempty (by decide) (by decide),
        fun noStart noEnd => takeToken_plainKey allowed limit shown (gap _) noStart noEnd⟩
  · have token : scalarToken text = .scalar .marked text := by rw [scalarToken, formOf, style]
    rw [same, token]
    exact ⟨_, _, rfl, rfl, fun noStart noEnd =>
      takeToken_singleQuoted wide allowed noFeed ends (by decide) noStart noEnd⟩
  · have token : scalarToken text = .scalar .marked text := by rw [scalarToken, formOf, style]
    rw [same, token]
    exact ⟨_, _, rfl, rfl, fun noStart noEnd => takeToken_doubleQuoted ends noStart noEnd⟩
  · exact absurd style (writeText_of_unbroken column key.1).1

/-- **A text in front of its colon is a key**, and opens a block for it. -/
theorem leadsTo_simpleKey {column width : Nat} {opens : List Nat × List Token} {above : List Nat}
    {later : List Token} (wide : 0 < width) (key : IsNearKey text) (shown : Shown more)
    (gap : ∀ q : Place, atLocatedGap (locate q more) = true) (start : p.column = column)
    (outside : ∀ c ∈ indents.head?, c ≤ column)
    (opening : opened column .blockMappingStart indents tokens = opens)
    (lands : ∀ q : Place, column ≤ q.column →
      Lands (on q more opens.1 (.value :: scalarToken text :: .key :: opens.2) false none) k next above later) :
    LeadsTo (on p (writeText width text ++ ':' :: more) indents tokens true none) k next above later := by
  subst start
  obtain ⟨-, line, short⟩ := writeText_of_unbroken width key.1
  have colon : Shown (':' :: more) := shown_cons.mpr ⟨by decide, shown⟩
  have written : Shown (writeText width text) := (shown_append.mp (shown_writeText width text)).1
  obtain ⟨c, cs, same, other, take⟩ := @takeToken_key p text more indents tokens true width wide key shown
    outside gap
  rw [same] at written line short other ⊢
  have whole : Shown (c :: cs ++ ':' :: more) := shown_append.mpr ⟨written, colon⟩
  have place := finish_of_unbroken written line p
  have near : isPast (Yaml.finish p (c :: cs))
      ⟨tokens.length, p, indents.head? == some p.column⟩ = false := by
    have size : byteSize text ≤ 128 := key.2
    have reach : longestReach = 1024 := rfl
    rw [place]
    simp only [isPast, Bool.or_eq_false_iff, decide_eq_false_iff_not, Nat.not_lt]
    exact ⟨Nat.le_refl _, by omega⟩
  have further : ∀ d ∈ indents.head?, d ≤ (Yaml.finish p (c :: cs)).column := by
    intro d mem
    have := outside d mem
    rw [place]
    exact Nat.le_trans this (Nat.le_add_right _ _)
  have first : (on p (c :: cs ++ ':' :: more) indents tokens true none).takeNext = some (on
      (Yaml.finish p (c :: cs)) (':' :: more) indents (scalarToken text :: tokens) false
      (noted p indents tokens true)) := takeNext_mark whole other (settle_near colon near) rfl take
  have advance := @advance_candidate _ _ _ _ false _ colon ⟨by decide, by decide⟩ near
    (closedBlocks_of_le further (scalarToken text :: tokens))
  have second : (on (Yaml.finish p (c :: cs)) (':' :: more) indents (scalarToken text :: tokens) false
      (some ⟨tokens.length, p, indents.head? == some p.column⟩)).takeNext =
        some (on ((Yaml.finish p (c :: cs)).behind ':') more opens.1
          (.value :: scalarToken text :: .key :: opens.2) false none) :=
    takeNext_keyValue shown (gap _) rfl rfl opening
  refine Leads.leadsTo (.step first (by simp [scalarToken]) ?_ rfl advance (.refl _)) ?_
  · rw [rest_on, rest_on, length_locate whole, length_locate colon]
    simp only [List.length_cons, List.length_append]
    omega
  · refine LeadsTo.of_take second (by simp) ?_ rfl (lands _ ?_)
    · rw [rest_on, rest_on, length_locate colon, length_locate shown]
      exact Nat.lt_succ_self _
    · rw [Place.behind_of_noBreak _ (by decide), place]
      simp only [Place.next]
      omega

end ControllerSynthesis.Yaml.Scanner
