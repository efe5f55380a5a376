/-
# Quoted text is read back

Between double quotes every character stands as itself or as its escape, and no
line ends. Between single quotes the line and paragraph separators stand as they
are, with the spaces of the indentation behind them; the reader drops those, and
keeps the break, since no space of the text stands beside it.

Key definitions: `Yaml.GapBehind`, `Yaml.quotedTail`.
Key theorems: `Yaml.readSingleQuoted_singleQuoted`, `Yaml.readDoubleQuoted_doubleQuoted`.
-/
import ControllerSynthesis.Proofs.Yaml.Escapes
import ControllerSynthesis.Proofs.Yaml.PlainText

namespace ControllerSynthesis.Yaml

/-! ### Double quotes -/

/-- The text between double quotes and the closing quote. -/
def doubleQuotedTail (text : List Char) : List Char :=
  text.flatMap doubleQuotedChar ++ ['"']

theorem doubleQuotedTail_cons (c : Char) (cs : List Char) :
    doubleQuotedTail (c :: cs) = doubleQuotedChar c ++ doubleQuotedTail cs := by
  simp [doubleQuotedTail]

theorem shown_doubleQuotedTail (text : List Char) : Shown (doubleQuotedTail text) := by
  intro d mem
  rcases List.mem_append.mp mem with mem | mem
  · obtain ⟨c, -, mem⟩ := List.mem_flatMap.mp mem
    exact shown_doubleQuotedChar c d mem
  · rw [List.mem_singleton.mp mem]
    decide

theorem unbroken_doubleQuotedTail (text : List Char) : Unbroken (doubleQuotedTail text) := by
  intro d mem
  rcases List.mem_append.mp mem with mem | mem
  · obtain ⟨c, -, mem⟩ := List.mem_flatMap.mp mem
    exact unbroken_doubleQuotedChar c d mem
  · rw [List.mem_singleton.mp mem]
    decide

theorem byteSize_doubleQuotedTail_le : ∀ text : List Char,
    byteSize (doubleQuotedTail text) ≤ 4 * byteSize text + 1
  | [] => by decide
  | c :: cs => by
    have first := byteSize_doubleQuotedChar_le c
    have rest := byteSize_doubleQuotedTail_le cs
    rw [doubleQuotedTail_cons, byteSize_append, byteSize_cons]
    omega

theorem readDoubleQuoted_cons (done : List Char) (gap : Gap) (c : Located) (rest : List Located) :
    readDoubleQuoted done gap (c :: rest) =
      if isGap c.char then readDoubleQuoted done (gap.extend c.char) rest
      else if atDocumentMark (c :: rest) then none
      else if c.char = '"' then some ((gap.text.reverse ++ done).reverse, rest)
      else if c.char = '\\' then
        match rest with
        | [] => none
        | d :: rest =>
          if isBreak d.char then readDoubleQuoted (gap.text.reverse ++ done) (.escaped []) rest
          else
            match escape? d.char rest with
            | none => none
            | some (e, width) =>
              readDoubleQuoted (e :: gap.text.reverse ++ done) .nothing (rest.drop width)
      else readDoubleQuoted (c.char :: gap.text.reverse ++ done) .nothing rest :=
  (readDoubleQuoted.eq_def done gap (c :: rest)).trans rfl

/-- An escape is read as its character. -/
theorem readDoubleQuoted_escape {done : List Char} {gap : Gap} {p : Place} (inside : 0 < p.column)
    (c : Char) (more : List Char) :
    readDoubleQuoted done gap (locate p ('\\' :: escape c ++ more)) =
      readDoubleQuoted (c :: gap.text.reverse ++ done) .nothing
        (locate (finish p ('\\' :: escape c)) more) := by
  obtain ⟨narrow, d, ds, same, read⟩ := escapes_escape c
  have shown := shown_of_narrow narrow
  have unbroken := unbroken_of_narrow narrow
  have backslash : isShown '\\' = true := by decide
  rw [same] at shown unbroken
  obtain ⟨first, rest⟩ := shown_cons.mp shown
  obtain ⟨here, -⟩ := unbroken_cons.mp unbroken
  have length := length_locate rest ((p.behind '\\').behind d)
  have digits : characters ((locate ((p.behind '\\').behind d) (ds ++ more)).take ds.length) = ds := by
    rw [locate_append rest, List.take_left' length, characters_locate rest]
  have escaped := read _ digits
  rw [same, List.cons_append, locate_cons backslash, finish_cons backslash, List.cons_append,
    locate_cons first, finish_cons first, readDoubleQuoted_cons]
  have word : isGap '\\' = false := by decide
  rw [if_neg (by simp [word]), if_neg (by simp [atDocumentMark_of_column _ inside]),
    if_neg (by simp), if_pos rfl]
  simp only [here, Bool.false_eq_true, ↓reduceIte, escaped]
  rw [locate_append rest, List.drop_left' length]

/-- The text between double quotes is read character by character. -/
theorem readDoubleQuoted_tail : ∀ {text done spaces : List Char} {p : Place}, 0 < p.column →
    ∀ tail : List Char, readDoubleQuoted done (heldGap spaces) (locate p (doubleQuotedTail text ++ tail)) =
      some (done.reverse ++ spaces.reverse ++ text, locate (finish p (doubleQuotedTail text)) tail)
  | [], done, spaces, p, inside, tail => by
    have quote : isShown '"' = true := by decide
    have word : isGap '"' = false := by decide
    have written : doubleQuotedTail [] = ['"'] := rfl
    rw [written, List.cons_append, locate_cons quote, finish_cons quote, finish_nil, readDoubleQuoted_cons,
      if_neg (by simp [word]), if_neg (by simp [atDocumentMark_of_column _ inside]), if_pos rfl]
    simp [text_heldGap]
  | c :: cs, done, spaces, p, inside, tail => by
    have read {done spaces : List Char} {p : Place} := @readDoubleQuoted_tail cs done spaces p
    rw [doubleQuotedTail_cons, List.append_assoc]
    rcases doubleQuotedChar_cases c with ⟨same, shown, unbroken, quote, backslash⟩ | same
    · have next : p.behind c = p.next c.utf8Size := p.behind_of_noBreak unbroken
      have behind : 0 < (p.next c.utf8Size).column := Nat.succ_pos _
      rw [same, List.cons_append, List.nil_append, locate_cons shown, List.cons_append, List.nil_append,
        finish_cons shown, next, readDoubleQuoted_cons]
      by_cases space : c = ' '
      · subst space
        rw [if_pos isGap_space, extend_heldGap, read behind]
        simp
      · have word : isGap c = false := by simp [isGap_of_isShown shown, space, unbroken]
        rw [if_neg (by simp [word]), if_neg (by simp [atDocumentMark_of_column _ inside]), if_neg quote,
          if_neg backslash, ← heldGap_nil, read behind]
        simp [text_heldGap]
    · have narrow : ∀ d ∈ '\\' :: escape c, isNarrow d = true := fun d => isNarrow_of_mem_backslash
      have behind : 0 < (finish p ('\\' :: escape c)).column := by
        rw [finish_of_unbroken (shown_of_narrow narrow) (unbroken_of_narrow narrow)]
        exact Nat.lt_of_lt_of_le inside (Nat.le_add_right _ _)
      rw [same, finish_append (shown_of_narrow narrow), readDoubleQuoted_escape inside, ← heldGap_nil,
        read behind]
      simp [text_heldGap]

/-- **A text between double quotes is read back.** -/
theorem readDoubleQuoted_doubleQuoted {p : Place} (inside : 0 < p.column) (text tail : List Char) :
    readDoubleQuoted [] .nothing (locate p (doubleQuotedTail text ++ tail)) =
      some (text, locate (finish p (doubleQuotedTail text)) tail) := by
  rw [← heldGap_nil, readDoubleQuoted_tail inside]
  rfl

/-! ### Single quotes -/

/-- What stands behind a character that was read: nothing, spaces of which it is
the last, or breaks of which it is the last. -/
inductive GapBehind : Char → Gap → Prop
  | word {c : Char} : isGap c = false → GapBehind c .nothing
  | spaces {seen : List Char} : GapBehind ' ' (heldGap (' ' :: seen))
  | breaks {c first : Char} {more : List Char} :
      isBreak c = true → first ≠ '\n' → GapBehind c (.folded first more)

theorem GapBehind.isBroken_eq {before : Char} {gap : Gap} (behind : GapBehind before gap) :
    gap.isBroken = isBreak before := by
  cases behind with
  | word h =>
    simp only [isGap, Bool.or_eq_false_iff] at h
    rw [h.2]
    rfl
  | spaces => rfl
  | breaks h => rw [h]; rfl

/-- A gap grows by a space that no break stands before. -/
theorem GapBehind.space {before : Char} {gap : Gap} (behind : GapBehind before gap)
    (unbroken : isBreak before = false) :
    GapBehind ' ' (gap.extend ' ') ∧ (gap.extend ' ').text = gap.text ++ [' '] := by
  cases behind with
  | word => exact ⟨@GapBehind.spaces [], rfl⟩
  | @spaces seen => exact ⟨@GapBehind.spaces (' ' :: seen), by simp [extend_heldGap, text_heldGap]⟩
  | breaks h => rw [h] at unbroken; cases unbroken

/-- A gap grows by a break that no space stands before. -/
theorem GapBehind.lineEnd {before c : Char} {gap : Gap} (behind : GapBehind before gap)
    (noSpace : before ≠ ' ') (broken : isBreak c = true) (noFeed : c ≠ '\n') :
    GapBehind c (gap.extend c) ∧ (gap.extend c).text = gap.text ++ [c] := by
  cases behind with
  | word =>
    simp only [Gap.extend, broken, ↓reduceIte]
    exact ⟨.breaks broken noFeed, by simp [Gap.text, noFeed]⟩
  | spaces => exact absurd rfl noSpace
  | breaks _ first =>
    simp only [Gap.extend, broken, ↓reduceIte]
    exact ⟨.breaks broken first, by simp [Gap.text, first]⟩

/-- The spaces at the start of a line, if one starts. -/
def lineStart (column : Nat) (fresh : Bool) : List Char :=
  if fresh then pad column else []

theorem shown_lineStart (column : Nat) (fresh : Bool) : Shown (lineStart column fresh) := by
  cases fresh
  · exact shown_nil
  · exact shown_pad column

theorem extend_space_of_isBroken {gap : Gap} (broken : gap.isBroken = true) : gap.extend ' ' = gap := by
  cases gap <;> simp_all [Gap.isBroken, Gap.extend, isBreak_space]

theorem readSingleQuoted_cons (done : List Char) (gap : Gap) (c : Located) (rest : List Located) :
    readSingleQuoted done gap (c :: rest) =
      if isGap c.char then readSingleQuoted done (gap.extend c.char) rest
      else if atDocumentMark (c :: rest) then none
      else if c.char = '\'' then
        match rest with
        | [] => some ((gap.text.reverse ++ done).reverse, [])
        | d :: rest =>
          if d.char = '\'' then readSingleQuoted ('\'' :: gap.text.reverse ++ done) .nothing rest
          else some ((gap.text.reverse ++ done).reverse, d :: rest)
      else readSingleQuoted (c.char :: gap.text.reverse ++ done) .nothing rest :=
  (readSingleQuoted.eq_def done gap (c :: rest)).trans rfl

theorem readSingleQuoted_pad {done : List Char} {gap : Gap} (broken : gap.isBroken = true) (cs : List Char) :
    ∀ (n : Nat) (p : Place), readSingleQuoted done gap (locate p (pad n ++ cs)) =
      readSingleQuoted done gap (locate (finish p (pad n)) cs)
  | 0, p => by simp [pad, finish_nil]
  | n + 1, p => by
    rw [pad_succ, List.cons_append, locate_cons isShown_space, finish_cons isShown_space,
      readSingleQuoted_cons, if_pos isGap_space, extend_space_of_isBroken broken]
    exact readSingleQuoted_pad broken cs n _

/-- The indentation of a line belongs to the gap. -/
theorem readSingleQuoted_lineStart {done : List Char} {gap : Gap} {column : Nat} (p : Place)
    (cs : List Char) : readSingleQuoted done gap (locate p (lineStart column gap.isBroken ++ cs)) =
      readSingleQuoted done gap (locate (finish p (lineStart column gap.isBroken)) cs) := by
  cases broken : gap.isBroken with
  | false => simp [lineStart, finish_nil]
  | true => exact readSingleQuoted_pad broken cs column p

/-- Behind the indentation a line has begun. -/
theorem column_lineStart {column : Nat} {gap : Gap} {p : Place} (wide : 0 < column)
    (inside : gap.isBroken = true ∨ 0 < p.column) :
    0 < (finish p (lineStart column gap.isBroken)).column := by
  cases broken : gap.isBroken with
  | false => simpa [broken, lineStart, finish_nil] using inside
  | true =>
    simp only [lineStart, ↓reduceIte, finish_pad]
    omega

theorem readSingleQuoted_word {done : List Char} {gap : Gap} {p : Place} {c : Char} (inside : 0 < p.column)
    (shown : isShown c = true) (word : isGap c = false) (other : c ≠ '\'') (cs : List Char) :
    readSingleQuoted done gap (locate p (c :: cs)) =
      readSingleQuoted (c :: gap.text.reverse ++ done) .nothing (locate (p.behind c) cs) := by
  rw [locate_cons shown, readSingleQuoted_cons, if_neg (by simp [word]),
    if_neg (by simp [atDocumentMark_of_column _ inside]), if_neg other]

/-- A doubled quote is a quote of the text. -/
theorem readSingleQuoted_quote {done : List Char} {gap : Gap} {p : Place} (inside : 0 < p.column)
    (cs : List Char) : readSingleQuoted done gap (locate p ('\'' :: '\'' :: cs)) =
      readSingleQuoted ('\'' :: gap.text.reverse ++ done) .nothing
        (locate ((p.behind '\'').behind '\'') cs) := by
  have quote : isShown '\'' = true := by decide
  have word : isGap '\'' = false := by decide
  rw [locate_cons quote, locate_cons quote, readSingleQuoted_cons, if_neg (by simp [word]),
    if_neg (by simp [atDocumentMark_of_column _ inside]), if_pos rfl]
  simp

/-- A quote with another character behind it ends the text. -/
theorem readSingleQuoted_end {done : List Char} {gap : Gap} {p : Place} {t : Char} (inside : 0 < p.column)
    (shown : isShown t = true) (other : t ≠ '\'') (ts : List Char) :
    readSingleQuoted done gap (locate p ('\'' :: t :: ts)) =
      some (done.reverse ++ gap.text, locate (p.behind '\'') (t :: ts)) := by
  have quote : isShown '\'' = true := by decide
  have word : isGap '\'' = false := by decide
  rw [locate_cons quote, locate_cons shown, readSingleQuoted_cons, if_neg (by simp [word]),
    if_neg (by simp [atDocumentMark_of_column _ inside]), if_pos rfl]
  simp [other]

/-- The text between single quotes from a character on, which stands behind
`before`, and the closing quote; `fresh` says whether the text is at the start of a
line. -/
def quotedTail (column : Nat) (before : Char) (fresh : Bool) (text : List Char) : List Char :=
  indented column fresh (text.flatMap fun c => if c = '\'' then ['\'', '\''] else [c]) ++
    lineStart column (endsWith isBreak (before :: text)) ++ ['\'']

theorem singleQuoted_eq (column : Nat) (text : List Char) :
    singleQuoted column text = '\'' :: quotedTail column '\'' false text := by
  have same : endsWith isBreak ('\'' :: text) = endsWith isBreak text := by
    cases text with
    | nil => decide
    | cons c cs => rw [endsWith_cons (List.cons_ne_nil c cs)]
  rw [quotedTail, same]
  rfl

theorem quotedTail_nil (column : Nat) (before : Char) (fresh : Bool) :
    quotedTail column before fresh [] = lineStart column (isBreak before) ++ ['\''] := by
  simp [quotedTail, indented, endsWith]

theorem quotedTail_break {column : Nat} {before c : Char} {fresh : Bool} {cs : List Char}
    (broken : isBreak c = true) :
    quotedTail column before fresh (c :: cs) = c :: quotedTail column c true cs := by
  have other : c ≠ '\'' := by
    rintro rfl
    exact absurd broken (by decide)
  simp [quotedTail, other, indented, broken, endsWith_cons (List.cons_ne_nil c cs)]

theorem quotedTail_quote {column : Nat} {before : Char} {fresh : Bool} {cs : List Char} :
    quotedTail column before fresh ('\'' :: cs) =
      lineStart column fresh ++ '\'' :: '\'' :: quotedTail column '\'' false cs := by
  have unbroken : isBreak '\'' = false := by decide
  cases fresh <;>
    simp [quotedTail, lineStart, indented, unbroken, endsWith_cons (List.cons_ne_nil '\'' cs)]

theorem quotedTail_other {column : Nat} {before c : Char} {fresh : Bool} {cs : List Char}
    (unbroken : isBreak c = false) (other : c ≠ '\'') :
    quotedTail column before fresh (c :: cs) = lineStart column fresh ++ c :: quotedTail column c false cs := by
  cases fresh <;>
    simp [quotedTail, lineStart, other, indented, unbroken, endsWith_cons (List.cons_ne_nil c cs)]

theorem adjacent_cons {p q : Char → Bool} {a b : Char} {cs : List Char} :
    adjacent p q (a :: b :: cs) = false ↔ (p a && q b) = false ∧ adjacent p q (b :: cs) = false := by
  rw [adjacent, Bool.or_eq_false_iff]

/-- The text between single quotes is read character by character, with the gap
that stands behind the last one. -/
theorem readSingleQuoted_tail {column : Nat} (wide : 0 < column) {t : Char} (shownTail : isShown t = true)
    (otherTail : t ≠ '\'') (ts : List Char) : ∀ {text : List Char} {before : Char} {done : List Char}
    {gap : Gap} {p : Place}, Shown text → '\n' ∉ text → adjacent isSpace isBreak (before :: text) = false →
    adjacent isBreak isSpace (before :: text) = false → GapBehind before gap →
    (gap.isBroken = true ∨ 0 < p.column) →
    readSingleQuoted done gap (locate p (quotedTail column before gap.isBroken text ++ t :: ts)) =
      some (done.reverse ++ gap.text ++ text,
        locate (finish p (quotedTail column before gap.isBroken text)) (t :: ts))
  | [], before, done, gap, p, _, _, _, _, behind, inside => by
    have quote : isShown '\'' = true := by decide
    have started := column_lineStart wide inside
    rw [quotedTail_nil, ← behind.isBroken_eq, List.append_assoc, readSingleQuoted_lineStart,
      List.singleton_append, readSingleQuoted_end started shownTail otherTail,
      finish_append (shown_lineStart _ _), finish_cons quote, finish_nil, List.append_nil]
  | c :: cs, before, done, gap, p, shown, noFeed, spaceBreak, breakSpace, behind, inside => by
    obtain ⟨first, rest⟩ := shown_cons.mp shown
    have here : c ≠ '\n' := fun same => noFeed (by simp [same])
    have later : '\n' ∉ cs := fun mem => noFeed (List.mem_cons_of_mem _ mem)
    obtain ⟨noSpace, spaceBreak⟩ := adjacent_cons.mp spaceBreak
    obtain ⟨noBreak, breakSpace⟩ := adjacent_cons.mp breakSpace
    have read (done : List Char) (gap : Gap) (p : Place) := @readSingleQuoted_tail column wide t shownTail
      otherTail ts cs c done gap p rest later spaceBreak breakSpace
    have started := column_lineStart wide inside
    by_cases broken : isBreak c = true
    · have notSpace : before ≠ ' ' := by
        rintro rfl
        simp [isSpace, broken] at noSpace
      obtain ⟨grown, text⟩ := behind.lineEnd notSpace broken here
      have fresh : (gap.extend c).isBroken = true := by rw [grown.isBroken_eq, broken]
      have after := read done _ (p.behind c) grown (.inl fresh)
      rw [quotedTail_break broken, List.cons_append, locate_cons first, finish_cons first, readSingleQuoted_cons,
        if_pos (isGap_of_isBreak broken), ← fresh, after, text]
      simp
    · have unbroken : isBreak c = false := by simpa using broken
      have nextColumn (p : Place) : 0 < (p.behind c).column := by
        rw [p.behind_of_noBreak unbroken]
        exact Nat.succ_pos _
      by_cases space : c = ' '
      · subst space
        have onLine : isBreak before = false := by simpa [isSpace] using noBreak
        obtain ⟨grown, text⟩ := behind.space onLine
        have stale : (gap.extend ' ').isBroken = false := by rw [grown.isBroken_eq, unbroken]
        have after := read done _ (p.behind ' ') grown (.inr (nextColumn p))
        have start : lineStart column gap.isBroken = [] := by rw [behind.isBroken_eq, onLine]; rfl
        rw [quotedTail_other unbroken (by decide), start, List.nil_append, List.cons_append,
          locate_cons first, finish_cons first, readSingleQuoted_cons, if_pos isGap_space, ← stale, after, text]
        simp
      · have word : isGap c = false := by simp [isGap_of_isShown first, space, unbroken]
        have clean : Gap.isBroken .nothing = false := rfl
        by_cases quote : c = '\''
        · subst quote
          have after := read ('\'' :: gap.text.reverse ++ done) _ _ (.word word)
            (.inr (nextColumn ((finish p (lineStart column gap.isBroken)).behind '\'')))
          rw [quotedTail_quote, List.append_assoc, readSingleQuoted_lineStart, List.cons_append,
            List.cons_append, readSingleQuoted_quote started, ← clean, after, finish_append (shown_lineStart _ _),
            finish_cons first, finish_cons first]
          simp [Gap.text]
        · have after := read (c :: gap.text.reverse ++ done) _ _ (.word word)
            (.inr (nextColumn (finish p (lineStart column gap.isBroken))))
          rw [quotedTail_other unbroken quote, List.append_assoc, readSingleQuoted_lineStart,
            List.cons_append, readSingleQuoted_word started first word quote, ← clean, after,
            finish_append (shown_lineStart _ _), finish_cons first]
          simp [Gap.text]

theorem allowsSingleQuotes_iff {text : List Char} : allowsSingleQuotes text = true ↔
    Shown text ∧ adjacent isSpace isBreak text = false ∧ adjacent isBreak isSpace text = false := by
  simp [allowsSingleQuotes, isClean, shown_iff_all, and_assoc]

theorem adjacent_of_not {p q : Char → Bool} {before : Char} (no : p before = false) {text : List Char}
    (inside : adjacent p q text = false) : adjacent p q (before :: text) = false := by
  cases text with
  | nil => rfl
  | cons c cs => exact adjacent_cons.mpr ⟨by simp [no], inside⟩

/-- **A text between single quotes is read back**, if it may be written so and has
no line feed. -/
theorem readSingleQuoted_singleQuoted {column : Nat} {text : List Char} {p : Place} {t : Char}
    (wide : 0 < column) (inside : 0 < p.column) (allowed : allowsSingleQuotes text = true)
    (noFeed : '\n' ∉ text) (shownTail : isShown t = true) (otherTail : t ≠ '\'') (ts : List Char) :
    readSingleQuoted [] .nothing (locate p (quotedTail column '\'' false text ++ t :: ts)) =
      some (text, locate (finish p (quotedTail column '\'' false text)) (t :: ts)) := by
  obtain ⟨shown, spaceBreak, breakSpace⟩ := allowsSingleQuotes_iff.mp allowed
  have clean : Gap.isBroken .nothing = false := rfl
  have word : isGap '\'' = false := by decide
  rw [← clean, readSingleQuoted_tail wide shownTail otherTail ts shown noFeed
    (adjacent_of_not (by decide) spaceBreak) (adjacent_of_not (by decide) breakSpace) (.word word)
    (.inr inside)]
  rfl

theorem shown_quotedTail (column : Nat) : ∀ {text : List Char} (before : Char) (fresh : Bool),
    Shown text → Shown (quotedTail column before fresh text)
  | [], before, fresh, _ => by
    rw [quotedTail_nil]
    exact shown_append.mpr ⟨shown_lineStart _ _, shown_cons.mpr ⟨by decide, shown_nil⟩⟩
  | c :: cs, before, fresh, shown => by
    obtain ⟨first, rest⟩ := shown_cons.mp shown
    have later (fresh : Bool) := shown_quotedTail column c fresh rest
    by_cases broken : isBreak c = true
    · rw [quotedTail_break broken]
      exact shown_cons.mpr ⟨first, later true⟩
    · by_cases quote : c = '\''
      · subst quote
        rw [quotedTail_quote]
        exact shown_append.mpr
          ⟨shown_lineStart _ _, shown_cons.mpr ⟨first, shown_cons.mpr ⟨first, later false⟩⟩⟩
      · rw [quotedTail_other (by simpa using broken) quote]
        exact shown_append.mpr ⟨shown_lineStart _ _, shown_cons.mpr ⟨first, later false⟩⟩

/-- A text without breaks is quoted on one line, with at most twice its bytes. -/
theorem quotedTail_of_unbroken (column : Nat) : ∀ {text : List Char} {before : Char},
    isBreak before = false → Unbroken text → Unbroken (quotedTail column before false text) ∧
      byteSize (quotedTail column before false text) ≤ 2 * byteSize text + 1
  | [], before, onLine, _ => by
    rw [quotedTail_nil, onLine, lineStart, if_neg (by simp), List.nil_append]
    exact ⟨unbroken_cons.mpr ⟨by decide, unbroken_nil⟩, by decide⟩
  | c :: cs, before, _, unbroken => by
    obtain ⟨here, rest⟩ := unbroken_cons.mp unbroken
    obtain ⟨later, short⟩ := quotedTail_of_unbroken column here rest
    by_cases quote : c = '\''
    · subst quote
      have size : byteSize ('\'' :: cs) = 1 + byteSize cs := byteSize_cons _ _
      rw [quotedTail_quote, lineStart, if_neg (by simp), List.nil_append, byteSize_cons, byteSize_cons]
      refine ⟨unbroken_cons.mpr ⟨here, unbroken_cons.mpr ⟨here, later⟩⟩, ?_⟩
      have one : Char.utf8Size '\'' = 1 := by decide
      omega
    · rw [quotedTail_other here quote, lineStart, if_neg (by simp), List.nil_append, byteSize_cons,
        byteSize_cons]
      exact ⟨unbroken_cons.mpr ⟨here, later⟩, by omega⟩

end ControllerSynthesis.Yaml
