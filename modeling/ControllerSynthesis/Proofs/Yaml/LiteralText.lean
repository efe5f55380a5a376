/-
# Text written line by line is read back

The lines of a literal scalar stand behind an indentation, and the reader takes
them apart: each line with the breaks behind it. Put together again they are the
text with the end of its last line. What the reader keeps of that end is said by
the marks behind the bar, and where the text begins with a space or a break, they
also give the width of the indentation.

Key definitions: `Yaml.Lines`, `Yaml.Lines.read`, `Yaml.Lines.text`.
Key theorems: `Yaml.Lines.text_read`, `Yaml.blockLines_indented`,
`Yaml.readBlock_literal`.
-/
import ControllerSynthesis.Proofs.Yaml.PlainText
import ControllerSynthesis.Yaml.Scalar.Block

namespace ControllerSynthesis.Yaml

/-! ### Lines of a block -/

/-- The lines that were read of a block scalar: the last one, those before, the
latest first, and whether the last one goes on. -/
structure Lines where
  inside : Bool
  line : BlockLine
  done : List BlockLine

namespace Lines

/-- No line yet. -/
def start : Lines := ⟨false, ⟨[], []⟩, []⟩

/-- The lines with another character. -/
def read (s : Lines) (c : Char) : Lines :=
  if isBreak c then ⟨false, { s.line with breaks := s.line.breaks ++ [c] }, s.done⟩
  else if s.inside then ⟨true, { s.line with text := s.line.text ++ [c] }, s.done⟩
  else ⟨true, ⟨[c], []⟩, s.line :: s.done⟩

/-- All lines, in their order. -/
def all (s : Lines) : List BlockLine :=
  (s.line :: s.done).reverse

/-- The text of lines with their breaks. -/
def flat (lines : List BlockLine) : List Char :=
  lines.flatMap fun line => line.text ++ line.breaks

/-- The text that was read. -/
def text (s : Lines) : List Char :=
  flat s.all

/-- A line that goes on has not ended. -/
def Open (s : Lines) : Prop :=
  s.inside = true → s.line.breaks = []

theorem text_eq (s : Lines) : s.text = flat s.done.reverse ++ s.line.text ++ s.line.breaks := by
  simp [text, all, flat]

theorem open_read {s : Lines} (h : s.Open) (c : Char) : (s.read c).Open := by
  unfold read
  split
  · intro inside
    cases inside
  · split
    · rename_i inside
      exact fun _ => h inside
    · exact fun _ => rfl

/-- Reading adds to the text. -/
theorem text_read {s : Lines} (h : s.Open) (c : Char) : (s.read c).text = s.text ++ [c] := by
  rw [text_eq, text_eq, read]
  split
  · simp
  · split
    · rename_i inside
      simp [h inside]
    · simp [flat]

theorem open_foldl : ∀ {text : List Char} {s : Lines}, s.Open → (text.foldl read s).Open
  | [], _, h => h
  | c :: cs, s, h => by
    rw [List.foldl_cons]
    exact open_foldl (open_read h c)

theorem text_foldl : ∀ {text : List Char} {s : Lines}, s.Open →
    (text.foldl read s).text = s.text ++ text
  | [], _, _ => by simp
  | c :: cs, s, h => by
    rw [List.foldl_cons, text_foldl (open_read h c), text_read h]
    simp

theorem open_start : start.Open := by
  intro h
  cases h

theorem text_foldl_start (text : List Char) : (text.foldl read start).text = text :=
  text_foldl open_start

theorem inside_read (s : Lines) (c : Char) : (s.read c).inside = !isBreak c := by
  unfold read
  split
  · rename_i broken
    simp [broken]
  · rename_i unbroken
    split <;> simp [unbroken]

/-- A character that ends no line is on a line with text that has not ended. -/
theorem line_read {s : Lines} (h : s.Open) {c : Char} (unbroken : isBreak c = false) :
    (s.read c).line.text ≠ [] ∧ (s.read c).line.breaks = [] := by
  refine ⟨?_, open_read h c (by simp [inside_read, unbroken])⟩
  unfold read
  split
  · rename_i broken
    simp [unbroken] at broken
  · split <;> simp

end Lines

/-! ### What the marks keep -/

theorem joinLines_append (chomping : Chomping) (last : BlockLine) : ∀ lines : List BlockLine,
    joinLines false chomping (lines ++ [last]) = Lines.flat lines ++ last.text ++ chomped chomping last
  | [] => by simp [joinLines, Lines.flat]
  | line :: lines => by
    have plain (next : BlockLine) : between false line next = line.breaks := by
      unfold between
      split <;> simp_all
    have rest := joinLines_append chomping last lines
    cases lines with
    | nil =>
      simp only [List.cons_append, List.nil_append] at rest ⊢
      rw [joinLines, rest, plain]
      simp [Lines.flat]
    | cons next lines =>
      simp only [List.cons_append] at rest ⊢
      rw [joinLines, rest, plain]
      simp [Lines.flat]

/-- What the lines stand for. -/
theorem joinLines_all (chomping : Chomping) (s : Lines) : joinLines false chomping s.all =
    Lines.flat s.done.reverse ++ s.line.text ++ chomped chomping s.line := by
  rw [Lines.all, List.reverse_cons, joinLines_append]

/-- All of the end is kept. -/
theorem joinLines_keep (text : List Char) :
    joinLines false .keep (text.foldl Lines.read Lines.start).all = text := by
  have read := Lines.text_foldl_start text
  rw [Lines.text_eq] at read
  rw [joinLines_all]
  exact read

/-- The lines of a text with one break behind its last character. -/
theorem exists_lines (front : List Char) {d c : Char} (unbroken : isBreak d = false)
    (broken : isBreak c = true) : ∃ s : Lines, (front ++ [d, c]).foldl Lines.read Lines.start = s ∧
      s.inside = false ∧ s.line.breaks = [c] ∧ s.line.text ≠ [] ∧
      Lines.flat s.done.reverse ++ s.line.text = front ++ [d] := by
  have opened : (front.foldl Lines.read Lines.start).Open := Lines.open_foldl Lines.open_start
  obtain ⟨nonempty, noBreaks⟩ := Lines.line_read opened unbroken
  have read := Lines.text_read opened d
  rw [Lines.text_foldl_start, Lines.text_eq, noBreaks, List.append_nil] at read
  refine ⟨_, rfl, ?_, ?_, ?_, ?_⟩
  · simp [Lines.inside_read, broken]
  · simp only [List.foldl_append, List.foldl_cons, List.foldl_nil]
    rw [Lines.read, if_pos broken, noBreaks]
    rfl
  · simp only [List.foldl_append, List.foldl_cons, List.foldl_nil]
    rw [Lines.read, if_pos broken]
    exact nonempty
  · simp only [List.foldl_append, List.foldl_cons, List.foldl_nil]
    rw [Lines.read, if_pos broken]
    exact read

theorem joinLines_strip (front : List Char) {d c : Char} (unbroken : isBreak d = false)
    (broken : isBreak c = true) :
    joinLines false .strip ((front ++ [d, c]).foldl Lines.read Lines.start).all = front ++ [d] := by
  obtain ⟨s, same, -, -, -, text⟩ := exists_lines front unbroken broken
  rw [same, joinLines_all, text]
  simp [chomped]

theorem joinLines_clip (front : List Char) {d c : Char} (unbroken : isBreak d = false)
    (broken : isBreak c = true) :
    joinLines false .clip ((front ++ [d, c]).foldl Lines.read Lines.start).all = front ++ [d, c] := by
  obtain ⟨s, same, -, breaks, nonempty, text⟩ := exists_lines front unbroken broken
  rw [same, joinLines_all, text]
  simp [chomped, breaks, nonempty]

/-! ### Indented lines -/

theorem blockLines_cons {column : Nat} {s : Lines} {c : Located} (rest : List Located)
    (noBlank : ¬ (s.inside = false ∧ isBreak c.char = false ∧ c.place.column ≠ column)) :
    blockLines column s.inside s.line s.done (c :: rest) =
      blockLines column (s.read c.char).inside (s.read c.char).line (s.read c.char).done rest := by
  rw [blockLines, Lines.read]
  by_cases broken : isBreak c.char = true
  · rw [if_pos broken, if_pos broken]
  · rw [if_neg broken, if_neg broken]
    by_cases inside : s.inside = true
    · rw [if_pos inside, if_pos inside]
    · have place : c.place.column = column := by
        simp only [Bool.not_eq_true] at broken inside
        simpa [broken, inside] using noBlank
      rw [if_neg inside, if_neg inside, if_pos place]

/-- The spaces of the indentation are passed over. -/
theorem blockLines_pad {column : Nat} {line : BlockLine} {done : List BlockLine} (cs : List Char) :
    ∀ (n : Nat) (p : Place), p.column + n ≤ column →
      blockLines column false line done (locate p (pad n ++ cs)) =
        blockLines column false line done (locate (finish p (pad n)) cs)
  | 0, p, _ => by simp [pad, finish_nil]
  | n + 1, p, narrow => by
    have next : p.behind ' ' = p.next (Char.utf8Size ' ') := p.behind_of_noBreak isBreak_space
    have step : (p.behind ' ').column + n ≤ column := by
      rw [next]
      simp only [Place.next]
      omega
    have before : p.column < column := by omega
    rw [pad_succ, List.cons_append, locate_cons isShown_space, finish_cons isShown_space, blockLines]
    simp only [isBreak_space, Bool.false_eq_true, ↓reduceIte, true_and]
    rw [if_neg (Nat.ne_of_lt before), if_pos before]
    exact blockLines_pad cs n _ step

/-- **Indented lines are read as they were before.** -/
theorem blockLines_indented {column : Nat} (tail : List Char) : ∀ {text : List Char} {s : Lines}
    {p : Place}, Shown text → (s.inside = false → p.column = 0) →
    blockLines column s.inside s.line s.done (locate p (indented column (!s.inside) text ++ tail)) =
      blockLines column (text.foldl Lines.read s).inside (text.foldl Lines.read s).line
        (text.foldl Lines.read s).done (locate (finish p (indented column (!s.inside) text)) tail)
  | [], s, p, _, _ => by simp [indented, finish_nil]
  | c :: cs, s, p, shown, start => by
    obtain ⟨first, rest⟩ := shown_cons.mp shown
    have read := @blockLines_indented column tail cs (s.read c)
    rw [Lines.inside_read, Bool.not_not] at read
    rw [List.foldl_cons, indented]
    by_cases broken : isBreak c = true
    · have column : (p.behind c).column = 0 := by
        rw [p.behind_of_break broken]
        rfl
      rw [if_pos broken, List.cons_append, locate_cons first, finish_cons first,
        blockLines_cons _ (by simp [broken])]
      rw [broken] at read
      simpa [Lines.inside_read, broken] using read rest fun _ => column
    · have unbroken : isBreak c = false := by simpa using broken
      rw [unbroken] at read
      rw [if_neg broken]
      cases inside : s.inside with
      | true =>
        simp only [Bool.not_true, Bool.false_eq_true, ↓reduceIte, List.cons_append]
        rw [locate_cons first, finish_cons first, ← inside, blockLines_cons _ (by simp [inside])]
        simpa [Lines.inside_read, unbroken] using read rest (by simp)
      | false =>
        have place : (finish p (pad column)).column = column := by
          rw [finish_pad, start inside]
          exact Nat.zero_add column
        simp only [Bool.not_false, ↓reduceIte, List.append_assoc, List.cons_append]
        rw [blockLines_pad _ _ _ (by rw [start inside]; omega), finish_append (shown_pad column),
          locate_cons first, finish_cons first, ← inside, blockLines_cons _ (by simp [place])]
        simpa [Lines.inside_read, unbroken, inside] using read rest (by simp)

/-- A line that is indented less ends the block. -/
theorem blockLines_end {column k : Nat} {line : BlockLine} {done : List BlockLine} {next : List Char}
    {p : Place} (start : p.column = 0) (narrow : k < column) (shown : Shown next)
    (starts : StartsToken next) :
    blockLines column false line done (locate p (pad k ++ next)) =
      some ((line :: done).reverse, locate (finish p (pad k)) next) := by
  rw [blockLines_pad _ _ _ (by omega)]
  cases next with
  | nil => rw [locate_nil, blockLines]
  | cons c cs =>
    have first := (shown_cons.mp shown).1
    have word := starts.1
    rw [isGap_of_isShown first, Bool.or_eq_false_iff] at word
    have space : c ≠ ' ' := by simpa using word.1
    have place : (finish p (pad k)).column = k := by
      rw [finish_pad, start]
      exact Nat.zero_add k
    rw [locate_cons first, blockLines]
    simp only [word.2, Bool.false_eq_true, ↓reduceIte, place, space, ne_tab first, false_and]
    rw [if_neg (Nat.ne_of_lt narrow)]

/-! ### The header -/

/-- What the marks of a text say about the breaks at its end. -/
def chompingOf (text : List Char) : Chomping :=
  match text.reverse with
  | [] => .strip
  | [c] => if isBreak c then .keep else .strip
  | c :: d :: _ => if !isBreak c then .strip else if isBreak d then .keep else .clip

/-- Whether a text does not show the width of its indentation. -/
def hidesWidth (text : List Char) : Bool :=
  beginsWith (fun c => isSpace c || isBreak c) text

/-- The mark of a way to treat the end. -/
def chompingMark : Chomping → List Char
  | .strip => ['-']
  | .clip => []
  | .keep => ['+']

theorem literalMarks_eq (text : List Char) : literalMarks text =
    (if hidesWidth text then ['2'] else []) ++ chompingMark (chompingOf text) := by
  simp only [literalMarks, hidesWidth, chompingOf]
  congr 1
  cases text.reverse with
  | nil => rfl
  | cons c cs =>
    cases cs with
    | nil => by_cases broken : isBreak c = true <;> simp [broken, chompingMark]
    | cons d ds =>
      by_cases broken : isBreak c = true <;> by_cases before : isBreak d = true <;>
        simp [broken, before, chompingMark]

theorem shown_literalMarks (text : List Char) : Shown (literalMarks text) := by
  rw [literalMarks_eq, shown_append]
  constructor
  · cases hidesWidth text
    · exact shown_nil
    · exact shown_cons.mpr ⟨by decide, shown_nil⟩
  · cases chompingOf text
    · exact shown_cons.mpr ⟨by decide, shown_nil⟩
    · exact shown_nil
    · exact shown_cons.mpr ⟨by decide, shown_nil⟩

/-- The marks of a text are read as its header. -/
theorem blockMarks?_literalMarks (p : Place) (text more : List Char) :
    blockMarks? (locate p (literalMarks text ++ '\n' :: more)) =
      some (⟨if hidesWidth text then some 2 else none, chompingOf text⟩,
        locate (finish p (literalMarks text)) ('\n' :: more)) := by
  have two : isShown '2' = true := by decide
  have minus : isShown '-' = true := by decide
  have plus : isShown '+' = true := by decide
  have width : width? '2' = some 2 := by decide
  have noWidth : width? '\n' = none := by decide
  rw [literalMarks_eq]
  cases hidesWidth text <;> cases chompingOf text <;>
    simp [chompingMark, locate_cons, finish_cons, finish_nil, two, minus, plus, isShown_feed,
      blockMarks?, chomping?, width, noWidth]

theorem restOfLine?_feed (p : Place) (more : List Char) :
    restOfLine? (locate p ('\n' :: more)) = some (locate (p.behind '\n') more) := by
  have blank : isBlank '\n' = false := by decide
  rw [locate_cons isShown_feed]
  simp [restOfLine?, dropBlanks, blank, continuesWith, isBreak_feed]

/-- Where no width is given the first line shows it. -/
theorem widest?_indented {column : Nat} {c : Char} {cs : List Char} (shown : isShown c = true)
    (unbroken : isBreak c = false) (noSpace : c ≠ ' ') : ∀ (n : Nat) (p : Place), p.column + n = column →
      widest? 0 (locate p (pad n ++ c :: cs)) = some column
  | 0, p, wide => by
    have start : p.column = column := wide
    rw [pad, List.replicate_zero, List.nil_append, locate_cons shown, widest?, if_neg noSpace,
      if_neg (ne_tab shown), if_neg (by simp [unbroken])]
    simp [start]
  | n + 1, p, wide => by
    have next : p.behind ' ' = p.next (Char.utf8Size ' ') := p.behind_of_noBreak isBreak_space
    rw [pad_succ, List.cons_append, locate_cons isShown_space, widest?, if_pos rfl]
    refine widest?_indented shown unbroken noSpace n _ ?_
    rw [next]
    simp only [Place.next]
    omega

/-! ### The whole scalar -/

theorem shown_indented (column : Nat) : ∀ {text : List Char} (fresh : Bool), Shown text →
    Shown (indented column fresh text)
  | [], _, _ => shown_nil
  | c :: cs, fresh, shown => by
    obtain ⟨first, rest⟩ := shown_cons.mp shown
    have later (fresh : Bool) := shown_indented column fresh rest
    rw [indented]
    split
    · exact shown_cons.mpr ⟨first, later true⟩
    · split
      · exact shown_append.mpr ⟨shown_pad column, shown_cons.mpr ⟨first, later false⟩⟩
      · exact shown_cons.mpr ⟨first, later false⟩

theorem endsWith_indented {column : Nat} : ∀ {text : List Char} {fresh : Bool},
    endsWith isBreak (indented column fresh text) = endsWith isBreak text
  | [], _ => rfl
  | c :: cs, fresh => by
    have nonempty {fresh : Bool} (more : cs ≠ []) : indented column fresh cs ≠ [] := by
      cases cs with
      | nil => exact absurd rfl more
      | cons d ds =>
        rw [indented]
        split
        · simp
        · split <;> simp
    have later (fresh : Bool) : endsWith isBreak (c :: indented column fresh cs) =
        endsWith isBreak (c :: cs) := by
      cases cs with
      | nil => rfl
      | cons d ds =>
        rw [endsWith_cons (nonempty (List.cons_ne_nil d ds)), endsWith_indented,
          endsWith_cons (List.cons_ne_nil d ds)]
    have behind (front : List Char) (last : List Char) (more : last ≠ []) :
        endsWith isBreak (front ++ last) = endsWith isBreak last := by
      rw [endsWith, endsWith, List.getLast?_append, List.getLast?_eq_some_getLast more, Option.some_or]
    rw [indented]
    split
    · exact later true
    · split
      · rw [behind _ _ (List.cons_ne_nil _ _), later]
      · exact later false

/-- The break behind a text that has none at its end. -/
def closingBreak (text : List Char) : List Char :=
  if endsWith isBreak text then [] else ['\n']

theorem shown_closingBreak (text : List Char) : Shown (closingBreak text) := by
  unfold closingBreak
  split
  · exact shown_nil
  · exact shown_cons.mpr ⟨isShown_feed, shown_nil⟩

theorem endsWith_closingBreak (text : List Char) :
    endsWith isBreak (text ++ closingBreak text) = true := by
  unfold closingBreak
  split
  · rename_i ends
    rw [List.append_nil]
    exact ends
  · rw [endsWith_append_singleton]
    exact isBreak_feed

theorem indented_closingBreak (column : Nat) (text : List Char) :
    indented column true (text ++ closingBreak text) = indented column true text ++ closingBreak text := by
  have feed : ∀ {text : List Char} (fresh : Bool),
      indented column fresh (text ++ ['\n']) = indented column fresh text ++ ['\n'] := by
    intro text
    induction text with
    | nil => intro fresh; simp [indented, isBreak_feed]
    | cons c cs ih =>
      intro fresh
      rw [List.cons_append, indented, indented, ih, ih]
      split
      · rfl
      · split <;> simp
  unfold closingBreak
  split
  · rw [List.append_nil, List.append_nil]
  · exact feed true

/-- The lines of a text with the end of the last one have ended. -/
theorem inside_written (text : List Char) :
    ((text ++ closingBreak text).foldl Lines.read Lines.start).inside = false := by
  obtain ⟨front, c, same, broken⟩ := exists_append_of_endsWith (endsWith_closingBreak text)
  rw [same, List.foldl_append, List.foldl_cons, List.foldl_nil, Lines.inside_read, broken]
  rfl

/-- The marks of a text keep of its lines what the text is. -/
theorem joinLines_written {text : List Char} (nonempty : text ≠ []) :
    joinLines false (chompingOf text) ((text ++ closingBreak text).foldl Lines.read Lines.start).all =
      text := by
  obtain ⟨front, c, rfl⟩ := (List.eq_nil_or_concat text).resolve_left nonempty
  rw [List.concat_eq_append]
  by_cases broken : isBreak c = true
  · have closed : closingBreak (front ++ [c]) = [] := by
      rw [closingBreak, endsWith_append_singleton, if_pos broken]
    rw [closed, List.append_nil]
    rcases List.eq_nil_or_concat front with rfl | ⟨front, d, rfl⟩
    · have keep : chompingOf ([] ++ [c]) = .keep := by simp [chompingOf, broken]
      rw [keep, joinLines_keep]
    · by_cases before : isBreak d = true
      · have keep : chompingOf (front.concat d ++ [c]) = .keep := by
          simp [chompingOf, broken, before]
        rw [keep, joinLines_keep]
      · have clip : chompingOf (front.concat d ++ [c]) = .clip := by
          simp [chompingOf, broken, before]
        have pair : front.concat d ++ [c] = front ++ [d, c] := by simp
        rw [clip, pair, joinLines_clip front (by simpa using before) broken]
  · have closed : closingBreak (front ++ [c]) = ['\n'] := by
      rw [closingBreak, endsWith_append_singleton, if_neg broken]
    have strip : chompingOf (front ++ [c]) = .strip := by
      have unbroken : isBreak c = false := by simpa using broken
      rcases List.eq_nil_or_concat front with rfl | ⟨front, d, rfl⟩ <;> simp [chompingOf, unbroken]
    have pair : front ++ [c] ++ ['\n'] = front ++ [c, '\n'] := by simp
    rw [closed, strip, pair, joinLines_strip front (by simpa using broken) isBreak_feed]

/-- What is written behind the bar. -/
def literalTail (column : Nat) (text : List Char) : List Char :=
  literalMarks text ++ '\n' :: indented column true (text ++ closingBreak text)

theorem allowsLines_iff {text : List Char} : allowsLines text = true ↔
    Shown text ∧ adjacent isSpace isBreak text = false ∧ endsWith isSpace text = false := by
  simp [allowsLines, isClean, shown_iff_all, and_assoc]

theorem shown_literalTail (column : Nat) {text : List Char} (shown : Shown text) :
    Shown (literalTail column text) :=
  shown_append.mpr ⟨shown_literalMarks text, shown_cons.mpr ⟨isShown_feed,
    shown_indented column true (shown_append.mpr ⟨shown, shown_closingBreak text⟩)⟩⟩

/-- The width of the indentation is shown if it is not given. -/
theorem widest?_written {parent : Nat} {c : Char} {cs : List Char} (shown : isShown c = true)
    (shows : hidesWidth (c :: cs) = false) (p : Place) (start : p.column = 0) (tail : List Char) :
    widest? 0 (locate p (indented (parent + 2) true (c :: cs) ++ tail)) = some (parent + 2) := by
  have first : c ≠ ' ' ∧ isBreak c = false := by
    simpa [hidesWidth, beginsWith, isSpace] using shows
  have written : indented (parent + 2) true (c :: cs) ++ tail =
      pad (parent + 2) ++ c :: (indented (parent + 2) false cs ++ tail) := by
    simp [indented, first.2]
  rw [written]
  exact widest?_indented shown first.2 first.1 (parent + 2) p (by omega)

/-- The lines of a text written line by line, which is at the first column. -/
theorem blockLines_written {parent k : Nat} {text next : List Char} {q : Place} (shown : Shown text)
    (start : q.column = 0) (narrow : k < parent + 2) (shownNext : Shown next) (starts : StartsToken next) :
    blockLines (parent + 2) false ⟨[], []⟩ []
        (locate q (indented (parent + 2) true (text ++ closingBreak text) ++ (pad k ++ next))) =
      some (((text ++ closingBreak text).foldl Lines.read Lines.start).all,
        locate (finish q (indented (parent + 2) true (text ++ closingBreak text) ++ pad k)) next) := by
  have whole : Shown (text ++ closingBreak text) := shown_append.mpr ⟨shown, shown_closingBreak text⟩
  have lines := shown_indented (parent + 2) true whole
  have ended : (finish q (indented (parent + 2) true (text ++ closingBreak text))).column = 0 :=
    column_finish_of_endsBreak lines (by rw [endsWith_indented, endsWith_closingBreak]) q
  have indentedRead := @blockLines_indented (parent + 2) (pad k ++ next) (text ++ closingBreak text)
    Lines.start q whole (fun _ => start)
  rw [inside_written text] at indentedRead
  refine indentedRead.trans ?_
  rw [finish_append lines]
  exact blockLines_end ended narrow shownNext starts

/-- **A text written line by line is read back**, up to a token on a line that is
indented less. -/
theorem readBlock_literal {parent k : Nat} {text next : List Char} {p : Place} (shown : Shown text)
    (nonempty : text ≠ []) (narrow : k < parent + 2) (shownNext : Shown next)
    (starts : StartsToken next) :
    readBlock false (some parent) (locate p (literalTail (parent + 2) text ++ pad k ++ next)) =
      some (text, locate (finish p (literalTail (parent + 2) text ++ pad k)) next) := by
  have marks := shown_literalMarks text
  obtain ⟨q, behind⟩ : ∃ q, (finish p (literalMarks text)).behind '\n' = q := ⟨_, rfl⟩
  have start : q.column = 0 := by
    rw [← behind, Place.behind_of_break _ isBreak_feed]
    rfl
  have taken := blockLines_written shown start narrow shownNext starts
  have width (shows : hidesWidth text = false) : widest? 0 (locate q
      (indented (parent + 2) true (text ++ closingBreak text) ++ (pad k ++ next))) = some (parent + 2) := by
    cases text with
    | nil => exact absurd rfl nonempty
    | cons c cs =>
      rw [indented_closingBreak, List.append_assoc]
      exact widest?_written (shown_cons.mp shown).1 shows q start _
  have written : literalTail (parent + 2) text ++ pad k ++ next = literalMarks text ++
      '\n' :: (indented (parent + 2) true (text ++ closingBreak text) ++ (pad k ++ next)) := by
    simp [literalTail]
  have place : finish p (literalTail (parent + 2) text ++ pad k) =
      finish q (indented (parent + 2) true (text ++ closingBreak text) ++ pad k) := by
    rw [literalTail, List.append_assoc, finish_append marks, List.cons_append, finish_cons isShown_feed,
      behind]
  rw [written, place, readBlock, blockMarks?_literalMarks]
  simp only [Option.bind_eq_bind, Option.bind_some, restOfLine?_feed, behind]
  cases hides : hidesWidth text with
  | true =>
    simp only [↓reduceIte, Option.getD_some, taken, Option.bind_some]
    rw [joinLines_written nonempty]
    rfl
  | false =>
    have column : max (parent + 2) (max (parent + 1) 1) = parent + 2 := by omega
    simp only [Bool.false_eq_true, ↓reduceIte, width hides, Option.map_some, Option.elim_some, column,
      Option.bind_some, taken]
    rw [joinLines_written nonempty]
    rfl

end ControllerSynthesis.Yaml
