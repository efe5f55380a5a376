/-
# The lines of a document

No line of a written document begins with three hyphens, whatever the texts in it
are. A line of a text that goes over several lines is indented, or empty; and at the
left margin stand only the hyphen of an item, with a space behind it, and keys: a key
that begins like a mark is in quotes. Every document ends its last line, though not
always by a line feed: a text that is written line by line keeps its own line breaks.

Key definitions: `Yaml.Lined`.
Key theorems: `Yaml.lined_writeBehindKey`, `Yaml.lined_writeEntries`,
`Yaml.lined_writeChars`.
-/
import ControllerSynthesis.Proofs.Text.Lines
import ControllerSynthesis.Proofs.Yaml.Tokens

namespace ControllerSynthesis.Yaml

open Text (EveryLine Unmarked unmarked_cons unmarked_hyphen)

/-! ### Texts that end their lines -/

/-- No line of the text begins with three hyphens, and the last one is ended. -/
def Lined (start : Bool) (text : List Char) : Prop :=
  EveryLine isBreak start text ∧ endsWith isBreak text = true

variable {start : Bool} {text more : List Char} {column : Nat}

theorem Lined.inside (lined : Lined start text) : Lined false text :=
  ⟨lined.1.inside, lined.2⟩

theorem Lined.append (lined : EveryLine isBreak start text) (later : Lined true more) :
    Lined start (text ++ more) :=
  ⟨lined.append later.1, endsWith_append text later.2⟩

/-- A character that may begin a line. -/
theorem Lined.cons {c : Char} (unbroken : isBreak c = false) (first : start = true → Unmarked (c :: text))
    (lined : Lined false text) : Lined start (c :: text) := by
  refine ⟨⟨first, ?_⟩, endsWith_append [c] lined.2⟩
  rw [unbroken]
  exact lined.1

theorem Lined.cons_inside {c : Char} (unbroken : isBreak c = false) (lined : Lined false text) :
    Lined false (c :: text) :=
  Lined.cons unbroken (fun first => absurd first Bool.false_ne_true) lined

theorem Lined.behind (unbroken : Unbroken text) (lined : Lined false more) : Lined false (text ++ more) :=
  ⟨EveryLine.append_inside unbroken lined.1, endsWith_append text lined.2⟩

/-- Behind an unbroken text that begins a line the line goes on. -/
theorem Lined.line (first : Unmarked (text ++ more)) (unbroken : Unbroken text) (lined : Lined false more)
    (nonempty : text ≠ []) : Lined true (text ++ more) := by
  obtain ⟨c, cs, rfl⟩ := List.exists_cons_of_ne_nil nonempty
  obtain ⟨here, later⟩ := unbroken_cons.mp unbroken
  exact Lined.cons here (fun _ => first) (lined.behind later)

theorem Lined.indent (lined : Lined true text) (column : Nat) : Lined true (pad column ++ text) := by
  cases column with
  | zero => exact lined
  | succ n =>
    exact Lined.cons isBreak_space (fun _ => unmarked_cons (by decide) _) (lined.inside.behind (unbroken_pad n))

theorem everyLine_feed : EveryLine isBreak start ['\n'] :=
  ⟨fun _ => unmarked_cons (by decide) [], trivial⟩

theorem lined_feed : Lined start ['\n'] := ⟨everyLine_feed, by decide⟩

/-- The end of a line, and the lines behind it. -/
theorem Lined.feed (lined : Lined true text) : Lined start ('\n' :: text) :=
  Lined.append everyLine_feed lined

/-! ### Texts -/

/-- The lines of an indented text are indented or empty. -/
theorem everyLine_indented (wide : 0 < column) (text : List Char) (fresh : Bool) :
    EveryLine isBreak fresh (indented column fresh text) := by
  induction text generalizing fresh with
  | nil => trivial
  | cons c cs ih =>
    rw [indented]
    split
    · rename_i broken
      have other : c ≠ '-' := by
        rintro rfl
        exact absurd broken (by decide)
      refine ⟨fun _ => unmarked_cons other _, ?_⟩
      rw [broken]
      exact ih true
    · rename_i unbroken
      have word : isBreak c = false := by simpa using unbroken
      have later := ih false
      split
      · obtain ⟨n, rfl⟩ := Nat.exists_eq_succ_of_ne_zero (Nat.pos_iff_ne_zero.mp wide)
        rename_i first
        rw [first]
        refine ⟨fun _ => unmarked_cons (by decide) _, ?_⟩
        rw [isBreak_space]
        refine EveryLine.append_inside (unbroken_pad n) (EveryLine.cons_inside ?_)
        rw [word]
        exact later
      · rename_i notFirst
        rw [Bool.eq_false_iff.mpr notFirst]
        refine EveryLine.cons_inside ?_
        rw [word]
        exact later

theorem lined_quotedTail (wide : 0 < column) (text : List Char) :
    Lined false (quotedTail column '\'' false text ++ ['\n']) := by
  have close : Lined true ['\'', '\n'] :=
    Lined.cons (by decide) (fun _ => unmarked_cons (by decide) _) lined_feed
  have last : Lined true (lineStart column (endsWith isBreak ('\'' :: text)) ++ ['\'', '\n']) := by
    unfold lineStart
    split
    · exact close.indent column
    · exact close
  have whole := Lined.append (everyLine_indented wide
    (text.flatMap fun c => if c = '\'' then ['\'', '\''] else [c]) false) last
  simpa [quotedTail] using whole

theorem unbroken_literalMarks (text : List Char) : Unbroken (literalMarks text) := by
  rw [literalMarks_eq, unbroken_append]
  constructor
  · cases hidesWidth text
    · exact unbroken_nil
    · exact unbroken_cons.mpr ⟨by decide, unbroken_nil⟩
  · cases chompingOf text
    · exact unbroken_cons.mpr ⟨by decide, unbroken_nil⟩
    · exact unbroken_nil
    · exact unbroken_cons.mpr ⟨by decide, unbroken_nil⟩

theorem lined_literalTail (wide : 0 < column) (text : List Char) : Lined false (literalTail column text) := by
  have lines : Lined true (indented column true (text ++ closingBreak text)) := by
    refine ⟨everyLine_indented wide _ true, ?_⟩
    rw [endsWith_indented, endsWith_closingBreak]
  exact (Lined.feed lines).behind (unbroken_literalMarks text)

/-- **A text ends its line**, and goes over several lines only indented. -/
theorem lined_writeText (wide : 0 < column) (text : List Char) :
    Lined false (writeText column text ++ lineEnd text) := by
  rcases writeText_cases column text with ⟨style, same, allowed, -⟩ | ⟨style, same, -⟩ |
    ⟨style, same⟩ | ⟨-, same, -⟩
  · rw [same, lineEnd_of_ne (by simp [style])]
    exact lined_feed.behind (unbroken_of_allowsPlain allowed)
  · rw [same, lineEnd_of_ne (by simp [style])]
    exact Lined.cons_inside (by decide) (lined_quotedTail wide text)
  · rw [same, lineEnd_of_ne (by simp [style])]
    exact Lined.cons_inside (by decide) (lined_feed.behind (unbroken_doubleQuotedTail text))
  · rw [same]
    exact Lined.cons_inside (by decide) (lined_literalTail wide text)

/-- A plain key is not three hyphens, as its colon is another character. -/
theorem unmarked_of_beginsLikeMark (other : beginsLikeMark text = false) (nonempty : text ≠ []) (more : List Char) :
    Unmarked (text ++ ':' :: more) := by
  match text, nonempty with
  | [a], _ => exact ⟨':', by simp, by decide⟩
  | [a, b], _ => exact ⟨':', by simp, by decide⟩
  | a :: b :: c :: cs, _ =>
    by_cases first : a = '-'
    · by_cases second : b = '-'
      · by_cases third : c = '-'
        · subst first second third
          simp [beginsLikeMark] at other
        · exact ⟨c, by simp, third⟩
      · exact ⟨b, by simp, second⟩
    · exact ⟨a, by simp, first⟩

/-- A key in front of its colon. -/
theorem lined_key (key : List Char) (unbroken : Unbroken key) (lined : Lined false more) :
    Lined true (writeText column key ++ ':' :: more) := by
  have colon : Lined false (':' :: more) := Lined.cons_inside (by decide) lined
  obtain ⟨notLiteral, line, -⟩ := writeText_of_unbroken column unbroken
  rcases writeText_cases column key with ⟨-, same, allowed, nonempty⟩ | ⟨-, same, -⟩ | ⟨-, same⟩ |
    ⟨style, -⟩
  · have other : beginsLikeMark key = false := by
      simp only [allowsPlain, isIndicated, Bool.and_eq_true, Bool.not_eq_true', Bool.or_eq_false_iff] at allowed
      exact allowed.2.1.1
    rw [same] at line ⊢
    exact Lined.line (unmarked_of_beginsLikeMark other nonempty more) line colon nonempty
  · rw [same] at line ⊢
    exact Lined.line (unmarked_cons (by decide) _) line colon (List.cons_ne_nil _ _)
  · rw [same] at line ⊢
    exact Lined.line (unmarked_cons (by decide) _) line colon (List.cons_ne_nil _ _)
  · exact absurd style notLiteral

/-! ### Values -/

theorem lined_writeLeaf {value : Json} (whole : value.isExact = true) (wide : 0 < column) :
    Lined false (writeLeaf column value) := by
  cases value with
  | null => exact lined_feed.behind (unbroken_of_any ['n', 'u', 'l', 'l'] (by decide))
  | bool b =>
    cases b
    · exact lined_feed.behind (unbroken_of_any ['f', 'a', 'l', 's', 'e'] (by decide))
    · exact lined_feed.behind (unbroken_of_any ['t', 'r', 'u', 'e'] (by decide))
  | int n => exact lined_feed.behind (unbroken_of_allowsPlain (allowsPlain_ofInt n))
  | float x => simp [Json.isExact] at whole
  | str text => exact lined_writeText wide text.toList
  | arr items => exact lined_feed.behind (unbroken_of_any ['[', ']'] (by decide))
  | obj members => exact lined_feed.behind (unbroken_of_any ['\x7b', '\x7d'] (by decide))

theorem lined_space {text : List Char} (lined : Lined false text) : Lined false (' ' :: text) :=
  Lined.cons_inside isBreak_space lined

theorem lined_brackets (column : Nat) :
    Lined false (' ' :: writeLeaf column (.arr [])) ∧ Lined false (' ' :: writeLeaf column (.obj [])) :=
  ⟨lined_space (@lined_writeLeaf 1 (.arr []) rfl Nat.one_pos),
    lined_space (@lined_writeLeaf 1 (.obj []) rfl Nat.one_pos)⟩

/-- An item, behind its hyphen. -/
theorem lined_item {value : Json} (lined : Lined false (writeBehindMark column value)) :
    Lined true ('-' :: writeBehindMark column value) := by
  obtain ⟨more, same⟩ := exists_writeBehindMark column value
  rw [same] at lined ⊢
  exact Lined.cons (by decide) (fun _ => unmarked_hyphen (by decide) more) lined

/-- A long key, between its marks. -/
theorem lined_longKey (key : String) (lined : Lined false more) :
    Lined true (writeLongKey column key ++ more) := by
  have colon : Lined true (':' :: more) := Lined.cons (by decide) (fun _ => unmarked_cons (by decide) _) lined
  have text := lined_writeText (Nat.succ_pos (column + 1)) key.toList
  have whole := lined_space (Lined.append text.1 (colon.indent column))
  have mark := @Lined.cons true _ '?' (by decide) (fun _ => unmarked_cons (by decide) _) whole
  simpa [writeLongKey] using mark

theorem lined_writeEntry {key : String} {value : Json} (behindKey : Lined false (writeBehindKey column value))
    (behindMark : Lined false (writeBehindMark column value)) : Lined true (writeEntry column key value) := by
  rw [writeEntry]
  split
  · rename_i simple
    exact lined_key key.toList (isNearKey_of_isSimpleKey simple).1 behindKey
  · exact lined_longKey key behindMark

mutual

theorem lined_writeBehindMark : ∀ {value : Json}, value.isExact = true → ∀ column : Nat,
    Lined false (writeBehindMark column value)
  | .arr [], _, column => by
    rw [writeBehindMark]
    exact (lined_brackets column).1
  | .arr (item :: items), whole, column => by
    rw [Json.isExact] at whole
    rw [writeBehindMark]
    exact lined_space (lined_writeItems whole (List.cons_ne_nil item items) (column + 2)).inside
  | .obj [], _, column => by
    rw [writeBehindMark]
    exact (lined_brackets column).2
  | .obj (member :: members), whole, column => by
    rw [Json.isExact] at whole
    rw [writeBehindMark]
    exact lined_space (lined_writeEntries whole (List.cons_ne_nil member members) (column + 2)).inside
  | .null, whole, column => lined_space (lined_writeLeaf whole (Nat.succ_pos _))
  | .bool _, whole, column => lined_space (lined_writeLeaf whole (Nat.succ_pos _))
  | .int _, whole, column => lined_space (lined_writeLeaf whole (Nat.succ_pos _))
  | .float _, whole, column => lined_space (lined_writeLeaf whole (Nat.succ_pos _))
  | .str _, whole, column => lined_space (lined_writeLeaf whole (Nat.succ_pos _))

/-- **A value behind a key ends its line**, and no line in it begins like a mark. -/
theorem lined_writeBehindKey : ∀ {value : Json}, value.isExact = true → ∀ column : Nat,
    Lined false (writeBehindKey column value)
  | .arr [], _, column => by
    rw [writeBehindKey]
    exact (lined_brackets column).1
  | .arr (item :: items), whole, column => by
    rw [Json.isExact] at whole
    rw [writeBehindKey]
    exact Lined.feed ((lined_writeItems whole (List.cons_ne_nil item items) column).indent column)
  | .obj [], _, column => by
    rw [writeBehindKey]
    exact (lined_brackets column).2
  | .obj (member :: members), whole, column => by
    rw [Json.isExact] at whole
    rw [writeBehindKey]
    exact Lined.feed ((lined_writeEntries whole (List.cons_ne_nil member members) (column + 2)).indent _)
  | .null, whole, column => lined_space (lined_writeLeaf whole (Nat.succ_pos _))
  | .bool _, whole, column => lined_space (lined_writeLeaf whole (Nat.succ_pos _))
  | .int _, whole, column => lined_space (lined_writeLeaf whole (Nat.succ_pos _))
  | .float _, whole, column => lined_space (lined_writeLeaf whole (Nat.succ_pos _))
  | .str _, whole, column => lined_space (lined_writeLeaf whole (Nat.succ_pos _))

theorem lined_writeItems : ∀ {items : List Json}, Json.areExact items = true → items ≠ [] → ∀ column : Nat,
    Lined true (writeItems column items)
  | [], _, nonempty, _ => absurd rfl nonempty
  | [item], whole, _, column => by
    simp only [Json.areExact, Bool.and_eq_true] at whole
    rw [writeItems_singleton]
    exact lined_item (lined_writeBehindMark whole.1 column)
  | item :: next :: items, whole, _, column => by
    rw [Json.areExact, Bool.and_eq_true] at whole
    rw [writeItems_cons_cons]
    exact Lined.append (lined_item (lined_writeBehindMark whole.1 column)).1
      ((lined_writeItems whole.2 (List.cons_ne_nil next items) column).indent column)

/-- **So do the entries of a mapping.** -/
theorem lined_writeEntries : ∀ {members : List (String × Json)}, Json.membersExact members = true →
    members ≠ [] → ∀ column : Nat, Lined true (writeEntries column members)
  | [], _, nonempty, _ => absurd rfl nonempty
  | [(key, value)], whole, _, column => by
    simp only [Json.membersExact, Bool.and_eq_true] at whole
    rw [writeEntries_singleton]
    exact lined_writeEntry (lined_writeBehindKey whole.1 column) (lined_writeBehindMark whole.1 column)
  | (key, value) :: next :: members, whole, _, column => by
    rw [Json.membersExact, Bool.and_eq_true] at whole
    rw [writeEntries_cons_cons]
    exact Lined.append (lined_writeEntry (lined_writeBehindKey whole.1 column)
      (lined_writeBehindMark whole.1 column)).1
      ((lined_writeEntries whole.2 (List.cons_ne_nil next members) column).indent column)

end

/-- **No line of a document begins with three hyphens**, and its last line is ended. -/
theorem lined_writeChars {members : List (String × Json)} (whole : Json.membersExact members = true)
    (nonempty : members ≠ []) : Lined true (writeChars (.obj members)) := by
  obtain ⟨member, members, rfl⟩ := List.exists_cons_of_ne_nil nonempty
  exact lined_writeEntries whole nonempty 0

/-! ### What a document ends with -/

variable {q : Char → Bool}

theorem endsWith_append_of_ne_nil (front : List Char) {back : List Char} (nonempty : back ≠ []) :
    endsWith q (front ++ back) = endsWith q back := by
  obtain ⟨c, last⟩ := Option.ne_none_iff_exists'.mp (mt List.getLast?_eq_none_iff.mp nonempty)
  rw [endsWith, endsWith, List.getLast?_append, last]
  rfl

theorem writeEntry_ne_nil (column : Nat) (key : String) (value : Json) : writeEntry column key value ≠ [] := by
  rw [writeEntry]
  split <;> simp [writeLongKey]

/-- What is written for the first entries of a mapping does not depend on the others. -/
theorem exists_writeEntries_append (column : Nat) (front : List (String × Json)) : ∃ before,
    ∀ (m : String × Json) (back : List (String × Json)),
      writeEntries column (front ++ m :: back) = before ++ writeEntries column (m :: back) := by
  induction front with
  | nil => exact ⟨[], fun _ _ => rfl⟩
  | cons first front ih =>
    obtain ⟨key, value⟩ := first
    obtain ⟨before, same⟩ := ih
    refine ⟨writeEntry column key value ++ (pad column ++ before), fun m back => ?_⟩
    obtain ⟨next, more, there⟩ := List.exists_cons_of_ne_nil (List.append_ne_nil_of_right_ne_nil front
      (List.cons_ne_nil m back))
    rw [List.cons_append, there, writeEntries_cons_cons, ← there, same]
    simp

/-- A mapping under a key, with all but its first entries written behind them. -/
theorem exists_writeEntry_obj (key : String) (simple : isSimpleKey key = true) (column : Nat)
    (front : List (String × Json)) : ∃ before, ∀ (m : String × Json) (back : List (String × Json)),
      writeEntry column key (.obj (front ++ m :: back)) = before ++ writeEntries (column + 2) (m :: back) := by
  obtain ⟨before, same⟩ := exists_writeEntries_append (column + 2) front
  refine ⟨writeText (column + 2) key.toList ++ ':' :: '\n' :: pad (column + 2) ++ before, fun m back => ?_⟩
  have some : (front ++ m :: back).isEmpty = false := by
    cases front <;> rfl
  rw [writeEntry, if_pos simple, writeBehindKey, if_neg (Bool.eq_false_iff.mp some), same]
  simp

/-- A mapping ends with what its last entry ends with. -/
theorem endsWith_writeEntries (column : Nat) (members : List (String × Json)) (key : String) (value : Json) :
    endsWith q (writeEntries column (members ++ [(key, value)])) = endsWith q (writeEntry column key value) := by
  obtain ⟨before, same⟩ := exists_writeEntries_append column members
  rw [same, writeEntries_singleton, endsWith_append_of_ne_nil before (writeEntry_ne_nil column key value)]

/-- An entry with another mapping for its value ends with what that one ends with. -/
theorem endsWith_writeEntry_obj {key : String} (simple : isSimpleKey key = true) (column : Nat)
    (members : List (String × Json)) (last : String) (value : Json) :
    endsWith q (writeEntry column key (.obj (members ++ [(last, value)]))) =
      endsWith q (writeEntry (column + 2) last value) := by
  obtain ⟨before, same⟩ := exists_writeEntry_obj key simple column members
  rw [same, writeEntries_singleton, endsWith_append_of_ne_nil before (writeEntry_ne_nil (column + 2) last value)]

end ControllerSynthesis.Yaml
