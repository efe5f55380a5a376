/-
# Documents laid out by hand

The writer has one way to write a value, and it quotes every text that would mean
something else. A hand need not: it may write a text plain where the writer would not,
or between quotes that are not needed. Such a document is a mapping in block style in
which some values stand as the writer has them, and some texts as the hand has them.

The reader makes the same tree of it, apart from how these texts stand. The tree says
whether a text is plain, but nothing of what a plain text would mean.

Key definitions: `Yaml.Quoting`, `Yaml.Layout`, `Yaml.Layout.document`,
`Yaml.Layout.node`, `Yaml.Layout.isSound`.
Key theorems: `Yaml.Layout.lands_write`, `Yaml.Layout.run_tokens`,
`Yaml.Document.ofText_document`.
-/
import ControllerSynthesis.Proofs.Yaml.Building

namespace ControllerSynthesis.Yaml

/-! ### Quotes -/

/-- The ways to write a text as it is, on one line. -/
inductive Quoting where
  | plain
  | single
  | double
  deriving Repr, DecidableEq

namespace Quoting

/-- A text between its quotes, if it has any. -/
def spell : Quoting → List Char → List Char
  | plain, text => text
  | single, text => '\'' :: (text ++ ['\''])
  | double, text => '"' :: (text ++ ['"'])

/-- How the text stands in the document. -/
def form : Quoting → Form
  | plain => .plain
  | _ => .marked

/-- Whether a text that is written so is read as it is. -/
def allows : Quoting → List Char → Bool
  | plain, text => !text.isEmpty && allowsPlain text
  | single, text => text.all fun c => isShown c && !isBreak c && c != '\''
  | double, text => text.all fun c => isShown c && !isBreak c && c != '"' && c != '\\'

variable {quoting : Quoting} {text : List Char}

theorem allows_plain_iff : plain.allows text = true ↔ text ≠ [] ∧ allowsPlain text = true := by
  cases text <;> simp [allows]

theorem adjacent_of_unbroken (q : Char → Bool) : ∀ {text : List Char}, Unbroken text →
    adjacent q isBreak text = false ∧ adjacent isBreak q text = false
  | [], _ => ⟨rfl, rfl⟩
  | [_], _ => ⟨rfl, rfl⟩
  | a :: b :: text, unbroken => by
    obtain ⟨first, rest⟩ := unbroken_cons.mp unbroken
    have second := (unbroken_cons.mp rest).1
    have later := adjacent_of_unbroken q rest
    exact ⟨adjacent_cons.mpr ⟨by simp [second], later.1⟩, adjacent_cons.mpr ⟨by simp [first], later.2⟩⟩

theorem unbroken_of_allows_single (allowed : single.allows text = true) : Shown text ∧ Unbroken text ∧ '\'' ∉ text := by
  simp only [allows, List.all_eq_true, Bool.and_eq_true, Bool.not_eq_true', bne_iff_ne] at allowed
  refine ⟨fun c mem => (allowed c mem).1.1, fun c mem => (allowed c mem).1.2, fun mem => ?_⟩
  exact (allowed _ mem).2 rfl

/-- Without quotes and line breaks a text stands as it is between single quotes. -/
theorem quotedTail_of_noQuote (column : Nat) : ∀ {text : List Char} {before : Char}, isBreak before = false →
    Unbroken text → '\'' ∉ text → quotedTail column before false text = text ++ ['\'']
  | [], before, onLine, _, _ => by
    rw [quotedTail_nil, onLine]
    rfl
  | c :: cs, before, _, unbroken, noQuote => by
    obtain ⟨here, rest⟩ := unbroken_cons.mp unbroken
    have other : c ≠ '\'' := fun same => noQuote (by simp [same])
    have later : '\'' ∉ cs := fun mem => noQuote (List.mem_cons_of_mem _ mem)
    rw [quotedTail_other here other, quotedTail_of_noQuote column here rest later]
    rfl

/-- Nor is anything escaped between double quotes. -/
theorem doubleQuotedTail_of_allows : ∀ {text : List Char}, double.allows text = true →
    doubleQuotedTail text = text ++ ['"']
  | [], _ => rfl
  | c :: cs, allowed => by
    simp only [allows, List.all_cons, Bool.and_eq_true] at allowed
    have itself : doubleQuotedChar c = [c] := if_pos (by simpa using allowed.1)
    rw [doubleQuotedTail_cons, itself, doubleQuotedTail_of_allows allowed.2]
    rfl

theorem shown_spell (allowed : quoting.allows text = true) : Shown (quoting.spell text) := by
  cases quoting with
  | plain => exact shown_of_allowsPlain (allows_plain_iff.mp allowed).2
  | single =>
    have shown := (unbroken_of_allows_single allowed).1
    exact shown_cons.mpr ⟨by decide, shown_append.mpr ⟨shown, shown_iff_all.mpr rfl⟩⟩
  | double =>
    have tail := shown_doubleQuotedTail text
    rw [doubleQuotedTail_of_allows allowed] at tail
    exact shown_cons.mpr ⟨by decide, tail⟩

theorem startsToken_spell (allowed : quoting.allows text = true) (more : List Char) :
    StartsToken (quoting.spell text ++ more) := by
  cases quoting with
  | plain =>
    obtain ⟨nonempty, plain⟩ := allows_plain_iff.mp allowed
    exact startsToken_of_allowsPlain plain nonempty more
  | single => exact ⟨by decide, by decide⟩
  | double => exact ⟨by decide, by decide⟩

end Quoting

/-! ### Layouts -/

/-- What stands behind the colon of a key. -/
inductive Layout where
  /-- A value, as it is written otherwise. -/
  | value (json : Json)
  /-- A text as it is. -/
  | spelled (quoting : Quoting) (text : String)
  /-- A mapping, with an entry on each line. -/
  | block (entries : List (String × Layout))

namespace Layout

mutual

/-- The text behind the colon of a key that stands in a column. -/
def write (column : Nat) : Layout → List Char
  | .value json => writeBehindKey column json
  | .spelled quoting text => ' ' :: (quoting.spell text.toList ++ ['\n'])
  | .block entries => '\n' :: pad (column + 2) ++ writeLines (column + 2) entries

/-- The lines of the entries of a mapping, of which the first is at its place. -/
def writeLines (column : Nat) : List (String × Layout) → List Char
  | [] => []
  | (key, part) :: entries =>
    writeText (column + 2) key.toList ++ ':' :: write column part ++
      if entries.isEmpty then [] else pad column ++ writeLines column entries

end

/-- Members as they are written otherwise. -/
def written (members : List (String × Json)) : List (String × Layout) :=
  members.map fun m => (m.1, .value m.2)

/-- The document of a mapping. -/
def document (entries : List (String × Layout)) : String :=
  String.ofList (writeLines 0 entries)

mutual

/-- The tokens of what stands behind the colon of a key. -/
def tokens : Layout → List Token
  | .value json => behindKeyTokens json
  | .spelled quoting text => [.scalar quoting.form text.toList]
  | .block entries => .blockMappingStart :: (lineTokens entries ++ [.blockEnd])

/-- The tokens of the entries of a mapping. -/
def lineTokens : List (String × Layout) → List Token
  | [] => []
  | (key, part) :: entries => .key :: scalarToken key.toList :: .value :: (tokens part ++ lineTokens entries)

end

mutual

/-- The part of the document that it is. -/
def node : Layout → Node
  | .value json => .ofJson json
  | .spelled quoting text => .scalar {} quoting.form text.toList
  | .block entries => .mapping {} (nodes entries)

/-- The entries of a mapping as parts of the document. -/
def nodes : List (String × Layout) → List (Node × Node)
  | [] => []
  | (key, part) :: entries => (.ofText key, node part) :: nodes entries

end

mutual

/-- Whether the reader makes the tree of it: mappings have entries, their keys are near
enough to their colons, and no text needs other quotes. -/
def isSound : Layout → Bool
  | .value json => json.isExact
  | .spelled quoting text => quoting.allows text.toList
  | .block entries => !entries.isEmpty && areSound entries

/-- Whether this holds of all entries of a mapping. -/
def areSound : List (String × Layout) → Bool
  | [] => true
  | (key, part) :: entries => isSimpleKey key && isSound part && areSound entries

end

theorem areSound_iff : ∀ {entries : List (String × Layout)},
    areSound entries = true ↔ ∀ e ∈ entries, isSimpleKey e.1 = true ∧ e.2.isSound = true
  | [] => by simp [areSound]
  | (key, part) :: entries => by
    rw [areSound, Bool.and_eq_true, Bool.and_eq_true, areSound_iff, List.forall_mem_cons]

theorem areSound_append {front back : List (String × Layout)} :
    areSound (front ++ back) = true ↔ areSound front = true ∧ areSound back = true := by
  simp only [areSound_iff, List.forall_mem_append]

theorem areSound_written {members : List (String × Json)} (near : (members.map (·.1)).all isSimpleKey = true)
    (whole : ∀ m ∈ members, m.2.isExact = true) : areSound (written members) = true := by
  refine areSound_iff.mpr fun e mem => ?_
  obtain ⟨m, own, rfl⟩ := List.mem_map.mp mem
  exact ⟨List.all_eq_true.mp near m.1 (List.mem_map_of_mem own), whole m own⟩

/-! ### What is written -/

theorem writeLines_singleton (column : Nat) (key : String) (part : Layout) :
    writeLines column [(key, part)] = writeText (column + 2) key.toList ++ ':' :: write column part := by
  simp [writeLines]

theorem writeLines_cons_cons (column : Nat) (key : String) (part : Layout) (next : String × Layout)
    (entries : List (String × Layout)) : writeLines column ((key, part) :: next :: entries) =
      writeText (column + 2) key.toList ++ ':' :: write column part ++
        (pad column ++ writeLines column (next :: entries)) := by
  rw [writeLines]
  rfl

/-- What stands around the value of an entry does not depend on the value. -/
theorem exists_writeLines (column : Nat) (key : String) (front back : List (String × Layout)) :
    ∃ before after, ∀ part, writeLines column (front ++ (key, part) :: back) =
      before ++ writeText (column + 2) key.toList ++ ':' :: write column part ++ after := by
  induction front with
  | nil => exact ⟨[], if back.isEmpty then [] else pad column ++ writeLines column back, fun _ => rfl⟩
  | cons entry front ih =>
    obtain ⟨before, after, around⟩ := ih
    obtain ⟨own, value⟩ := entry
    refine ⟨writeText (column + 2) own.toList ++ ':' :: write column value ++ pad column ++ before, after, fun part => ?_⟩
    have further : (front ++ (key, part) :: back).isEmpty = false := by simp
    rw [List.cons_append, writeLines, further, around]
    simp

theorem startsToken_writeLines (column : Nat) (entry : String × Layout) (entries : List (String × Layout))
    (more : List Char) : StartsToken (writeLines column (entry :: entries) ++ more) := by
  obtain ⟨key, part⟩ := entry
  rw [writeLines, List.append_assoc, List.append_assoc]
  exact startsToken_writeText (column + 2) key.toList _

/-- A text on the line of its key. -/
theorem shown_scalar {quoting : Quoting} {text : List Char} (allowed : quoting.allows text = true) :
    Shown (' ' :: (quoting.spell text ++ ['\n'])) :=
  shown_space_cons (shown_append.mpr ⟨Quoting.shown_spell allowed, shown_iff_all.mpr rfl⟩)

mutual

theorem shown_write : ∀ {part : Layout}, part.isSound = true → ∀ column : Nat, Shown (write column part)
  | .value _, sound, column => shown_writeBehindKey sound column
  | .spelled _ _, sound, _ => shown_scalar sound
  | .block entries, sound, column => by
    rw [isSound, Bool.and_eq_true] at sound
    exact shown_append.mpr ⟨shown_cons.mpr ⟨isShown_feed, shown_pad (column + 2)⟩,
      shown_writeLines sound.2 (column + 2)⟩

theorem shown_writeLines : ∀ {entries : List (String × Layout)}, areSound entries = true →
    ∀ column : Nat, Shown (writeLines column entries)
  | [], _, _ => shown_nil
  | (key, part) :: entries, sound, column => by
    simp only [areSound, Bool.and_eq_true] at sound
    have text := (shown_append.mp (shown_writeText (column + 2) key.toList)).1
    have behind : Shown (':' :: write column part) := shown_cons.mpr ⟨by decide, shown_write sound.1.2 column⟩
    rw [writeLines]
    refine shown_append.mpr ⟨shown_append.mpr ⟨text, behind⟩, ?_⟩
    split
    · exact shown_nil
    · exact shown_append.mpr ⟨shown_pad column, shown_writeLines sound.2 column⟩

end

/-- What stands behind a key has a gap in front. -/
theorem atLocatedGap_write (column : Nat) (part : Layout) (more : List Char) (q : Place) :
    atLocatedGap (locate q (write column part ++ more)) = true := by
  cases part with
  | value json => exact atLocatedGap_writeBehindKey column json more q
  | spelled quoting text => exact Scanner.atLocatedGap_space q _
  | block entries => exact atLocatedGap_feed q _

/-! ### Scanning -/

open Scanner (on opened LeadsTo Lands opened_deeper opened_level)

variable {p : Place} {k : Nat} {next : List Char} {before : List Token} {above : List Nat}

/-- A text in its quotes is one token, in front of a token that is indented less. -/
theorem leadsTo_spell {parent : Nat} {quoting : Quoting} {text : List Char} {keyAllowed : Bool}
    (allowed : quoting.allows text = true) (inside : parent < p.column) (narrow : k ≤ parent) (shown : Shown next)
    (starts : StartsToken next) :
    LeadsTo (on p (quoting.spell text ++ '\n' :: (pad k ++ next)) (parent :: above) before keyAllowed none) k next
      (parent :: above) (.scalar quoting.form text :: before) := by
  cases quoting with
  | plain =>
    obtain ⟨nonempty, plain⟩ := Quoting.allows_plain_iff.mp allowed
    exact Scanner.leadsTo_plain plain nonempty inside narrow shown starts
  | single =>
    obtain ⟨textShown, unbroken, noQuote⟩ := Quoting.unbroken_of_allows_single allowed
    have clean : allowsSingleQuotes text = true :=
      allowsSingleQuotes_iff.mpr ⟨textShown, Quoting.adjacent_of_unbroken isSpace unbroken⟩
    have noFeed : '\n' ∉ text := fun mem => absurd (unbroken _ mem) (by decide)
    have leads := @Scanner.leadsTo_singleQuoted p text next before keyAllowed k parent above inside clean noFeed
      shown starts
    rwa [Quoting.quotedTail_of_noQuote (parent + 2) (by decide) unbroken noQuote] at leads
  | double =>
    have leads := @Scanner.leadsTo_doubleQuoted p text next before keyAllowed k parent above inside shown starts
    rwa [Quoting.doubleQuotedTail_of_allows allowed] at leads

theorem lands_scalar {column : Nat} {quoting : Quoting} {text : List Char} (allowed : quoting.allows text = true)
    (inside : column ≤ p.column) (narrow : k ≤ column) (shown : Shown next) (starts : StartsToken next) :
    Lands (on p (' ' :: (quoting.spell text ++ '\n' :: (pad k ++ next))) (column :: above) before false none) k next
      (column :: above) (.scalar quoting.form text :: before) := by
  have behind := p.column_behind isBreak_space
  have line : Shown ('\n' :: (pad k ++ next)) :=
    shown_cons.mpr ⟨isShown_feed, shown_append.mpr ⟨shown_pad k, shown⟩⟩
  refine Scanner.lands_space (shown_append.mpr ⟨Quoting.shown_spell allowed, line⟩)
    (Quoting.startsToken_spell allowed _) ?_ (leadsTo_spell allowed (by omega) narrow shown starts)
  intro c mem
  cases mem
  omega

/-- An entry, of which the key opens the block of the mapping if it is the first. -/
theorem leadsTo_line {column : Nat} {indents last : List Nat} {opening later : List Token} {key : String}
    {part : Layout} {tail : List Char} (simple : isSimpleKey key = true) (shownPart : Shown (write column part))
    (shownTail : Shown tail) (start : p.column = column) (outside : ∀ c ∈ indents.head?, c ≤ column)
    (opens : opened column .blockMappingStart indents before = (column :: above, opening))
    (lands : ∀ q : Place, column ≤ q.column → Lands (on q (write column part ++ tail) (column :: above)
      (.value :: scalarToken key.toList :: .key :: opening) false none) k next last later) :
    LeadsTo (on p (writeText (column + 2) key.toList ++ ':' :: write column part ++ tail) indents before true none)
      k next last later := by
  rw [List.append_assoc, List.cons_append]
  exact Scanner.leadsTo_simpleKey (Nat.succ_pos _) (isNearKey_of_isSimpleKey simple)
    (shown_append.mpr ⟨shownPart, shownTail⟩) (atLocatedGap_write column part tail) start outside opens lands

mutual

/-- **What stands behind the colon of a key is its tokens**, up to a token that is not
indented further than the key. -/
theorem lands_write : ∀ {part : Layout}, part.isSound = true → ∀ {column : Nat} {above : List Nat}
    {before : List Token} {p : Place} {k : Nat} {next : List Char}, column ≤ p.column → k ≤ column →
    Shown next → StartsToken next →
    Lands (on p (write column part ++ (pad k ++ next)) (column :: above) before false none) k next
      (column :: above) (part.tokens.reverse ++ before)
  | .value json, sound, _, _, _, _, _, _, inside, narrow, shown, starts =>
    Scanner.lands_behindKey sound inside narrow shown starts
  | .spelled _ _, sound, _, _, _, _, _, _, inside, narrow, shown, starts => by
    simpa [write, tokens] using lands_scalar sound inside narrow shown starts
  | .block [], sound, _, _, _, _, _, _, _, _, _, _ => by simp [isSound] at sound
  | .block (entry :: entries), sound, column, above, before, p, k, next, inside, narrow, shown, starts => by
    rw [isSound, Bool.and_eq_true] at sound
    have rest : Shown (pad k ++ next) := shown_append.mpr ⟨shown_pad k, shown⟩
    have deeper := @opened_deeper (column :: above) before (column + 2) .blockMappingStart (by simp)
    have lands : Lands (on p ('\n' :: pad (column + 2) ++ (writeLines (column + 2) (entry :: entries) ++
        (pad k ++ next))) (column :: above) before false none) k next (column :: above)
        (.blockEnd :: ((lineTokens (entry :: entries)).reverse ++ .blockMappingStart :: before)) :=
      Scanner.lands_nextLine (shown_append.mpr ⟨shown_writeLines sound.2 (column + 2), rest⟩)
        (startsToken_writeLines (column + 2) entry entries _) (by simp) fun q start =>
          (leadsTo_lines sound.2 (List.cons_ne_nil entry entries) start (by omega) (by simp) deeper shown
            starts).blockEnd (by omega)
    rw [write, tokens]
    simpa using lands

/-- **The entries of a mapping are their tokens**; the first opens a block if it stands
further right than all open ones. -/
theorem leadsTo_lines : ∀ {entries : List (String × Layout)}, areSound entries = true → entries ≠ [] →
    ∀ {column : Nat} {above indents : List Nat} {before opening : List Token} {p : Place} {k : Nat}
      {next : List Char}, p.column = column → k ≤ column → (∀ c ∈ indents.head?, c ≤ column) →
    opened column .blockMappingStart indents before = (column :: above, opening) → Shown next → StartsToken next →
    LeadsTo (on p (writeLines column entries ++ (pad k ++ next)) indents before true none) k next
      (column :: above) ((lineTokens entries).reverse ++ opening)
  | [], _, nonempty, _, _, _, _, _, _, _, _, _, _, _, _, _, _ => absurd rfl nonempty
  | [(key, part)], sound, _, column, above, indents, before, opening, p, k, next, start, narrow, outside, opens,
      shown, starts => by
    simp only [areSound, Bool.and_eq_true] at sound
    rw [writeLines_singleton]
    refine leadsTo_line sound.1.1 (shown_write sound.1.2 column) (shown_append.mpr ⟨shown_pad k, shown⟩) start
      outside opens fun q inside => ?_
    simpa [lineTokens] using lands_write sound.1.2 inside narrow shown starts
  | (key, part) :: second :: entries, sound, _, column, above, indents, before, opening, p, k, next, start, narrow,
      outside, opens, shown, starts => by
    rw [areSound, Bool.and_eq_true, Bool.and_eq_true] at sound
    have later : Shown (writeLines column (second :: entries) ++ (pad k ++ next)) := shown_append.mpr
      ⟨shown_writeLines sound.2 column, shown_append.mpr ⟨shown_pad k, shown⟩⟩
    have begins := startsToken_writeLines column second entries (pad k ++ next)
    have further (before : List Token) (q : Place) (level : q.column = column) :=
      @leadsTo_lines (second :: entries) sound.2 (List.cons_ne_nil second entries) column above (column :: above)
        before before q k next level narrow (by simp) opened_level shown starts
    rw [writeLines_cons_cons, List.append_assoc, List.append_assoc (pad column)]
    refine leadsTo_line sound.1.1 (shown_write sound.1.2 column) (shown_append.mpr ⟨shown_pad column, later⟩) start
      outside opens fun q inside => ?_
    have lands := (@lands_write part sound.1.2 column above (.value :: scalarToken key.toList :: .key :: opening) q
      column _ inside (Nat.le_refl column) later begins).trans (further _)
    rw [lineTokens]
    simpa using lands

end

/-! ### Building -/

open Builder (building run_scalar run_key run_mappingStart run_entries)

mutual

/-- **The tokens behind a colon put their part in the place that waits for it**, up to a
token that is not the mark of an item. -/
theorem run_tokens : ∀ {part : Layout}, part.isSound = true → ∀ {stack : List Frame} {key : Node}
    {done : List (Node × Node)} {t : Token} {rest : List Token}, t ≠ .blockEntry →
    (building (⟨.mapping {} done (some key), .blockValue⟩ :: stack) (.part {})).run (part.tokens ++ t :: rest) =
      (building (⟨.mapping {} ((key, part.node) :: done) none, .blockValue⟩ :: stack) .entry).run (t :: rest)
  | .value _, sound, _, _, _, _, _, noItem => Builder.run_behindKey sound noItem
  | .spelled quoting text, _, _, _, _, _, _, _ => run_scalar quoting.form text.toList
  | .block entries, sound, stack, key, done, t, rest, _ => by
    rw [isSound, Bool.and_eq_true] at sound
    have written : (block entries).tokens ++ t :: rest =
        .blockMappingStart :: (lineTokens entries ++ .blockEnd :: t :: rest) := by
      simp [tokens]
    rw [written]
    refine (run_mappingStart (by rfl)).trans ?_
    rw [run_lines sound.2 (.inl rfl)]
    rfl

/-- **The tokens of entries end an open mapping with these entries.** -/
theorem run_lines : ∀ {entries : List (String × Layout)}, areSound entries = true →
    ∀ {stack : List Frame} {done : List (Node × Node)} {slot : Slot} {rest : List Token},
    (slot = .blockKey ∨ slot = .blockValue) →
    (building (⟨.mapping {} done none, slot⟩ :: stack) .entry).run (lineTokens entries ++ .blockEnd :: rest) =
      ((building stack (.part {})).put (.mapping {} (done.reverse ++ nodes entries))).runOn rest
  | [], _, _, _, _, _, place => run_entries (rfl : Json.membersExact [] = true) place
  | (key, part) :: entries, sound, stack, done, slot, rest, place => by
    simp only [areSound, Bool.and_eq_true] at sound
    obtain ⟨t, behind, same, noItem⟩ : ∃ t behind, lineTokens entries ++ .blockEnd :: rest = t :: behind ∧
        t ≠ .blockEntry := by
      rcases entries with - | ⟨⟨second, other⟩, entries⟩
      · exact ⟨_, _, rfl, nofun⟩
      · exact ⟨_, _, rfl, nofun⟩
    have written : lineTokens ((key, part) :: entries) ++ .blockEnd :: rest =
        .key :: scalarToken key.toList :: .value :: (part.tokens ++ t :: behind) := by
      simp [lineTokens, ← same]
    rw [written, run_key place, run_tokens sound.1.2 noItem, ← same, run_lines sound.2 (.inr rfl)]
    simp [nodes]

end

end Layout

open Layout in
/-- **The document of a mapping laid out by hand is its tree.** -/
theorem Document.ofText_document {entries : List (String × Layout)} (sound : areSound entries = true)
    (nonempty : entries ≠ []) : Document.ofText (document entries) = ⟨.mapping {} (nodes entries), .clean⟩ := by
  obtain ⟨entry, entries, rfl⟩ := List.exists_cons_of_ne_nil nonempty
  have shown := shown_writeLines sound 0
  have leads := @leadsTo_lines (entry :: entries) sound nonempty 0 [] [] [] [Token.blockMappingStart] {} 0 [] rfl
    (Nat.le_refl 0) (by simp) rfl shown_nil trivial
  have starts := startsToken_writeLines 0 entry entries []
  have whole : writeLines 0 (entry :: entries) ++ (pad 0 ++ []) = writeLines 0 (entry :: entries) := by simp [pad]
  rw [whole] at leads
  rw [List.append_nil] at starts
  have scanned := scan_of_leadsTo shown starts leads
  have tokens : ((lineTokens (entry :: entries)).reverse ++ [Token.blockMappingStart]).reverse ++ [.blockEnd, .streamEnd] =
      .blockMappingStart :: (lineTokens (entry :: entries) ++ .blockEnd :: [.streamEnd]) := by
    simp
  rw [tokens] at scanned
  rw [document, Document.ofText_of_scan shown scanned, run_lines sound (.inl rfl)]
  rfl

end ControllerSynthesis.Yaml
