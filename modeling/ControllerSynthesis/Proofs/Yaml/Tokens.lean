/-
# The tokens of a document

The tokens of a written value follow its structure: the items and entries with
their marks, and around a list or a mapping the tokens for the block that it is. A
list that is level with the key above it has none of these. Scanning a document
gives exactly these tokens, whatever the texts in it are.

Key definitions: `Yaml.leafTokens`, `Yaml.behindKeyTokens`, `Yaml.behindMarkTokens`,
`Yaml.documentTokens`.
Key theorems: `Yaml.Scanner.lands_behindKey`, `Yaml.Scanner.leadsTo_entries`,
`Yaml.scan_writeChars`.
-/
import Mathlib.Data.List.TakeWhile
import ControllerSynthesis.Proofs.Json.Integral
import ControllerSynthesis.Proofs.Yaml.Meaning
import ControllerSynthesis.Proofs.Yaml.Scalars

namespace ControllerSynthesis.Yaml

open Digits (ofInt_eq exists_cons_ofNat)

/-! ### Tokens of values -/

/-- The tokens of a value other than a list or a mapping with something in it. -/
def leafTokens : Json → List Token
  | .null => [.scalar .plain ['n', 'u', 'l', 'l']]
  | .bool true => [.scalar .plain ['t', 'r', 'u', 'e']]
  | .bool false => [.scalar .plain ['f', 'a', 'l', 's', 'e']]
  | .int n => [.scalar .plain (Digits.ofInt n)]
  | .float _ => []
  | .str text => [scalarToken text.toList]
  | .arr _ => [.flowSequenceStart, .flowSequenceEnd]
  | .obj _ => [.flowMappingStart, .flowMappingEnd]

mutual

/-- The tokens of a value behind the mark of an item, or of a long key or its value. -/
def behindMarkTokens : Json → List Token
  | .arr items =>
    if items.isEmpty then leafTokens (.arr [])
    else .blockSequenceStart :: itemsTokens items ++ [.blockEnd]
  | .obj members =>
    if members.isEmpty then leafTokens (.obj [])
    else .blockMappingStart :: entriesTokens members ++ [.blockEnd]
  | leaf => leafTokens leaf

/-- The tokens of a value behind the colon of a key. -/
def behindKeyTokens : Json → List Token
  | .arr items => if items.isEmpty then leafTokens (.arr []) else itemsTokens items
  | .obj members =>
    if members.isEmpty then leafTokens (.obj [])
    else .blockMappingStart :: entriesTokens members ++ [.blockEnd]
  | leaf => leafTokens leaf

/-- The tokens of the items of a list. -/
def itemsTokens : List Json → List Token
  | [] => []
  | item :: items => .blockEntry :: behindMarkTokens item ++ itemsTokens items

/-- The tokens of the entries of a mapping. -/
def entriesTokens : List (String × Json) → List Token
  | [] => []
  | (key, value) :: members =>
    .key :: scalarToken key.toList :: .value ::
      (if isSimpleKey key then behindKeyTokens value else behindMarkTokens value) ++
    entriesTokens members

end

/-- The tokens of a document that is a mapping with these entries. -/
def documentTokens (members : List (String × Json)) : List Token :=
  .blockMappingStart :: entriesTokens members ++ [.blockEnd, .streamEnd]

/-! ### What is written -/

theorem shown_writeLeaf {value : Json} (whole : value.isExact = true) (column : Nat) :
    Shown (writeLeaf column value) := by
  cases value with
  | null => exact shown_iff_all.mpr rfl
  | bool b => cases b <;> exact shown_iff_all.mpr rfl
  | int n =>
    exact shown_append.mpr ⟨shown_of_allowsPlain (allowsPlain_ofInt n), shown_iff_all.mpr rfl⟩
  | float x => simp [Json.isExact] at whole
  | str text => exact shown_writeText column text.toList
  | arr items => exact shown_iff_all.mpr rfl
  | obj members => exact shown_iff_all.mpr rfl

/-- An entry of a mapping, with the end of its last line. -/
def writeEntry (column : Nat) (key : String) (value : Json) : List Char :=
  if isSimpleKey key then writeText (column + 2) key.toList ++ ':' :: writeBehindKey column value
  else writeLongKey column key ++ writeBehindMark column value

theorem writeItems_singleton (column : Nat) (item : Json) :
    writeItems column [item] = '-' :: writeBehindMark column item := by
  rw [writeItems]

theorem writeItems_cons_cons (column : Nat) (item next : Json) (items : List Json) :
    writeItems column (item :: next :: items) =
      '-' :: writeBehindMark column item ++ (pad column ++ writeItems column (next :: items)) := by
  rw [writeItems, List.append_assoc]
  exact List.cons_ne_nil _ _

theorem writeEntries_singleton (column : Nat) (key : String) (value : Json) :
    writeEntries column [(key, value)] = writeEntry column key value := by
  rw [writeEntries]
  rfl

theorem writeEntries_cons_cons (column : Nat) (key : String) (value : Json) (next : String × Json)
    (members : List (String × Json)) : writeEntries column ((key, value) :: next :: members) =
      writeEntry column key value ++ (pad column ++ writeEntries column (next :: members)) := by
  rw [writeEntries, List.append_assoc]
  · rfl
  · exact List.cons_ne_nil _ _

theorem shown_space_cons {text : List Char} (shown : Shown text) : Shown (' ' :: text) :=
  shown_cons.mpr ⟨isShown_space, shown⟩

theorem shown_writeLongKey (column : Nat) (key : String) : Shown (writeLongKey column key) := by
  have text := shown_writeText (column + 2) key.toList
  rw [writeLongKey]
  exact shown_append.mpr ⟨shown_append.mpr
    ⟨shown_cons.mpr ⟨by decide, shown_space_cons text⟩, shown_pad column⟩,
    shown_cons.mpr ⟨by decide, shown_nil⟩⟩

theorem shown_writeEntry {column : Nat} {key : String} {value : Json}
    (behindKey : Shown (writeBehindKey column value)) (behindMark : Shown (writeBehindMark column value)) :
    Shown (writeEntry column key value) := by
  have text := (shown_append.mp (shown_writeText (column + 2) key.toList)).1
  rw [writeEntry]
  split
  · exact shown_append.mpr ⟨text, shown_cons.mpr ⟨by decide, behindKey⟩⟩
  · exact shown_append.mpr ⟨shown_writeLongKey column key, behindMark⟩

mutual

theorem shown_writeBehindMark : ∀ {value : Json}, value.isExact = true → ∀ column : Nat,
    Shown (writeBehindMark column value)
  | .arr [], _, column => by
    rw [writeBehindMark]
    exact shown_space_cons (shown_writeLeaf rfl column)
  | .arr (item :: items), whole, column => by
    rw [writeBehindMark]
    exact shown_space_cons (shown_writeItems (by simpa [Json.isExact] using whole) (column + 2))
  | .obj [], _, column => by
    rw [writeBehindMark]
    exact shown_space_cons (shown_writeLeaf rfl column)
  | .obj (member :: members), whole, column => by
    rw [writeBehindMark]
    exact shown_space_cons (shown_writeEntries (by simpa [Json.isExact] using whole) (column + 2))
  | .null, whole, column => shown_space_cons (shown_writeLeaf whole (column + 2))
  | .bool _, whole, column => shown_space_cons (shown_writeLeaf whole (column + 2))
  | .int _, whole, column => shown_space_cons (shown_writeLeaf whole (column + 2))
  | .float _, whole, column => shown_space_cons (shown_writeLeaf whole (column + 2))
  | .str _, whole, column => shown_space_cons (shown_writeLeaf whole (column + 2))

theorem shown_writeBehindKey : ∀ {value : Json}, value.isExact = true → ∀ column : Nat,
    Shown (writeBehindKey column value)
  | .arr [], _, column => by
    rw [writeBehindKey]
    exact shown_space_cons (shown_writeLeaf rfl column)
  | .arr (item :: items), whole, column => by
    rw [writeBehindKey]
    exact shown_append.mpr ⟨shown_cons.mpr ⟨isShown_feed, shown_pad column⟩,
      shown_writeItems (by simpa [Json.isExact] using whole) column⟩
  | .obj [], _, column => by
    rw [writeBehindKey]
    exact shown_space_cons (shown_writeLeaf rfl column)
  | .obj (member :: members), whole, column => by
    rw [writeBehindKey]
    exact shown_append.mpr ⟨shown_cons.mpr ⟨isShown_feed, shown_pad (column + 2)⟩,
      shown_writeEntries (by simpa [Json.isExact] using whole) (column + 2)⟩
  | .null, whole, column => shown_space_cons (shown_writeLeaf whole (column + 2))
  | .bool _, whole, column => shown_space_cons (shown_writeLeaf whole (column + 2))
  | .int _, whole, column => shown_space_cons (shown_writeLeaf whole (column + 2))
  | .float _, whole, column => shown_space_cons (shown_writeLeaf whole (column + 2))
  | .str _, whole, column => shown_space_cons (shown_writeLeaf whole (column + 2))

theorem shown_writeItems : ∀ {items : List Json}, Json.areExact items = true → ∀ column : Nat,
    Shown (writeItems column items)
  | [], _, _ => shown_nil
  | [item], whole, column => by
    simp only [Json.areExact, Bool.and_eq_true] at whole
    rw [writeItems_singleton]
    exact shown_cons.mpr ⟨by decide, shown_writeBehindMark whole.1 column⟩
  | item :: next :: items, whole, column => by
    rw [Json.areExact, Bool.and_eq_true] at whole
    rw [writeItems_cons_cons]
    exact shown_append.mpr ⟨shown_cons.mpr ⟨by decide, shown_writeBehindMark whole.1 column⟩,
      shown_append.mpr ⟨shown_pad column, shown_writeItems whole.2 column⟩⟩

theorem shown_writeEntries : ∀ {members : List (String × Json)}, Json.membersExact members = true →
    ∀ column : Nat, Shown (writeEntries column members)
  | [], _, _ => shown_nil
  | [(key, value)], whole, column => by
    simp only [Json.membersExact, Bool.and_eq_true] at whole
    rw [writeEntries_singleton]
    exact shown_writeEntry (shown_writeBehindKey whole.1 column) (shown_writeBehindMark whole.1 column)
  | (key, value) :: next :: members, whole, column => by
    rw [Json.membersExact, Bool.and_eq_true] at whole
    rw [writeEntries_cons_cons]
    exact shown_append.mpr ⟨shown_writeEntry (shown_writeBehindKey whole.1 column)
      (shown_writeBehindMark whole.1 column),
      shown_append.mpr ⟨shown_pad column, shown_writeEntries whole.2 column⟩⟩

end

/-! ### Where tokens start -/

theorem startsToken_writeLeaf {value : Json} (whole : value.isExact = true) (column : Nat)
    (more : List Char) : StartsToken (writeLeaf column value ++ more) := by
  cases value with
  | null => exact ⟨by decide, by decide⟩
  | bool b => cases b <;> exact ⟨by decide, by decide⟩
  | int n =>
    obtain ⟨m, ⟨same, -⟩ | ⟨same, -⟩⟩ := ofInt_eq n
    · obtain ⟨c, cs, digits, first⟩ := exists_cons_ofNat m
      have ordinary := forall_mem_ofNat (P := fun c => isGap c = false ∧ c ≠ '#') (by decide) m c
        (by simp [digits])
      rw [writeLeaf, same, digits]
      exact ordinary
    · rw [writeLeaf, same]
      exact ⟨by decide, by decide⟩
  | float x => simp [Json.isExact] at whole
  | str text =>
    rw [writeLeaf, List.append_assoc]
    exact startsToken_writeText column text.toList _
  | arr items => exact ⟨by decide, by decide⟩
  | obj members => exact ⟨by decide, by decide⟩

theorem startsToken_writeItems (column : Nat) (item : Json) (items : List Json) (more : List Char) :
    StartsToken (writeItems column (item :: items) ++ more) := by
  cases items with
  | nil => rw [writeItems_singleton]; exact ⟨by decide, by decide⟩
  | cons next items => rw [writeItems_cons_cons]; exact ⟨by decide, by decide⟩

theorem startsToken_writeEntry (column : Nat) (key : String) (value : Json) (more : List Char) :
    StartsToken (writeEntry column key value ++ more) := by
  rw [writeEntry]
  split
  · rw [List.append_assoc]
    exact startsToken_writeText (column + 2) key.toList _
  · exact ⟨by decide, by decide⟩

theorem startsToken_writeEntries (column : Nat) (member : String × Json) (members : List (String × Json))
    (more : List Char) : StartsToken (writeEntries column (member :: members) ++ more) := by
  obtain ⟨key, value⟩ := member
  cases members with
  | nil => rw [writeEntries_singleton]; exact startsToken_writeEntry ..
  | cons next members =>
    rw [writeEntries_cons_cons, List.append_assoc]
    exact startsToken_writeEntry ..

theorem exists_writeBehindMark (column : Nat) (value : Json) :
    ∃ text, writeBehindMark column value = ' ' :: text := by
  cases value with
  | arr items => cases items <;> exact ⟨_, by rw [writeBehindMark]; rfl⟩
  | obj members => cases members <;> exact ⟨_, by rw [writeBehindMark]; rfl⟩
  | null => exact ⟨_, rfl⟩
  | bool b => exact ⟨_, rfl⟩
  | int n => exact ⟨_, rfl⟩
  | float x => exact ⟨_, rfl⟩
  | str text => exact ⟨_, rfl⟩

theorem atLocatedGap_feed (q : Place) (text : List Char) : atLocatedGap (locate q ('\n' :: text)) = true := by
  rw [locate_cons isShown_feed]
  exact isGap_of_isBreak isBreak_feed

/-- A value behind a key has a gap in front. -/
theorem atLocatedGap_writeBehindKey (column : Nat) (value : Json) (more : List Char) (q : Place) :
    atLocatedGap (locate q (writeBehindKey column value ++ more)) = true := by
  have space (text : List Char) : atLocatedGap (locate q (' ' :: text)) = true :=
    Scanner.atLocatedGap_space q text
  cases value with
  | arr items =>
    cases items with
    | nil => rw [writeBehindKey]; exact space _
    | cons item items => rw [writeBehindKey]; exact atLocatedGap_feed q _
  | obj members =>
    cases members with
    | nil => rw [writeBehindKey]; exact space _
    | cons member members => rw [writeBehindKey]; exact atLocatedGap_feed q _
  | null => exact space _
  | bool b => exact space _
  | int n => exact space _
  | float x => exact space _
  | str text => exact space _

theorem isNearKey_of_isSimpleKey {key : String} (simple : isSimpleKey key = true) :
    Scanner.IsNearKey key.toList := by
  simp only [isSimpleKey, Bool.and_eq_true, decide_eq_true_eq, Bool.not_eq_true', List.any_eq_false]
    at simple
  refine ⟨fun c mem => by simpa using simple.2 c mem, ?_⟩
  rw [byteSize_toList]
  exact simple.1

namespace Scanner

variable {p : Place} {text next : List Char} {indents : List Nat} {tokens : List Token}
  {keyAllowed : Bool} {k : Nat} {last : List Nat} {later : List Token}

/-! ### From token to token -/

/-- Behind a space the token of a value is on the same line. -/
theorem lands_space (shown : Shown text) (starts : StartsToken text)
    (outside : ∀ c ∈ indents.head?, c ≤ p.column + 1)
    (leads : LeadsTo (on (p.behind ' ') text indents tokens keyAllowed none) k next last later) :
    Lands (on p (' ' :: text) indents tokens keyAllowed none) k next last later := by
  refine ⟨_, advance_space shown starts, ?_⟩
  rw [closedBlocks_of_le outside]
  exact leads

/-- Behind the end of a line it is the first of its line. -/
theorem lands_nextLine {column : Nat} (shown : Shown text) (starts : StartsToken text)
    (outside : ∀ c ∈ indents.head?, c ≤ column)
    (leads : ∀ q : Place, q.column = column → LeadsTo (on q text indents tokens true none) k next last later) :
    Lands (on p ('\n' :: pad column ++ text) indents tokens keyAllowed none) k next last later := by
  refine ⟨_, advance_lineEnd shown starts (isOver_none _), ?_⟩
  rw [closedBlocks_of_le outside]
  refine leads _ ?_
  rw [finish_cons isShown_feed, finish_pad, Place.behind_of_break _ isBreak_feed]
  simp [Place.nextLine]

theorem LeadsTo.trans {n : Scanner} {column : Nat} {above : List Nat}
    (leads : LeadsTo n column text (column :: above) tokens)
    (further : ∀ q : Place, q.column = column →
      LeadsTo (on q text (column :: above) tokens true none) k next last later) :
    LeadsTo n k next last later := by
  obtain ⟨q, start, leads⟩ := leads
  have level : closedBlocks column (column :: above) tokens = (column :: above, tokens) := by
    rw [closedBlocks, if_neg (Nat.lt_irrefl column)]
  rw [level] at leads
  exact leads.leadsTo (further q start)

theorem Lands.trans {m : Scanner} {column : Nat} {above : List Nat}
    (lands : Lands m column text (column :: above) tokens)
    (further : ∀ q : Place, q.column = column →
      LeadsTo (on q text (column :: above) tokens true none) k next last later) :
    Lands m k next last later := by
  obtain ⟨n, advance, leads⟩ := lands
  exact ⟨n, advance, leads.trans further⟩

/-- A block that the token behind it is not in ends there. -/
theorem LeadsTo.blockEnd {n : Scanner} {column : Nat} (outside : k < column)
    (leads : LeadsTo n k next (column :: indents) tokens) :
    LeadsTo n k next indents (.blockEnd :: tokens) := by
  obtain ⟨q, start, leads⟩ := leads
  rw [closedBlocks, if_pos outside] at leads
  exact ⟨q, start, leads⟩

/-- A value that is a word, a text or a pair of brackets is its tokens. -/
theorem leadsTo_leaf {parent : Nat} {above : List Nat} {value : Json} (whole : value.isExact = true)
    (inside : parent < p.column) (narrow : k ≤ parent) (shown : Shown next) (starts : StartsToken next) :
    LeadsTo (on p (writeLeaf (parent + 2) value ++ (pad k ++ next)) (parent :: above) tokens keyAllowed
      none) k next (parent :: above) ((leafTokens value).reverse ++ tokens) := by
  have free : (parent :: above).head? ≠ some p.column := by simpa using Nat.ne_of_lt inside
  have word (text : List Char) (allowed : allowsPlain text = true) (nonempty : text ≠ []) :
      LeadsTo (on p (text ++ '\n' :: (pad k ++ next)) (parent :: above) tokens keyAllowed none) k next
        (parent :: above) (.scalar .plain text :: tokens) :=
    leadsTo_plain allowed nonempty inside narrow shown starts
  cases value with
  | null => exact word ['n', 'u', 'l', 'l'] (by decide) (by decide)
  | bool b =>
    cases b
    · exact word ['f', 'a', 'l', 's', 'e'] (by decide) (by decide)
    · exact word ['t', 'r', 'u', 'e'] (by decide) (by decide)
  | int n =>
    simpa [writeLeaf, leafTokens] using word (Digits.ofInt n) (allowsPlain_ofInt n) (Digits.ofInt_ne_nil n)
  | float x => simp [Json.isExact] at whole
  | str text => simpa [writeLeaf, leafTokens] using leadsTo_text inside narrow shown starts text.toList
  | arr items => exact leadsTo_brackets .list shown starts free
  | obj members => exact leadsTo_brackets .mapping shown starts free

/-! ### Values -/

theorem shorter_tail {c : Char} {q : Place} (shown : Shown (c :: text)) :
    (on q text indents tokens keyAllowed none).rest.length < (locate p (c :: text)).length := by
  rw [rest_on, length_locate shown, length_locate (shown_cons.mp shown).2]
  exact Nat.lt_succ_self _

/-- A long key stands behind a question mark and its value behind a colon on a later
line. -/
theorem leadsTo_longKey {column : Nat} {above : List Nat} {key : String} {value : Json} {tail : List Char}
    {before : List Token} (shown : Shown (writeBehindMark column value ++ tail)) (start : p.column = column)
    (opening : opened column .blockMappingStart indents tokens = (column :: above, before))
    (lands : ∀ q : Place, q.column = column + 1 → Lands (on q (writeBehindMark column value ++ tail)
      (column :: above) (.value :: scalarToken key.toList :: .key :: before) true none) k next last later) :
    LeadsTo (on p (writeLongKey column key ++ (writeBehindMark column value ++ tail)) indents tokens true
      none) k next last later := by
  obtain ⟨more, space⟩ := exists_writeBehindMark column value
  rw [space, List.cons_append] at shown lands ⊢
  obtain ⟨rest, same⟩ : ∃ rest, more ++ tail = rest := ⟨_, rfl⟩
  rw [same] at shown lands ⊢
  have colon : Shown (':' :: ' ' :: rest) := shown_cons.mpr ⟨by decide, shown⟩
  have written : writeLongKey column key ++ ' ' :: rest = '?' :: ' ' :: (writeText (column + 2)
      key.toList ++ lineEnd key.toList ++ pad column ++ ':' :: ' ' :: rest) := by
    simp [writeLongKey]
  have body : Shown (writeText (column + 2) key.toList ++ lineEnd key.toList ++ pad column ++
      ':' :: ' ' :: rest) :=
    shown_append.mpr ⟨shown_append.mpr ⟨shown_writeText _ _, shown_pad column⟩, colon⟩
  have start' (text : List Char) : StartsToken (writeText (column + 2) key.toList ++
      lineEnd key.toList ++ pad column ++ text) := by
    rw [List.append_assoc, List.append_assoc]
    exact startsToken_writeText _ _ _
  rw [written]
  have mark : Shown ('?' :: ' ' :: (writeText (column + 2) key.toList ++ lineEnd key.toList ++
      pad column ++ ':' :: ' ' :: rest)) := shown_cons.mpr ⟨by decide, shown_space_cons body⟩
  have question := takeNext_key (shown_space_cons body) start opening
  refine LeadsTo.of_take question (by simp) (shorter_tail mark) rfl (lands_space body (start' _) ?_ ?_)
  · intro d mem
    cases mem
    rw [p.column_behind (by decide), start]
    omega
  · have inside : column < ((p.behind '?').behind ' ').column := by
      rw [Place.column_behind _ isBreak_space, p.column_behind (by decide), start]
      omega
    refine (leadsTo_text inside (Nat.le_refl column) colon ⟨by decide, by decide⟩ key.toList).trans ?_
    intro q at_
    refine LeadsTo.of_take (takeNext_value shown at_) (by simp) (shorter_tail colon) rfl (lands _ ?_)
    rw [q.column_behind (by decide), at_]

/-- An entry is its key, in front of its value; the key opens the block of the
mapping if it is the first. -/
theorem leadsTo_entry {column : Nat} {above : List Nat} {key : String} {value : Json} {tail : List Char}
    {before : List Token} (shownKey : Shown (writeBehindKey column value))
    (shownMark : Shown (writeBehindMark column value)) (shownTail : Shown tail) (start : p.column = column)
    (outside : ∀ c ∈ indents.head?, c ≤ column)
    (opening : opened column .blockMappingStart indents tokens = (column :: above, before))
    (behindKey : isSimpleKey key = true → ∀ q : Place, column ≤ q.column →
      Lands (on q (writeBehindKey column value ++ tail) (column :: above)
        (.value :: scalarToken key.toList :: .key :: before) false none) k next last later)
    (behindMark : isSimpleKey key = false → ∀ q : Place, q.column = column + 1 →
      Lands (on q (writeBehindMark column value ++ tail) (column :: above)
        (.value :: scalarToken key.toList :: .key :: before) true none) k next last later) :
    LeadsTo (on p (writeEntry column key value ++ tail) indents tokens true none) k next last later := by
  cases simple : isSimpleKey key with
  | true =>
    have shown : Shown (writeBehindKey column value ++ tail) := shown_append.mpr ⟨shownKey, shownTail⟩
    rw [writeEntry, if_pos simple, List.append_assoc, List.cons_append]
    exact leadsTo_simpleKey (Nat.succ_pos _) (isNearKey_of_isSimpleKey simple) shown
      (atLocatedGap_writeBehindKey column value tail) start outside opening (behindKey simple)
  | false =>
    have shown : Shown (writeBehindMark column value ++ tail) := shown_append.mpr ⟨shownMark, shownTail⟩
    rw [writeEntry, if_neg (by simp [simple]), List.append_assoc]
    exact leadsTo_longKey shown start opening (behindMark simple)

theorem lands_leaf {column : Nat} {above : List Nat} {value : Json} (whole : value.isExact = true)
    (inside : column ≤ p.column) (narrow : k ≤ column) (shown : Shown next) (starts : StartsToken next) :
    Lands (on p (' ' :: (writeLeaf (column + 2) value ++ (pad k ++ next))) (column :: above) tokens
      keyAllowed none) k next (column :: above) ((leafTokens value).reverse ++ tokens) := by
  have behind := p.column_behind isBreak_space
  have rest : Shown (pad k ++ next) := shown_append.mpr ⟨shown_pad k, shown⟩
  refine lands_space (shown_append.mpr ⟨shown_writeLeaf whole _, rest⟩)
    (startsToken_writeLeaf whole _ _) ?_ (leadsTo_leaf whole (by omega) narrow shown starts)
  intro c mem
  cases mem
  omega

mutual

/-- **A value behind a mark is its tokens**, up to a token that is indented less. -/
theorem lands_behindMark : ∀ {value : Json}, value.isExact = true → ∀ {column : Nat} {above : List Nat}
    {tokens : List Token} {p : Place} {k : Nat} {next : List Char}, p.column = column + 1 → k ≤ column →
    Shown next → StartsToken next →
    Lands (on p (writeBehindMark column value ++ (pad k ++ next)) (column :: above) tokens true none) k next
      (column :: above) ((behindMarkTokens value).reverse ++ tokens)
  | .arr [], _, column, above, tokens, p, k, next, start, narrow, shown, starts =>
    @lands_leaf p next tokens true k column above (.arr []) rfl (by omega) narrow shown starts
  | .arr (item :: items), whole, column, above, tokens, p, k, next, start, narrow, shown, starts => by
    rw [Json.isExact] at whole
    have rest : Shown (pad k ++ next) := shown_append.mpr ⟨shown_pad k, shown⟩
    have deeper := @opened_deeper (column :: above) tokens (column + 2) .blockSequenceStart (by simp)
    have behind : (p.behind ' ').column = column + 2 := by
      rw [p.column_behind isBreak_space, start]
    have leads := leadsTo_items whole (List.cons_ne_nil item items) behind
      (by omega : k ≤ column + 2) deeper shown starts
    have ended := leads.blockEnd (by omega)
    have lands := lands_space (shown_append.mpr ⟨shown_writeItems whole (column + 2), rest⟩)
      (startsToken_writeItems (column + 2) item items _) (by simp; omega) ended
    rw [writeBehindMark, behindMarkTokens]
    simpa using lands
  | .obj [], _, column, above, tokens, p, k, next, start, narrow, shown, starts =>
    @lands_leaf p next tokens true k column above (.obj []) rfl (by omega) narrow shown starts
  | .obj (member :: members), whole, column, above, tokens, p, k, next, start, narrow, shown, starts => by
    rw [Json.isExact] at whole
    have rest : Shown (pad k ++ next) := shown_append.mpr ⟨shown_pad k, shown⟩
    have deeper := @opened_deeper (column :: above) tokens (column + 2) .blockMappingStart (by simp)
    have behind : (p.behind ' ').column = column + 2 := by
      rw [p.column_behind isBreak_space, start]
    have leads := leadsTo_entries whole (List.cons_ne_nil member members) behind
      (by omega : k ≤ column + 2) (by simp) deeper shown starts
    have ended := leads.blockEnd (by omega)
    have lands := lands_space (shown_append.mpr ⟨shown_writeEntries whole (column + 2), rest⟩)
      (startsToken_writeEntries (column + 2) member members _) (by simp; omega) ended
    rw [writeBehindMark, behindMarkTokens]
    simpa using lands
  | .null, whole, column, _, _, p, _, _, start, narrow, shown, starts =>
    lands_leaf whole (by omega : column ≤ p.column) narrow shown starts
  | .bool _, whole, column, _, _, p, _, _, start, narrow, shown, starts =>
    lands_leaf whole (by omega : column ≤ p.column) narrow shown starts
  | .int _, whole, column, _, _, p, _, _, start, narrow, shown, starts =>
    lands_leaf whole (by omega : column ≤ p.column) narrow shown starts
  | .float _, whole, column, _, _, p, _, _, start, narrow, shown, starts =>
    lands_leaf whole (by omega : column ≤ p.column) narrow shown starts
  | .str _, whole, column, _, _, p, _, _, start, narrow, shown, starts =>
    lands_leaf whole (by omega : column ≤ p.column) narrow shown starts

/-- **A value behind the colon of a key is its tokens**, up to a token that is not
indented further than the key. -/
theorem lands_behindKey : ∀ {value : Json}, value.isExact = true → ∀ {column : Nat} {above : List Nat}
    {tokens : List Token} {p : Place} {k : Nat} {next : List Char}, column ≤ p.column → k ≤ column →
    Shown next → StartsToken next →
    Lands (on p (writeBehindKey column value ++ (pad k ++ next)) (column :: above) tokens false none) k next
      (column :: above) ((behindKeyTokens value).reverse ++ tokens)
  | .arr [], _, column, above, tokens, p, k, next, inside, narrow, shown, starts =>
    @lands_leaf p next tokens false k column above (.arr []) rfl inside narrow shown starts
  | .arr (item :: items), whole, column, above, tokens, p, k, next, inside, narrow, shown, starts => by
    rw [Json.isExact] at whole
    have rest : Shown (pad k ++ next) := shown_append.mpr ⟨shown_pad k, shown⟩
    have lands : Lands (on p ('\n' :: pad column ++ (writeItems column (item :: items) ++ (pad k ++ next)))
        (column :: above) tokens false none) k next (column :: above)
        ((itemsTokens (item :: items)).reverse ++ tokens) :=
      lands_nextLine (shown_append.mpr ⟨shown_writeItems whole column, rest⟩)
        (startsToken_writeItems column item items _) (by simp) fun q start =>
          leadsTo_items whole (List.cons_ne_nil item items) start narrow opened_level shown starts
    rw [writeBehindKey, behindKeyTokens]
    simpa using lands
  | .obj [], _, column, above, tokens, p, k, next, inside, narrow, shown, starts =>
    @lands_leaf p next tokens false k column above (.obj []) rfl inside narrow shown starts
  | .obj (member :: members), whole, column, above, tokens, p, k, next, inside, narrow, shown, starts => by
    rw [Json.isExact] at whole
    have rest : Shown (pad k ++ next) := shown_append.mpr ⟨shown_pad k, shown⟩
    have deeper := @opened_deeper (column :: above) tokens (column + 2) .blockMappingStart (by simp)
    have lands : Lands (on p ('\n' :: pad (column + 2) ++
        (writeEntries (column + 2) (member :: members) ++ (pad k ++ next))) (column :: above) tokens false
        none) k next (column :: above)
        (.blockEnd :: ((entriesTokens (member :: members)).reverse ++ .blockMappingStart :: tokens)) :=
      lands_nextLine (shown_append.mpr ⟨shown_writeEntries whole (column + 2), rest⟩)
        (startsToken_writeEntries (column + 2) member members _) (by simp) fun q start =>
          (leadsTo_entries whole (List.cons_ne_nil member members) start (by omega) (by simp) deeper shown
            starts).blockEnd (by omega)
    rw [writeBehindKey, behindKeyTokens]
    simpa using lands
  | .null, whole, _, _, _, _, _, _, inside, narrow, shown, starts =>
    lands_leaf whole inside narrow shown starts
  | .bool _, whole, _, _, _, _, _, _, inside, narrow, shown, starts =>
    lands_leaf whole inside narrow shown starts
  | .int _, whole, _, _, _, _, _, _, inside, narrow, shown, starts =>
    lands_leaf whole inside narrow shown starts
  | .float _, whole, _, _, _, _, _, _, inside, narrow, shown, starts =>
    lands_leaf whole inside narrow shown starts
  | .str _, whole, _, _, _, _, _, _, inside, narrow, shown, starts =>
    lands_leaf whole inside narrow shown starts

/-- **The items of a list are their tokens**; the first opens a block if it stands
further right than all open ones. -/
theorem leadsTo_items : ∀ {items : List Json}, Json.areExact items = true → items ≠ [] →
    ∀ {column : Nat} {above indents : List Nat} {tokens before : List Token} {p : Place} {k : Nat}
      {next : List Char}, p.column = column → k ≤ column →
    opened column .blockSequenceStart indents tokens = (column :: above, before) → Shown next →
    StartsToken next →
    LeadsTo (on p (writeItems column items ++ (pad k ++ next)) indents tokens true none) k next
      (column :: above) ((itemsTokens items).reverse ++ before)
  | [], _, nonempty, _, _, _, _, _, _, _, _, _, _, _, _, _ => absurd rfl nonempty
  | [item], whole, _, column, above, indents, tokens, before, p, k, next, start, narrow, opening, shown,
      starts => by
    simp only [Json.areExact, Bool.and_eq_true] at whole
    obtain ⟨more, space⟩ := exists_writeBehindMark column item
    have rest : Shown (writeBehindMark column item ++ (pad k ++ next)) := shown_append.mpr
      ⟨shown_writeBehindMark whole.1 column, shown_append.mpr ⟨shown_pad k, shown⟩⟩
    have behind : (p.behind '-').column = column + 1 := by
      rw [p.column_behind (by decide), start]
    have lands := @lands_behindMark item whole.1 column above (.blockEntry :: before) _ k next behind
      narrow shown starts
    rw [writeItems_singleton, List.cons_append]
    rw [space, List.cons_append] at lands rest ⊢
    refine LeadsTo.of_take (takeNext_blockEntry rest start opening) (by simp)
      (shorter_tail (shown_cons.mpr ⟨by decide, rest⟩)) rfl ?_
    simpa [itemsTokens] using lands
  | item :: second :: items, whole, _, column, above, indents, tokens, before, p, k, next, start, narrow,
      opening, shown, starts => by
    rw [Json.areExact, Bool.and_eq_true] at whole
    obtain ⟨more, space⟩ := exists_writeBehindMark column item
    have later : Shown (writeItems column (second :: items) ++ (pad k ++ next)) := shown_append.mpr
      ⟨shown_writeItems whole.2 column, shown_append.mpr ⟨shown_pad k, shown⟩⟩
    have rest : Shown (writeBehindMark column item ++
        (pad column ++ (writeItems column (second :: items) ++ (pad k ++ next)))) := shown_append.mpr
      ⟨shown_writeBehindMark whole.1 column, shown_append.mpr ⟨shown_pad column, later⟩⟩
    have behind : (p.behind '-').column = column + 1 := by
      rw [p.column_behind (by decide), start]
    have lands := (@lands_behindMark item whole.1 column above (.blockEntry :: before) _ column _ behind
      (Nat.le_refl column) later (startsToken_writeItems column second items _)).trans fun q level =>
        leadsTo_items whole.2 (List.cons_ne_nil second items) level narrow opened_level shown starts
    rw [writeItems_cons_cons, List.append_assoc, List.append_assoc, List.cons_append]
    rw [space, List.cons_append] at lands rest ⊢
    refine LeadsTo.of_take (takeNext_blockEntry rest start opening) (by simp)
      (shorter_tail (shown_cons.mpr ⟨by decide, rest⟩)) rfl ?_
    rw [itemsTokens]
    simpa using lands

/-- **The entries of a mapping are their tokens**; the first opens a block if it
stands further right than all open ones. -/
theorem leadsTo_entries : ∀ {members : List (String × Json)}, Json.membersExact members = true →
    members ≠ [] → ∀ {column : Nat} {above indents : List Nat} {tokens before : List Token} {p : Place}
      {k : Nat} {next : List Char}, p.column = column → k ≤ column → (∀ c ∈ indents.head?, c ≤ column) →
    opened column .blockMappingStart indents tokens = (column :: above, before) → Shown next →
    StartsToken next →
    LeadsTo (on p (writeEntries column members ++ (pad k ++ next)) indents tokens true none) k next
      (column :: above) ((entriesTokens members).reverse ++ before)
  | [], _, nonempty, _, _, _, _, _, _, _, _, _, _, _, _, _, _ => absurd rfl nonempty
  | [(key, value)], whole, _, column, above, indents, tokens, before, p, k, next, start, narrow, outside,
      opening, shown, starts => by
    simp only [Json.membersExact, Bool.and_eq_true] at whole
    rw [writeEntries_singleton]
    refine leadsTo_entry (shown_writeBehindKey whole.1 column) (shown_writeBehindMark whole.1 column)
      (shown_append.mpr ⟨shown_pad k, shown⟩) start outside opening (fun simple q inside => ?_)
      fun long q behind => ?_
    · simpa [entriesTokens, simple] using lands_behindKey whole.1 inside narrow shown starts
    · simpa [entriesTokens, long] using lands_behindMark whole.1 behind narrow shown starts
  | (key, value) :: second :: members, whole, _, column, above, indents, tokens, before, p, k, next,
      start, narrow, outside, opening, shown, starts => by
    rw [Json.membersExact, Bool.and_eq_true] at whole
    have later : Shown (writeEntries column (second :: members) ++ (pad k ++ next)) := shown_append.mpr
      ⟨shown_writeEntries whole.2 column, shown_append.mpr ⟨shown_pad k, shown⟩⟩
    have further (tokens : List Token) (q : Place) (level : q.column = column) :=
      @leadsTo_entries (second :: members) whole.2 (List.cons_ne_nil second members) column above
        (column :: above) tokens tokens q k next level narrow (by simp) opened_level shown starts
    have begins := startsToken_writeEntries column second members (pad k ++ next)
    rw [writeEntries_cons_cons, List.append_assoc, List.append_assoc, entriesTokens]
    refine leadsTo_entry (shown_writeBehindKey whole.1 column) (shown_writeBehindMark whole.1 column)
      (shown_append.mpr ⟨shown_pad column, later⟩) start outside opening (fun simple q inside => ?_)
      fun long q behind => ?_
    · have lands := (@lands_behindKey value whole.1 column above
        (.value :: scalarToken key.toList :: .key :: before) q column _ inside (Nat.le_refl column) later
        begins).trans (further _)
      simpa [simple] using lands
    · have lands := (@lands_behindMark value whole.1 column above
        (.value :: scalarToken key.toList :: .key :: before) q column _ behind (Nat.le_refl column) later
        begins).trans (further _)
      simpa [long] using lands

end

end Scanner

/-! ### Documents -/

theorem isAllowed_of_isShown {c : Char} (shown : isShown c = true) : isAllowed c = true := by
  simp [isAllowed, shown]

theorem flatten_portions : ∀ (room : Nat) (text : List Char), (portions room text).flatten = text
  | _, [] => rfl
  | room, c :: cs => by
    rw [portions]
    split
    · have ih := flatten_portions (room - c.utf8Size) cs
      split
      · rename_i none
        rw [none] at ih
        simp [← ih]
      · rename_i first rest same
        rw [same, List.flatten_cons] at ih
        simp [← ih]
    · have ih := flatten_portions (portionSize - c.utf8Size) cs
      split
      · rename_i none
        rw [none] at ih
        simp [← ih]
      · rename_i first rest same
        rw [same, List.flatten_cons] at ih
        simp [← ih]

/-- A text that holds nothing else than what may be read is read to its end. -/
theorem readablePart_of_shown {text : List Char} (shown : Shown text) : readablePart text = (text, true) := by
  have allowed : ∀ c ∈ text, isAllowed c = true := fun c mem =>
    isAllowed_of_isShown (List.all_eq_true.mp (shown_iff_all.mp shown) c mem)
  have whole : (portions portionSize text).takeWhile (fun portion => portion.all isAllowed) =
      portions portionSize text := by
    refine List.takeWhile_eq_self_iff.mpr fun portion mem => List.all_eq_true.mpr fun c member => ?_
    have inText : c ∈ (portions portionSize text).flatten := List.mem_flatten.mpr ⟨portion, mem, member⟩
    rw [flatten_portions] at inText
    exact allowed c inText
  rw [readablePart, whole, flatten_portions, List.all_eq_true.mpr allowed]

/-- A text is scanned to the tokens that its start leads to, where one block is open
at its end. -/
theorem scan_of_leadsTo {text : List Char} {tokens : List Token} (shown : Shown text) (starts : StartsToken text)
    (leads : Scanner.LeadsTo (Scanner.on {} text [] [] true none) 0 [] [0] tokens) :
    scan text true = ⟨tokens.reverse ++ [.blockEnd, .streamEnd], true⟩ := by
  obtain ⟨q, -, leads⟩ := leads
  have front := @Scanner.advance_front {} _ [] [] true none shown starts (Scanner.isOver_none _)
  obtain ⟨t, whole, arrived, run⟩ := Scanner.run_of_leads rfl front leads
  have ended := Scanner.run_of_end whole arrived rfl rfl
  rw [scan]
  refine (run.trans ended).trans ?_
  simp [Scanner.closeAllBlocks, Scanner.closedBlocks, Scanner.on, Scanner.push, Scanner.allowKey, Scanner.inFlow]

/-- **A document of a mapping is scanned to its tokens.** -/
theorem scan_writeChars {members : List (String × Json)} (whole : Json.membersExact members = true)
    (nonempty : members ≠ []) :
    scan (writeChars (.obj members)) true = ⟨documentTokens members, true⟩ := by
  obtain ⟨member, members, rfl⟩ := List.exists_cons_of_ne_nil nonempty
  have written : writeChars (.obj (member :: members)) = writeEntries 0 (member :: members) ++ (pad 0 ++ []) := by
    simp [writeChars, pad]
  have shown : Shown (writeEntries 0 (member :: members) ++ (pad 0 ++ [])) :=
    shown_append.mpr ⟨shown_writeEntries whole 0, shown_nil⟩
  have leads := @Scanner.leadsTo_entries (member :: members) whole nonempty 0 [] [] []
    [.blockMappingStart] {} 0 [] rfl (Nat.le_refl 0) (by simp) rfl shown_nil trivial
  rw [written, scan_of_leadsTo shown (startsToken_writeEntries 0 member members _) leads]
  simp [documentTokens]

end ControllerSynthesis.Yaml
