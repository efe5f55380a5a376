/-
# Marks are taken for what they are

The marks of a block: the hyphen of an item, the question mark of a key and the
colon of a value, each with a gap behind it. At the front of a token they are taken
as such, and open a block if they stand further right than all open ones. A colon
behind a possible key makes it one. A pair of brackets is an empty list or mapping.

Key definitions: `Yaml.Scanner.opened`, `Yaml.Scanner.noted`.
Key theorems: `Yaml.Scanner.takeNext_blockEntry`, `Yaml.Scanner.takeNext_key`,
`Yaml.Scanner.takeNext_value`, `Yaml.Scanner.takeNext_keyValue`,
`Yaml.Scanner.leadsTo_brackets`.
-/
import ControllerSynthesis.Proofs.Yaml.Scanning

namespace ControllerSynthesis.Yaml.Scanner

variable {p : Place} {text more : List Char} {indents : List Nat} {tokens : List Token}
  {keyAllowed : Bool} {candidate : Option Candidate}

/-! ### Taking a token -/

/-- A text that does not begin like a mark of documents is none. -/
theorem atMark_locate (shown : Shown text) (other : beginsLikeMark text = false) {mark : Char}
    (isMark : mark = '-' ∨ mark = '.') (p : Place) : atMark mark (locate p text) = false := by
  cases text with
  | nil => rw [locate_nil]; rfl
  | cons a cs =>
    obtain ⟨first, shown⟩ := shown_cons.mp shown
    rw [locate_cons first]
    cases cs with
    | nil => rw [locate_nil]; rfl
    | cons b cs =>
      obtain ⟨second, shown⟩ := shown_cons.mp shown
      rw [locate_cons second]
      cases cs with
      | nil => rw [locate_nil]; rfl
      | cons c cs =>
        rw [locate_cons (shown_cons.mp shown).1, atMark]
        rcases isMark with rfl | rfl
        · have other : ¬ (a = '-' ∧ b = '-' ∧ c = '-') := by
            rintro ⟨rfl, rfl, rfl⟩
            cases other
          by_cases ha : a = '-' <;> by_cases hb : b = '-' <;> by_cases hc : c = '-' <;> simp_all
        · have other : ¬ (a = '.' ∧ b = '.' ∧ c = '.') := by
            rintro ⟨rfl, rfl, rfl⟩
            cases other
          by_cases ha : a = '.' <;> by_cases hb : b = '.' <;> by_cases hc : c = '.' <;> simp_all

theorem takeNext_on {c : Char} {cs : List Char} (shown : isShown c = true) {m : Scanner}
    (take : (on p (c :: cs) indents tokens keyAllowed candidate).takeToken ⟨c, p⟩
      (locate (p.behind c) cs) = some m) (whole : m.whole = true) :
    (on p (c :: cs) indents tokens keyAllowed candidate).takeNext = m.settle := by
  have rest : (on p (c :: cs) indents tokens keyAllowed candidate).rest =
      ⟨c, p⟩ :: locate (p.behind c) cs := locate_cons shown p cs
  rw [takeNext, rest]
  simp only [take, Option.bind_some, lookAhead_whole whole]

/-! ### Marks of a block -/

/-- The open blocks and the tokens when a block begins in a column, if it is inside
all of them. -/
def opened (column : Nat) (token : Token) (indents : List Nat) (tokens : List Token) :
    List Nat × List Token :=
  if indents.head?.all (· < column) then (column :: indents, token :: tokens) else (indents, tokens)

theorem opened_deeper {column : Nat} {token : Token} (deeper : ∀ c ∈ indents.head?, c < column) :
    opened column token indents tokens = (column :: indents, token :: tokens) := by
  rw [opened, if_pos]
  cases indents with
  | nil => rfl
  | cons c cs => simpa using deeper

theorem opened_level {column : Nat} {token : Token} :
    opened column token (column :: indents) tokens = (column :: indents, tokens) := by
  rw [opened, if_neg (by simp)]

theorem openBlock_on (column : Nat) (token : Token) :
    (on p text indents tokens keyAllowed candidate).openBlock column token =
      on p text (opened column token indents tokens).1 (opened column token indents tokens).2
        keyAllowed candidate := by
  unfold openBlock opened isDeeper
  simp only [on, inFlow, List.isEmpty_nil, Bool.not_true, Bool.not_false, Bool.true_and]
  split <;> rfl

theorem settle_none (shown : Shown text) : (on p text indents tokens keyAllowed none).settle =
    some (on p text indents tokens keyAllowed none) :=
  settle_over shown (isOver_none _)

variable {column : Nat} {opens : List Nat × List Token}

/-- A character that begins no mark of documents is taken as a token. -/
theorem takeNext_mark {c : Char} {m next : Scanner} (shown : Shown (c :: more))
    (other : beginsLikeMark (c :: more) = false) (settles : m.settle = some next) (whole : m.whole = true)
    (take : atMark '-' (locate p (c :: more)) = false → atMark '.' (locate p (c :: more)) = false →
      (on p (c :: more) indents tokens keyAllowed candidate).takeToken ⟨c, p⟩
        (locate (p.behind c) more) = some m) :
    (on p (c :: more) indents tokens keyAllowed candidate).takeNext = some next := by
  have taken := take (atMark_locate shown other (.inl rfl) p) (atMark_locate shown other (.inr rfl) p)
  rw [takeNext_on (shown_cons.mp shown).1 taken whole, settles]

theorem atLocatedGap_space (p : Place) (more : List Char) :
    atLocatedGap (locate p (' ' :: more)) = true := by
  rw [locate_cons isShown_space]
  exact isGap_space

/-- A hyphen before a gap is the mark of an item. -/
theorem takeNext_blockEntry (shown : Shown (' ' :: more)) (start : p.column = column)
    (opening : opened column .blockSequenceStart indents tokens = opens) :
    (on p ('-' :: ' ' :: more) indents tokens true none).takeNext =
      some (on (p.behind '-') (' ' :: more) opens.1 (.blockEntry :: opens.2) true none) := by
  have hyphen : isShown '-' = true := by decide
  have front : Shown ('-' :: ' ' :: more) := shown_cons.mpr ⟨hyphen, shown⟩
  refine takeNext_mark front rfl (settle_none shown) rfl fun noStart noEnd => ?_
  simp only [takeToken, rest_on, noStart, noEnd, atLocatedGap_space]
  simp [takeBlockEntry, place_on front, start, openBlock_on, opening, continueAt_cons hyphen]

/-- A question mark before a gap is the mark of a key. -/
theorem takeNext_key (shown : Shown (' ' :: more)) (start : p.column = column)
    (opening : opened column .blockMappingStart indents tokens = opens) :
    (on p ('?' :: ' ' :: more) indents tokens true none).takeNext =
      some (on (p.behind '?') (' ' :: more) opens.1 (.key :: opens.2) true none) := by
  have question : isShown '?' = true := by decide
  have front : Shown ('?' :: ' ' :: more) := shown_cons.mpr ⟨question, shown⟩
  refine takeNext_mark front rfl (settle_none shown) rfl fun noStart noEnd => ?_
  simp only [takeToken, rest_on, noStart, noEnd, atLocatedGap_space]
  simp [takeKey, place_on front, start, openBlock_on, opening, continueAt_cons question]

/-- A colon at the start of a line is the mark of a value. -/
theorem takeNext_value (shown : Shown (' ' :: more)) (start : p.column = column) :
    (on p (':' :: ' ' :: more) (column :: indents) tokens true none).takeNext =
      some (on (p.behind ':') (' ' :: more) (column :: indents) (.value :: tokens) true none) := by
  have colon : isShown ':' = true := by decide
  have front : Shown (':' :: ' ' :: more) := shown_cons.mpr ⟨colon, shown⟩
  refine takeNext_mark front rfl (settle_none shown) rfl fun noStart noEnd => ?_
  simp only [takeToken, rest_on, noStart, noEnd, atLocatedGap_space]
  simp [takeValue, place_on front, start, openBlock_on, opened_level, continueAt_cons colon]

/-! ### Possible keys -/

/-- The possible key at a place where a key may stand. -/
def noted (p : Place) (indents : List Nat) (tokens : List Token) (keyAllowed : Bool) : Option Candidate :=
  if keyAllowed then some ⟨tokens.length, p, indents.head? == some p.column⟩ else none

theorem noteCandidate_on (shown : Shown text) :
    (on p text indents tokens keyAllowed none).noteCandidate =
      some (on p text indents tokens keyAllowed (noted p indents tokens keyAllowed)) := by
  cases keyAllowed with
  | false => rfl
  | true =>
    simp only [noteCandidate, noted, keyAllowed_on, ↓reduceIte, inFlow_on, Bool.not_false, Bool.true_and,
      indents_on, place_on shown, dropCandidate_on, Option.bind_eq_bind, Option.bind_some, tokens_on]
    rfl

/-- Away from the indentation a possible key need not be one. -/
theorem isOver_noted {line : Nat} (free : indents.head? ≠ some p.column) (before : p.line < line) :
    IsOver (noted p indents tokens keyAllowed) line := by
  intro k mem
  cases keyAllowed with
  | false => cases mem
  | true =>
    cases mem
    exact ⟨by simpa using free, before⟩

/-- A possible key that need not be one is kept or given up. -/
theorem settle_isOver {line : Nat} (shown : Shown text) (ended : IsOver candidate line) :
    ∃ kept, IsOver kept line ∧ (on p text indents tokens keyAllowed candidate).settle =
      some (on p text indents tokens keyAllowed kept) := by
  have settled : ∃ kept, IsOver kept line ∧ settleOne p candidate = some kept := by
    cases candidate with
    | none => exact ⟨none, isOver_none line, rfl⟩
    | some k =>
      obtain ⟨free, before⟩ := ended k rfl
      by_cases past : isPast p k = true
      · exact ⟨none, isOver_none line, by simp [settleOne, past, free]⟩
      · exact ⟨some k, ended, by simp [settleOne, past]⟩
  obtain ⟨kept, keptOver, settled⟩ := settled
  refine ⟨kept, keptOver, ?_⟩
  rw [settle, place_on shown]
  simp only [candidate_on, settled, Option.bind_eq_bind, Option.bind_some]
  rfl

/-- A possible key that is near is kept. -/
theorem settle_near {k : Candidate} (shown : Shown text) (near : isPast p k = false) :
    (on p text indents tokens keyAllowed (some k)).settle =
      some (on p text indents tokens keyAllowed (some k)) := by
  have settled : settleOne p (some k) = some (some k) := by simp [settleOne, near]
  rw [settle, place_on shown]
  simp only [candidate_on, settled, Option.bind_eq_bind, Option.bind_some]
  rfl

theorem insert_on (front : List Token) (token : Token) :
    (on p text indents (front ++ tokens) keyAllowed candidate).insert tokens.length token =
      on p text indents (front ++ token :: tokens) keyAllowed candidate := by
  have length : (front ++ tokens).length - tokens.length = front.length := by simp
  simp only [insert, tokens_on, length, List.take_left', List.drop_left']
  rfl

theorem openBlockAt_on {k : Candidate} (front : List Token) (start : k.place.column = column)
    (behind : k.behind = tokens.length)
    (opening : opened column .blockMappingStart indents tokens = opens) :
    (on p text indents (front ++ tokens) keyAllowed candidate).openBlockAt k =
      on p text opens.1 (front ++ opens.2) keyAllowed candidate := by
  rw [openBlockAt, start, behind, ← opening]
  unfold isDeeper opened
  simp only [inFlow_on, Bool.not_false, Bool.true_and, indents_on]
  split
  · exact insert_on front _
  · rfl

/-- The key is put in front of its token, and in front of that the start of its
block. -/
theorem takeValue_candidate {k : Candidate} {token : Token} (start : k.place.column = column)
    (behind : k.behind = tokens.length)
    (opening : opened column .blockMappingStart indents tokens = opens) :
    (on p (':' :: more) indents (token :: tokens) keyAllowed (some k)).takeValue
      (locate (p.behind ':') more) =
        some (on (p.behind ':') more opens.1 (.value :: token :: .key :: opens.2) false none) := by
  have colon : isShown ':' = true := by decide
  have keyed : (on p (':' :: more) indents (token :: tokens) keyAllowed none).insert k.behind .key =
      on p (':' :: more) indents (token :: .key :: tokens) keyAllowed none := by
    rw [behind]
    exact insert_on [token] .key
  have blocked : (on p (':' :: more) indents (token :: .key :: tokens) keyAllowed none).openBlockAt k =
      on p (':' :: more) opens.1 (token :: .key :: opens.2) keyAllowed none :=
    openBlockAt_on [token, .key] start behind opening
  show some ((((((on p (':' :: more) indents (token :: tokens) keyAllowed none).insert k.behind
    .key).openBlockAt k).allowKey false).continueAt (locate (p.behind ':') more)).push .value) = _
  rw [keyed, blocked, allowKey_on, continueAt_cons colon, push_on]

/-- **A colon makes a possible key one**, and opens a block for it. -/
theorem takeNext_keyValue {k : Candidate} {token : Token} (shown : Shown more)
    (gap : atLocatedGap (locate (p.behind ':') more) = true) (start : k.place.column = column)
    (behind : k.behind = tokens.length)
    (opening : opened column .blockMappingStart indents tokens = opens) :
    (on p (':' :: more) indents (token :: tokens) keyAllowed (some k)).takeNext =
      some (on (p.behind ':') more opens.1 (.value :: token :: .key :: opens.2) false none) := by
  have front : Shown (':' :: more) := shown_cons.mpr ⟨by decide, shown⟩
  refine takeNext_mark front rfl (settle_none shown) rfl fun noStart noEnd => ?_
  simp only [takeToken, rest_on, noStart, noEnd, gap]
  simp [takeValue_candidate start behind opening]

/-! ### Brackets -/

/-- The brackets around an empty list or mapping, with their tokens. -/
inductive Brackets : Char → Char → Token → Token → Prop
  | list : Brackets '[' ']' .flowSequenceStart .flowSequenceEnd
  | mapping : Brackets '\x7b' '\x7d' .flowMappingStart .flowMappingEnd

/-- The scanner behind an opening bracket. -/
def inside (p : Place) (text : List Char) (indents : List Nat) (tokens : List Token)
    (around : Option Candidate) : Scanner :=
  { on p text indents tokens true none with outer := [around] }

theorem settle_inside {around : Option Candidate} (shown : Shown text)
    (near : ∀ k ∈ around, isPast p k = false) :
    (inside p text indents tokens around).settle = some (inside p text indents tokens around) := by
  have place : (inside p text indents tokens around).place = p :=
    @place_on p text indents tokens true none shown
  have outer : (inside p text indents tokens around).outer = [around] := rfl
  have candidate : (inside p text indents tokens around).candidate = none := rfl
  have settled : settleOne p around = some around := by
    cases around with
    | none => rfl
    | some k => simp [settleOne, near k rfl]
  have mapped : [around].mapM (settleOne p) = some [around] := by simp [settled]
  have nothing : settleOne p none = some none := rfl
  simp only [settle, place, outer, candidate, mapped, nothing, Option.bind_eq_bind, Option.bind_some]
  rfl

variable {opening closing : Char} {first last : Token}

/-- An opening bracket keeps what may be a key around it. -/
theorem takeNext_opening (brackets : Brackets opening closing first last) (shown : Shown more)
    (near : ∀ k ∈ noted p indents tokens keyAllowed, isPast (p.behind opening) k = false) :
    (on p (opening :: more) indents tokens keyAllowed none).takeNext =
      some (inside (p.behind opening) more indents (first :: tokens)
        (noted p indents tokens keyAllowed)) := by
  have bracket : isShown opening = true := by cases brackets <;> decide
  have front : Shown (opening :: more) := shown_cons.mpr ⟨bracket, shown⟩
  have taken : (on p (opening :: more) indents tokens keyAllowed none).takeOpening first
      (locate (p.behind opening) more) = some (inside (p.behind opening) more indents (first :: tokens)
        (noted p indents tokens keyAllowed)) := by
    rw [takeOpening, noteCandidate_on front]
    simp [inside, on, allowKey, continueAt, push, finish_cons bracket]
  have other : beginsLikeMark (opening :: more) = false := by
    cases brackets <;> rfl
  refine takeNext_mark front other (settle_inside shown near) rfl fun noStart noEnd => ?_
  simp only [takeToken, rest_on, noStart, noEnd]
  cases brackets <;> simp [taken]

/-- A closing bracket is the next token. -/
theorem advance_closing (brackets : Brackets opening closing first last) (shown : Shown more)
    {around : Option Candidate} (near : ∀ k ∈ around, isPast p k = false) :
    (inside p (closing :: more) indents tokens around).advance =
      some (inside p (closing :: more) indents tokens around) := by
  have bracket : isShown closing = true := by cases brackets <;> decide
  have front : Shown (closing :: more) := shown_cons.mpr ⟨bracket, shown⟩
  have skipped : (inside p (closing :: more) indents tokens around).skipToToken =
      inside p (closing :: more) indents tokens around := by
    have stop : skipGaps true true false false (locate p (closing :: more)) =
        (locate p (closing :: more), false) := by
      rw [locate_cons bracket, skipGaps]
      cases brackets <;> simp [isBreak, nextLine, lineSeparator, paragraphSeparator, byteOrderMark]
    simp [skipToToken, inside, inFlow, on, stop]
  have closed : (inside p (closing :: more) indents tokens around).closeBlocks =
      inside p (closing :: more) indents tokens around := by
    simp [closeBlocks, inside, inFlow]
  rw [advance, skipped, settle_inside front near, Option.map_some, closed]

/-- Behind a closing bracket all is as it was before the opening one. -/
theorem takeNext_closing (brackets : Brackets opening closing first last) (shown : Shown more)
    {around : Option Candidate} {line : Nat} (ended : IsOver around line) : ∃ kept, IsOver kept line ∧
    (inside p (closing :: more) indents tokens around).takeNext =
      some (on (p.behind closing) more indents (last :: tokens) false kept) := by
  have bracket : isShown closing = true := by cases brackets <;> decide
  have front : Shown (closing :: more) := shown_cons.mpr ⟨bracket, shown⟩
  obtain ⟨kept, keptOver, settled⟩ := @settle_isOver (p.behind closing) more indents (last :: tokens)
    false around line shown ended
  refine ⟨kept, keptOver, ?_⟩
  have other : beginsLikeMark (closing :: more) = false := by
    cases brackets <;> rfl
  have noStart := atMark_locate front other (.inl rfl) p
  have noEnd := atMark_locate front other (.inr rfl) p
  have rest : (inside p (closing :: more) indents tokens around).rest =
      ⟨closing, p⟩ :: locate (p.behind closing) more := locate_cons bracket p more
  have taken : (inside p (closing :: more) indents tokens around).takeClosing last
      (locate (p.behind closing) more) =
        some (on (p.behind closing) more indents (last :: tokens) false around) := by
    simp [takeClosing, dropCandidate, inside, on, allowKey, continueAt, push, finish_cons bracket]
  have take : (inside p (closing :: more) indents tokens around).takeToken ⟨closing, p⟩
      (locate (p.behind closing) more) =
        some (on (p.behind closing) more indents (last :: tokens) false around) := by
    rw [locate_cons bracket] at noStart noEnd
    simp only [takeToken, rest, noStart, noEnd]
    cases brackets <;> simp [taken]
  rw [takeNext, rest]
  simp only [take, Option.bind_some]
  rw [lookAhead_whole rfl, Option.bind_some, settled]

theorem isPast_noted {opening : Char} (one : opening.utf8Size = 1) (unbroken : isBreak opening = false) :
    ∀ k ∈ noted p indents tokens keyAllowed, isPast (p.behind opening) k = false := by
  intro k mem
  cases keyAllowed with
  | false => cases mem
  | true =>
    cases mem
    rw [p.behind_of_noBreak unbroken]
    simp [isPast, Place.next, one, longestReach]

theorem Brackets.ne_streamEnd (brackets : Brackets opening closing first last) :
    first ≠ .streamEnd ∧ last ≠ .streamEnd := by
  cases brackets <;> simp

theorem Brackets.isNarrow (brackets : Brackets opening closing first last) :
    isShown opening = true ∧ isShown closing = true ∧ isBreak opening = false ∧
      isBreak closing = false ∧ opening.utf8Size = 1 := by
  cases brackets <;> decide

/-- **A pair of brackets is an empty list or mapping.** -/
theorem leadsTo_brackets {k : Nat} {next : List Char} (brackets : Brackets opening closing first last)
    (shown : Shown next) (starts : StartsToken next) (free : indents.head? ≠ some p.column) :
    LeadsTo (on p (opening :: closing :: '\n' :: pad k ++ next) indents tokens keyAllowed none) k next
      indents (last :: first :: tokens) := by
  obtain ⟨shownOpening, shownClosing, unbrokenOpening, unbrokenClosing, one⟩ := brackets.isNarrow
  have ends : Shown ('\n' :: pad k ++ next) :=
    shown_append.mpr ⟨shown_cons.mpr ⟨isShown_feed, shown_pad k⟩, shown⟩
  have lineEnd {q : Place} {kept : Option Candidate} (ended : IsOver kept (q.line + 1)) :
      Lands (on q ('\n' :: pad k ++ next) indents (last :: first :: tokens) false kept) k next indents
        (last :: first :: tokens) := lands_lineEnd shown starts ended
  simp only [List.cons_append] at ends lineEnd ⊢
  obtain ⟨tail, same⟩ : ∃ tail, '\n' :: (pad k ++ next) = tail := ⟨_, rfl⟩
  rw [same] at ends lineEnd ⊢
  have behind : Shown (closing :: tail) := shown_cons.mpr ⟨shownClosing, ends⟩
  have front : Shown (opening :: closing :: tail) := shown_cons.mpr ⟨shownOpening, behind⟩
  have near := @isPast_noted p indents tokens keyAllowed opening one unbrokenOpening
  have line : p.line < ((p.behind opening).behind closing).line + 1 := by
    rw [Place.behind_of_noBreak _ unbrokenClosing, Place.behind_of_noBreak _ unbrokenOpening]
    exact Nat.lt_succ_self _
  obtain ⟨kept, ended, take⟩ := @takeNext_closing (p.behind opening) tail indents (first :: tokens)
    opening closing first last brackets ends _ _ (@isOver_noted p indents tokens keyAllowed _ free line)
  have shorter : (locate (p.behind opening) (closing :: tail)).length <
      (locate p (opening :: closing :: tail)).length := by
    rw [length_locate front, length_locate behind]
    exact Nat.lt_succ_self _
  have shorterStill : (locate ((p.behind opening).behind closing) tail).length <
      (locate (p.behind opening) (closing :: tail)).length := by
    rw [length_locate ends, length_locate behind]
    exact Nat.lt_succ_self _
  have opens := takeNext_opening brackets behind near
  have closes := @advance_closing (p.behind opening) tail indents (first :: tokens) opening closing first
    last brackets ends _ near
  refine Leads.leadsTo (.step opens ?_ shorter rfl closes (.refl _)) ?_
  · simpa [inside] using brackets.ne_streamEnd.1
  · exact LeadsTo.of_take take (by simpa using brackets.ne_streamEnd.2) shorterStill rfl (lineEnd ended)

end ControllerSynthesis.Yaml.Scanner
