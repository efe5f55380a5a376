/-
# Scanning step by step

A step of the scanner goes on to the front of the next token, where the blocks that
are over have been closed, and takes the token. So a run is described by the states
at the fronts of tokens: one leads to the next, and where the first leads, the run
ends as it would from there.

Outside brackets such a state is known by a few things: the place, the text from
there on, the columns of the open blocks, and the tokens so far.

Key definitions: `Yaml.Scanner.advance`, `Yaml.Scanner.takeNext`,
`Yaml.Scanner.Leads`, `Yaml.Scanner.on`, `Yaml.Scanner.Lands`.
Key theorems: `Yaml.Scanner.run_of_leads`, `Yaml.Scanner.advance_front`,
`Yaml.Scanner.advance_lineEnd`, `Yaml.Scanner.advance_space`.
-/
import ControllerSynthesis.Proofs.Yaml.PlainText
import ControllerSynthesis.Yaml.Scanner

namespace ControllerSynthesis.Yaml.Scanner

/-! ### Steps -/

/-- Goes on to the front of the next token. -/
def advance (s : Scanner) : Option Scanner :=
  s.skipToToken.settle.map closeBlocks

/-- Takes the token that the rest begins with. -/
def takeNext (s : Scanner) : Option Scanner :=
  match s.rest with
  | [] => s.takeEnd
  | c :: rest => ((s.takeToken c rest).bind (lookAhead 1)).bind settle

theorem lookAhead_whole {s : Scanner} (whole : s.whole = true) (n : Nat) : s.lookAhead n = some s := by
  simp [lookAhead, whole]

theorem step_eq {s : Scanner} (whole : s.whole = true) : s.step = s.advance.bind takeNext := by
  have skipped : s.skipToToken.whole = true := whole
  rw [step, lookAhead_whole skipped, advance]
  simp only [Option.bind_eq_bind, Option.bind_some]
  cases s.skipToToken.settle with
  | none => rfl
  | some settled =>
    simp only [Option.bind_some, Option.map_some, takeNext]
    cases settled.closeBlocks.rest with
    | nil => rfl
    | cons c rest => exact (Option.bind_assoc _ _ _).symm

theorem length_skipGaps_le (flow : Bool) : ∀ (text : List Located) (tabs comment broken : Bool),
    (skipGaps flow tabs comment broken text).1.length ≤ text.length
  | [], _, _, _ => by simp [skipGaps]
  | c :: rest, tabs, comment, broken => by
    have less (tabs comment broken : Bool) : (skipGaps flow tabs comment broken rest).1.length ≤
        (c :: rest).length :=
      Nat.le_trans (length_skipGaps_le flow rest tabs comment broken) (Nat.le_succ _)
    rw [skipGaps]
    split
    · exact less _ _ _
    · split
      · exact less _ _ _
      · split
        · exact less _ _ _
        · split
          · exact less _ _ _
          · exact Nat.le_refl _

theorem rest_settle {s t : Scanner} (h : s.settle = some t) : t.rest = s.rest := by
  simp only [settle, Option.bind_eq_bind] at h
  obtain ⟨candidate, -, h⟩ := Option.bind_eq_some_iff.mp h
  obtain ⟨outer, -, h⟩ := Option.bind_eq_some_iff.mp h
  rw [← Option.some.inj h]

theorem rest_closeBlocks (s : Scanner) : s.closeBlocks.rest = s.rest := by
  unfold closeBlocks
  split <;> rfl

theorem length_advance_le {s n : Scanner} (h : s.advance = some n) : n.rest.length ≤ s.rest.length := by
  obtain ⟨settled, same, rfl⟩ := Option.map_eq_some_iff.mp h
  rw [rest_closeBlocks, rest_settle same]
  exact length_skipGaps_le ..

/-- The front of a token leads to the front of a later one. -/
inductive Leads : Scanner → Scanner → Prop
  | refl (n : Scanner) : Leads n n
  | step {n m next last : Scanner} : n.takeNext = some m → m.tokens.head? ≠ some .streamEnd →
      m.rest.length < n.rest.length → m.whole = true → m.advance = some next → Leads next last →
      Leads n last

theorem Leads.trans {a b c : Scanner} (first : Leads a b) (second : Leads b c) : Leads a c := by
  induction first with
  | refl => exact second
  | step take goesOn shorter whole advance _ ih => exact .step take goesOn shorter whole advance (ih second)

/-- **Where the front of a token leads, the run goes on.** -/
theorem run_of_leads {s n last : Scanner} (whole : s.whole = true) (front : s.advance = some n)
    (leads : Leads n last) : ∃ t : Scanner, t.whole = true ∧ t.advance = some last ∧ s.run = t.run := by
  induction leads generalizing s with
  | refl => exact ⟨s, whole, front, rfl⟩
  | @step n m next last take goesOn shorter wholeAfter advance _ ih =>
    obtain ⟨t, wholeLast, same, run⟩ := ih wholeAfter advance
    refine ⟨t, wholeLast, same, ?_⟩
    have stepped : s.step = some m := by rw [step_eq whole, front, Option.bind_some, take]
    have less : m.rest.length < s.rest.length := Nat.lt_of_lt_of_le shorter (length_advance_le front)
    rw [Scanner.run]
    split
    · rename_i none
      rw [none] at stepped
      cases stepped
    · rename_i next same
      rw [same] at stepped
      cases stepped
      rw [if_neg goesOn, dif_pos less]
      exact run

/-- A run that has come to the end of the text. -/
theorem run_of_end {s n m : Scanner} (whole : s.whole = true) (front : s.advance = some n)
    (take : n.takeNext = some m) (ended : m.tokens.head? = some .streamEnd) :
    s.run = ⟨m.tokens.reverse, true⟩ := by
  have stepped : s.step = some m := by rw [step_eq whole, front, Option.bind_some, take]
  rw [Scanner.run]
  split
  · rename_i none
    rw [none] at stepped
    cases stepped
  · rename_i next same
    rw [same] at stepped
    cases stepped
    rw [if_pos ended]

/-! ### States outside brackets -/

/-- The scanner outside brackets in front of the last part of a text. -/
def on (p : Place) (text : List Char) (indents : List Nat) (tokens : List Token) (keyAllowed : Bool)
    (candidate : Option Candidate) : Scanner where
  rest := locate p text
  finish := Yaml.finish p text
  tokens := tokens
  indents := indents
  keyAllowed := keyAllowed
  candidate := candidate

variable {p : Place} {text next : List Char} {indents : List Nat} {tokens : List Token}
  {keyAllowed : Bool} {candidate : Option Candidate}

@[simp] theorem rest_on : (on p text indents tokens keyAllowed candidate).rest = locate p text := rfl

@[simp] theorem tokens_on : (on p text indents tokens keyAllowed candidate).tokens = tokens := rfl

@[simp] theorem indents_on : (on p text indents tokens keyAllowed candidate).indents = indents := rfl

@[simp] theorem keyAllowed_on :
    (on p text indents tokens keyAllowed candidate).keyAllowed = keyAllowed := rfl

@[simp] theorem candidate_on :
    (on p text indents tokens keyAllowed candidate).candidate = candidate := rfl

@[simp] theorem inFlow_on : (on p text indents tokens keyAllowed candidate).inFlow = false := rfl

@[simp] theorem push_on (token : Token) : (on p text indents tokens keyAllowed candidate).push token =
    on p text indents (token :: tokens) keyAllowed candidate := rfl

@[simp] theorem allowKey_on (allowed : Bool) :
    (on p text indents tokens keyAllowed candidate).allowKey allowed =
      on p text indents tokens allowed candidate := rfl

@[simp] theorem dropCandidate_on : (on p text indents tokens keyAllowed none).dropCandidate =
    some (on p text indents tokens keyAllowed none) := rfl

/-- Going on behind a part of the text. -/
theorem continueAt_on (shown : Shown text) :
    (on p (text ++ next) indents tokens keyAllowed candidate).continueAt
      (locate (Yaml.finish p text) next) =
        on (Yaml.finish p text) next indents tokens keyAllowed candidate := by
  simp [on, continueAt, finish_append shown]

theorem continueAt_cons {c : Char} (shown : isShown c = true) :
    (on p (c :: next) indents tokens keyAllowed candidate).continueAt (locate (p.behind c) next) =
      on (p.behind c) next indents tokens keyAllowed candidate := by
  simp [on, continueAt, finish_cons shown]

theorem place_on (shown : Shown text) : (on p text indents tokens keyAllowed candidate).place = p := by
  cases text with
  | nil => simp [on, place, locate_nil, finish_nil]
  | cons c cs => simp [on, place, locate_cons (shown_cons.mp shown).1]

/-- A possible key on a line that is over, which need not be one. -/
def IsOver (candidate : Option Candidate) (line : Nat) : Prop :=
  ∀ k ∈ candidate, k.required = false ∧ k.place.line < line

theorem isOver_none (line : Nat) : IsOver none line := by
  simp [IsOver]

theorem settle_over (shown : Shown text) (ended : IsOver candidate p.line) :
    (on p text indents tokens keyAllowed candidate).settle =
      some (on p text indents tokens keyAllowed none) := by
  have settled : settleOne p candidate = some none := by
    cases candidate with
    | none => rfl
    | some k =>
      obtain ⟨free, before⟩ := ended k rfl
      simp [settleOne, isPast, before, free]
  rw [settle, place_on shown]
  simp only [on, settled, Option.bind_eq_bind, Option.bind_some, List.mapM_nil]
  rfl

theorem closeBlocks_on (shown : Shown text) :
    (on p text indents tokens keyAllowed candidate).closeBlocks =
      on p text (closedBlocks p.column indents tokens).1 (closedBlocks p.column indents tokens).2
        keyAllowed candidate := by
  rw [closeBlocks, place_on shown]
  rfl

/-! ### To the front of a token -/

theorem skipGaps_token (shown : Shown text) (starts : StartsToken text) (tabs broken : Bool) :
    skipGaps false tabs false broken (locate p text) = (locate p text, broken) := by
  cases text with
  | nil => rw [locate_nil, skipGaps]
  | cons c cs =>
    have first := (shown_cons.mp shown).1
    obtain ⟨word, sign⟩ := starts
    rw [isGap_of_isShown first, Bool.or_eq_false_iff] at word
    have space : c ≠ ' ' := by simpa using word.1
    rw [locate_cons first, skipGaps]
    simp [word.2, sign, space, ne_tab first, ne_byteOrderMark first]

theorem skipGaps_space (tabs broken : Bool) :
    skipGaps false tabs false broken (locate p (' ' :: text)) =
      skipGaps false tabs false broken (locate (p.behind ' ') text) := by
  rw [locate_cons isShown_space, skipGaps]
  simp [isBreak_space]

theorem skipGaps_pad (tabs broken : Bool) : ∀ (n : Nat) (p : Place),
    skipGaps false tabs false broken (locate p (pad n ++ text)) =
      skipGaps false tabs false broken (locate (Yaml.finish p (pad n)) text)
  | 0, p => by simp [pad, finish_nil]
  | n + 1, p => by
    rw [pad_succ, List.cons_append, skipGaps_space, finish_cons isShown_space, skipGaps_pad tabs broken n]

theorem skipGaps_feed (tabs broken : Bool) :
    skipGaps false tabs false broken (locate p ('\n' :: text)) =
      skipGaps false false false true (locate (p.behind '\n') text) := by
  rw [locate_cons isShown_feed, skipGaps]
  simp [isBreak_feed]

/-- At the front of a token only blocks may have to be closed. -/
theorem advance_front (shown : Shown text) (starts : StartsToken text) (ended : IsOver candidate p.line) :
    (on p text indents tokens keyAllowed candidate).advance =
      some (on p text (closedBlocks p.column indents tokens).1 (closedBlocks p.column indents tokens).2
        keyAllowed none) := by
  have skipped : (on p text indents tokens keyAllowed candidate).skipToToken =
      on p text indents tokens keyAllowed candidate := by
    rw [skipToToken]
    simp [on, inFlow, skipGaps_token shown starts]
  rw [advance, skipped, settle_over shown ended, Option.map_some, closeBlocks_on shown]

/-- Behind the end of a line the next token is the first of its line, and a key may
stand there. -/
theorem advance_lineEnd {k : Nat} (shown : Shown next) (starts : StartsToken next)
    (ended : IsOver candidate (p.line + 1)) :
    (on p ('\n' :: pad k ++ next) indents tokens keyAllowed candidate).advance =
      some (on (Yaml.finish p ('\n' :: pad k)) next (closedBlocks k indents tokens).1
        (closedBlocks k indents tokens).2 true none) := by
  have gap : Shown ('\n' :: pad k) := shown_cons.mpr ⟨isShown_feed, shown_pad k⟩
  have place : (Yaml.finish p ('\n' :: pad k)).line = p.line + 1 ∧ (Yaml.finish p ('\n' :: pad k)).column = k := by
    rw [finish_cons isShown_feed, finish_pad, Place.behind_of_break _ isBreak_feed]
    simp [Place.nextLine]
  have skipped : (on p ('\n' :: pad k ++ next) indents tokens keyAllowed candidate).skipToToken =
      on (Yaml.finish p ('\n' :: pad k)) next indents tokens true candidate := by
    rw [skipToToken]
    simp only [on, inFlow, List.isEmpty_nil, Bool.not_true, List.cons_append, Bool.false_or,
      skipGaps_feed, skipGaps_pad, skipGaps_token shown starts, Bool.not_false, Bool.and_self,
      Bool.or_true, finish_cons isShown_feed, finish_append (shown_pad k)]
  rw [← place.1] at ended
  rw [advance, skipped, settle_over shown ended, Option.map_some, closeBlocks_on shown, place.2]

/-- Behind a space the next token is on the same line. -/
theorem advance_space (shown : Shown next) (starts : StartsToken next) :
    (on p (' ' :: next) indents tokens keyAllowed none).advance =
      some (on (p.behind ' ') next (closedBlocks (p.column + 1) indents tokens).1
        (closedBlocks (p.column + 1) indents tokens).2 keyAllowed none) := by
  have skipped : (on p (' ' :: next) indents tokens keyAllowed none).skipToToken =
      on (p.behind ' ') next indents tokens keyAllowed none := by
    rw [skipToToken]
    simp only [on, inFlow, List.isEmpty_nil, Bool.not_true, Bool.false_or, skipGaps_space,
      skipGaps_token shown starts, Bool.not_false, Bool.and_true, Bool.or_false,
      finish_cons isShown_space]
  have place : (p.behind ' ').column = p.column + 1 := by
    rw [Place.behind_of_noBreak _ isBreak_space]
    rfl
  rw [advance, skipped, settle_over shown (isOver_none _), Option.map_some, closeBlocks_on shown, place]

/-! ### Landing -/

/-- The front of a token leads to the front of `next`, which stands in column `k`,
with the blocks closed that are over there. -/
def LeadsTo (n : Scanner) (k : Nat) (next : List Char) (indents : List Nat) (tokens : List Token) : Prop :=
  ∃ p : Place, p.column = k ∧
    Leads n (on p next (closedBlocks k indents tokens).1 (closedBlocks k indents tokens).2 true none)

/-- From behind a token scanning leads there. -/
def Lands (m : Scanner) (k : Nat) (next : List Char) (indents : List Nat) (tokens : List Token) : Prop :=
  ∃ n, m.advance = some n ∧ LeadsTo n k next indents tokens

theorem lands_front {k : Nat} (column : p.column = k) (shown : Shown next) (starts : StartsToken next)
    (ended : IsOver candidate p.line) : Lands (on p next indents tokens true candidate) k next indents tokens :=
  ⟨_, advance_front shown starts ended, p, column, by rw [column]; exact .refl _⟩

theorem lands_lineEnd {k : Nat} (shown : Shown next) (starts : StartsToken next)
    (ended : IsOver candidate (p.line + 1)) :
    Lands (on p ('\n' :: pad k ++ next) indents tokens keyAllowed candidate) k next indents tokens := by
  refine ⟨_, advance_lineEnd shown starts ended, _, ?_, .refl _⟩
  rw [finish_cons isShown_feed, finish_pad, Place.behind_of_break _ isBreak_feed]
  simp [Place.nextLine]

/-- A token is taken, and the scanner lands behind it. -/
theorem LeadsTo.of_take {n m : Scanner} {k : Nat} (take : n.takeNext = some m)
    (goesOn : m.tokens.head? ≠ some .streamEnd) (shorter : m.rest.length < n.rest.length)
    (whole : m.whole = true) (lands : Lands m k next indents tokens) : LeadsTo n k next indents tokens := by
  obtain ⟨front, advance, p, column, leads⟩ := lands
  exact ⟨p, column, .step take goesOn shorter whole advance leads⟩

theorem Leads.leadsTo {n m : Scanner} {k : Nat} (first : Leads n m)
    (second : LeadsTo m k next indents tokens) : LeadsTo n k next indents tokens := by
  obtain ⟨p, column, leads⟩ := second
  exact ⟨p, column, first.trans leads⟩

end ControllerSynthesis.Yaml.Scanner
