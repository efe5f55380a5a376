/-
# From text to tokens

Each step takes the next token off the text. Where a block begins or ends, the
step adds tokens for that. A key is known as one only by its colon, so the place
of every token that may turn out to be a key is kept, one for each pair of open
brackets, and at a colon the token for the key is put in there. Such a token
must be followed by its colon on the same line and within 1024 bytes. At the
indentation of a block it must be a key, and it is an error if it is not.

If a step fails, the text cannot be read on. The tokens before it count, but not
those from the first possible key on: for these it was still open what they are.

Not all of a text may be there to be read. Then scanning fails where it needs what
is missing, and it looks four characters ahead for every token.

Key definitions: `Yaml.Scanner`, `Yaml.Scanner.step`, `Yaml.Tokens`, `Yaml.scan`.
-/
import ControllerSynthesis.Yaml.Label
import ControllerSynthesis.Yaml.Scalar.Plain
import ControllerSynthesis.Yaml.Scalar.Quoted

namespace ControllerSynthesis.Yaml

/-- A token that may turn out to be a key. -/
structure Candidate where
  /-- The number of tokens in front of it. -/
  behind : Nat
  place : Place
  /-- Whether it must be a key. -/
  required : Bool
  deriving Repr, DecidableEq

/-- The state of scanning. -/
structure Scanner where
  rest : List Located
  /-- The place behind the text. -/
  finish : Place
  /-- Whether the text ends there. -/
  whole : Bool := true
  /-- The tokens so far, the latest first. -/
  tokens : List Token := []
  /-- The columns of the open blocks, the innermost first. -/
  indents : List Nat := []
  /-- Whether a key may stand here. -/
  keyAllowed : Bool := true
  /-- The possible key inside the innermost open brackets. -/
  candidate : Option Candidate := none
  /-- Those around the open brackets, the innermost first. -/
  outer : List (Option Candidate) := []

/-- The tokens of a text, and whether they are all of them. -/
structure Tokens where
  all : List Token
  complete : Bool
  deriving Repr, DecidableEq

namespace Scanner

/-- Whether brackets are open. -/
def inFlow (s : Scanner) : Bool :=
  !s.outer.isEmpty

/-- The place at which the rest begins. -/
def place (s : Scanner) : Place :=
  match s.rest with
  | [] => s.finish
  | c :: _ => c.place

/-- Adds a token. -/
def push (token : Token) (s : Scanner) : Scanner :=
  { s with tokens := token :: s.tokens }

/-- Puts a token in behind the first `behind` tokens. -/
def insert (behind : Nat) (token : Token) (s : Scanner) : Scanner :=
  let after := s.tokens.length - behind
  { s with tokens := s.tokens.take after ++ token :: s.tokens.drop after }

/-- Goes on with another rest. -/
def continueAt (rest : List Located) (s : Scanner) : Scanner :=
  { s with rest := rest }

/-! ### Keys -/

/-- The longest distance from the start of a key to its colon, in bytes. -/
def longestReach : Nat := 1024

/-- Whether a place is too far behind a possible key for it to be one. -/
def isPast (place : Place) (k : Candidate) : Bool :=
  k.place.line < place.line || k.place.index + longestReach < place.index

/-- A possible key seen from a place: not possible any more if it is too far away,
and an error if it must be one. -/
def settleOne (place : Place) : Option Candidate → Option (Option Candidate)
  | none => some none
  | some k => if isPast place k then (if k.required then none else some none) else some (some k)

/-- Gives up the possible keys that are too far away. -/
def settle (s : Scanner) : Option Scanner := do
  let candidate ← settleOne s.place s.candidate
  let outer ← s.outer.mapM (settleOne s.place)
  return { s with candidate := candidate, outer := outer }

/-- Gives up the innermost possible key; it must not be one that has to be a key. -/
def dropCandidate (s : Scanner) : Option Scanner :=
  match s.candidate with
  | some k => if k.required then none else some { s with candidate := none }
  | none => some s

/-- Keeps in mind that the next token may be a key, if one may stand here. -/
def noteCandidate (s : Scanner) : Option Scanner :=
  if s.keyAllowed then do
    let required := !s.inFlow && s.indents.head? == some s.place.column
    let s ← s.dropCandidate
    return { s with candidate := some ⟨s.tokens.length, s.place, required⟩ }
  else some s

/-- Says whether a key may stand here. -/
def allowKey (allowed : Bool) (s : Scanner) : Scanner :=
  { s with keyAllowed := allowed }

/-! ### Blocks -/

/-- Whether a block in `column` would be inside all open blocks. -/
def isDeeper (column : Nat) (s : Scanner) : Bool :=
  s.indents.head?.all (· < column)

/-- Opens a block in `column` if it is inside all open blocks. -/
def openBlock (column : Nat) (token : Token) (s : Scanner) : Scanner :=
  if !s.inFlow && s.isDeeper column then
    { s with indents := column :: s.indents, tokens := token :: s.tokens }
  else s

/-- Opens a block in front of a possible key, if the key is inside all open
blocks. -/
def openBlockAt (k : Candidate) (s : Scanner) : Scanner :=
  if !s.inFlow && s.isDeeper k.place.column then
    insert k.behind .blockMappingStart { s with indents := k.place.column :: s.indents }
  else s

/-- The columns of the blocks that stay open in front of `column`, and the tokens
with the ends of the others. -/
def closedBlocks (column : Nat) : List Nat → List Token → List Nat × List Token
  | [], tokens => ([], tokens)
  | c :: cs, tokens =>
    if column < c then closedBlocks column cs (.blockEnd :: tokens) else (c :: cs, tokens)

/-- Closes the blocks that are further right than the place. -/
def closeBlocks (s : Scanner) : Scanner :=
  if s.inFlow then s
  else
    let (indents, tokens) := closedBlocks s.place.column s.indents s.tokens
    { s with indents := indents, tokens := tokens }

/-- Closes all blocks. -/
def closeAllBlocks (s : Scanner) : Scanner :=
  if s.inFlow then s
  else { s with indents := [], tokens := s.indents.map (fun _ => .blockEnd) ++ s.tokens }

/-! ### The start of the next token -/

/-- The text from the next token on, and whether a line ended in front of it; the
tab counts as blank if `tabs`, and behind the end of a line if `flow`. A byte order
mark may begin a line. -/
def skipGaps (flow : Bool) : Bool → Bool → Bool → List Located → List Located × Bool
  | _, _, broken, [] => ([], broken)
  | tabs, comment, broken, c :: rest =>
    if isBreak c.char then skipGaps flow flow false true rest
    else if comment then skipGaps flow tabs true broken rest
    else if c.char = '#' then skipGaps flow tabs true broken rest
    else if c.char = ' ' ∨ (tabs ∧ c.char = '\t') ∨ (c.startsLine ∧ c.char = byteOrderMark) then
      skipGaps flow tabs false broken rest
    else (c :: rest, broken)

/-- Goes on to the next token. A new line allows a key, unless brackets are open. -/
def skipToToken (s : Scanner) : Scanner :=
  let (rest, broken) := skipGaps s.inFlow (s.inFlow || !s.keyAllowed) false false s.rest
  { s with rest := rest, keyAllowed := s.keyAllowed || (broken && !s.inFlow) }

/-- The scanner if there are `n` more characters to look at, which there always are
where the text ends. -/
def lookAhead (n : Nat) (s : Scanner) : Option Scanner :=
  if s.whole || n ≤ (s.rest.take n).length then some s else none

/-! ### The kinds of tokens -/

/-- The end of the text. -/
def takeEnd (s : Scanner) : Option Scanner := do
  let s ← s.closeAllBlocks.dropCandidate
  if s.outer.any fun k => k.any Candidate.required then none
  else return (s.allowKey false).push .streamEnd

/-- A directive. -/
def takeDirective (rest : List Located) (s : Scanner) : Option Scanner := do
  let s ← s.closeAllBlocks.dropCandidate
  let (token, rest) ← readDirective rest
  return ((s.allowKey false).continueAt rest).push token

/-- A mark that begins or ends a document. -/
def takeDocumentMark (token : Token) (s : Scanner) : Option Scanner := do
  let s ← s.closeAllBlocks.dropCandidate
  return ((s.allowKey false).continueAt (s.rest.drop 3)).push token

/-- An opening bracket. -/
def takeOpening (token : Token) (rest : List Located) (s : Scanner) : Option Scanner := do
  let s ← s.noteCandidate
  let s := { s with outer := s.candidate :: s.outer, candidate := none }
  return ((s.allowKey true).continueAt rest).push token

/-- A closing bracket. -/
def takeClosing (token : Token) (rest : List Located) (s : Scanner) : Option Scanner := do
  let s ← s.dropCandidate
  let s :=
    match s.outer with
    | k :: outer => { s with candidate := k, outer := outer }
    | [] => s
  return ((s.allowKey false).continueAt rest).push token

/-- The comma between entries. -/
def takeFlowEntry (rest : List Located) (s : Scanner) : Option Scanner := do
  let s ← s.dropCandidate
  return ((s.allowKey true).continueAt rest).push .flowEntry

/-- The hyphen of an item. -/
def takeBlockEntry (rest : List Located) (s : Scanner) : Option Scanner := do
  if !s.inFlow && !s.keyAllowed then none
  let s ← (s.openBlock s.place.column .blockSequenceStart).dropCandidate
  return ((s.allowKey true).continueAt rest).push .blockEntry

/-- The question mark of a key. -/
def takeKey (rest : List Located) (s : Scanner) : Option Scanner := do
  if !s.inFlow && !s.keyAllowed then none
  let s ← (s.openBlock s.place.column .blockMappingStart).dropCandidate
  return ((s.allowKey (!s.inFlow)).continueAt rest).push .key

/-- The colon of a value. -/
def takeValue (rest : List Located) (s : Scanner) : Option Scanner :=
  match s.candidate with
  | some k =>
    let s := openBlockAt k (insert k.behind .key { s with candidate := none })
    some (((s.allowKey false).continueAt rest).push .value)
  | none =>
    if !s.inFlow && !s.keyAllowed then none
    else
      let s := s.openBlock s.place.column .blockMappingStart
      some (((s.allowKey (!s.inFlow)).continueAt rest).push .value)

/-- A token that may be a key, read by `read`. -/
def takeKeyable (read : Option (Token × List Located)) (s : Scanner) : Option Scanner := do
  let s ← s.noteCandidate
  let (token, rest) ← read
  return ((s.allowKey false).continueAt rest).push token

/-- A block scalar. -/
def takeBlock (form : Form) (rest : List Located) (s : Scanner) : Option Scanner := do
  let s ← s.dropCandidate
  let (text, rest) ← readBlock (form != .literal) s.indents.head? rest
  return ((s.allowKey true).continueAt rest).push (.scalar form text)

/-- A plain scalar. After the end of a line a key may follow. -/
def takePlain (s : Scanner) : Option Scanner := do
  let s ← s.noteCandidate
  let limit := s.indents.head?.elim 0 (· + 1)
  let scalar ← readPlain s.inFlow limit [] .nothing s.rest
  return ((s.allowKey scalar.broken).continueAt scalar.rest).push (.scalar .plain scalar.text)

/-- The characters that cannot begin a plain scalar. -/
def isReserved (c : Char) : Bool :=
  isOpening c || c == '?' || c == ':' || c == '-'

/-- Whether a plain scalar begins with `c` in front of `rest`. -/
def beginsPlain (flow : Bool) (c : Char) (rest : List Located) : Bool :=
  (!isGap c && !isReserved c) ||
  (c == '-' && !rest.head?.any (fun d => isBlank d.char)) ||
  (!flow && (c == '?' || c == ':') && !atLocatedGap rest)

/-- The token that begins with `c` at the start of the rest. -/
def takeToken (c : Located) (rest : List Located) (s : Scanner) : Option Scanner :=
  let gap := atLocatedGap rest
  if c.startsLine && c.char == '%' then s.takeDirective rest
  else if atMark '-' s.rest then s.takeDocumentMark .documentStart
  else if atMark '.' s.rest then s.takeDocumentMark .documentEnd
  else if c.char = '[' then s.takeOpening .flowSequenceStart rest
  else if c.char = '\x7b' then s.takeOpening .flowMappingStart rest
  else if c.char = ']' then s.takeClosing .flowSequenceEnd rest
  else if c.char = '\x7d' then s.takeClosing .flowMappingEnd rest
  else if c.char = ',' then s.takeFlowEntry rest
  else if c.char = '-' ∧ gap then s.takeBlockEntry rest
  else if c.char = '?' ∧ (s.inFlow ∨ gap) then s.takeKey rest
  else if c.char = ':' ∧ (s.inFlow ∨ gap) then s.takeValue rest
  else if c.char = '*' then
    s.takeKeyable ((readAnchor rest).map fun (name, rest) => (.alias name, rest))
  else if c.char = '&' then
    s.takeKeyable ((readAnchor rest).map fun (name, rest) => (.anchor name, rest))
  else if c.char = '!' then
    s.takeKeyable ((readTag s.inFlow s.rest).map fun (tag, rest) => (.tag tag, rest))
  else if c.char = '|' ∧ !s.inFlow then s.takeBlock .literal rest
  else if c.char = '>' ∧ !s.inFlow then s.takeBlock .marked rest
  else if c.char = '\'' then
    s.takeKeyable ((readSingleQuoted [] .nothing rest).map fun (text, rest) =>
      (.scalar .marked text, rest))
  else if c.char = '"' then
    s.takeKeyable ((readDoubleQuoted [] .nothing rest).map fun (text, rest) =>
      (.scalar .marked text, rest))
  else if beginsPlain s.inFlow c.char rest then s.takePlain
  else none

/-- The next token and those that come with it. -/
def step (s : Scanner) : Option Scanner := do
  let s ← (← s.skipToToken.lookAhead 4).settle
  let s := s.closeBlocks
  match s.rest with
  | [] => s.takeEnd
  | c :: rest => (← (← s.takeToken c rest).lookAhead 1).settle

/-- The tokens that count if the text cannot be read on. -/
def delivered (s : Scanner) : List Token :=
  let keys := s.candidate :: s.outer
  let count := keys.foldl (fun n k => min n (k.elim n Candidate.behind)) s.tokens.length
  s.tokens.reverse.take count

/-- All tokens. Every step but the last makes the rest shorter. -/
def run (s : Scanner) : Tokens :=
  match s.step with
  | none => ⟨s.delivered, false⟩
  | some next =>
    if next.tokens.head? = some .streamEnd then ⟨next.tokens.reverse, true⟩
    else if _h : next.rest.length < s.rest.length then next.run
    else ⟨s.delivered, false⟩
termination_by s.rest.length

end Scanner

/-- The tokens of a text, which may be the first part of a longer one. -/
def scan (text : List Char) (whole : Bool) : Tokens :=
  Scanner.run { rest := locate {} text, finish := finish {} text, whole := whole }

end ControllerSynthesis.Yaml
