/-
# Reading a version

`Version.read` is strict: three numbers, then the suffixes. `Version.parse` is
what the operator applies to the text of a manifest: white space around the
text and one leading `v` go, and missing minor and patch numbers count as zero.
It puts them in as text, in front of the first `-` or `+`, and hands the result
to the strict reader; a fault is reported with the text as it was given.

Key definitions: `Version.Fault`, `Version.Fault.message`, `Version.read`, `Version.completed`,
`Version.parse`.
-/
import ControllerSynthesis.Text.Characters
import ControllerSynthesis.Version.Basic

namespace ControllerSynthesis.Version

/-- The parts of a version that a fault can lie in. -/
inductive Part where
  | major
  | minor
  | patch
  | preRelease
  | build
  deriving Repr, DecidableEq

/-- Why a text is no version. -/
inductive Fault where
  /-- There is no text at all. -/
  | empty
  /-- The text ends where the part must go on. -/
  | unexpectedEnd (part : Part)
  /-- A number must start where `c` stands. -/
  | unexpectedChar (c : Char) (part : Part)
  /-- The part is over, and `c` cannot follow it. -/
  | unexpectedAfter (c : Char) (part : Part)
  /-- A number has a zero too many in front. -/
  | leadingZero (part : Part)
  /-- A number does not fit into 64 bits. -/
  | tooLarge (part : Part)
  /-- Between two dots, or at an end, a segment has no character. -/
  | emptySegment (part : Part)
  deriving Repr, DecidableEq

/-- The name of a part in a message. -/
def Part.name : Part → String
  | major => "major version number"
  | minor => "minor version number"
  | patch => "patch version number"
  | preRelease => "pre-release identifier"
  | build => "build metadata"

/-- The fault in words. -/
def Fault.message : Fault → String
  | empty => "empty string, expected a semver version"
  | unexpectedEnd part => "unexpected end of input while parsing " ++ part.name
  | unexpectedChar c part =>
    "unexpected character " ++ Text.quotedChar c ++ " while parsing " ++ part.name
  | unexpectedAfter c part => "unexpected character " ++ Text.quotedChar c ++ " after " ++ part.name
  | leadingZero part => "invalid leading zero in " ++ part.name
  | tooLarge part => "value of " ++ part.name ++ " exceeds u64::MAX"
  | emptySegment part => "empty identifier segment in " ++ part.name

/-- The rest of a number of which digits worth `value` have been read. -/
def numberFrom (part : Part) : Nat → List Char → Except Fault (Nat × List Char)
  | value, [] => .ok (value, [])
  | value, c :: cs =>
    if Digits.isDecimal c then
      if value = 0 then .error (.leadingZero part)
      else if maxNumber < value * 10 + Digits.decimal c then .error (.tooLarge part)
      else numberFrom part (value * 10 + Digits.decimal c) cs
    else .ok (value, c :: cs)

/-- A decimal number without superfluous zeros, and what follows it. -/
def number (part : Part) : List Char → Except Fault (Nat × List Char)
  | [] => .error (.unexpectedEnd part)
  | c :: cs =>
    if Digits.isDecimal c then numberFrom part (Digits.decimal c) cs
    else .error (.unexpectedChar c part)

/-- What follows the dot that must stand after a number. -/
def dot (part : Part) : List Char → Except Fault (List Char)
  | [] => .error (.unexpectedEnd part)
  | c :: cs => if c = '.' then .ok cs else .error (.unexpectedAfter c part)

/-- Whether a segment of a pre-release is a number with a superfluous zero. -/
def hasLeadingZero : List Char → Bool
  | '0' :: c :: cs => (c :: cs).all Digits.isDecimal
  | _ => false

/-- The segment `word`, unless it is empty or, in a pre-release, a number with
a superfluous zero. -/
def segment (part : Part) (word : List Char) : Except Fault (List Char) :=
  if word = [] then .error (.emptySegment part)
  else if part = .preRelease ∧ hasLeadingZero word = true then .error (.leadingZero part)
  else .ok word

/-- The segments of a suffix, of which `done` are read and `word` is begun, and
what follows them. -/
def segmentsFrom (part : Part) (done : List (List Char)) (word : List Char) :
    List Char → Except Fault (List (List Char) × List Char)
  | [] => (segment part word).map fun w => (done ++ [w], [])
  | c :: cs =>
    if isSegmentChar c then segmentsFrom part done (word ++ [c]) cs
    else if c = '.' then
      match segment part word with
      | .ok w => segmentsFrom part (done ++ [w]) [] cs
      | .error e => .error e
    else (segment part word).map fun w => (done ++ [w], c :: cs)

/-- The suffix that `mark` opens, if it stands here; the part tells which
suffix, or, if there is none, what the text before it belongs to. -/
def suffixFrom (mark : Char) (suffixPart current : Part) :
    List Char → Except Fault (Part × List (List Char) × List Char)
  | [] => .ok (current, [], [])
  | c :: cs =>
    if c = mark then (segmentsFrom suffixPart [] [] cs).map fun (s, rest) => (suffixPart, s, rest)
    else .ok (current, [], c :: cs)

/-- A version in full, with all three numbers. -/
def read : List Char → Except Fault Version
  | [] => .error .empty
  | text => do
    let (major, text) ← number .major text
    let text ← dot .major text
    let (minor, text) ← number .minor text
    let text ← dot .minor text
    let (patch, text) ← number .patch text
    let (part, pre, text) ← suffixFrom '-' .preRelease .patch text
    let (part, build, text) ← suffixFrom '+' .build part text
    match text with
    | [] => return ⟨major, minor, patch, pre, build⟩
    | c :: _ => throw (.unexpectedAfter c part)

/-- Whether `c` ends the numbers of a version. -/
def opensSuffix (c : Char) : Bool :=
  c == '-' || c == '+'

/-- The text without white space around it and without one leading `v`. -/
def stripped (raw : List Char) : List Char :=
  match Text.trim raw with
  | 'v' :: cs => cs
  | cs => cs

/-- The text with zeros for a missing minor and patch number: they are counted
by the dots in front of the first `-` or `+`. -/
def completed (text : List Char) : List Char :=
  let core := text.takeWhile fun c => !opensSuffix c
  let rest := text.dropWhile fun c => !opensSuffix c
  match core.count '.' with
  | 0 => core ++ ['.', '0', '.', '0'] ++ rest
  | 1 => core ++ ['.', '0'] ++ rest
  | _ => text

/-- A version as a manifest may spell it. -/
def parse (raw : String) : Except Fault Version :=
  read (completed (stripped raw.toList))

end ControllerSynthesis.Version
