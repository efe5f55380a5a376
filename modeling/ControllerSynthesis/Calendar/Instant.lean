/-
# Points in time

A point in time is written as a date, a time of day and an offset from universal
time, as in `2025-01-02T03:04:05+01:00`. The hyphens and the colons may be left
out, of the date or of the time, as may be seconds and minutes; a year may have a
sign and six digits then. Second 60 counts as second 59. Behind the offset,
brackets may name the time zone and other things; they are checked and change
nothing.

A point in time is kept to the nanosecond. It is written in universal time and in whole
seconds: its fraction of a second is cut off, towards the past.

Key definitions: `Calendar.Instant`, `Calendar.Instant.read`,
`Calendar.Instant.text`, `Calendar.Instant.cut`.
-/
import ControllerSynthesis.Calendar.Fault

namespace ControllerSynthesis.Calendar

/-- An offset from universal time as it is written. -/
inductive Offset where
  | universal
  | numeric (negative : Bool) (hours : Nat) (minutes seconds nanoseconds : Option Nat)
  deriving Repr, DecidableEq

/-- The parts of the text of a point in time, and the text of its brackets. -/
structure Written where
  date : Date
  time : Option Time := none
  offset : Option Offset := none
  brackets : List Char := []
  deriving Repr, DecidableEq

/-- A point in time: the whole seconds from the start of 1970 in universal time, and the
nanoseconds from there on. -/
structure Instant where
  seconds : Int
  nanosecond : Fin 1000000000
  least : span.1 ≤ seconds
  most : seconds ≤ span.2
  deriving Repr, DecidableEq

/-! ### Numbers -/

/-- The number of bytes of a text. -/
def byteCount (text : List Char) : Nat :=
  text.foldl (fun n c => n + c.utf8Size) 0

/-- A part that is a number. -/
def readNumber (part : Part) (text : List Char) : Except Fault (Nat × List Char) :=
  let digits := text.take part.width
  if byteCount digits < part.width then .error (.number part .missing)
  else
    match digits.find? fun c => !Digits.isDecimal c with
    | some c => .error (.number part (.notDigit c))
    | none =>
      let n := (Digits.toNat? 10 digits).getD 0
      if part.range.1 ≤ n ∧ n ≤ part.range.2 then .ok (n, text.drop part.width)
      else .error (.number part .outOfRange)

/-- A fraction of a second in nanoseconds, if there is one: at most nine digits. -/
def readFraction (ofOffset : Bool) (text : List Char) : Except Fault (Option Nat × List Char) :=
  match text with
  | [] => .ok (none, [])
  | c :: rest =>
    if c = '.' ∨ c = ',' then
      let digits := (rest.take 9).takeWhile Digits.isDecimal
      match Digits.toNat? 10 digits with
      | some n => .ok (some (n * Nat.pow 10 (9 - digits.length)), rest.drop digits.length)
      | none => .error (.noFraction ofOffset)
    else .ok (none, text)

/-- The text from the next part of a time or an offset on, if there is one: behind
a colon if the parts are `apart`, else at two digits. -/
def nextPart? (apart : Bool) (text : List Char) : Option (List Char) :=
  if apart then
    match text with
    | ':' :: rest => some rest
    | _ => none
  else
    match text with
    | a :: b :: _ => if Digits.isDecimal a && Digits.isDecimal b then some text else none
    | _ => none

/-! ### Dates and times -/

/-- A year, with six digits behind a sign. -/
def readYear : List Char → Except Fault (Int × List Char)
  | '+' :: text => do
    let (n, rest) ← readNumber .signedYear text
    return (n, rest)
  | '-' :: text => do
    let (n, rest) ← readNumber .signedYear text
    if n = 0 then throw .negativeYearZero
    return (-n, rest)
  | text => do
    let (n, rest) ← readNumber .year text
    return (n, rest)

/-- What follows the hyphen of a date whose parts are `apart`; other dates have
none. -/
def skipHyphen (apart : Bool) (text : List Char) : Except Fault (List Char) :=
  match text with
  | '-' :: rest => if apart then .ok rest else .error .strayHyphen
  | _ => if apart then .error (.noHyphen text.head?) else .ok text

/-- A date. Whether it has hyphens shows behind the year. -/
def readDate (text : List Char) : Except Fault (Date × List Char) := do
  let (year, text) ← readYear text
  let apart := text.head? == some '-'
  let (month, text) ← readNumber .month (← skipHyphen apart text)
  let (day, text) ← readNumber .day (← skipHyphen apart text)
  if Date.monthLength year month < day then throw (.noSuchDay year month)
  return (⟨year, month, day⟩, text)

/-- A time of day. Whether it has colons shows behind the hour. -/
def readTime (text : List Char) : Except Fault (Time × List Char) := do
  let (hour, text) ← readNumber .hour text
  let apart := text.head? == some ':'
  match nextPart? apart text with
  | none => return (⟨hour, 0, 0, 0⟩, text)
  | some text =>
    let (minute, text) ← readNumber .minute text
    match nextPart? apart text with
    | none => return (⟨hour, minute, 0, 0⟩, text)
    | some text =>
      let (second, text) ← readNumber .second text
      let (nanosecond, text) ← readFraction false text
      return (⟨hour, minute, min second 59, nanosecond.getD 0⟩, text)

/-! ### Offsets -/

/-- An offset behind its sign; without `exact` it has no seconds. -/
def readNumericOffset (exact negative : Bool) (text : List Char) :
    Except Fault (Offset × List Char) := do
  let (hours, text) ← readNumber .offsetHours text
  let apart := text.head? == some ':'
  match nextPart? apart text with
  | none => return (.numeric negative hours none none none, text)
  | some text =>
    let (minutes, text) ← readNumber .offsetMinutes text
    if !exact then
      if text.head? = some ':' then throw .secondsInBrackets
      return (.numeric negative hours (some minutes) none none, text)
    match nextPart? apart text with
    | none => return (.numeric negative hours (some minutes) none none, text)
    | some text =>
      let (seconds, text) ← readNumber .offsetSeconds text
      let (nanoseconds, text) ← readFraction true text
      return (.numeric negative hours (some minutes) (some seconds) nanoseconds, text)

/-- An offset, if there is one. -/
def readOffset (text : List Char) : Except Fault (Option Offset × List Char) :=
  match text with
  | [] => .ok (none, [])
  | c :: rest =>
    if c = 'Z' ∨ c = 'z' then .ok (some .universal, rest)
    else if c = '+' ∨ c = '-' then do
      let (offset, rest) ← readNumericOffset true (c == '-') rest
      return (some offset, rest)
    else .ok (none, text)

namespace Offset

/-- The offset in seconds, a half of one counting as a whole. -/
def seconds : Offset → Except Fault Int
  | universal => .ok 0
  | numeric negative hours minutes seconds nanoseconds => do
    let n := hours * 3600 + minutes.getD 0 * 60 + seconds.getD 0 +
      (if 500000000 ≤ nanoseconds.getD 0 then 1 else 0)
    if longestOffset < n then throw .offsetTooLarge
    return if negative then -n else n

/-- The offset with colons between its parts. -/
def text : Offset → List Char
  | universal => ['Z']
  | numeric negative hours minutes seconds nanoseconds =>
    let part (n : Option Nat) := n.elim [] fun n => ':' :: padded 2 n
    (if negative then '-' else '+') :: padded 2 hours ++ part minutes ++ part seconds ++
      fractionText (nanoseconds.getD 0)

end Offset

/-! ### Brackets -/

/-- The ASCII letters. -/
def isLetter (c : Char) : Bool :=
  c.isUpper || c.isLower

/-- Whether the name of a time zone, or a part of it, may begin with a character. -/
def beginsZone (c : Char) : Bool :=
  c == '_' || c == '.' || isLetter c

/-- The characters of the names of time zones. -/
def isZoneChar (c : Char) : Bool :=
  beginsZone c || c == '+' || c == '-' || Digits.isDecimal c

/-- Whether a key may begin with a character. -/
def beginsKey (c : Char) : Bool :=
  c == '_' || c.isLower

/-- The characters of keys. -/
def isKeyChar (c : Char) : Bool :=
  beginsKey c || c == '-' || Digits.isDecimal c

/-- The characters of values. -/
def isValueChar (c : Char) : Bool :=
  isLetter c || Digits.isDecimal c

/-- What follows a character of which `p` holds. -/
def skip (wanted : Bracketed) (p : Char → Bool) : List Char → Except Fault (List Char)
  | [] => .error (.bracketed wanted none)
  | c :: rest => if p c then .ok rest else .error (.bracketed wanted (some c))

/-- What follows a word that begins as `first` says and goes on as `more` says. -/
def skipWord (wanted : Bracketed) (first more : Char → Bool) (text : List Char) :
    Except Fault (List Char) := do
  return (← skip wanted first text).dropWhile more

/-- What follows words with the character `mark` between them, `fuel` at most. -/
def skipWords (wanted : Bracketed) (first more : Char → Bool) (mark : Char) :
    Nat → List Char → Except Fault (List Char)
  | 0, text => .ok text
  | fuel + 1, text => do
    let text ← skipWord wanted first more text
    match text with
    | [] => return []
    | c :: rest => if c = mark then skipWords wanted first more mark fuel rest else return text

/-- The text behind an exclamation mark, and whether there is one. -/
def skipCritical : List Char → Bool × List Char
  | '!' :: text => (true, text)
  | text => (false, text)

/-- What follows brackets with a time zone. If they hold a key and a value
instead, nothing is read. -/
def skipZone (text : List Char) : Except Fault (List Char) :=
  match text with
  | '[' :: inner => do
    let (_, inner) := skipCritical inner
    if inner.head? = some '+' ∨ inner.head? = some '-' then
      let (_, rest) ← readNumericOffset false false inner.tail
      skip .zoneEnd (· == ']') rest
    else
      let behind ← skipWord .zoneName beginsZone isZoneChar inner
      if behind.head? = some '=' then return text
      let behind ← skipWords .zoneName beginsZone isZoneChar '/' inner.length inner
      skip .zoneEnd (· == ']') behind
  | _ => .ok text

/-- What follows brackets with keys and values, `fuel` at most. -/
def skipPairs : Nat → List Char → Except Fault (List Char)
  | fuel + 1, '[' :: inner => do
    let (critical, inner) := skipCritical inner
    let behind ← skipWord .key beginsKey isKeyChar inner
    let behind ← skip .equals (· == '=') behind
    let behind ← skipWords .value isValueChar isValueChar '-' inner.length behind
    let behind ← skip .valueEnd (· == ']') behind
    if critical then throw .critical
    skipPairs fuel behind
  | _, text => .ok text

/-! ### The whole text -/

namespace Written

/-- The parts at the start of a text. -/
def read (text : List Char) : Except Fault (Written × List Char) := do
  let (date, text) ← readDate text
  let (time, offset, text) ←
    match text with
    | [] => pure (none, none, [])
    | c :: rest =>
      if c = ' ' ∨ c = 'T' ∨ c = 't' then do
        let (time, rest) ← readTime rest
        let (offset, rest) ← readOffset rest
        pure (some time, offset, rest)
      else pure (none, none, text)
  let rest ← skipPairs text.length (← skipZone text)
  return (⟨date, time, offset, text.take (text.length - rest.length)⟩, rest)

/-- The parts in their usual form. -/
def text (w : Written) : List Char :=
  w.date.text true ++ w.time.elim [] (fun t => 'T' :: t.text) ++ w.offset.elim [] Offset.text ++
    w.brackets

end Written

namespace Instant

/-- The point in time that parts stand for. -/
def ofWritten (w : Written) : Except Fault Instant := do
  let some time := w.time | throw .noTime
  let some offset := w.offset | throw .noOffset
  let offset ← offset.seconds
  let n := w.date.dayNumber * 86400 + time.seconds - offset
  if inside : span.1 ≤ n ∧ n ≤ span.2 then
    return ⟨n, .ofNat _ time.nanosecond, inside.1, inside.2⟩
  else throw (.outOfRange offset)

/-- The point in time that a text names. -/
def read (text : List Char) : Except Fault Instant := do
  let (written, rest) ← Written.read text
  if !rest.isEmpty then throw (.leftOver written.text rest)
  ofWritten written

/-- The point in time that a text names, if it names one. -/
def ofText? (text : String) : Option Instant :=
  (read text.toList).toOption

/-- The date, in universal time. -/
def date (t : Instant) : Date :=
  .ofDayNumber (t.seconds / 86400)

/-- The time of day, in universal time and whole seconds. -/
def time (t : Instant) : Time :=
  .ofSeconds (t.seconds % 86400).toNat

/-- The text that a point in time is written as. A year before the year zero has four
digits in it. -/
def text (t : Instant) : List Char :=
  t.date.text false ++ 'T' :: (t.time.text ++ ['Z'])

/-- The point in time without its fraction of a second. -/
def cut (t : Instant) : Instant :=
  { t with nanosecond := 0 }

end Instant

end ControllerSynthesis.Calendar
