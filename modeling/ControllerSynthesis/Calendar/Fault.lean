/-
# What is wrong with the text of a point in time

The parts of such a text are numbers of a fixed number of digits, each with its
own range, and marks between them. A fault names the part and what is wrong with
it. Characters that are not ASCII are shown by the first of their bytes.

Key definitions: `Calendar.Part`, `Calendar.Flaw`, `Calendar.Fault`,
`Calendar.Fault.message`.
-/
import ControllerSynthesis.Calendar.Date
import ControllerSynthesis.Text.Characters

namespace ControllerSynthesis.Calendar

/-- The parts that are numbers of a fixed number of digits. -/
inductive Part where
  | year
  /-- The year behind a sign. -/
  | signedYear
  | month
  | day
  | hour
  | minute
  | second
  | offsetHours
  | offsetMinutes
  | offsetSeconds
  deriving Repr, DecidableEq

/-- What is wrong with a number. -/
inductive Flaw where
  /-- The text ends before the last digit. -/
  | missing
  | notDigit (found : Char)
  | outOfRange
  deriving Repr, DecidableEq

/-- What is wanted between the brackets behind an offset. -/
inductive Bracketed where
  | zoneName
  | zoneEnd
  | key
  | equals
  | value
  | valueEnd
  deriving Repr, DecidableEq

/-- What is wrong with a text. -/
inductive Fault where
  | number (part : Part) (flaw : Flaw)
  /-- The year zero with a minus sign. -/
  | negativeYearZero
  /-- Something else than the second hyphen of a date, or than the first. -/
  | noHyphen (found : Option Char)
  /-- A hyphen in a date that has none behind the year. -/
  | strayHyphen
  /-- A point without digits behind it, in an offset or in a time of day. -/
  | noFraction (ofOffset : Bool)
  | noSuchDay (year : Int) (month : Nat)
  /-- Seconds in an offset that stands in brackets. -/
  | secondsInBrackets
  | bracketed (wanted : Bracketed) (found : Option Char)
  /-- A bracket with an exclamation mark that is not understood. -/
  | critical
  /-- Something behind what could be read. -/
  | leftOver (read rest : List Char)
  | noTime
  | noOffset
  /-- An offset that is too large once it is rounded. -/
  | offsetTooLarge
  /-- A point in time that is too early or too late; with its offset in seconds. -/
  | outOfRange (offset : Int)
  deriving Repr, DecidableEq

namespace Part

/-- The number of digits. -/
def width : Part → Nat
  | year => 4
  | signedYear => 6
  | _ => 2

/-- The smallest number and the largest. -/
def range : Part → Int × Int
  | year => (-9999, 9999)
  | signedYear => (-9999, 9999)
  | month => (1, 12)
  | day => (1, 31)
  | hour => (0, 23)
  | minute => (0, 59)
  | second => (0, 60)
  | offsetHours => (-25, 25)
  | offsetMinutes => (-59, 59)
  | offsetSeconds => (-59, 59)

/-- The part's name. -/
def name : Part → String
  | year => "year"
  | signedYear => "year"
  | month => "month"
  | day => "day"
  | hour => "hour"
  | minute => "minute"
  | second => "second"
  | offsetHours => "time zone offset hours"
  | offsetMinutes => "time zone offset minutes"
  | offsetSeconds => "time zone offset seconds"

/-- What is said when the text ends before the part does. -/
def missing : Part → String
  | year => "expected four digit year (or leading sign for six digit year), but found end of input"
  | signedYear =>
    "expected six digit year (because of a leading sign), but found end of input"
  | offsetHours => "expected two digit hour after sign, but found end of input"
  | offsetMinutes => "expected two digit minute after hours, but found end of input"
  | offsetSeconds => "expected two digit second after minutes, but found end of input"
  | part => "expected two digit " ++ part.name ++ ", but found end of input"

/-- What is said in front of the reason why the digits are no such part. -/
def refused : Part → String
  | year => "failed to parse four digit integer as year: "
  | signedYear => "failed to parse six digit integer as year: "
  | offsetHours => "failed to parse hours (requires a two digit integer): "
  | offsetMinutes => "failed to parse minutes (requires a two digit integer): "
  | offsetSeconds => "failed to parse seconds (requires a two digit integer): "
  | part => "failed to parse two digit integer as " ++ part.name ++ ": "

/-- What is said in front of a fault in a part of an offset. -/
def context : Part → String
  | offsetHours => "failed to parse hours in UTC numeric offset: "
  | offsetMinutes => "failed to parse minutes in UTC numeric offset: "
  | offsetSeconds => "failed to parse seconds in UTC numeric offset: "
  | _ => ""

end Part

/-! ### Characters in messages -/

/-- The first byte of a character. -/
def leadByte (c : Char) : Nat :=
  let n := c.toNat
  if n < 0x80 then n
  else if n < 0x800 then 0xC0 + n / 0x40
  else if n < 0x10000 then 0xE0 + n / 0x1000
  else 0xF0 + n / 0x40000

/-- The letter behind a backslash that stands for a character, if there is one. -/
def shortEscape? (c : Char) : Option Char :=
  if c = '\t' then some 't'
  else if c = '\r' then some 'r'
  else if c = '\n' then some 'n'
  else if c = '\'' ∨ c = '"' ∨ c = '\\' then some c
  else none

/-- The first byte of a character: as it is if it can be shown, or by an escape. -/
def shownByte (c : Char) : String :=
  match shortEscape? c with
  | some letter => String.ofList ['\\', letter]
  | none =>
    if 0x20 ≤ c.toNat ∧ c.toNat < 0x7F then String.ofList [c]
    else String.ofList ('\\' :: 'x' :: (Digits.padded 16 2 (leadByte c)).map Char.toUpper)

/-- A character of a text in quotation marks. -/
def shownChar (c : Char) : List Char :=
  if c.toNat = 0 then ['\\', '0']
  else if c.toNat < 0x80 then
    match shortEscape? c with
    | some letter => ['\\', letter]
    | none =>
      if 0x20 ≤ c.toNat ∧ c.toNat < 0x7F then [c] else '\\' :: 'x' :: Digits.padded 16 2 c.toNat
  else Text.shown '"' c

/-- An offset of a number of seconds, with minutes and seconds only where it has
them. -/
def offsetText (offset : Int) : String :=
  let n := offset.natAbs
  let sign := if offset < 0 then '-' else '+'
  let hours := sign :: padded 2 (n / 3600)
  let minutes := hours ++ ':' :: padded 2 (n / 60 % 60)
  String.ofList <|
    if n % 60 ≠ 0 then minutes ++ ':' :: padded 2 (n % 60)
    else if n % 3600 ≠ 0 then minutes
    else hours

/-! ### Messages -/

/-- What is said about a number outside its range. -/
def rangeMessage (name : String) (range : Int × Int) : String :=
  "parameter '" ++ name ++ "' is not in the required range of " ++ Digits.text range.1 ++ "..=" ++
    Digits.text range.2

/-- What is said about a number. -/
def Flaw.message (part : Part) : Flaw → String
  | missing => part.missing
  | notDigit found => part.refused ++ "invalid digit, expected 0-9 but got " ++ shownByte found
  | outOfRange => part.refused ++ rangeMessage part.name part.range

/-- What is wanted between brackets, when the text ends there and when something
else stands there. -/
def Bracketed.wanted : Bracketed → String × String
  | zoneName =>
    ("expected the start of an RFC 9557 annotation or IANA time zone component name",
      "expected ASCII alphabetic byte (or underscore or period) at the start of an RFC 9557 " ++
        "annotation or time zone component name")
  | zoneEnd =>
    ("expected an `]` after parsing an RFC 9557 time zone annotation",
      "expected an `]` after parsing an RFC 9557 time zone annotation")
  | key =>
    ("expected the start of an RFC 9557 annotation key",
      "expected lowercase alphabetic byte (or underscore) at the start of an RFC 9557 " ++
        "annotation key")
  | equals =>
    ("expected an `=` after parsing an RFC 9557 annotation key",
      "expected an `=` after parsing an RFC 9557 annotation key")
  | value =>
    ("expected the start of an RFC 9557 annotation value",
      "expected alphanumeric ASCII byte at the start of an RFC 9557 annotation value")
  | valueEnd =>
    ("expected an `]` after parsing an RFC 9557 annotation key and value",
      "expected an `]` after parsing an RFC 9557 annotation key and value")

/-- What is said about a character between brackets. -/
def Bracketed.message (wanted : Bracketed) : Option Char → String
  | none => wanted.wanted.1 ++ ", but found end of input instead"
  | some found =>
    wanted.wanted.2 ++ ", but found `" ++ shownByte found ++ "` instead" ++
      (if wanted = .equals ∧ found = '/' then " (time zone annotations must come first)" else "")

/-- The first and the last second that a point in time can have, counted from the
start of 1970 in universal time. -/
def span : Int × Int := (-377705023201, 253402207200)

/-- The longest offset in seconds. -/
def longestOffset : Int := 93599

/-- The fault in words. -/
def Fault.message : Fault → String
  | number part flaw => part.context ++ flaw.message part
  | negativeYearZero =>
    "year zero must be written without a sign or a positive sign, but not a negative sign"
  | noHyphen none => "expected `-` separator, but found end of input"
  | noHyphen (some found) =>
    "expected `-` separator, but found `" ++ shownByte found ++ "` instead"
  | strayHyphen =>
    "expected no separator after month since none was found after the year, " ++
      "but found a `-` separator"
  | noFraction ofOffset =>
    (if ofOffset then "failed to parse fractional seconds in UTC numeric offset: " else "") ++
      "found decimal after seconds component, but did not find any digits after decimal"
  | noSuchDay year month =>
    let yearText := Date.yearText false year
    "parsed date is not valid: parameter 'day' for `" ++
      String.ofList (yearText ++ '-' :: padded 2 month) ++
      "` is invalid, must be in range `1..=" ++ Digits.text (Date.monthLength year month) ++ "`"
  | secondsInBrackets =>
    "subminute precision for UTC numeric offset is not enabled in this context " ++
      "(must provide only integral minutes)"
  | bracketed wanted found => wanted.message found
  | critical => "found unsupported RFC 9557 annotation with the critical flag (`!`) set"
  | leftOver read rest =>
    "parsed value '" ++ String.ofList read ++ "', but unparsed input \"" ++
      String.ofList (rest.flatMap shownChar) ++ "\" remains (expected no unparsed input)"
  | noTime => "failed to find time component, which is required for parsing a timestamp"
  | noOffset => "failed to find offset component, which is required for parsing a timestamp"
  | offsetTooLarge =>
    "due to precision loss, offset is rounded to a value that is out of bounds: " ++
      rangeMessage "time zone offset total seconds" (-longestOffset, longestOffset)
  | outOfRange offset =>
    "failed to convert civil datetime to timestamp with offset " ++ offsetText offset ++
      ": converting datetime with time zone offset `" ++ offsetText offset ++
      "` to timestamp overflowed: " ++ rangeMessage "Unix timestamp seconds" span

end ControllerSynthesis.Calendar
