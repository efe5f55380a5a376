/-
# Reading JSON text

A reader for the JSON grammar. The members of an object come out in order of
their names, and of members with one name the last counts. An integer that fits
into 64 bits, signed or unsigned, stays an integer. Any other number is made
from its leading digits, as many as fit into 64 bits: they are rounded to a
64-bit binary number, which is then multiplied or divided by a power of ten and
rounded once more. A number too large for the format is refused.

Key definitions: `Json.read?`.
-/
import ControllerSynthesis.Json.Value
import ControllerSynthesis.KeyMap
import ControllerSynthesis.Number.Digits

namespace ControllerSynthesis.Json

/-- Text without the blanks at its start. -/
def skipBlanks : List Char → List Char
  | c :: cs => if c = ' ' ∨ c = '\t' ∨ c = '\n' ∨ c = '\r' then skipBlanks cs else c :: cs
  | [] => []

/-- Four hexadecimal digits and what follows them. -/
def hexUnit? : List Char → Option (Nat × List Char)
  | a :: b :: c :: d :: cs => (Digits.toNat? 16 [a, b, c, d]).map (·, cs)
  | _ => none

/-- The rest of a text in quotes, of which `done` is read, newest first, and
what follows the closing quote. -/
def textFrom : Nat → List Char → List Char → Option (String × List Char)
  | 0, _, _ => none
  | _ + 1, _, [] => none
  | fuel + 1, done, c :: cs =>
    if c = '"' then some (String.ofList done.reverse, cs)
    else if c = '\\' then
      match cs with
      | 'n' :: cs => textFrom fuel ('\n' :: done) cs
      | 't' :: cs => textFrom fuel ('\t' :: done) cs
      | 'r' :: cs => textFrom fuel ('\r' :: done) cs
      | 'b' :: cs => textFrom fuel (Char.ofNat 8 :: done) cs
      | 'f' :: cs => textFrom fuel (Char.ofNat 12 :: done) cs
      | 'u' :: cs =>
        match hexUnit? cs with
        | some (high, '\\' :: 'u' :: cs') =>
          if 0xD800 ≤ high ∧ high < 0xDC00 then
            match hexUnit? cs' with
            | some (low, rest) =>
              if 0xDC00 ≤ low ∧ low < 0xE000 then
                let code := 0x10000 + (high - 0xD800) * 0x400 + (low - 0xDC00)
                textFrom fuel (Char.ofNat code :: done) rest
              else none
            | none => none
          else textFrom fuel (Char.ofNat high :: done) ('\\' :: 'u' :: cs')
        | some (unit, rest) =>
          if 0xD800 ≤ unit ∧ unit < 0xE000 then none
          else textFrom fuel (Char.ofNat unit :: done) rest
        | none => none
      | c :: cs => if c = '"' ∨ c = '\\' ∨ c = '/' then textFrom fuel (c :: done) cs else none
      | [] => none
    else if c.toNat < 0x20 then none
    else textFrom fuel (c :: done) cs

/-- The largest integer of 64 bits. -/
def maxUnsigned : Nat := Nat.pow 2 64 - 1

/-- The value of the digits that fit into 64 bits after digits worth `value`,
and the number of digits left over. -/
def leading (value : Nat) : List Char → Nat × Nat
  | [] => (value, 0)
  | c :: cs =>
    let next := value * 10 + Digits.decimal c
    if maxUnsigned < next then (value, (c :: cs).length) else leading next cs

/-- `x` times ten to the power `exponent`, by at most `fuel` roundings. -/
def scaleByTen (x : Binary64) : Nat → Int → Option Binary64
  | 0, _ => some x
  | fuel + 1, exponent =>
    if x.significand = 0 then some x
    else if 308 < exponent then none
    else if 0 ≤ exponent then do Binary64.mul? x (← Binary64.ofNat? (Nat.pow 10 exponent.toNat))
    else if -308 ≤ exponent then do Binary64.div? x (← Binary64.ofNat? (Nat.pow 10 (-exponent).toNat))
    else do scaleByTen (← Binary64.div? x (← Binary64.ofNat? (Nat.pow 10 308))) fuel (exponent + 308)

/-- The number with these digits before and after the point and this exponent. -/
def floatOf? (negative : Bool) (whole behind : List Char) (exponent : Int) : Option Json := do
  let (value, left) := leading 0 whole
  let (value, dropped) := if left = 0 then leading value behind else (value, behind.length)
  let used := behind.length - dropped
  let x ← Binary64.ofNat? value
  let scale := exponent + (left : Int) - (used : Int)
  let x ← if x.significand ≠ 0 ∧ scale < -1000 then some ⟨false, 0, -1074⟩ else scaleByTen x 8 scale
  return float ⟨negative, x.significand, x.exponent⟩

/-- The exponent that may follow a number, and what follows it. -/
def exponent? : List Char → Option (Option Int × List Char)
  | c :: cs =>
    if c = 'e' ∨ c = 'E' then
      let (negative, cs) :=
        match cs with
        | '+' :: cs => (false, cs)
        | '-' :: cs => (true, cs)
        | cs => (false, cs)
      let digits := cs.takeWhile Digits.isDecimal
      match Digits.toNat? 10 digits with
      | some n => some (some (if negative then -(n : Int) else n), cs.dropWhile Digits.isDecimal)
      | none => none
    else some (none, c :: cs)
  | [] => some (none, [])

/-- A number and what follows it. -/
def number? (text : List Char) : Option (Json × List Char) := do
  let (negative, text) :=
    match text with
    | '-' :: cs => (true, cs)
    | cs => (false, cs)
  let whole := text.takeWhile Digits.isDecimal
  let text := text.dropWhile Digits.isDecimal
  let value ← Digits.toNat? 10 whole
  if 1 < whole.length ∧ whole.head? = some '0' then none
  let (behind, text) ←
    match text with
    | '.' :: cs =>
      let behind := cs.takeWhile Digits.isDecimal
      if behind.isEmpty then none else some (behind, cs.dropWhile Digits.isDecimal)
    | cs => some ([], cs)
  let (exponent, text) ← exponent? text
  let whole? := behind.isEmpty && exponent.isNone
  if whole? && !negative && value ≤ maxUnsigned then return (int value, text)
  if whole? && negative && 0 < value && value ≤ Nat.pow 2 63 then return (int (-(value : Int)), text)
  return (← floatOf? negative whole behind (exponent.getD 0), text)

mutual

/-- A value and what follows it. -/
def value? : Nat → List Char → Option (Json × List Char)
  | 0, _ => none
  | fuel + 1, text =>
    match skipBlanks text with
    | [] => none
    | '[' :: cs =>
      match skipBlanks cs with
      | ']' :: cs => some (arr [], cs)
      | cs => (items? fuel cs).map fun (items, rest) => (arr items, rest)
    | '\x7b' :: cs =>
      match skipBlanks cs with
      | '\x7d' :: cs => some (obj [], cs)
      | cs => (members? fuel [] cs).map fun (members, rest) => (obj members, rest)
    | '"' :: cs => (textFrom (cs.length + 1) [] cs).map fun (text, rest) => (str text, rest)
    | 't' :: 'r' :: 'u' :: 'e' :: cs => some (bool true, cs)
    | 'f' :: 'a' :: 'l' :: 's' :: 'e' :: cs => some (bool false, cs)
    | 'n' :: 'u' :: 'l' :: 'l' :: cs => some (null, cs)
    | cs => number? cs

/-- The items of a list up to its end, and what follows it. -/
def items? : Nat → List Char → Option (List Json × List Char)
  | 0, _ => none
  | fuel + 1, text => do
    let (item, rest) ← value? fuel text
    match skipBlanks rest with
    | ',' :: cs => (items? fuel cs).map fun (items, rest) => (item :: items, rest)
    | ']' :: cs => some ([item], cs)
    | _ => none

/-- The members of an object up to its end, added to those in `done`, and what
follows it. -/
def members? : Nat → List (String × Json) → List Char → Option (List (String × Json) × List Char)
  | 0, _, _ => none
  | fuel + 1, done, text =>
    match skipBlanks text with
    | '"' :: cs => do
      let (key, rest) ← textFrom (cs.length + 1) [] cs
      match skipBlanks rest with
      | ':' :: cs => do
        let (value, rest) ← value? fuel cs
        let done := KeyMap.insertEntry key value done
        match skipBlanks rest with
        | ',' :: cs => members? fuel done cs
        | '\x7d' :: cs => some (done, cs)
        | _ => none
      | _ => none
    | _ => none

end

/-- The value that a text spells, if it spells one and nothing else. -/
def read? (text : String) : Option Json := do
  let cs := text.toList
  let (value, rest) ← value? (cs.length + 1) cs
  if (skipBlanks rest).isEmpty then return value else none

end ControllerSynthesis.Json
