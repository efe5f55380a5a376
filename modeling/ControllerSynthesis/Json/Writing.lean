/-
# Writing JSON text

A compact JSON text of a value, in ASCII: other characters are written as
escapes of their UTF-16 units. A binary number is written with the fewest
digits that read back and always with a point or an exponent.

Key definitions: `Json.write`.
-/
import ControllerSynthesis.Json.Value
import ControllerSynthesis.Number.Spelling

namespace ControllerSynthesis.Json

/-- The escape of a UTF-16 unit. -/
def unitEscape (unit : Nat) : List Char :=
  '\\' :: 'u' :: Digits.padded 16 4 unit

/-- A character inside quotes. -/
def writeChar (c : Char) : List Char :=
  if c = '"' then ['\\', '"']
  else if c = '\\' then ['\\', '\\']
  else if c = '\n' then ['\\', 'n']
  else if 0x20 ≤ c.toNat ∧ c.toNat < 0x7F then [c]
  else if c.toNat < 0x10000 then unitEscape c.toNat
  else
    let n := c.toNat - 0x10000
    unitEscape (0xD800 + n / 0x400) ++ unitEscape (0xDC00 + n % 0x400)

/-- A text in quotes. -/
def writeText (text : String) : List Char :=
  '"' :: text.toList.flatMap writeChar ++ ['"']

mutual

/-- The text of a value. -/
def writeChars : Json → List Char
  | null => ['n', 'u', 'l', 'l']
  | bool true => ['t', 'r', 'u', 'e']
  | bool false => ['f', 'a', 'l', 's', 'e']
  | int n => Digits.ofInt n
  | float x => Decimal.compact (x.shortest .toEven)
  | str text => writeText text
  | arr items => '[' :: writeItems items ++ [']']
  | obj members => '\x7b' :: writeMembers members ++ ['\x7d']

/-- The items of a list with commas between them. -/
def writeItems : List Json → List Char
  | [] => []
  | [item] => writeChars item
  | item :: items => writeChars item ++ ',' :: writeItems items

/-- The members of an object with commas between them. -/
def writeMembers : List (String × Json) → List Char
  | [] => []
  | [(key, value)] => writeText key ++ ':' :: writeChars value
  | (key, value) :: members => writeText key ++ ':' :: writeChars value ++ ',' :: writeMembers members

end

/-- The text of a value. -/
def write (value : Json) : String :=
  String.ofList (writeChars value)

end ControllerSynthesis.Json
