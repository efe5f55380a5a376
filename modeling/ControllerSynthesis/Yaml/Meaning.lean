/-
# What plain text means

A text without quotes can stand for nothing, a truth value or a number. Numbers
are decimal without leading zeros, or hexadecimal, octal or binary behind `0x`,
`0o` or `0b`, each after an optional sign; or they have a point or an exponent,
or are one of the words for infinity and for an undefined number. Everything
else is text.

Key definitions: `Yaml.Meaning`, `Yaml.meaning`.
-/
import ControllerSynthesis.Number.Spelling

namespace ControllerSynthesis.Yaml

/-- A number that is written with a point or an exponent, or in words. -/
inductive Floating where
  | finite (value : Binary64)
  | infinite (negative : Bool)
  | undefined
  deriving Repr, DecidableEq

/-- What a plain text stands for. -/
inductive Meaning where
  | null
  | flag (value : Bool)
  | integer (value : Int)
  | floating (value : Floating)
  | text
  deriving Repr, DecidableEq

/-- Whether a plain text stands for nothing. -/
def isNull (text : List Char) : Bool :=
  text == [] || text == ['~'] || text == ['n', 'u', 'l', 'l'] || text == ['N', 'u', 'l', 'l'] ||
  text == ['N', 'U', 'L', 'L']

/-- The truth value that a plain text stands for. -/
def flag? (text : List Char) : Option Bool :=
  if text = ['t', 'r', 'u', 'e'] ∨ text = ['T', 'r', 'u', 'e'] ∨ text = ['T', 'R', 'U', 'E'] then
    some true
  else if text = ['f', 'a', 'l', 's', 'e'] ∨ text = ['F', 'a', 'l', 's', 'e'] ∨
      text = ['F', 'A', 'L', 'S', 'E'] then
    some false
  else none

/-- Whether a text is digits behind a zero, which would be a number but for the
zero. -/
def isZeroPadded : List Char → Bool
  | '0' :: c :: cs => (c :: cs).all Digits.isDecimal
  | _ => false

/-- The value of an integer without a sign. -/
def magnitude? : List Char → Option Nat
  | '0' :: 'x' :: cs => Digits.toNat? 16 cs
  | '0' :: 'o' :: cs => Digits.toNat? 8 cs
  | '0' :: 'b' :: cs => Digits.toNat? 2 cs
  | cs => if isZeroPadded cs then none else Digits.toNat? 10 cs

/-- The value of an integer with or without a sign. -/
def integer? : List Char → Option Int
  | '+' :: cs => (magnitude? cs).map Int.ofNat
  | '-' :: cs => (magnitude? cs).map fun n => -(n : Int)
  | cs => (magnitude? cs).map Int.ofNat

/-- Whether an integer fits into 128 bits, with or without a sign. -/
def isIntegerSize (n : Int) : Bool :=
  -(Nat.pow 2 127 : Int) ≤ n && n < (Nat.pow 2 128 : Int)

/-- The words for infinity. -/
def isInfinity (text : List Char) : Bool :=
  text == ['.', 'i', 'n', 'f'] || text == ['.', 'I', 'n', 'f'] || text == ['.', 'I', 'N', 'F']

/-- The words for an undefined number. -/
def isUndefined (text : List Char) : Bool :=
  text == ['.', 'n', 'a', 'n'] || text == ['.', 'N', 'a', 'N'] || text == ['.', 'N', 'A', 'N']

/-- The text without one plus sign in front. -/
def withoutPlus : List Char → List Char
  | '+' :: cs => cs
  | cs => cs

/-- The finite number that a text with a point or an exponent stands for. -/
def finite? (text : List Char) : Option Binary64 :=
  match text with
  | '+' :: '-' :: _ => none
  | _ => (Decimal.read? (withoutPlus text)).bind Binary64.ofDecimal?

/-- The number that a text stands for, whole or not. -/
def floating? (text : List Char) : Option Floating :=
  if isInfinity (withoutPlus text) then some (.infinite false)
  else
    match text with
    | '-' :: cs =>
      if isInfinity cs then some (.infinite true) else (finite? text).map .finite
    | _ => if isUndefined text then some .undefined else (finite? text).map .finite

/-- Whether a text is digits behind a zero, after an optional sign. -/
def isZeroPaddedNumber : List Char → Bool
  | '+' :: cs => isZeroPadded cs
  | '-' :: cs => isZeroPadded cs
  | cs => isZeroPadded cs

/-- What a plain text stands for. -/
def meaning (text : List Char) : Meaning :=
  if isNull text then .null
  else
    match flag? text with
    | some value => .flag value
    | none =>
      match (integer? text).filter isIntegerSize with
      | some value => .integer value
      | none =>
        if isZeroPaddedNumber text then .text
        else
          match floating? text with
          | some value => .floating value
          | none => .text

end ControllerSynthesis.Yaml
