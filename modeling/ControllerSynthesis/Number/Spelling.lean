/-
# Texts of decimal numbers

Reading the usual spellings of a decimal number, and two ways to write one. The
positional text never has an exponent. The compact text has one when the first
digit stands more than sixteen places before the point or more than five behind
it. Both keep at least one place behind the point.

Key definitions: `Decimal.read?`, `Decimal.positional`, `Decimal.compact`.
-/
import ControllerSynthesis.Number.Binary64
import ControllerSynthesis.Number.Digits

namespace ControllerSynthesis.Decimal

/-- The digits with `exponent` zeros behind them, or with the point put among
them or in front of them. -/
def placed (digits : List Char) (exponent : Int) : List Char :=
  match exponent with
  | .ofNat k => digits ++ List.replicate k '0'
  | .negSucc k =>
    let behind := k + 1
    if behind < digits.length then
      digits.take (digits.length - behind) ++ '.' :: digits.drop (digits.length - behind)
    else '0' :: '.' :: List.replicate (behind - digits.length) '0' ++ digits

/-- The minus sign of a negative number. -/
def sign (d : Decimal) : List Char :=
  if d.negative then ['-'] else []

/-- The text without an exponent, and without a point for a whole number. -/
def plain (d : Decimal) : List Char :=
  if d.digits = 0 then sign d ++ ['0'] else sign d ++ placed (Digits.ofNat 10 d.digits) d.exponent

/-- Text with `.0` behind it unless it has a point. -/
def withPoint (text : List Char) : List Char :=
  if '.' ∈ text then text else text ++ ['.', '0']

/-- The text without an exponent. -/
def positional (d : Decimal) : List Char :=
  withPoint (plain d)

/-- The text with an exponent when the number is very large or very small. -/
def compact (d : Decimal) : List Char :=
  let digits := Digits.ofNat 10 d.digits
  let first : Int := d.exponent + digits.length - 1
  if d.digits = 0 ∨ (-5 ≤ first ∧ first < 16) then positional d
  else
    let mantissa :=
      match digits with
      | [c] => [c]
      | c :: cs => c :: '.' :: cs
      | [] => []
    let power :=
      match first with
      | .ofNat n => '+' :: Digits.ofNat 10 n
      | .negSucc n => '-' :: Digits.ofNat 10 (n + 1)
    sign d ++ mantissa ++ 'e' :: power

/-- The exponent in a spelling: a mark, an optional sign and digits. -/
def readExponent? : List Char → Option Int
  | [] => some 0
  | c :: cs =>
    if c = 'e' ∨ c = 'E' then
      match cs with
      | '+' :: cs => (Digits.toNat? 10 cs).map Int.ofNat
      | '-' :: cs => (Digits.toNat? 10 cs).map fun n => -(n : Int)
      | cs => (Digits.toNat? 10 cs).map Int.ofNat
    else none

/-- The number with `whole` before the point and the rest of its spelling after
the whole part. -/
def readFraction? (negative : Bool) (whole : List Char) (rest : List Char) : Option Decimal :=
  let (behind, rest) :=
    match rest with
    | '.' :: cs => (cs.takeWhile Digits.isDecimal, cs.dropWhile Digits.isDecimal)
    | cs => ([], cs)
  match Digits.toNat? 10 (whole ++ behind), readExponent? rest with
  | some digits, some exponent => some ⟨negative, digits, exponent - behind.length⟩
  | _, _ => none

/-- The number that a text spells: an optional minus sign, digits with a point
before, among or after them, and an optional exponent. -/
def read? : List Char → Option Decimal
  | '-' :: cs => readFraction? true (cs.takeWhile Digits.isDecimal) (cs.dropWhile Digits.isDecimal)
  | cs => readFraction? false (cs.takeWhile Digits.isDecimal) (cs.dropWhile Digits.isDecimal)

end ControllerSynthesis.Decimal
