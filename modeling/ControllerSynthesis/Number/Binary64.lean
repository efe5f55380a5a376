/-
# The finite numbers of the 64-bit binary format

A finite number of the format is a sign and `significand * 2 ^ exponent` with a
significand below `2 ^ 53` and an exponent of at least `-1074`. Rounding takes a
positive fraction to the nearest such number, halfway to the even significand;
past the largest number there is none. The shortest decimal of a number has the
fewest digits among those that round to it, and of these it is the nearest.
All of it is exact arithmetic on natural numbers.

Key definitions: `Binary64`, `Binary64.round?`, `Binary64.ofDecimal?`,
`Binary64.shortest`.
-/

namespace ControllerSynthesis

/-- A finite number of the 64-bit binary format:
`significand * 2 ^ exponent`, negated if `negative`. -/
structure Binary64 where
  negative : Bool
  significand : Nat
  exponent : Int
  deriving Repr, DecidableEq

/-- A decimal number: `digits * 10 ^ exponent`, negated if `negative`. -/
structure Decimal where
  negative : Bool
  digits : Nat
  exponent : Int
  deriving Repr, DecidableEq

/-- Where a value halfway between two neighbours goes. -/
inductive Tie where
  | toEven
  | up
  deriving Repr, DecidableEq

namespace Binary64

/-- The numerator and denominator of `n * base ^ exponent`. -/
def scaled (base n : Nat) : Int → Nat × Nat
  | .ofNat k => (n * Nat.pow base k, 1)
  | .negSucc k => (n, Nat.pow base (k + 1))

/-- The integer nearest to `num / den`. -/
def nearest (tie : Tie) (num den : Nat) : Nat :=
  let q := num / den
  let twice := 2 * (num % den)
  if twice < den then q
  else if den < twice then q + 1
  else
    match tie with
    | .toEven => if q % 2 = 0 then q else q + 1
    | .up => q + 1

/-- The exponent of the last binary place that a number of the size of
`num / den` keeps. -/
def lastPlace (num den : Nat) : Int :=
  let guess : Int := (Nat.log2 num : Int) - (Nat.log2 den : Int) - 52
  let exact :=
    match guess with
    | .ofNat k => if num < den * Nat.pow 2 k * Nat.pow 2 52 then guess - 1 else guess
    | .negSucc k => if num * Nat.pow 2 (k + 1) < den * Nat.pow 2 52 then guess - 1 else guess
  max exact (-1074)

/-- The finite number nearest to `num / den`, or nothing if it is too large. -/
def round? (negative : Bool) (num den : Nat) : Option Binary64 :=
  if num = 0 then some ⟨negative, 0, -1074⟩
  else
    let place := lastPlace num den
    let m :=
      match place with
      | .ofNat k => nearest .toEven num (den * Nat.pow 2 k)
      | .negSucc k => nearest .toEven (num * Nat.pow 2 (k + 1)) den
    let (m, place) := if m = Nat.pow 2 53 then (Nat.pow 2 52, place + 1) else (m, place)
    if 971 < place then none else some ⟨negative, m, place⟩

/-- The number as numerator and denominator, without its sign. -/
def fraction (x : Binary64) : Nat × Nat :=
  scaled 2 x.significand x.exponent

/-- The finite number nearest to a natural number, or nothing if it is too large. -/
def ofNat? (n : Nat) : Option Binary64 :=
  round? false n 1

/-- The number nearest to the product, or nothing if it is too large. -/
def mul? (x y : Binary64) : Option Binary64 :=
  round? (x.negative != y.negative) (x.fraction.1 * y.fraction.1) (x.fraction.2 * y.fraction.2)

/-- The number nearest to the quotient by a number that is not zero, or nothing
if it is too large. -/
def div? (x y : Binary64) : Option Binary64 :=
  round? (x.negative != y.negative) (x.fraction.1 * y.fraction.2) (x.fraction.2 * y.fraction.1)

/-- The number of decimal digits of `n`, for `n` with at most `fuel` of them. -/
def digitCount : Nat → Nat → Nat
  | 0, _ => 0
  | fuel + 1, n => if n < 10 then 1 else 1 + digitCount fuel (n / 10)

/-- The finite number nearest to a decimal, or nothing if it is too large. A
decimal of more than 400 places before the point is too large, and one that
starts more than 400 places behind it is zero. -/
def ofDecimal? (d : Decimal) : Option Binary64 :=
  if d.digits = 0 then some ⟨d.negative, 0, -1074⟩
  else
    let size : Int := digitCount (d.digits + 1) d.digits + d.exponent
    if 400 < size then none
    else if size < -400 then some ⟨d.negative, 0, -1074⟩
    else
      let (num, den) := scaled 10 d.digits d.exponent
      round? d.negative num den

/-- The number of decimal places before the point of `num / den`, negative when
zeros follow the point. The guess from the binary length is off by one at most. -/
def magnitude (num den : Nat) : Int :=
  let guess : Int := ((Nat.log2 num : Int) - (Nat.log2 den : Int)) * 30103 / 100000
  let reaches (k : Int) : Bool :=
    match k with
    | .ofNat k => den * Nat.pow 10 k ≤ num
    | .negSucc k => den ≤ num * Nat.pow 10 (k + 1)
  if reaches (guess + 1) then guess + 2
  else if reaches guess then guess + 1
  else if reaches (guess - 1) then guess
  else guess - 1

/-- Of the two decimals with last place `place` around `x`, the nearest that
rounds back to `x`. -/
def roundTrip? (tie : Tie) (x : Binary64) (place : Int) : Option Decimal :=
  let (num, den) := fraction x
  let (num, den) :=
    match place with
    | .ofNat k => (num, den * Nat.pow 10 k)
    | .negSucc k => (num * Nat.pow 10 (k + 1), den)
  let low := num / den
  let near := nearest tie num den
  let far := if near = low then low + 1 else low
  let back (n : Nat) : Bool := n != 0 && ofDecimal? ⟨x.negative, n, place⟩ == some x
  if back near then some ⟨x.negative, near, place⟩
  else if back far then some ⟨x.negative, far, place⟩
  else none

/-- The first of the places `first`, `first - 1`, … on which a decimal rounds
back to `x`. -/
def searchPlaces (tie : Tie) (x : Binary64) : Nat → Int → Decimal
  | 0, place => (roundTrip? tie x place).getD ⟨x.negative, 0, 0⟩
  | fuel + 1, place =>
    match roundTrip? tie x place with
    | some d => d
    | none => searchPlaces tie x fuel (place - 1)

/-- The digits of `d` without the zeros at their end; `fuel` bounds their number. -/
def withoutTrailingZeros : Nat → Decimal → Decimal
  | 0, d => d
  | fuel + 1, d =>
    if d.digits ≠ 0 ∧ d.digits % 10 = 0 then
      withoutTrailingZeros fuel ⟨d.negative, d.digits / 10, d.exponent + 1⟩
    else d

/-- The shortest decimal that rounds to `x`, and of these the nearest. -/
def shortest (x : Binary64) (tie : Tie) : Decimal :=
  if x.significand = 0 then ⟨x.negative, 0, 0⟩
  else
    let (num, den) := fraction x
    withoutTrailingZeros 400 (searchPlaces tie x 17 (magnitude num den - 1))

end Binary64

end ControllerSynthesis
