/-
# Numbers in positional notation

Writing a natural number or an integer in a base, and reading digits back.
Digits above nine are letters, in either case when read and in the case asked
for when written.

Key definitions: `Digits.ofNat`, `Digits.ofInt`, `Digits.value?`,
`Digits.toNat?`.
-/

namespace ControllerSynthesis.Digits

/-- The digit of value `n`, for `n < 36`; letters are lower case. -/
def char (n : Nat) : Char :=
  if n < 10 then Char.ofNat (48 + n) else Char.ofNat (87 + n)

/-- The value of a digit, whatever the base: `0`–`9`, then `a`–`z` or `A`–`Z`. -/
def value? (c : Char) : Option Nat :=
  if '0' ≤ c ∧ c ≤ '9' then some (c.toNat - 48)
  else if 'a' ≤ c ∧ c ≤ 'z' then some (c.toNat - 87)
  else if 'A' ≤ c ∧ c ≤ 'Z' then some (c.toNat - 55)
  else none

/-- Whether `c` is one of the ten decimal digits. -/
def isDecimal (c : Char) : Bool :=
  '0' ≤ c && c ≤ '9'

/-- The value of a decimal digit. -/
def decimal (c : Char) : Nat :=
  c.toNat - 48

/-- The digits of `n` in base `base`, most significant first, in front of
`rest`; `fuel` bounds their number. -/
def push (base : Nat) : Nat → Nat → List Char → List Char
  | 0, _, rest => rest
  | fuel + 1, n, rest =>
    if n < base then char n :: rest
    else push base fuel (n / base) (char (n % base) :: rest)

/-- The digits of `n` in base `base`, without leading zeros. -/
def ofNat (base n : Nat) : List Char :=
  push base (n + 1) n []

/-- The decimal digits of an integer, after a minus sign if it is negative. -/
def ofInt : Int → List Char
  | .ofNat n => ofNat 10 n
  | .negSucc n => '-' :: ofNat 10 (n + 1)

/-- The decimal text of an integer. -/
def text (n : Int) : String :=
  String.ofList (ofInt n)

/-- The value of digits in base `base`, read after digits worth `value`. -/
def fold? (base : Nat) : Nat → List Char → Option Nat
  | value, [] => some value
  | value, c :: cs =>
    match value? c with
    | some d => if d < base then fold? base (value * base + d) cs else none
    | none => none

/-- The value of a non-empty run of digits in base `base`. -/
def toNat? (base : Nat) : List Char → Option Nat
  | [] => none
  | c :: cs => fold? base 0 (c :: cs)

/-- Digits after an optional sign: `+` and `-` are both taken. -/
def toInt? (base : Nat) : List Char → Option Int
  | '+' :: cs => (toNat? base cs).map Int.ofNat
  | '-' :: cs => (toNat? base cs).map fun n => -(n : Int)
  | cs => (toNat? base cs).map Int.ofNat

/-- `n` in base `base` with leading zeros up to `width` digits. -/
def padded (base width n : Nat) : List Char :=
  let digits := ofNat base n
  List.replicate (width - digits.length) '0' ++ digits

end ControllerSynthesis.Digits
