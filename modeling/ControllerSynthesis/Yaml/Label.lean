/-
# Reading anchors, tags and directives

The names of anchors and the handles of tags are letters, digits, hyphens and
underscores. A tag is an address: whole between angle brackets, or behind a
handle. An address consists of bytes, and those that are no character of it are
written by their values; one of the value zero ends it. A directive stands on a
line of its own.

Key definitions: `Yaml.readAnchor`, `Yaml.readTag`, `Yaml.readDirective`.
-/
import ControllerSynthesis.Yaml.Scalar.Block
import ControllerSynthesis.Yaml.Token

namespace ControllerSynthesis.Yaml

/-- The characters of names. -/
def isNameChar (c : Char) : Bool :=
  ('0' ≤ c && c ≤ '9') || ('A' ≤ c && c ≤ 'Z') || ('a' ≤ c && c ≤ 'z') || c == '_' || c == '-'

/-- The name at the start of a text, and what follows it. -/
def takeName (text : List Located) : List Char × List Located :=
  (characters (text.takeWhile fun c => isNameChar c.char), text.dropWhile fun c => isNameChar c.char)

/-- Whether the name of an anchor may end in front of a character. -/
def endsAnchor (c : Char) : Bool :=
  c == '?' || c == ':' || c == ',' || c == ']' || c == '\x7d' || c == '%' || c == '@' || c == '`'

/-- The name of an anchor behind its mark, and what follows it. -/
def readAnchor (text : List Located) : Option (List Char × List Located) :=
  let (name, rest) := takeName text
  let ends :=
    match rest with
    | [] => true
    | c :: _ => isGap c.char || endsAnchor c.char
  if !name.isEmpty && ends then some (name, rest) else none

/-- The characters of addresses besides those of names; commas and square
brackets only in a whole address. -/
def isAddressChar (whole : Bool) (c : Char) : Bool :=
  isNameChar c || c == ';' || c == '/' || c == '?' || c == ':' || c == '@' || c == '&' ||
  c == '=' || c == '+' || c == '$' || c == '.' || c == '!' || c == '~' || c == '*' ||
  c == '\'' || c == '(' || c == ')' || (whole && (c == ',' || c == '[' || c == ']'))

/-- The byte that an escape of an address stands for, and what follows it. -/
def escapedByte? : List Located → Option (UInt8 × List Located)
  | p :: a :: b :: rest =>
    if p.char = '%' then (Digits.toNat? 16 [a.char, b.char]).map (UInt8.ofNat ·, rest) else none
  | _ => none

/-- The bytes behind the first one of a character, `count` of them, and what
follows them. -/
def moreBytes? : Nat → List Located → Option (List UInt8 × List Located)
  | 0, text => some ([], text)
  | count + 1, text => do
    let (byte, rest) ← escapedByte? text
    if 0x80 ≤ byte ∧ byte < 0xC0 then
      let (bytes, rest) ← moreBytes? count rest
      return (byte :: bytes, rest)
    else none

/-- The bytes that escapes stand for, as many as the first one says, and what
follows them. They need not be the bytes of any character. -/
def escapedBytes? (text : List Located) : Option (List UInt8 × List Located) := do
  let (byte, rest) ← escapedByte? text
  let count ←
    if byte < 0x80 then some 0
    else if byte < 0xC0 then none
    else if byte < 0xE0 then some 1
    else if byte < 0xF0 then some 2
    else if byte < 0xF8 then some 3
    else none
  let (bytes, rest) ← moreBytes? count rest
  return (byte :: bytes, rest)

/-- The address at the start of a text, and what follows it; `fuel` bounds its
length. -/
def readAddress (whole : Bool) : Nat → List Located → Option (List UInt8 × List Located)
  | 0, text => some ([], text)
  | _, [] => some ([], [])
  | fuel + 1, c :: rest =>
    if c.char = '%' then do
      let (bytes, rest) ← escapedBytes? (c :: rest)
      let (more, rest) ← readAddress whole fuel rest
      return (bytes ++ more, rest)
    else if isAddressChar whole c.char then do
      let (more, rest) ← readAddress whole fuel rest
      return (c.char.toUInt8 :: more, rest)
    else some ([], c :: rest)

/-- An address up to the first zero. -/
def beforeZero (address : List UInt8) : List UInt8 :=
  address.takeWhile (· ≠ 0)

/-- The handle at the start of a text with its marks, and what follows it. -/
def takeHandle (text : List Located) : List Char × List Located :=
  match text with
  | [] => ([], [])
  | mark :: rest =>
    let (name, rest) := takeName rest
    match rest with
    | c :: rest' => if c.char = '!' then (mark.char :: name ++ ['!'], rest') else (mark.char :: name, rest)
    | [] => (mark.char :: name, [])

/-- Whether a handle is more than the mark alone and has one at its end. -/
def isNamedHandle (handle : List Char) : Bool :=
  1 < handle.length && handle.getLast? == some '!'

/-- The tag that is a mark alone. -/
def Tag.bare : Tag :=
  ⟨[], ['!'.toUInt8]⟩

/-- A tag at its mark, and what follows it, without a look at that. -/
def takeTag (text : List Located) : Option (Tag × List Located) :=
  match text with
  | _ :: ⟨'<', _⟩ :: rest => do
    let (address, rest) ← readAddress true rest.length rest
    if address.isEmpty then none
    else
      match rest with
      | ⟨'>', _⟩ :: rest => return (⟨[], beforeZero address⟩, rest)
      | _ => none
  | _ => do
    let (handle, rest) := takeHandle text
    let (suffix, rest) ← readAddress false rest.length rest
    if isNamedHandle handle then
      if suffix.isEmpty then none else return (⟨handle, beforeZero suffix⟩, rest)
    else
      let suffix := beforeZero (handle.tail.map Char.toUInt8 ++ suffix)
      return (if suffix.isEmpty then Tag.bare else ⟨['!'], suffix⟩, rest)

/-- A tag at its mark, and what follows it: a gap, or a comma inside brackets. -/
def readTag (flow : Bool) (text : List Located) : Option (Tag × List Located) := do
  let (tag, rest) ← takeTag text
  if atLocatedGap rest || (flow && continuesWith ',' rest) then return (tag, rest) else none

/-- A number of at most nine digits, and what follows it. -/
def readNumber (text : List Located) : Option (Nat × List Located) := do
  let digits := text.takeWhile fun c => Digits.isDecimal c.char
  if 9 < digits.length then none
  else return (← Digits.toNat? 10 (characters digits), text.drop digits.length)

/-- The version in a directive, and what follows it. -/
def readVersion (text : List Located) : Option (Token × List Located) := do
  let (major, rest) ← readNumber (dropBlanks text)
  match rest with
  | ⟨'.', _⟩ :: rest =>
    let (minor, rest) ← readNumber rest
    return (.versionDirective major minor, rest)
  | _ => none

/-- The handle in a directive and what it stands for, and what follows them. -/
def readReplacement (text : List Located) : Option (Token × List Located) := do
  let text := dropBlanks text
  if !continuesWith '!' text then none
  let (handle, rest) := takeHandle text
  if handle ≠ ['!'] ∧ !isNamedHandle handle then none
  match rest with
  | [] => none
  | c :: _ =>
    if !isBlank c.char then none
    else
      let rest := dropBlanks rest
      let (replacement, rest) ← readAddress true rest.length rest
      if replacement.isEmpty || !atLocatedGap rest then none
      else return (.tagDirective handle (beforeZero replacement), rest)

/-- A directive behind its mark, and what follows its line. -/
def readDirective (text : List Located) : Option (Token × List Located) := do
  let (name, rest) := takeName text
  if !atLocatedGap rest then none
  let (token, rest) ←
    if name = ['Y', 'A', 'M', 'L'] then readVersion rest
    else if name = ['T', 'A', 'G'] then readReplacement rest
    else none
  return (token, ← restOfLine? rest)

end ControllerSynthesis.Yaml
