/-
# Characters of YAML text

The classes of characters that reading and writing YAML share. Five characters
end a line. A character is shown as it is unless it is a control character, the
byte order mark or no character of YAML at all; the tab and most line breaks
count as control characters here, though a text may hold them.

A text is read in portions of a fixed number of bytes, each when it is needed. A
portion with a character that no text may hold cannot be read, and what stands
behind it is never reached. A character is not divided: if it does not fit into
a portion, it begins the next one.

Key definitions: `Yaml.isBreak`, `Yaml.isBlank`, `Yaml.isShown`, `Yaml.isAllowed`,
`Yaml.isOpening`, `Yaml.portions`, `Yaml.readablePart`.
-/

namespace ControllerSynthesis.Yaml

/-- The line separator. -/
def lineSeparator : Char := Char.ofNat 0x2028

/-- The paragraph separator. -/
def paragraphSeparator : Char := Char.ofNat 0x2029

/-- The next line character. -/
def nextLine : Char := Char.ofNat 0x85

/-- The byte order mark. -/
def byteOrderMark : Char := Char.ofNat 0xFEFF

/-- The characters that end a line. -/
def isBreak (c : Char) : Bool :=
  c == '\n' || c == '\r' || c == nextLine || c == lineSeparator || c == paragraphSeparator

/-- The space and the tab. -/
def isBlank (c : Char) : Bool :=
  c == ' ' || c == '\t'

/-- The characters that set words apart. -/
def isGap (c : Char) : Bool :=
  isBlank c || isBreak c

/-- Whether a text is at its end, or goes on with a blank or a line break. -/
def atGap : List Char → Bool
  | [] => true
  | c :: _ => isGap c

/-- The characters that are written as they are. -/
def isShown (c : Char) : Bool :=
  c == '\n' || (0x20 ≤ c.toNat && c.toNat ≤ 0x7E) ||
  (0xA0 ≤ c.toNat && c != byteOrderMark && c.toNat != 0xFFFE && c.toNat != 0xFFFF)

/-- The characters that a text may hold. -/
def isAllowed (c : Char) : Bool :=
  isShown c || c == '\t' || c == '\r' || c == nextLine || c == byteOrderMark

/-- The characters that begin something else than a plain text. -/
def isOpening (c : Char) : Bool :=
  c == '#' || c == ',' || c == '[' || c == ']' || c == '\x7b' || c == '\x7d' || c == '&' ||
  c == '*' || c == '!' || c == '|' || c == '>' || c == '\'' || c == '"' || c == '%' ||
  c == '@' || c == '`'

/-- Whether `p` holds of a character and `q` of the one behind it, somewhere. -/
def adjacent (p q : Char → Bool) : List Char → Bool
  | a :: b :: cs => (p a && q b) || adjacent p q (b :: cs)
  | _ => false

/-! ### Portions -/

/-- The number of bytes in a portion. -/
def portionSize : Nat := 16384

/-- The portions of a text; the first has room for a number of bytes. -/
def portions : Nat → List Char → List (List Char)
  | _, [] => [[]]
  | room, c :: cs =>
    if c.utf8Size ≤ room then
      match portions (room - c.utf8Size) cs with
      | [] => [[c]]
      | first :: rest => (c :: first) :: rest
    else
      match portions (portionSize - c.utf8Size) cs with
      | [] => [[], [c]]
      | first :: rest => [] :: (c :: first) :: rest

/-- The part of a text that can be read, and whether that is all of it. -/
def readablePart (text : List Char) : List Char × Bool :=
  let good := (portions portionSize text).takeWhile fun portion => portion.all isAllowed
  (good.flatten, text.all isAllowed)

end ControllerSynthesis.Yaml
