/-
# Characters with their place

Where a character stands decides what it is: the column at which a line begins
makes the structure of a document. So a text is read as a list of characters
with their places, and every part of it knows where it is. The ways to end a
line are one here, the line feed, except for the line and paragraph separators.

Key definitions: `Yaml.Place`, `Yaml.Located`, `Yaml.locate`, `Yaml.finish`.
-/
import ControllerSynthesis.Yaml.Characters

namespace ControllerSynthesis.Yaml

/-- A place in a text: the number of bytes before it, of lines before it, and of
characters before it on its line. -/
structure Place where
  index : Nat := 0
  line : Nat := 0
  column : Nat := 0
  deriving Repr, DecidableEq

/-- A character with its place. -/
structure Located where
  char : Char
  place : Place
  deriving Repr, DecidableEq

namespace Place

/-- The place behind a character of `width` bytes that does not end the line. -/
def next (p : Place) (width : Nat) : Place :=
  ⟨p.index + width, p.line, p.column + 1⟩

/-- The place behind the end of the line, which is `width` bytes long. -/
def nextLine (p : Place) (width : Nat) : Place :=
  ⟨p.index + width, p.line + 1, 0⟩

end Place

/-- The line separator and the paragraph separator stay as they are; the other
ends of a line are line feeds. -/
def lineFeedFor (c : Char) : Char :=
  if c == lineSeparator || c == paragraphSeparator then c else '\n'

/-- The characters of a text with their places, from a place on. -/
def locate : Place → List Char → List Located
  | _, [] => []
  | p, '\r' :: '\n' :: cs => ⟨'\n', p⟩ :: locate (p.nextLine 2) cs
  | p, c :: cs =>
    if isBreak c then ⟨lineFeedFor c, p⟩ :: locate (p.nextLine c.utf8Size) cs
    else ⟨c, p⟩ :: locate (p.next c.utf8Size) cs

/-- The place behind a text that begins at a place. -/
def finish : Place → List Char → Place
  | p, [] => p
  | p, '\r' :: '\n' :: cs => finish (p.nextLine 2) cs
  | p, c :: cs =>
    if isBreak c then finish (p.nextLine c.utf8Size) cs else finish (p.next c.utf8Size) cs

namespace Located

/-- Whether the character stands at the start of a line. -/
def startsLine (c : Located) : Bool :=
  c.place.column == 0

end Located

/-- The characters without their places. -/
def characters (text : List Located) : List Char :=
  text.map Located.char

/-- Whether a text goes on with a character. -/
def continuesWith (c : Char) : List Located → Bool
  | [] => false
  | d :: _ => d.char == c

/-- Whether a text is at its end, or goes on with a blank or a line break. -/
def atLocatedGap : List Located → Bool
  | [] => true
  | c :: _ => isGap c.char

/-- Whether the mark of three such characters stands here, at the start of a
line and with a gap behind it. -/
def atMark (mark : Char) : List Located → Bool
  | a :: b :: c :: rest =>
    a.startsLine && a.char == mark && b.char == mark && c.char == mark && atLocatedGap rest
  | _ => false

/-- Whether the mark that begins or ends a document stands here. -/
def atDocumentMark (text : List Located) : Bool :=
  atMark '-' text || atMark '.' text

end ControllerSynthesis.Yaml
