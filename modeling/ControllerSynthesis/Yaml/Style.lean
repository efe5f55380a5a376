/-
# How a text is written

There are four ways to write a text. Plain is the shortest, but only for text
that reads back as the same text: not when it means something else, begins like
another construct, or holds a character that ends it. Between single quotes a
quote is doubled and everything else stands as it is. A text with line feeds is
written line by line. Between double quotes every character can be written, by
an escape if need be.

Key definitions: `Yaml.Style`, `Yaml.style`.
-/
import ControllerSynthesis.Yaml.Characters
import ControllerSynthesis.Yaml.Meaning

namespace ControllerSynthesis.Yaml

/-- The ways to write a text. -/
inductive Style where
  | plain
  | singleQuoted
  | doubleQuoted
  | literal
  deriving Repr, DecidableEq

/-- Whether a text begins with the mark that begins or ends a document. -/
def beginsLikeMark : List Char → Bool
  | '-' :: '-' :: '-' :: _ => true
  | '.' :: '.' :: '.' :: _ => true
  | _ => false

/-- The characters that begin something else if a gap follows. -/
def isOpeningBeforeGap (c : Char) : Bool :=
  c == '?' || c == ':' || c == '-'

/-- Whether a text begins like something else than a plain text. -/
def beginsOtherwise : List Char → Bool
  | [] => false
  | c :: cs => isOpening c || (isOpeningBeforeGap c && atGap cs)

/-- Whether a colon before a gap or a number sign behind one stands in the text
behind a character. -/
def breaksOff : Char → List Char → Bool
  | _, [] => false
  | before, c :: cs =>
    (c == ':' && atGap cs) || (c == '#' && isGap before) || breaksOff c cs

/-- Whether a plain text would be taken for something else in a block. -/
def isIndicated (text : List Char) : Bool :=
  beginsLikeMark text || beginsOtherwise text ||
  match text with
  | [] => false
  | c :: cs => breaksOff c cs

/-- Whether the last character of a text has a property. -/
def endsWith (p : Char → Bool) (text : List Char) : Bool :=
  text.getLast?.any p

/-- Whether the first character of a text has a property. -/
def beginsWith (p : Char → Bool) (text : List Char) : Bool :=
  text.head?.any p

/-- The space alone, without the tab. -/
def isSpace (c : Char) : Bool :=
  c == ' '

/-- Whether all characters of a text can be written as they are, with no space
before a line break. -/
def isClean (text : List Char) : Bool :=
  text.all isShown && !adjacent isSpace isBreak text

/-- Whether a text may be written between single quotes. -/
def allowsSingleQuotes (text : List Char) : Bool :=
  isClean text && !adjacent isBreak isSpace text

/-- Whether a text may be written line by line. -/
def allowsLines (text : List Char) : Bool :=
  isClean text && !endsWith isSpace text

/-- Whether a text may be written plain. -/
def allowsPlain (text : List Char) : Bool :=
  text.all isShown && !text.any isBreak && !beginsWith isSpace text && !endsWith isSpace text &&
  !isIndicated text

/-- Whether a plain text reads back as text. -/
def isPlainText (text : List Char) : Bool :=
  meaning text == .text && !isZeroPaddedNumber text

/-- The style in which a text is written. -/
def style (text : List Char) : Style :=
  if text.contains '\n' then
    if allowsLines text then .literal else .doubleQuoted
  else if isPlainText text && allowsPlain text then .plain
  else if allowsSingleQuotes text then .singleQuoted
  else .doubleQuoted

end ControllerSynthesis.Yaml
