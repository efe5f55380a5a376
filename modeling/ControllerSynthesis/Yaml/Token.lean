/-
# Tokens

The tokens that a text consists of. Some are not marked by any character: a
block begins when the indentation grows and ends when it shrinks, and a key may
be known as one only by the colon behind it.

Key definitions: `Yaml.Token`, `Yaml.Form`, `Yaml.Tag`.
-/

namespace ControllerSynthesis.Yaml

/-- How a scalar stands in the text. -/
inductive Form where
  /-- Without any mark. -/
  | plain
  /-- Line by line, as it is. -/
  | literal
  /-- Between quotes, or with its lines joined. -/
  | marked
  deriving Repr, DecidableEq

/-- A tag as it stands in the text: a handle, which stands for something in front,
or nothing, and the rest, in bytes. -/
structure Tag where
  handle : List Char
  suffix : List UInt8
  deriving Repr, DecidableEq

/-- A token of a text. -/
inductive Token where
  | versionDirective (major minor : Nat)
  | tagDirective (handle : List Char) (replacement : List UInt8)
  | documentStart
  | documentEnd
  | streamEnd
  | blockSequenceStart
  | blockMappingStart
  | blockEnd
  | flowSequenceStart
  | flowSequenceEnd
  | flowMappingStart
  | flowMappingEnd
  | blockEntry
  | flowEntry
  | key
  | value
  | alias (name : List Char)
  | anchor (name : List Char)
  | tag (tag : Tag)
  | scalar (form : Form) (text : List Char)
  deriving Repr, DecidableEq

end ControllerSynthesis.Yaml
