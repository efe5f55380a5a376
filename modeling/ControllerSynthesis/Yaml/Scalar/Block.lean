/-
# Reading block scalars

A block scalar is a header and the lines indented below it. The header may give
the width of the indentation, else the first line that is not empty shows it,
and it says what happens to the line breaks at the end: they are dropped, one is
kept, or all are. A literal scalar keeps its line breaks. A folded one joins its
lines as words are joined, except for lines that begin with a blank.

Key definitions: `Yaml.readBlock`.
-/
import ControllerSynthesis.Number.Digits
import ControllerSynthesis.Yaml.Located

namespace ControllerSynthesis.Yaml

/-- What happens to the line breaks at the end. -/
inductive Chomping where
  | strip
  | clip
  | keep
  deriving Repr, DecidableEq

/-- The header of a block scalar: the width of the indentation, if given, and
what happens at the end. -/
structure BlockHeader where
  width : Option Nat := none
  chomping : Chomping := .clip
  deriving Repr, DecidableEq

/-- The way to treat the end that a character of the header stands for. -/
def chomping? (c : Char) : Option Chomping :=
  if c = '-' then some .strip else if c = '+' then some .keep else none

/-- The width of the indentation that a character of the header stands for. -/
def width? (c : Char) : Option Nat :=
  if Digits.isDecimal c then some (Digits.decimal c) else none

/-- The marks of a header, in either order, and what follows them. A width of
zero is refused. -/
def blockMarks? (text : List Located) : Option (BlockHeader × List Located) :=
  let (header, rest) : BlockHeader × List Located :=
    match text with
    | [] => ({}, [])
    | c :: rest =>
      match chomping? c.char, width? c.char with
      | some chomping, _ =>
        match rest with
        | d :: rest' =>
          match width? d.char with
          | some width => (⟨some width, chomping⟩, rest')
          | none => (⟨none, chomping⟩, rest)
        | [] => (⟨none, chomping⟩, [])
      | none, some width =>
        match rest with
        | d :: rest' =>
          match chomping? d.char with
          | some chomping => (⟨some width, chomping⟩, rest')
          | none => (⟨some width, .clip⟩, rest)
        | [] => (⟨some width, .clip⟩, [])
      | none, none => ({}, text)
  if header.width = some 0 then none else some (header, rest)

/-- Text without the blanks at its start. -/
def dropBlanks (text : List Located) : List Located :=
  text.dropWhile fun c => isBlank c.char

/-- Text from the end of its first line on. -/
def dropLine (text : List Located) : List Located :=
  text.dropWhile fun c => !isBreak c.char

/-- What follows the line on which only blanks and a comment may stand. -/
def restOfLine? (text : List Located) : Option (List Located) :=
  let text := dropBlanks text
  let text := if continuesWith '#' text then dropLine text else text
  match text with
  | [] => some []
  | c :: rest => if isBreak c.char then some rest else none

/-- The widest indentation in front of the first line that is not empty, with
`width` the widest so far. There is none if a tab stands in it. -/
def widest? (width : Nat) : List Located → Option Nat
  | [] => some width
  | c :: rest =>
    if c.char = ' ' then widest? width rest
    else if c.char = '\t' then none
    else if isBreak c.char then widest? (max width c.place.column) rest
    else some (max width c.place.column)

/-- A line of a block scalar: its text, and the line breaks behind it. -/
structure BlockLine where
  text : List Char
  breaks : List Char
  deriving Repr, DecidableEq

/-- The lines of a block scalar indented up to `column`, and what follows them.
`done` are the lines before, the latest first, of which the first is an empty
one; `inside` says whether the text is in the middle of a line. -/
def blockLines (column : Nat) (inside : Bool) (line : BlockLine) (done : List BlockLine) :
    List Located → Option (List BlockLine × List Located)
  | [] => some ((line :: done).reverse, [])
  | c :: rest =>
    if isBreak c.char then
      blockLines column false { line with breaks := line.breaks ++ [c.char] } done rest
    else if inside then
      blockLines column true { line with text := line.text ++ [c.char] } done rest
    else if c.place.column = column then
      blockLines column true ⟨[c.char], []⟩ (line :: done) rest
    else if c.char = ' ' ∧ c.place.column < column then blockLines column false line done rest
    else if c.char = '\t' ∧ c.place.column < column then none
    else some ((line :: done).reverse, c :: rest)

/-- Whether a line begins with a blank. -/
def beginsBlank (line : List Char) : Bool :=
  line.head?.any isBlank

/-- The line breaks between two lines, joined if the lines are. -/
def between (folded : Bool) (line next : BlockLine) : List Char :=
  match line.breaks with
  | '\n' :: more =>
    if folded && !line.text.isEmpty && !beginsBlank line.text && !beginsBlank next.text then
      (if more.isEmpty then [' '] else more)
    else line.breaks
  | breaks => breaks

/-- What is left of the line breaks at the end, behind a line with text or
behind none. -/
def chomped (chomping : Chomping) (line : BlockLine) : List Char :=
  match chomping with
  | .strip => []
  | .clip => if line.text.isEmpty then [] else line.breaks.take 1
  | .keep => line.breaks

/-- The text of the lines of a block scalar. -/
def joinLines (folded : Bool) (chomping : Chomping) : List BlockLine → List Char
  | [] => []
  | [line] => line.text ++ chomped chomping line
  | line :: next :: lines =>
    line.text ++ between folded line next ++ joinLines folded chomping (next :: lines)

/-- A block scalar behind its bar or its angle, below an indentation of `parent`
columns or below none, and what follows it. -/
def readBlock (folded : Bool) (parent : Option Nat) (text : List Located) :
    Option (List Char × List Located) := do
  let (header, rest) ← blockMarks? text
  let rest ← restOfLine? rest
  let column ←
    match header.width with
    | some width => some (parent.getD 0 + width)
    | none => (widest? 0 rest).map fun width => max width (max (parent.elim 0 (· + 1)) 1)
  let (lines, rest) ← blockLines column false ⟨[], []⟩ [] rest
  return (joinLines folded header.chomping lines, rest)

end ControllerSynthesis.Yaml
