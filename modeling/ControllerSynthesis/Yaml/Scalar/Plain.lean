/-
# Reading plain scalars

A plain scalar goes on over blanks and line breaks until something ends it: a
colon before a gap, a number sign behind one, a line that is indented too
little, the mark of a document, or, inside brackets, a comma or a bracket.

Key definitions: `Yaml.readPlain`.
-/
import ControllerSynthesis.Yaml.Gap
import ControllerSynthesis.Yaml.Located

namespace ControllerSynthesis.Yaml

/-- A plain scalar that was read: its text, whether a line ended behind it, and
what follows. -/
structure PlainScalar where
  text : List Char
  broken : Bool
  rest : List Located

/-- The brackets and the comma, which end a plain scalar inside brackets. -/
def isFlowIndicator (c : Char) : Bool :=
  c == ',' || c == '[' || c == ']' || c == '\x7b' || c == '\x7d'

/-- Whether a plain scalar cannot go on to the next word. -/
def stopsWord (flow : Bool) (limit : Nat) (text : List Located) : Bool :=
  match text with
  | [] => true
  | c :: _ => (!flow && c.place.column < limit) || atDocumentMark text || c.char == '#'

/-- Whether a plain scalar cannot go on with the next character. -/
def stopsHere (flow : Bool) : List Located → Bool
  | [] => true
  | c :: rest => (c.char == ':' && atLocatedGap rest) || (flow && isFlowIndicator c.char)

/-- Whether a colon stands inside brackets where it means nothing. -/
def hasLostColon (flow : Bool) : List Located → Bool
  | c :: d :: _ => flow && c.char == ':' && (d.char == '?' || isFlowIndicator d.char)
  | _ => false

/-- The rest of a plain scalar of which `done` and `gap` were read, the latest
first; inside brackets if `flow`, else with its lines indented up to `limit` at
least. There is none if a tab indents a line or a colon is lost. -/
def readPlain (flow : Bool) (limit : Nat) (done : List Char) (gap : Gap) :
    List Located → Option PlainScalar
  | [] => some ⟨done.reverse, gap.isBroken, []⟩
  | c :: rest =>
    if isGap c.char then
      if gap.isBroken && c.char == '\t' && c.place.column < limit then none
      else readPlain flow limit done (gap.extend c.char) rest
    else if gap ≠ .nothing ∧ stopsWord flow limit (c :: rest) then
      some ⟨done.reverse, gap.isBroken, c :: rest⟩
    else if hasLostColon flow (c :: rest) then none
    else if stopsHere flow (c :: rest) then some ⟨done.reverse, gap.isBroken, c :: rest⟩
    else readPlain flow limit (c.char :: gap.text.reverse ++ done) .nothing rest

end ControllerSynthesis.Yaml
