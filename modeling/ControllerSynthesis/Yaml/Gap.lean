/-
# Gaps between words

Between two words of a plain or quoted text stand blanks and line breaks.
Without a line break the blanks are part of the text. A single line feed stands
for a space; of several the first is dropped and the others stay. Blanks around
a line break do not count. After an escaped line break nothing is dropped but
the break itself.

Key definitions: `Yaml.Gap`, `Yaml.Gap.extend`, `Yaml.Gap.text`.
-/
import ControllerSynthesis.Yaml.Characters

namespace ControllerSynthesis.Yaml

/-- What was read between two words, the latest first. -/
inductive Gap where
  | nothing
  | blanks (seen : List Char)
  | folded (first : Char) (more : List Char)
  | escaped (breaks : List Char)
  deriving Repr, DecidableEq

namespace Gap

/-- The gap with another blank or line break behind it. -/
def extend (c : Char) : Gap → Gap
  | nothing => if isBreak c then folded c [] else blanks [c]
  | blanks seen => if isBreak c then folded c [] else blanks (c :: seen)
  | folded first more => if isBreak c then folded first (c :: more) else folded first more
  | escaped breaks => if isBreak c then escaped (c :: breaks) else escaped breaks

/-- What the gap stands for in the text. -/
def text : Gap → List Char
  | nothing => []
  | blanks seen => seen.reverse
  | folded first more =>
    if first = '\n' then (if more.isEmpty then [' '] else more.reverse) else first :: more.reverse
  | escaped breaks => breaks.reverse

/-- Whether the gap goes over the end of a line. -/
def isBroken : Gap → Bool
  | folded _ _ => true
  | escaped _ => true
  | _ => false

end Gap

end ControllerSynthesis.Yaml
