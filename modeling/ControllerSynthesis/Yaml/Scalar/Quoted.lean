/-
# Reading quoted scalars

Between single quotes a doubled quote stands for one. Between double quotes a
backslash begins an escape, or joins the next line. Both go on over line breaks,
but not over the mark of a document.

Key definitions: `Yaml.readSingleQuoted`, `Yaml.readDoubleQuoted`.
-/
import ControllerSynthesis.Number.Digits
import ControllerSynthesis.Yaml.Gap
import ControllerSynthesis.Yaml.Located

namespace ControllerSynthesis.Yaml

/-- The rest of a scalar between single quotes of which `done` and `gap` were
read, the latest first, and what follows the closing quote. -/
def readSingleQuoted (done : List Char) (gap : Gap) :
    List Located → Option (List Char × List Located)
  | [] => none
  | c :: rest =>
    if isGap c.char then readSingleQuoted done (gap.extend c.char) rest
    else if atDocumentMark (c :: rest) then none
    else if c.char = '\'' then
      match rest with
      | [] => some ((gap.text.reverse ++ done).reverse, [])
      | d :: rest =>
        if d.char = '\'' then readSingleQuoted ('\'' :: gap.text.reverse ++ done) .nothing rest
        else some ((gap.text.reverse ++ done).reverse, d :: rest)
    else readSingleQuoted (c.char :: gap.text.reverse ++ done) .nothing rest

/-- The character that an escape of one character stands for. -/
def shortEscape? (c : Char) : Option Char :=
  if c = '0' then some (Char.ofNat 0)
  else if c = 'a' then some (Char.ofNat 7)
  else if c = 'b' then some (Char.ofNat 8)
  else if c = 't' ∨ c = '\t' then some '\t'
  else if c = 'n' then some '\n'
  else if c = 'v' then some (Char.ofNat 11)
  else if c = 'f' then some (Char.ofNat 12)
  else if c = 'r' then some '\r'
  else if c = 'e' then some (Char.ofNat 27)
  else if c = ' ' ∨ c = '"' ∨ c = '/' ∨ c = '\\' then some c
  else if c = 'N' then some nextLine
  else if c = '_' then some (Char.ofNat 0xA0)
  else if c = 'L' then some lineSeparator
  else if c = 'P' then some paragraphSeparator
  else none

/-- The number of digits of an escape by code point. -/
def escapeWidth? (c : Char) : Option Nat :=
  if c = 'x' then some 2 else if c = 'u' then some 4 else if c = 'U' then some 8 else none

/-- The character with a code point, if there is one. -/
def codePoint? (n : Nat) : Option Char :=
  if n < 0xD800 ∨ (0xDFFF < n ∧ n ≤ 0x10FFFF) then some (Char.ofNat n) else none

/-- The character that an escape stands for, whose first character behind the
backslash is `c`, and the number of characters it takes behind that. -/
def escape? (c : Char) (rest : List Located) : Option (Char × Nat) :=
  match shortEscape? c with
  | some d => some (d, 0)
  | none => do
    let width ← escapeWidth? c
    let digits := characters (rest.take width)
    if digits.length = width then return (← codePoint? (← Digits.toNat? 16 digits), width) else none

/-- The rest of a scalar between double quotes of which `done` and `gap` were
read, the latest first, and what follows the closing quote. -/
def readDoubleQuoted (done : List Char) (gap : Gap) (text : List Located) :
    Option (List Char × List Located) :=
  match text with
  | [] => none
  | c :: rest =>
    if isGap c.char then readDoubleQuoted done (gap.extend c.char) rest
    else if atDocumentMark (c :: rest) then none
    else if c.char = '"' then some ((gap.text.reverse ++ done).reverse, rest)
    else if c.char = '\\' then
      match rest with
      | [] => none
      | d :: rest =>
        if isBreak d.char then readDoubleQuoted (gap.text.reverse ++ done) (.escaped []) rest
        else
          match escape? d.char rest with
          | none => none
          | some (e, width) =>
            readDoubleQuoted (e :: gap.text.reverse ++ done) .nothing (rest.drop width)
    else readDoubleQuoted (c.char :: gap.text.reverse ++ done) .nothing rest
termination_by text.length
decreasing_by all_goals simp; try omega

end ControllerSynthesis.Yaml
