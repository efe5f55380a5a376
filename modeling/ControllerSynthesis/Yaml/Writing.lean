/-
# Writing YAML text

The YAML document of a value, in block form: an entry or an item per line,
nested mappings indented by two columns, lists level with the key above them.
Only an empty list or mapping is written with brackets. A key that is long or
has a line break stands behind a question mark, and its value behind a colon on
a line of its own.

Every value ends its line, so documents are joined by the mark alone.

Key definitions: `Yaml.writeText`, `Yaml.write`, `Yaml.writeStream`.
-/
import ControllerSynthesis.Json.Value
import ControllerSynthesis.Yaml.Style

namespace ControllerSynthesis.Yaml

/-- Spaces up to a column. -/
def pad (column : Nat) : List Char :=
  List.replicate column ' '

/-- A digit of an escape; letters are upper case. -/
def upper (c : Char) : Char :=
  if 'a' ≤ c ∧ c ≤ 'f' then Char.ofNat (c.toNat - 32) else c

/-- The escape of a character by its code point. -/
def codeEscape (c : Char) : List Char :=
  let digits (width : Nat) := (Digits.padded 16 width c.toNat).map upper
  if c.toNat ≤ 0xFF then 'x' :: digits 2
  else if c.toNat ≤ 0xFFFF then 'u' :: digits 4
  else 'U' :: digits 8

/-- What stands behind the backslash for a character. -/
def escape (c : Char) : List Char :=
  if c = '"' then ['"']
  else if c = '\\' then ['\\']
  else if c = '\n' then ['n']
  else if c = '\r' then ['r']
  else if c = '\t' then ['t']
  else if c.toNat = 0 then ['0']
  else if c.toNat = 7 then ['a']
  else if c.toNat = 8 then ['b']
  else if c.toNat = 11 then ['v']
  else if c.toNat = 12 then ['f']
  else if c.toNat = 27 then ['e']
  else if c = nextLine then ['N']
  else if c = lineSeparator then ['L']
  else if c = paragraphSeparator then ['P']
  else codeEscape c

/-- A character between double quotes. -/
def doubleQuotedChar (c : Char) : List Char :=
  if isShown c && !isBreak c && c != '"' && c != '\\' then [c] else '\\' :: escape c

/-- A text in which each line after the first starts at a column, empty lines
apart; `fresh` says whether the text is at the start of a line. -/
def indented (column : Nat) : Bool → List Char → List Char
  | _, [] => []
  | fresh, c :: cs =>
    if isBreak c then c :: indented column true cs
    else if fresh then pad column ++ c :: indented column false cs
    else c :: indented column false cs

/-- A text between single quotes, with its line breaks. -/
def singleQuoted (column : Nat) (text : List Char) : List Char :=
  let doubled := text.flatMap fun c => if c = '\'' then ['\'', '\''] else [c]
  let last := if endsWith isBreak text then pad column else []
  '\'' :: indented column false doubled ++ last ++ ['\'']

/-- The marks behind the bar of a text written line by line: the width of the
indentation if the text does not show it, and what to do with the line breaks at
the end. -/
def literalMarks (text : List Char) : List Char :=
  let width := if beginsWith (fun c => isSpace c || isBreak c) text then ['2'] else []
  let keep :=
    match text.reverse with
    | [] => ['-']
    | [c] => if isBreak c then ['+'] else ['-']
    | c :: d :: _ => if !isBreak c then ['-'] else if isBreak d then ['+'] else []
  width ++ keep

/-- A text written line by line, at a column. -/
def literal (column : Nat) (text : List Char) : List Char :=
  '|' :: literalMarks text ++ '\n' :: indented column true text

/-- A text in its style, without the end of its line. -/
def writeText (column : Nat) (text : List Char) : List Char :=
  match style text with
  | .plain => text
  | .singleQuoted => singleQuoted column text
  | .doubleQuoted => '"' :: text.flatMap doubleQuotedChar ++ ['"']
  | .literal => literal column text

/-- The end of the line that a text in its style stands on: nothing if the text
ends it itself. -/
def lineEnd (text : List Char) : List Char :=
  if style text = .literal && endsWith isBreak text then [] else ['\n']

/-- A value other than a list or a mapping, with the end of its line. -/
def writeLeaf (column : Nat) : Json → List Char
  | .null => ['n', 'u', 'l', 'l', '\n']
  | .bool true => ['t', 'r', 'u', 'e', '\n']
  | .bool false => ['f', 'a', 'l', 's', 'e', '\n']
  | .int n => Digits.ofInt n ++ ['\n']
  | .float x => Decimal.compact (x.shortest .toEven) ++ ['\n']
  | .str text => writeText column text.toList ++ lineEnd text.toList
  | .arr _ => ['[', ']', '\n']
  | .obj _ => ['\x7b', '\x7d', '\n']

/-- The longest key, in bytes, that is written in front of its colon. -/
def longestKey : Nat := 128

/-- Whether a key is written in front of its colon. -/
def isSimpleKey (key : String) : Bool :=
  key.utf8ByteSize ≤ longestKey && !key.toList.any isBreak

/-- A key behind its question mark, and the colon that follows on the next line. -/
def writeLongKey (column : Nat) (key : String) : List Char :=
  '?' :: ' ' :: writeText (column + 2) key.toList ++ lineEnd key.toList ++ pad column ++ [':']

mutual

/-- A value behind a mark of one character that stands in `column`. -/
def writeBehindMark (column : Nat) : Json → List Char
  | .arr items =>
    if items.isEmpty then ' ' :: writeLeaf column (.arr []) else ' ' :: writeItems (column + 2) items
  | .obj members =>
    if members.isEmpty then ' ' :: writeLeaf column (.obj [])
    else ' ' :: writeEntries (column + 2) members
  | leaf => ' ' :: writeLeaf (column + 2) leaf

/-- A value behind the colon of a key that stands in `column`. -/
def writeBehindKey (column : Nat) : Json → List Char
  | .arr items =>
    if items.isEmpty then ' ' :: writeLeaf column (.arr [])
    else '\n' :: pad column ++ writeItems column items
  | .obj members =>
    if members.isEmpty then ' ' :: writeLeaf column (.obj [])
    else '\n' :: pad (column + 2) ++ writeEntries (column + 2) members
  | leaf => ' ' :: writeLeaf (column + 2) leaf

/-- The items of a list, of which the first is at its place in `column`. -/
def writeItems (column : Nat) : List Json → List Char
  | [] => []
  | [item] => '-' :: writeBehindMark column item
  | item :: items => '-' :: writeBehindMark column item ++ pad column ++ writeItems column items

/-- The entries of a mapping, of which the first is at its place in `column`. -/
def writeEntries (column : Nat) : List (String × Json) → List Char
  | [] => []
  | [(key, value)] =>
    if isSimpleKey key then writeText (column + 2) key.toList ++ ':' :: writeBehindKey column value
    else writeLongKey column key ++ writeBehindMark column value
  | (key, value) :: members =>
    (if isSimpleKey key then writeText (column + 2) key.toList ++ ':' :: writeBehindKey column value
      else writeLongKey column key ++ writeBehindMark column value) ++
    pad column ++ writeEntries column members

end

/-- The document of a value. -/
def writeChars : Json → List Char
  | .arr items => if items.isEmpty then writeLeaf 0 (.arr []) else writeItems 0 items
  | .obj members => if members.isEmpty then writeLeaf 0 (.obj []) else writeEntries 0 members
  | leaf => writeLeaf 2 leaf

/-- The document of a value. -/
def write (value : Json) : String :=
  String.ofList (writeChars value)

/-- The mark between documents. -/
def documentMark : String := "---\n"

/-- The documents of several values, with marks between them. -/
def writeStream (values : List Json) : String :=
  documentMark.intercalate (values.map write)

end ControllerSynthesis.Yaml
