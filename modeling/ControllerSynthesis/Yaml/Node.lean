/-
# The parts of a document

A document is a tree of scalars, lists and mappings. A part may carry a tag and
an anchor, and an alias stands for the part with its anchor. Anchors are
numbered: a new name takes the number of names before it, and so does a name
that is used again. Several parts may so have one number; the last of them
counts, for all aliases.

Where a text cannot be read on, the tree has a part that says why.

Key definitions: `Yaml.Node`, `Yaml.Node.anchored`, `Yaml.Node.marks`,
`Yaml.Document`.
-/
import ControllerSynthesis.Record.Failure
import ControllerSynthesis.Yaml.Token

namespace ControllerSynthesis.Yaml

/-- What a part carries besides its contents: its tag in full, in bytes, and the
number of its anchor. -/
structure Properties where
  tag : Option (List UInt8) := none
  anchor : Option Nat := none
  deriving Repr, DecidableEq

/-- A part of a document. -/
inductive Node where
  | scalar (properties : Properties) (form : Form) (text : List Char)
  | sequence (properties : Properties) (items : List Node)
  | mapping (properties : Properties) (entries : List (Node × Node))
  | alias (anchor : Nat)
  /-- What stands in a text without any part. -/
  | void
  /-- The place where the text cannot be read on. -/
  | unread (why : Record.Interruption)
  deriving Repr

namespace Node

/-- A part that is not there but counts as an empty plain text. -/
def empty (properties : Properties) : Node :=
  scalar properties .plain []

mutual

/-- The parts with anchors and the numbers of these. They are in the order in
which they begin, the latest first. -/
def anchored : Node → List (Nat × Node)
  | scalar properties form text => properties.anchor.toList.map (·, scalar properties form text)
  | sequence properties items =>
    anchoredItems items ++ properties.anchor.toList.map (·, sequence properties items)
  | mapping properties entries =>
    anchoredPairs entries ++ properties.anchor.toList.map (·, mapping properties entries)
  | _ => []

/-- The parts with anchors among the items of a list. -/
def anchoredItems : List Node → List (Nat × Node)
  | [] => []
  | item :: items => anchoredItems items ++ anchored item

/-- The parts with anchors among the entries of a mapping. -/
def anchoredPairs : List (Node × Node) → List (Nat × Node)
  | [] => []
  | (key, value) :: entries => anchoredPairs entries ++ (anchored value ++ anchored key)

end

mutual

/-- The number of marks that a part consists of, one for a scalar or an alias and
two around a list or a mapping, and whether the part is whole. -/
def marks : Node → Nat × Bool
  | scalar _ _ _ => (1, true)
  | sequence _ items =>
    let (n, whole) := marksOfItems items
    (n + 1, whole)
  | mapping _ entries =>
    let (n, whole) := marksOfPairs entries
    (n + 1, whole)
  | .alias _ => (1, true)
  | void => (1, true)
  | unread _ => (0, false)

/-- The number of marks of the items of a list with its end, if it is there. -/
def marksOfItems : List Node → Nat × Bool
  | [] => (1, true)
  | item :: items =>
    let (n, whole) := marks item
    if whole then
      let (m, rest) := marksOfItems items
      (n + m, rest)
    else (n, false)

/-- The number of marks of the entries of a mapping with its end, if it is there. -/
def marksOfPairs : List (Node × Node) → Nat × Bool
  | [] => (1, true)
  | (key, value) :: entries =>
    let (k, keyWhole) := marks key
    if keyWhole then
      let (n, whole) := marks value
      if whole then
        let (m, rest) := marksOfPairs entries
        (k + n + m, rest)
      else (k + n, false)
    else (k, false)

end

end Node

/-- How the first document of a text ends. -/
inductive Ending where
  /-- With the text. -/
  | clean
  /-- The text cannot be read on. -/
  | interrupted (why : Record.Interruption)
  /-- There is something behind it. -/
  | followed
  deriving Repr, DecidableEq

/-- The first document of a text. -/
structure Document where
  root : Node
  ending : Ending
  deriving Repr

end ControllerSynthesis.Yaml
