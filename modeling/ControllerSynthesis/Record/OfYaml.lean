/-
# Decoding YAML documents

The YAML format for decoders by shape. What a scalar is depends on what is
wanted of it: as text it stands for itself, whatever its tag. Only when it is
of the wrong kind does a message say what it means. An empty plain scalar, and a
text without a document, count as an empty record, map or list.

Aliases are followed where a value is wanted, and only so many times for a
document of that size. A value of any kind may lie only so many lists and
mappings deep, those of the records around it counted too. Both limits keep small
documents from standing for values without end.

After the document is decoded the text must be at its end.

Key definitions: `Record.Part`, `Record.Following`, `Record.yamlFormat`,
`Record.Shape.ofYaml`.
-/
import ControllerSynthesis.Record.Decoding
import ControllerSynthesis.Yaml.Document
import ControllerSynthesis.Yaml.Meaning

namespace ControllerSynthesis.Record

open Yaml (Node Floating Meaning)

/-- A tag of the standard types. -/
def coreTag (name : String) : List UInt8 :=
  Yaml.coreTags ++ name.toList.map Char.toUInt8

/-- Whether a tag is local: it begins with an exclamation mark. -/
def isLocal (tag : List UInt8) : Bool :=
  tag.head? == some '!'.toUInt8

/-- The name that a local tag carries behind its exclamation mark, if it is text;
the mark alone is a name too. -/
def localName? : Option (List UInt8) → Option String
  | some (mark :: name) =>
    let shown := if name.isEmpty then [mark] else name
    if isLocal [mark] then String.fromUTF8? ⟨shown.toArray⟩ else none
  | _ => none

/-- Whether a plain text is one of the words for null. -/
def isNullWord (text : List Char) : Bool :=
  !text.isEmpty && Yaml.isNull text

/-- A number without an exponent, finite ones by their decimal. -/
def floatingText (finite : Decimal → List Char) : Floating → String
  | .finite value => String.ofList (finite (value.shortest .up))
  | .infinite true => "-inf"
  | .infinite false => "inf"
  | .undefined => "NaN"

/-- Whether an integer fits into 64 bits, with or without a sign. -/
def isWordSize (n : Int) : Bool :=
  -(Nat.pow 2 63 : Int) ≤ n && n < (Nat.pow 2 64 : Int)

/-- A text with its meaning, for a message. -/
def meaningGot (text : List Char) : Meaning → Got
  | .null => .unit
  | .flag value => .flag value
  | .integer n => if isWordSize n then .integer n else .wideInteger n
  | .floating x => .float (floatingText Decimal.positional x)
  | .text => .text (String.ofList text)

/-- The meaning that a tag of a standard type gives to a text, and how messages
name the type. -/
def coreMeaning? (tag : List UInt8) (text : List Char) : Option (Option Meaning × String) :=
  if tag = coreTag "bool" then some ((Yaml.flag? text).map .flag, "a boolean")
  else if tag = coreTag "int" then
    some (((Yaml.integer? text).filter Yaml.isIntegerSize).map .integer, "an integer")
  else if tag = coreTag "float" then some ((Yaml.floating? text).map .floating, "a float")
  else if tag = coreTag "null" then some (if isNullWord text then some .null else none, "null")
  else none

/-- The meaning of a scalar. With a tag of a standard type its text must fit.
Without a tag, or with a local one, a plain text is what it means. -/
def scalarMeaning (tag : Option (List UInt8)) (form : Yaml.Form) (text : List Char) :
    Result Meaning :=
  match tag.bind (coreMeaning? · text) with
  | some (some meaning, _) => .ok meaning
  | some (none, wanted) => fail (.invalidValue (.text (String.ofList text)) wanted)
  | none =>
    if form = .plain ∧ tag.all isLocal then .ok (Yaml.meaning text)
    else .ok .text

/-- What a part is, for a message. -/
def yamlGot : Node → Result Got
  | .scalar properties form text => do
    return meaningGot text (← scalarMeaning properties.tag form text)
  | .sequence _ _ => .ok .sequence
  | .mapping _ _ => .ok .map
  | .alias _ => fail (.interrupted .unknownAnchor)
  | .void => fail (.interrupted .endOfDocument)
  | .unread why => fail (.interrupted why)

/-- Failure because a part is not of the kind wanted. -/
def yamlMismatch {α : Type} (node : Node) (wanted : String) : Result α := do
  fail (.invalidType (← yamlGot node) wanted)

/-- Whether a scalar is of the kind that truth values and numbers are written
in: plain, or with a tag that says so and its lines kept. -/
def isUnquoted (kind : String) (tag : Option (List UInt8)) : Yaml.Form → Bool
  | .plain => true
  | .literal => tag == some (coreTag kind)
  | .marked => false

/-- The truth value that a part is. -/
def yamlFlag (node : Node) : Result Bool :=
  match node with
  | .scalar properties form text =>
    match (Yaml.flag? text).filter fun _ => isUnquoted "bool" properties.tag form with
    | some value => .ok value
    | none => yamlMismatch node "a boolean"
  | _ => yamlMismatch node "a boolean"

/-- The integer that a part is. -/
def yamlInteger (width : Width) (node : Node) : Result Int :=
  match node with
  | .scalar properties form text =>
    match (Yaml.integer? text).filter fun n =>
        isUnquoted "int" properties.tag form && Width.i64.holds n with
    | some n => if width.holds n then .ok n else fail (.invalidValue (.integer n) width.name)
    | none => yamlMismatch node width.name
  | _ => yamlMismatch node width.name

/-- The quantity that a part is: a text, or a number, as its decimal text. -/
def yamlQuantity (node : Node) : Result String :=
  let local? :=
    match node with
    | .scalar properties _ _ => localName? properties.tag
    | .sequence properties _ => localName? properties.tag
    | .mapping properties _ => localName? properties.tag
    | _ => none
  match local?, node with
  | some _, _ => fail (.invalidType .choice "Quantity")
  | none, .scalar properties form text => do
    match ← scalarMeaning properties.tag form text with
    | .text => return String.ofList text
    | .floating x => return floatingText Decimal.plain x
    | .integer n =>
      if isWordSize n then return Digits.text n else fail (.invalidType (.wideInteger n) "Quantity")
    | meaning => fail (.invalidType (meaningGot text meaning) "Quantity")
  | none, .void => fail (.invalidType .option "Quantity")
  | none, node => yamlMismatch node "Quantity"

/-- Checks that a part with a local tag holds nothing else. -/
def yamlUnit (node : Node) : Result Unit :=
  match node with
  | .scalar _ form text =>
    if form = .plain ∧ Yaml.isNull text then .ok ()
    else fail (.invalidValue (.text (String.ofList text)) "null")
  | _ => yamlMismatch node "unit"

/-- The name chosen by a part: a text, or the name of a local tag on nothing. -/
def yamlChoice (names : List String) (node : Node) : Result String :=
  let tagged (name : String) : Result String :=
    if name ∈ names then do
      yamlUnit node
      return name
    else failAround (.unknownChoice name names)
  match node with
  | .scalar properties _ text =>
    match localName? properties.tag with
    | some name => tagged name
    | none =>
      if String.ofList text ∈ names then .ok (String.ofList text)
      else fail (.unknownChoice (String.ofList text) names)
  | .sequence properties _ =>
    match localName? properties.tag with
    | some name => tagged name
    | none => fail (.invalidType .sequence "a YAML tag starting with '!'")
  | .mapping properties _ =>
    match localName? properties.tag with
    | some name => tagged name
    | none => fail (.invalidType .map "a YAML tag starting with '!'")
  | _ => yamlMismatch node "a YAML tag starting with '!'"

/-- Whether a part stands for no value where one may be left out. -/
def yamlAbsent : Node → Result Bool
  | .scalar properties .plain text =>
    match properties.tag with
    | none => .ok (Yaml.isNull text)
    | some tag =>
      if tag = coreTag "null" then
        if isNullWord text then .ok true
        else failAround (.invalidValue (.text (String.ofList text)) "null")
      else .ok false
  | .void => .ok true
  | .unread why => fail (.interrupted why)
  | _ => .ok false

/-- Whether a part counts as an empty record, map or list. -/
def isEmptyPart : Node → Bool
  | .scalar _ .plain [] => true
  | .void => true
  | _ => false

/-- The items of the list that a part is. -/
def yamlItems (node : Node) : Result (List Node) :=
  match node with
  | .sequence _ items => .ok items
  | _ => if isEmptyPart node then .ok [] else yamlMismatch node "a sequence"

/-- The entries of the mapping that a part is. -/
def yamlEntries (wanted : String) (node : Node) : Result (List (Node × Node)) :=
  match node with
  | .mapping _ entries => .ok entries
  | _ => if isEmptyPart node then .ok [] else yamlMismatch node wanted

mutual

/-- Why a part cannot be read over, if it cannot. -/
def stop? : Node → Option Interruption
  | .sequence _ items => stopItem? items
  | .mapping _ entries => stopPair? entries
  | .unread why => some why
  | _ => none

/-- Why the items of a list cannot be read over, if they cannot. -/
def stopItem? : List Node → Option Interruption
  | [] => none
  | item :: items => (stop? item).or (stopItem? items)

/-- Why the entries of a mapping cannot be read over, if they cannot. -/
def stopPair? : List (Node × Node) → Option Interruption
  | [] => none
  | (key, value) :: entries => ((stop? key).or (stop? value)).or (stopPair? entries)

end

/-- Reads over a part. -/
def yamlPass (node : Node) : Result Unit :=
  match stop? node with
  | some why => fail (.interrupted why)
  | none => .ok ()

/-- The text of a scalar. -/
def yamlText (wanted : String) (node : Node) : Result String :=
  match node with
  | .scalar _ _ text => .ok (String.ofList text)
  | _ => yamlMismatch node wanted

/-- The text of a key in a path, if it has one. -/
def yamlLabel : Node → Option String
  | .scalar _ _ text => some (String.ofList text)
  | _ => none

/-- How messages name a value of any kind. -/
def wantedAny : String := "any valid JSON value"

/-- The value that a scalar is when anything is wanted. -/
def yamlLeaf (tag : Option (List UInt8)) (form : Yaml.Form) (text : List Char) : Result Json := do
  match ← scalarMeaning tag form text with
  | .null => return .null
  | .flag value => return .bool value
  | .integer n => if isWordSize n then return .int n else fail .numberOutOfRange
  | .floating (.finite x) => return .float x
  | .floating _ => return .null
  | .text => return .str (String.ofList text)

/-! ### Aliases -/

/-- A part of a document, and the number of lists and mappings that it lies in. -/
structure Part where
  node : Node
  depth : Nat

/-- Decoding that counts down how often aliases may still be followed. -/
abbrev Following := StateT Nat (Except Failure)

/-- The part that an alias stands for, among the parts with anchors; any other
stands for itself. -/
def follow (anchored : List (Nat × Node)) : Node → Following Node
  | .alias number => do
    match ← get with
    | 0 => fail (.interrupted .tooManyAliases)
    | left + 1 =>
      set left
      return (anchored.lookup number).getD (.unread .unknownAnchor)
  | node => return node

/-! ### Values of any kind -/

/-- The value that a part is when anything is wanted, at most `depth` lists and
mappings deep. -/
def yamlAny (anchored : List (Nat × Node)) : Nat → Node → Following Json
  | depth, node => do
    match ← follow anchored node with
    | .scalar properties form text =>
      if (localName? properties.tag).isSome then fail (.invalidType .choice wantedAny)
      else yamlLeaf properties.tag form text
    | .sequence properties items =>
      if (localName? properties.tag).isSome then fail (.invalidType .choice wantedAny)
      else
        match depth with
        | 0 => fail (.interrupted .tooDeep)
        | depth + 1 => .arr <$> decodeItems (yamlAny anchored depth) 0 items
    | .mapping properties entries =>
      if (localName? properties.tag).isSome then fail (.invalidType .choice wantedAny)
      else
        match depth, entries with
        | 0, _ => fail (.interrupted .tooDeep)
        | _ + 1, [] => return .obj []
        | depth + 1, (key, value) :: entries =>
          let name (wanted : String) (key : Node) : Following String := do
            yamlText wanted (← follow anchored key)
          let first ← decodeEntries (name "a string key") yamlLabel (yamlAny anchored depth) []
            [(key, value)]
          .obj <$> decodeEntries (name "a string") yamlLabel (yamlAny anchored depth) first entries
    | .void => return .null
    | node => yamlMismatch node wantedAny

/-- The number of lists and mappings that a part may lie in. A value of any kind
counts as one more. -/
def deepest : Nat := 128

/-- How often the aliases of a document may be followed for each of its marks. -/
def repetitions : Nat := 100

/-! ### The format -/

/-- The parts of a YAML document in which those with anchors are given. -/
def yamlFormat (anchored : List (Nat × Node)) : Format Following Part where
  text wanted part := do yamlText wanted (← follow anchored part.node)
  flag part := do yamlFlag (← follow anchored part.node)
  integer width part := do yamlInteger width (← follow anchored part.node)
  quantity part := do yamlQuantity (← follow anchored part.node)
  timestamp part := do readTimestamp (← yamlText wantedTimestamp (← follow anchored part.node))
  choice names part := do yamlChoice names (← follow anchored part.node)
  any part := yamlAny anchored (deepest - (part.depth + 1)) part.node
  present? part := do
    let node ← follow anchored part.node
    if ← yamlAbsent node then return none else return some ⟨node, part.depth⟩
  items part := do
    let items ← yamlItems (← follow anchored part.node)
    return items.map (⟨·, part.depth + 1⟩)
  entries part := do
    let entries ← yamlEntries "a map" (← follow anchored part.node)
    return entries.map fun e => (⟨e.1, part.depth + 1⟩, ⟨e.2, part.depth + 1⟩)
  contents name strict part := do
    let entries ← yamlEntries (wantedRecord name strict) (← follow anchored part.node)
    return .entries (entries.map fun e => (⟨e.1, part.depth + 1⟩, ⟨e.2, part.depth + 1⟩))
  label part := yamlLabel part.node
  pass part := yamlPass part.node

/-- The canonical form of a document that stands for the domain type. -/
def Shape.ofDocument (shape : Shape) (document : Yaml.Document) : Result Json := do
  let root := document.root
  let value ← (shape.decode (yamlFormat root.anchored) ⟨root, 0⟩).run' (root.marks.1 * repetitions)
  match document.ending with
  | .clean => return value
  | .interrupted why => fail (.interrupted why)
  | .followed => fail (.interrupted .severalDocuments)

/-- The canonical form of the document in a text that stands for the domain type. -/
def Shape.ofYaml (shape : Shape) (text : String) : Result Json :=
  shape.ofDocument (Yaml.Document.ofText text)

end ControllerSynthesis.Record
