/-
# From tokens to a document

The tokens are taken one by one. Between two of them the state is a stack of the
lists and mappings that are open, each with the place in it where the next part
goes, and what is wanted next: a part, the mark of the next entry, or the colon
of a value. A token first ends what it shows to be over: a part that is not
there, a value without a colon, a list without an end of its own. Then it is
taken for what is wanted, or refused.

When the tokens end too early, or one is refused, the open lists and mappings are
closed as they are, with a part in them that says why.

Key definitions: `Yaml.Slot`, `Yaml.Builder`, `Yaml.Builder.run`,
`Yaml.Document.ofText`.
-/
import ControllerSynthesis.Yaml.Node
import ControllerSynthesis.Yaml.Characters
import ControllerSynthesis.Yaml.Scanner

namespace ControllerSynthesis.Yaml

/-- The places where a part goes. -/
inductive Slot where
  /-- A document behind its mark. -/
  | document
  /-- A document without a mark. -/
  | bareDocument
  | blockItem
  /-- An item of a list that is level with the key above it. -/
  | levelItem
  | blockKey
  | blockValue
  | flowItem
  /-- An entry of a mapping in brackets whose key has no mark, or its end. -/
  | flowEntry
  | flowKey
  | flowValue
  /-- The key of a mapping of one entry that is an item of a list in brackets. -/
  | pairKey
  | pairValue
  deriving Repr, DecidableEq

/-- What a part carries, as far as it is read: its tag in full, and the name of
its anchor. -/
structure Marks where
  tag : Option (List UInt8) := none
  anchor : Option (List Char) := none
  deriving Repr, DecidableEq

/-- A list or a mapping that is open, with its entries so far, the latest first.
A mapping may have a key without its value. -/
inductive Collection where
  | sequence (properties : Properties) (items : List Node)
  | mapping (properties : Properties) (entries : List (Node × Node)) (key : Option Node)
  deriving Repr

/-- An open list or mapping, and the place in it where the next part goes. -/
structure Frame where
  collection : Collection
  slot : Slot
  deriving Repr

/-- What is wanted next. -/
inductive Wanted where
  /-- A part, of which these marks were read. -/
  | part (marks : Marks)
  /-- The mark of the next entry, or the end. -/
  | entry
  /-- The colon of a value; without it the value is empty. -/
  | colon
  /-- Anything; the value is empty. -/
  | noValue
  deriving Repr, DecidableEq

/-- The state between two tokens. -/
structure Builder where
  stack : List Frame := []
  wanted : Wanted := .part {}
  /-- The place of the document itself. -/
  base : Slot
  /-- The names of anchors with their numbers. -/
  anchors : List (List Char × Nat) := []
  /-- The handles of tags, and what they stand for. -/
  handles : List (List Char × List UInt8) := []

/-- What comes of a token: another state, the whole document, or an end. -/
inductive Progress where
  | more (state : Builder)
  | whole (root : Node)
  | stuck (why : Record.Interruption)

/-- Goes on with a state, if there is one. -/
def Progress.andThen (f : Builder → Progress) : Progress → Progress
  | .more s => f s
  | done => done

namespace Slot

/-- Whether a block may stand here. -/
def takesBlock : Slot → Bool
  | document | bareDocument | blockItem | levelItem | blockKey | blockValue => true
  | _ => false

/-- Whether a list that is level with its key may stand here. -/
def takesLevel : Slot → Bool
  | blockKey | blockValue => true
  | _ => false

/-- Whether a token shows that there is no part here. -/
def endsBefore : Slot → Token → Bool
  | document, .versionDirective _ _ => true
  | document, .tagDirective _ _ => true
  | document, .documentStart => true
  | document, .documentEnd => true
  | document, .streamEnd => true
  | blockItem, .blockEntry => true
  | blockItem, .blockEnd => true
  | levelItem, .blockEntry => true
  | levelItem, .key => true
  | levelItem, .value => true
  | levelItem, .blockEnd => true
  | blockKey, .key => true
  | blockKey, .value => true
  | blockKey, .blockEnd => true
  | blockValue, .key => true
  | blockValue, .value => true
  | blockValue, .blockEnd => true
  | flowKey, .value => true
  | flowKey, .flowEntry => true
  | flowKey, .flowMappingEnd => true
  | flowValue, .flowEntry => true
  | flowValue, .flowMappingEnd => true
  | pairValue, .flowEntry => true
  | pairValue, .flowSequenceEnd => true
  | _, _ => false

/-- Whether a token stands for a missing key of a pair, and is used up by it. -/
def standsForKey : Slot → Token → Bool
  | pairKey, .value => true
  | pairKey, .flowEntry => true
  | pairKey, .flowSequenceEnd => true
  | _, _ => false

/-- The place of the value behind a key. -/
def valueSlot : Slot → Slot
  | blockKey => blockValue
  | flowEntry => flowValue
  | flowKey => flowValue
  | pairKey => pairValue
  | slot => slot

end Slot

namespace Marks

/-- Whether there are none. -/
def areNone (m : Marks) : Bool :=
  m.tag.isNone && m.anchor.isNone

end Marks

namespace Collection

/-- The part that the list or mapping is when it ends here. -/
def close : Collection → Node
  | sequence properties items => .sequence properties items.reverse
  | mapping properties entries _ => .mapping properties entries.reverse

/-- The part that the list or mapping is when its last part, or its key or value,
is the last that can be read. -/
def closeWith (last : Node) (why : Record.Interruption) : Collection → Node
  | sequence properties items => .sequence properties (last :: items).reverse
  | mapping properties entries none => .mapping properties ((last, .unread why) :: entries).reverse
  | mapping properties entries (some key) => .mapping properties ((key, last) :: entries).reverse

end Collection

namespace Builder

/-- The place where the next part goes. -/
def slot (s : Builder) : Slot :=
  match s.stack with
  | [] => s.base
  | frame :: _ => frame.slot

/-- Wants something next. -/
def want (wanted : Wanted) (s : Builder) : Builder :=
  { s with wanted := wanted }

/-- Moves the place for the next part, which is wanted now. -/
def wantAt (slot : Slot) (s : Builder) : Builder :=
  match s.stack with
  | [] => s.want (.part {})
  | frame :: stack => { s with stack := { frame with slot := slot } :: stack, wanted := .part {} }

/-- Puts a part in its place. -/
def put (node : Node) (s : Builder) : Progress :=
  match s.stack with
  | [] => .whole node
  | ⟨.sequence properties items, slot⟩ :: stack =>
    .more { s with stack := ⟨.sequence properties (node :: items), slot⟩ :: stack, wanted := .entry }
  | ⟨.mapping properties entries none, slot⟩ :: stack =>
    .more { s with
      stack := ⟨.mapping properties entries (some node), slot⟩ :: stack
      wanted := if slot = .flowEntry then .noValue else .colon }
  | ⟨.mapping properties entries (some key), slot⟩ :: stack =>
    .more { s with
      stack := ⟨.mapping properties ((key, node) :: entries) none, slot⟩ :: stack, wanted := .entry }

/-- Ends the innermost list or mapping. -/
def close (s : Builder) : Progress :=
  match s.stack with
  | [] => .stuck .malformed
  | frame :: stack => put frame.collection.close { s with stack := stack }

/-- The number of the next anchor of a name, and the names with it. -/
def number (name : List Char) (s : Builder) : Nat × List (List Char × Nat) :=
  (s.anchors.length, (name, s.anchors.length) :: s.anchors.filter fun a => a.1 ≠ name)

/-- The properties of a part with these marks, and the state after them. -/
def mark (marks : Marks) (s : Builder) : Properties × Builder :=
  match marks.anchor with
  | none => (⟨marks.tag, none⟩, s)
  | some name =>
    let (number, anchors) := s.number name
    (⟨marks.tag, some number⟩, { s with anchors := anchors })

/-- Puts in a part without contents. -/
def putEmpty (marks : Marks) (s : Builder) : Progress :=
  let (properties, s) := s.mark marks
  s.put (.empty properties)

/-- Opens a list or mapping with these marks. -/
def push (marks : Marks) (collection : Properties → Collection) (slot : Slot) (wanted : Wanted)
    (s : Builder) : Progress :=
  let (properties, s) := s.mark marks
  .more { s with stack := ⟨collection properties, slot⟩ :: s.stack, wanted := wanted }

/-- The tag in full, if its handle is known. -/
def fullTag? (tag : Tag) (s : Builder) : Option (List UInt8) :=
  if tag.handle.isEmpty then some tag.suffix
  else (s.handles.lookup tag.handle).map (· ++ tag.suffix)

/-! ### What a token shows to be over -/

/-- Whether a token goes on with a part of which marks were read. -/
def continuesPart (slot : Slot) (marks : Marks) : Token → Bool
  | .scalar _ _ => true
  | .flowSequenceStart => true
  | .flowMappingStart => true
  | .blockSequenceStart => slot.takesBlock
  | .blockMappingStart => slot.takesBlock
  | .blockEntry => slot.takesLevel
  | .anchor _ => marks.anchor.isNone
  | .tag _ => marks.tag.isNone
  | _ => false

/-- Puts in the part that is wanted if the token shows that there is none. -/
def endPart (t : Token) (s : Builder) : Progress :=
  match s.wanted with
  | .part marks =>
    if marks.areNone then
      if s.slot.endsBefore t then s.putEmpty marks else .more s
    else if continuesPart s.slot marks t then .more s
    else s.putEmpty marks
  | _ => .more s

/-- Ends a list that is level with its key if the token is none of its marks. -/
def endLevel (t : Token) (s : Builder) : Progress :=
  if s.wanted = .entry ∧ s.slot = .levelItem ∧ t ≠ .blockEntry then s.close else .more s

/-- Puts in an empty value if the token does not begin one. -/
def endValue (t : Token) (s : Builder) : Progress :=
  if s.wanted = .noValue ∨ (s.wanted = .colon ∧ t ≠ .value) then s.putEmpty {} else .more s

/-- Ends a mapping of one entry in brackets behind its value. -/
def endPair (s : Builder) : Progress :=
  if s.wanted = .entry ∧ (s.slot = .pairKey ∨ s.slot = .pairValue) then s.close else .more s

/-- Ends what the token shows to be over. -/
def settle (t : Token) (s : Builder) : Progress :=
  (((s.endPart t).andThen (endLevel t)).andThen (endValue t)).andThen endPair

/-! ### What a token begins -/

/-- Takes a token where a part is wanted. -/
def takePart (marks : Marks) (t : Token) (s : Builder) : Progress :=
  match t with
  | .alias name =>
    match s.anchors.lookup name with
    | some number => s.put (.alias number)
    | none => .stuck .unknownAnchor
  | .anchor name => .more (s.want (.part { marks with anchor := some name }))
  | .tag tag =>
    match s.fullTag? tag with
    | some tag => .more (s.want (.part { marks with tag := some tag }))
    | none => .stuck .malformed
  | .scalar form text =>
    let (properties, s) := s.mark marks
    s.put (.scalar properties form text)
  | .flowSequenceStart => s.push marks (.sequence · []) .flowItem (.part {})
  | .flowMappingStart => s.push marks (.mapping · [] none) .flowEntry (.part {})
  | .blockSequenceStart =>
    if s.slot.takesBlock then s.push marks (.sequence · []) .blockItem .entry else .stuck .malformed
  | .blockMappingStart =>
    if s.slot.takesBlock then s.push marks (.mapping · [] none) .blockKey .entry
    else .stuck .malformed
  | .blockEntry =>
    if s.slot.takesLevel then s.push marks (.sequence · []) .levelItem (.part {})
    else .stuck .malformed
  | .flowSequenceEnd => if s.slot = .flowItem then s.close else .stuck .malformed
  | .flowMappingEnd => if s.slot = .flowEntry then s.close else .stuck .malformed
  | .key =>
    if s.slot = .flowItem then s.push {} (.mapping · [] none) .pairKey (.part {})
    else if s.slot = .flowEntry then .more (s.wantAt .flowKey)
    else .stuck .malformed
  | _ => .stuck .malformed

/-- Takes a token where the mark of the next entry or the end is wanted. -/
def takeEntry (t : Token) (s : Builder) : Progress :=
  match s.slot, t with
  | .blockItem, .blockEntry => .more (s.wantAt .blockItem)
  | .blockItem, .blockEnd => s.close
  | .levelItem, .blockEntry => .more (s.wantAt .levelItem)
  | .blockKey, .key => .more (s.wantAt .blockKey)
  | .blockKey, .blockEnd => s.close
  | .blockValue, .key => .more (s.wantAt .blockKey)
  | .blockValue, .blockEnd => s.close
  | .flowItem, .flowEntry => .more (s.wantAt .flowItem)
  | .flowItem, .flowSequenceEnd => s.close
  | .flowEntry, .flowEntry => .more (s.wantAt .flowEntry)
  | .flowEntry, .flowMappingEnd => s.close
  | .flowKey, .flowEntry => .more (s.wantAt .flowEntry)
  | .flowKey, .flowMappingEnd => s.close
  | .flowValue, .flowEntry => .more (s.wantAt .flowEntry)
  | .flowValue, .flowMappingEnd => s.close
  | _, _ => .stuck .malformed

/-- Takes a token for what is wanted. -/
def take (t : Token) (s : Builder) : Progress :=
  match s.wanted with
  | .part marks =>
    if marks.areNone && s.slot.standsForKey t then s.putEmpty {} else s.takePart marks t
  | .entry => s.takeEntry t
  | .colon => if t = .value then .more (s.wantAt s.slot.valueSlot) else .stuck .malformed
  | .noValue => .stuck .malformed

/-! ### The whole document -/

/-- The document that is there when the text cannot be read on. -/
def cut (why : Record.Interruption) (s : Builder) : Document :=
  ⟨s.stack.foldl (fun node frame => frame.collection.closeWith node why) (.unread why),
    .interrupted why⟩

/-- How the document ends in front of the tokens behind its root; `marked` says
whether its end is marked. -/
def endingAt (marked : Bool) : List Token → Ending
  | .documentEnd :: tokens => endingAt true tokens
  | .streamEnd :: _ => .clean
  | _ :: _ => .followed
  | [] => if marked then .followed else .interrupted .malformed

/-- The document of the tokens. -/
def run (s : Builder) : List Token → Document
  | [] => s.cut .malformed
  | t :: tokens =>
    match s.settle t with
    | .whole root => ⟨root, endingAt false (t :: tokens)⟩
    | .stuck why => s.cut why
    | .more settled =>
      match settled.take t with
      | .more next => next.run tokens
      | .whole root => ⟨root, endingAt false tokens⟩
      | .stuck why => settled.cut why

end Builder

/-- What the tags of the standard types have in front. -/
def coreTags : List UInt8 :=
  "tag:yaml.org,2002:".toList.map Char.toUInt8

/-- The handles that need no directive. -/
def defaultHandles : List (List Char × List UInt8) :=
  [(['!'], ['!'.toUInt8]), (['!', '!'], coreTags)]

/-- The handles of the directives in front of a document, added to those before,
and the tokens behind its mark; `versioned` says whether a version was given.
There are none if a directive is repeated or of another version, or if the mark
is missing. -/
def directives (versioned : Bool) (handles : List (List Char × List UInt8)) :
    List Token → Option (List (List Char × List UInt8) × List Token)
  | .versionDirective major minor :: tokens =>
    if versioned ∨ major ≠ 1 ∨ (minor ≠ 1 ∧ minor ≠ 2) then none
    else directives true handles tokens
  | .tagDirective handle replacement :: tokens =>
    if (handles.lookup handle).isSome then none
    else directives versioned ((handle, replacement) :: handles) tokens
  | .documentStart :: tokens => some (handles, tokens)
  | _ => none

/-- The document that begins with the first of the tokens. -/
def Document.ofTokens (tokens : List Token) : Document :=
  match tokens with
  | [] => ⟨.unread .malformed, .interrupted .malformed⟩
  | .streamEnd :: _ => ⟨.void, .clean⟩
  | t :: _ =>
    let explicit :=
      match t with
      | .versionDirective _ _ => true
      | .tagDirective _ _ => true
      | .documentStart => true
      | _ => false
    if explicit then
      match directives false [] tokens with
      | some (handles, tokens) =>
        Builder.run { base := .document, handles := handles ++ defaultHandles } tokens
      | none => ⟨.unread .malformed, .interrupted .malformed⟩
    else Builder.run { base := .bareDocument, handles := defaultHandles } tokens

/-- The first document of a text. -/
def Document.ofText (text : String) : Document :=
  let (readable, whole) := readablePart text.toList
  if readable.isEmpty && !whole then ⟨.unread .malformed, .interrupted .malformed⟩
  else Document.ofTokens (scan readable whole).all

end ControllerSynthesis.Yaml
