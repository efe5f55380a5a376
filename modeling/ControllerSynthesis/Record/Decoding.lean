/-
# Decoding by shape

One decoder for all shapes and all document formats. A format says what a part
of a document is when a certain kind of value is wanted of it; the decoder says
what is wanted. The outcome is the value in its canonical form: only declared
fields, in the order of their declaration, with absent ones filled in or left
out as their rule says, and maps in the order of their keys. A point in time stays
the text it was given as.

The entries of a record are visited in the order in which they stand, and the
first fault counts; missing fields are reported afterwards, in the order of
their declaration.

Key definitions: `Record.Format`, `Record.Shape.decode`.
-/
import ControllerSynthesis.Calendar.Instant
import ControllerSynthesis.KeyMap
import ControllerSynthesis.Record.Failure
import ControllerSynthesis.Record.Shape

namespace ControllerSynthesis.Record

/-- How messages name a point in time. -/
def wantedTimestamp : String := "a timestamp string"

/-- A text that names a point in time. -/
def readTimestamp (text : String) : Result String :=
  match Calendar.Instant.read text.toList with
  | .ok _ => .ok text
  | .error fault => fail (.badTimestamp fault)

/-- The contents of a record: entries by key, or values in the order of the
fields. -/
inductive Contents (ν : Type) where
  | entries (all : List (ν × ν))
  | places (all : List ν)

/-- A document format: what its parts are when a kind of value is wanted. Decoding
is done in `μ`, in which it can fail. -/
structure Format (μ : Type → Type) (ν : Type) where
  /-- A text; the message about anything else names what is wanted. -/
  text : String → ν → μ String
  flag : ν → μ Bool
  integer : Width → ν → μ Int
  quantity : ν → μ String
  timestamp : ν → μ String
  choice : List String → ν → μ String
  /-- Any value, with its objects in the order of their keys. -/
  any : ν → μ Json
  /-- The part that holds the value, where one may be left out, if there is one. -/
  present? : ν → μ (Option ν)
  items : ν → μ (List ν)
  entries : ν → μ (List (ν × ν))
  /-- The contents of a record of that name, strict or not. -/
  contents : String → Bool → ν → μ (Contents ν)
  /-- The text of a key in a path, if it has one. -/
  label : ν → Option String
  /-- Reads over a part that no field wants. -/
  pass : ν → μ Unit

variable {μ : Type → Type} [Monad μ] [MonadExceptOf Failure μ] {ν : Type}

/-- The outcomes of `decode` for the items of a list, from the index on. -/
def decodeItems (decode : ν → μ Json) : Nat → List ν → μ (List Json)
  | _, [] => return []
  | index, item :: items => do
    let value ← under (.item index) (decode item)
    let values ← decodeItems decode (index + 1) items
    return value :: values

/-- The entries of a map in the order of their keys, added to those in `done`;
the last of several equal keys counts. -/
def decodeEntries (name : ν → μ String) (label : ν → Option String) (decode : ν → μ Json) :
    List (String × Json) → List (ν × ν) → μ (List (String × Json))
  | done, [] => return done
  | done, (key, part) :: parts => do
    let text ← name key
    let value ← under (.entry (label key)) (decode part)
    decodeEntries name label decode (KeyMap.insertEntry text value done) parts

/-- What the declared fields have among the entries of a record, the latest first;
`decoder` gives the decoder of a declared key. -/
def visitEntries (format : Format μ ν) (strict : Bool)
    (decoder : String → Option (ν → μ (Option Json))) :
    List (String × Option Json) → List (ν × ν) → μ (List (String × Option Json))
  | done, [] => return done
  | done, (key, part) :: parts => do
    let name ← format.text "field identifier" key
    match decoder name with
    | none => do
      under (.entry (format.label key)) (format.pass part)
      visitEntries format strict decoder done parts
    | some decode =>
      if strict && (done.lookup name).isSome then fail (.duplicateField name)
      else do
        let value ← under (.entry (format.label key)) (decode part)
        visitEntries format strict decoder ((name, value) :: done) parts

/-- What a field has when nothing is given for it, if it may be absent. -/
def Presence.fallback : Presence → Option (Option Json)
  | required => none
  | defaulted value => some (some value)
  | _ => some none

/-- What is kept of a field with a value, or of one without. -/
def Presence.kept (presence : Presence) (key : String) : Option Json → List (String × Json)
  | some value => [(key, value)]
  | none =>
    match presence with
    | nullable => [(key, .null)]
    | lenient (some fallback) => [(key, fallback)]
    | _ => []

namespace Fields

/-- The fields with what was found for them, in the order of declaration. -/
def fill (found : List (String × Option Json)) : Fields → μ (List (String × Json))
  | nil => return []
  | cons key presence _ rest => do
    match (found.lookup key).or presence.fallback with
    | none => fail (.missingField key)
    | some value => do
      let others ← rest.fill found
      return presence.kept key value ++ others

end Fields

/-- What a field has at whose place a list has ended, if it may end there. -/
def Presence.endsList : Presence → Option (Option Json)
  | defaulted value => some (some value)
  | nullable => some none
  | _ => none

/-- The decoder of a field: null and the like count as no value where the field
allows that. -/
def decodeField (format : Format μ ν) (presence : Presence) (decode : ν → μ Json)
    (part : ν) : μ (Option Json) :=
  match presence with
  | .required => some <$> decode part
  | .defaulted _ => some <$> decode part
  | _ => do
    match ← format.present? part with
    | none => return none
    | some part => some <$> decode part

mutual

/-- The value of a part of a document, in its canonical form. -/
def Shape.decode (format : Format μ ν) : Shape → ν → μ Json
  | .text => fun part => .str <$> format.text "a string" part
  | .flag => fun part => .bool <$> format.flag part
  | .integer width => fun part => .int <$> format.integer width part
  | .quantity => fun part => .str <$> format.quantity part
  | .timestamp => fun part => .str <$> format.timestamp part
  | .any => format.any
  | .choice names => fun part => .str <$> format.choice names part
  | .list item => fun part => do
    let items ← format.items part
    let values ← decodeItems (Shape.decode format item) 0 items
    return .arr values
  | .map value => fun part => do
    let entries ← format.entries part
    let members ←
      decodeEntries (format.text "a string") format.label (Shape.decode format value) [] entries
    return .obj members
  | .record name strict fields => fun part => do
    match ← format.contents name strict part with
    | .entries entries =>
      let found ← visitEntries format strict (Fields.decoder format fields) [] entries
      return .obj (← fields.fill found)
    | .places parts =>
      let (members, left) ← Fields.decodePlaces format (wantedList name fields.size) fields 0 parts
      if left.isEmpty then return .obj members
      else fail (.invalidLength parts.length "fewer elements in array")

/-- The decoder of the field declared under a key. -/
def Fields.decoder (format : Format μ ν) : Fields → String → Option (ν → μ (Option Json))
  | .nil => fun _ => none
  | .cons key presence shape rest => fun name =>
    if name = key then some (decodeField format presence (Shape.decode format shape))
    else Fields.decoder format rest name

/-- The fields of a record from parts in their order, of which `index` are used
up, and the parts left over. -/
def Fields.decodePlaces (format : Format μ ν) (wanted : String) :
    Fields → Nat → List ν → μ (List (String × Json) × List ν)
  | .nil => fun _ parts => return ([], parts)
  | .cons key presence shape rest => fun index parts => do
    let (value, parts) ←
      match parts with
      | part :: parts => do
        let value ← decodeField format presence (Shape.decode format shape) part
        pure (value, parts)
      | [] =>
        match presence.endsList with
        | some value => pure (value, [])
        | none => fail (.invalidLength index wanted)
    let (others, left) ← Fields.decodePlaces format wanted rest (index + 1) parts
    return (presence.kept key value ++ others, left)

end

end ControllerSynthesis.Record
