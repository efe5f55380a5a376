/-
# Why a value does not decode

A failure says what is wrong and, for formats that tell, where: the path from
the top of the document to the part at fault. The path grows from the inside as
a failure passes through the records and lists around the part. Some failures
are noticed before the part is entered; they belong to the record or list
around it.

A document can also stop being readable halfway. That is a failure of its own,
without a path, and it arises when decoding reaches the place.

Where a document is a text, its reader says in its own words what breaks the rules
of the format, and adds to each failure the line and the column. Both are left
open.

Key definitions: `Record.Interruption`, `Record.Cause`, `Record.Failure`,
`Record.Wording`, `Record.Failure.message`, `Record.Failure.locatedMessage`.
-/
import ControllerSynthesis.Calendar.Fault

namespace ControllerSynthesis.Record

/-- Why a document cannot be read on. -/
inductive Interruption where
  /-- The text breaks the rules of its format. -/
  | malformed
  /-- An alias names no anchor before it. -/
  | unknownAnchor
  /-- The document ends, or there is none. -/
  | endOfDocument
  /-- The text holds another document. -/
  | severalDocuments
  /-- A value lies too many lists and objects deep. -/
  | tooDeep
  /-- Aliases are followed too often. -/
  | tooManyAliases
  deriving Repr, DecidableEq

/-- What stands where something else is wanted. -/
inductive Got where
  | null
  | unit
  | option
  | flag (value : Bool)
  | integer (value : Int)
  /-- An integer of more than 64 bits. -/
  | wideInteger (value : Int)
  /-- A number that is no integer, in the spelling of its format. -/
  | float (spelling : String)
  | text (value : String)
  | sequence
  | map
  | choice
  deriving Repr, DecidableEq

/-- What is wrong with a part of a document. -/
inductive Cause where
  | invalidType (got : Got) (wanted : String)
  | invalidValue (got : Got) (wanted : String)
  | invalidLength (length : Nat) (wanted : String)
  | unknownChoice (name : String) (choices : List String)
  | missingField (key : String)
  | duplicateField (key : String)
  | badTimestamp (fault : Calendar.Fault)
  /-- An integer of more than 64 bits where a value of any kind is wanted. -/
  | numberOutOfRange
  | interrupted (why : Interruption)
  deriving Repr, DecidableEq

/-- A step of a path: the entry of a map, of which the key may have no text, or
the item of a list. -/
inductive Step where
  | entry (key : Option String)
  | item (index : Nat)
  deriving Repr, DecidableEq

/-- What is wrong, and the path to it. A failure is `pending` until the record
or list it belongs to is reached. -/
structure Failure where
  cause : Cause
  path : List Step := []
  pending : Bool := false
  deriving Repr, DecidableEq

/-- The outcome of decoding a part of a document. -/
abbrev Result (α : Type) := Except Failure α

variable {μ : Type → Type} [MonadExceptOf Failure μ] {α : Type}

/-- Failure by a cause at the part itself. -/
def fail (cause : Cause) : μ α :=
  throwThe Failure ⟨cause, [], false⟩

/-- Failure by a cause that counts as one of the record or list around the part. -/
def failAround (cause : Cause) : μ α :=
  throwThe Failure ⟨cause, [], true⟩

/-- The failure as the part around sees it, which `step` leads from. -/
def Failure.under (failure : Failure) (step : Step) : Failure :=
  if failure.pending then { failure with pending := false }
  else { failure with path := step :: failure.path }

/-- Decoding of a part as the part around sees it. -/
def under (step : Step) (decoding : μ α) : μ α :=
  tryCatchThe Failure decoding fun failure => throwThe Failure (failure.under step)

/-- What the reader of a text says in its own words. -/
structure Wording where
  /-- What breaks the rules of the format. -/
  syntaxError : String
  /-- The line and the column of a failure, behind what is wrong. -/
  place : Failure → String

/-- Words for a text that is not at hand: a mark for any breach of the rules, and no
place. -/
def Wording.bare : Wording := ⟨"<yaml syntax error>", fun _ => ""⟩

/-- The interruption in words. -/
def Interruption.message (wording : Wording) : Interruption → String
  | malformed => wording.syntaxError
  | unknownAnchor => "unknown anchor"
  | endOfDocument => "EOF while parsing a value"
  | severalDocuments =>
    "deserializing from YAML containing more than one document is not supported"
  | tooDeep => "recursion limit exceeded"
  | tooManyAliases => "repetition limit exceeded"

/-- What stands there, in words. -/
def Got.message : Got → String
  | null => "null"
  | unit => "unit value"
  | option => "Option value"
  | flag true => "boolean `true`"
  | flag false => "boolean `false`"
  | integer value => "integer `" ++ Digits.text value ++ "`"
  | wideInteger value =>
    "integer `" ++ Digits.text value ++ (if value < 0 then "` as i128" else "` as u128")
  | float spelling => "floating point `" ++ spelling ++ "`"
  | text value => "string " ++ Text.quoted value
  | sequence => "sequence"
  | map => "map"
  | choice => "enum"

/-- Names in backquotes as the alternatives of a message. -/
def alternatives (names : List String) : String :=
  let marked := names.map fun name => "`" ++ name ++ "`"
  match marked with
  | [] => "there are no variants"
  | [a] => "expected " ++ a
  | [a, b] => "expected " ++ a ++ " or " ++ b
  | all => "expected one of " ++ ", ".intercalate all

/-- The cause in words. -/
def Cause.message (wording : Wording) : Cause → String
  | invalidType got wanted => "invalid type: " ++ got.message ++ ", expected " ++ wanted
  | invalidValue got wanted => "invalid value: " ++ got.message ++ ", expected " ++ wanted
  | invalidLength length wanted =>
    "invalid length " ++ Digits.text length ++ ", expected " ++ wanted
  | unknownChoice name choices => "unknown variant `" ++ name ++ "`, " ++ alternatives choices
  | missingField key => "missing field `" ++ key ++ "`"
  | duplicateField key => "duplicate field `" ++ key ++ "`"
  | badTimestamp fault => fault.message
  | numberOutOfRange => "JSON number out of range"
  | interrupted why => why.message wording

/-- A path in words: keys with dots between them, indices in brackets. `before`
is the text of the steps so far, nothing at the top. -/
def pathText (before : Option String) : List Step → Option String
  | [] => before
  | .entry key :: steps =>
    let dotted := match before with
      | some text => text ++ "."
      | none => ""
    pathText (some (dotted ++ key.getD "?")) steps
  | .item index :: steps =>
    pathText (some (before.getD "." ++ "[" ++ Digits.text index ++ "]")) steps

/-- The failure in words, without its path and place. -/
def Failure.message (failure : Failure) (wording : Wording := .bare) : String :=
  failure.cause.message wording

/-- The failure in words, between its path and its place. An interruption has no path. -/
def Failure.locatedMessage (failure : Failure) (wording : Wording := .bare) : String :=
  let located :=
    match failure.cause, pathText none failure.path with
    | .interrupted why, _ => why.message wording
    | cause, some path => path ++ ": " ++ cause.message wording
    | cause, none => cause.message wording
  located ++ wording.place failure

end ControllerSynthesis.Record
