/-
# Schemas

A schema describes the values of a field of a resource: its type, and notes for
those who fill it in. A null is valid only where the schema says so. A schema is
itself written as a value, with its fields in alphabetical order.

Key definitions: `Schema`, `Schema.Properties`, `Schema.toJson`.
-/
import ControllerSynthesis.Record.Shape

namespace ControllerSynthesis

/-- What a schema says besides the type. -/
structure Schema.Notes where
  description : Option String := none
  /-- The value of a field that is not given. -/
  fallback : Option Json := none
  nullable : Bool := false
  title : Option String := none

mutual

/-- A description of values. -/
inductive Schema where
  /-- A text, one of the choices if there are any. -/
  | text (notes : Schema.Notes) (choices : List String)
  | flag (notes : Schema.Notes)
  /-- An integer of limited width, in a range with both ends if there is one. -/
  | integer (notes : Schema.Notes) (width : Record.Width) (range : Option (Nat × Nat))
  /-- An integer or a text. -/
  | quantity (notes : Schema.Notes)
  | list (notes : Schema.Notes) (item : Schema)
  /-- A map from text to values of one schema. -/
  | map (notes : Schema.Notes) (value : Schema)
  | record (notes : Schema.Notes) (properties : Schema.Properties) (required : List String)

/-- The fields of a record with their schemas, in the order of their keys. -/
inductive Schema.Properties where
  | nil
  | cons (key : String) (schema : Schema) (rest : Schema.Properties)

end

namespace Schema

/-- An end of a range, which is written as a number with a point. -/
def boundJson (n : Nat) : Json :=
  ((Binary64.ofNat? n).map Json.float).getD .null

/-- The name of an integer format. -/
def formatName : Record.Width → String
  | .i32 => "int32"
  | .i64 => "int64"

namespace Notes

/-- The notes that come before the fields of the type: the fallback and the
description. -/
def head (n : Notes) : List (String × Json) :=
  Json.optional "default" n.fallback ++ Json.optional "description" (n.description.map .str)

/-- Whether null is valid, if it is. -/
def nullability (n : Notes) : List (String × Json) :=
  if n.nullable then [("nullable", .bool true)] else []

end Notes

mutual

/-- The schema as a value. -/
def toJson : Schema → Json
  | text notes choices =>
    .obj (notes.head ++
      (if choices.isEmpty then [] else [("enum", Json.texts choices)]) ++
      notes.nullability ++ [("type", .str "string")])
  | flag notes => .obj (notes.head ++ notes.nullability ++ [("type", .str "boolean")])
  | integer notes width range =>
    .obj (notes.head ++ [("format", .str (formatName width))] ++
      (match range with
        | some (low, high) => [("maximum", boundJson high), ("minimum", boundJson low)]
        | none => []) ++
      notes.nullability ++ [("type", .str "integer")])
  | quantity notes => .obj (notes.head ++ [("x-kubernetes-int-or-string", .bool true)])
  | list notes item =>
    .obj (notes.head ++ [("items", item.toJson)] ++ notes.nullability ++ [("type", .str "array")])
  | map notes value =>
    .obj (("additionalProperties", value.toJson) :: notes.head ++ notes.nullability ++
      [("type", .str "object")])
  | record notes properties required =>
    .obj (notes.head ++ notes.nullability ++ [("properties", .obj properties.toMembers)] ++
      (if required.isEmpty then [] else [("required", Json.texts required)]) ++
      Json.optional "title" (notes.title.map .str) ++ [("type", .str "object")])

/-- The schemas of fields as members of a value. -/
def Properties.toMembers : Properties → List (String × Json)
  | .nil => []
  | .cons key schema rest => (key, schema.toJson) :: rest.toMembers

end

end Schema

end ControllerSynthesis
