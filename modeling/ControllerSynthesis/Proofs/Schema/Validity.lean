/-
# Values that a published schema allows

A published schema is an object of keywords. A value other than null is valid against it
if each keyword allows the value, and null is valid if the schema is nullable. Keywords
rule over values of their own kind and allow all others: bounds and formats are about
numbers, required keys about objects. What is not among the keywords here is a note, and
an object may have members that its schema does not name.

What this comes to for the schemas of the resource type is said once for each kind of
schema.

Key definitions: `Json.conforms`, `Schema.nullable`.
Key theorems: `Schema.conforms_null`, `Schema.conforms_text`, `Schema.conforms_integer`,
`Schema.conforms_record`.
-/
import ControllerSynthesis.Json.Equality
import ControllerSynthesis.Proofs.Json.Access
import ControllerSynthesis.Schema.Basic

namespace ControllerSynthesis

namespace Json

/-! ### Numbers -/

/-- The numerator and the denominator of a number. -/
def fraction? : Json → Option (Int × Nat)
  | .int n => some (n, 1)
  | .float x => some (if x.negative then -(x.fraction.1 : Int) else x.fraction.1, x.fraction.2)
  | _ => none

/-- Whether a number is at most another one. What is not a number has no bounds. -/
def atMost (a b : Json) : Bool :=
  match a.fraction?, b.fraction? with
  | some (m, d), some (n, e) => m * e ≤ n * d
  | _, _ => true

/-- Whether a value is a number without a fraction. -/
def isWhole (value : Json) : Bool :=
  match value.fraction? with
  | some (n, d) => n % d = 0
  | none => false

/-- Whether a number lies between two integers, both included. -/
def isBetween (low high : Int) (value : Json) : Bool :=
  atMost (.int low) value && atMost value (.int high)

/-! ### Keywords -/

/-- Whether a value is of the type of that name. -/
def hasType (name : String) (value : Json) : Bool :=
  match value with
  | .null => false
  | .bool _ => name = "boolean"
  | .int _ => name = "integer" || name = "number"
  | .float x => name = "number" || name = "integer" && (float x).isWhole
  | .str _ => name = "string"
  | .arr _ => name = "array"
  | .obj _ => name = "object"

/-- Whether a number fits into the format of that name. -/
def inFormat (name : String) (value : Json) : Bool :=
  if name = "int32" then value.isBetween (-(Nat.pow 2 31)) (Nat.pow 2 31 - 1)
  else if name = "int64" then value.isBetween (-(Nat.pow 2 63)) (Nat.pow 2 63 - 1)
  else true

/-- Whether an object has a member. What is not an object has none to ask for. -/
def hasMember (key : String) (value : Json) : Bool :=
  match value with
  | .obj members => (lookup key members).isSome
  | _ => true

/-- The values of the members of an object. -/
def memberValues : Json → List Json
  | .obj members => members.map (·.2)
  | _ => []

/-- Whether a keyword allows a value, if its argument is not a schema. -/
def keywordAllows (key : String) (argument value : Json) : Bool :=
  if key = "type" then argument.asText?.all value.hasType
  else if key = "format" then argument.asText?.all value.inFormat
  else if key = "minimum" then argument.atMost value
  else if key = "maximum" then value.atMost argument
  else if key = "enum" then argument.asItems?.all fun choices => value ∈ choices
  else if key = "required" then (argument.asItems?.getD []).all fun k => k.asText?.all value.hasMember
  else if key = "x-kubernetes-int-or-string" then
    argument ≠ .bool true || value.hasType "string" || value.hasType "integer"
  else true

/-- Whether a value is valid against a schema of these keywords, of which it is known
which other values than null they allow. -/
def orNull (keywords : List (String × Json)) (allow : Json → Bool) : Json → Bool
  | .null => lookup "nullable" keywords = some (.bool true)
  | value => allow value

mutual

/-- Whether a value is valid against a schema. -/
def conforms : Json → Json → Bool
  | .obj keywords, value => orNull keywords (fun v => keywordsAllow keywords v) value
  | _, _ => false
  termination_by structural schema => schema

/-- Whether all keywords of a schema allow a value. -/
def keywordsAllow : List (String × Json) → Json → Bool
  | [], _ => true
  | (key, argument) :: keywords, value => argumentAllows key argument value && keywordsAllow keywords value

/-- Whether a keyword with its argument allows a value. -/
def argumentAllows (key : String) : Json → Json → Bool
  | .obj members, value =>
    if key = "items" then
      (value.asItems?.getD []).all fun i => orNull members (fun v => keywordsAllow members v) i
    else if key = "additionalProperties" then
      value.memberValues.all fun i => orNull members (fun v => keywordsAllow members v) i
    else if key = "properties" then propertiesAllow members value
    else true
  | argument, value => keywordAllows key argument value

/-- Whether the members of an object are valid against the schemas of their keys. -/
def propertiesAllow : List (String × Json) → Json → Bool
  | [], _ => true
  | (key, schema) :: properties, value =>
    ((value.member? key).all fun v => conforms schema v) && propertiesAllow properties value

end

variable {value : Json}

-- What is computed from the constructors of a value is unfolded.
attribute [local simp] keywordsAllow argumentAllows keywordAllows asItems? asText?

/-! ### Bounds -/

theorem isBetween_iff {low high n : Int} {d : Nat} (number : value.fraction? = some (n, d)) :
    value.isBetween low high = true ↔ low * d ≤ n ∧ n ≤ high * d := by
  simp [isBetween, atMost, number, show ∀ k, (int k).fraction? = some (k, 1) from fun _ => rfl]

theorem isBetween_int {low high n : Int} : (int n).isBetween low high = true ↔ low ≤ n ∧ n ≤ high := by
  simpa using @isBetween_iff (int n) low high n 1 rfl

theorem isBetween_mono {low high low' high' : Int} (lower : low' ≤ low) (higher : high ≤ high')
    (between : value.isBetween low high = true) : value.isBetween low' high' = true := by
  cases number : value.fraction? with
  | none => simp [isBetween, atMost, number]
  | some fraction =>
    obtain ⟨n, d⟩ := fraction
    have least : low' * d ≤ low * d := Int.mul_le_mul_of_nonneg_right lower (Int.natCast_nonneg d)
    have greatest : high * d ≤ high' * d := Int.mul_le_mul_of_nonneg_right higher (Int.natCast_nonneg d)
    rw [isBetween_iff number] at between ⊢
    omega

/-! ### Keywords one by one -/

theorem orNull_of_ne {keywords : List (String × Json)} {allow : Json → Bool} (there : value ≠ .null) :
    orNull keywords allow value = allow value := by
  cases value with
  | null => exact absurd rfl there
  | _ => rfl

theorem keywordsAllow_cons (key : String) (argument : Json) (keywords : List (String × Json)) (value : Json) :
    keywordsAllow ((key, argument) :: keywords) value =
      (argumentAllows key argument value && keywordsAllow keywords value) := rfl

theorem keywordsAllow_append (value : Json) : ∀ a b : List (String × Json),
    keywordsAllow (a ++ b) value = (keywordsAllow a value && keywordsAllow b value)
  | [], _ => rfl
  | (key, argument) :: a, b => by
    rw [List.cons_append, keywordsAllow_cons, keywordsAllow_cons, keywordsAllow_append value a b, Bool.and_assoc]

/-- The keywords that say which values are valid. -/
def ruling : List String :=
  ["type", "format", "minimum", "maximum", "enum", "required", "x-kubernetes-int-or-string", "items",
    "additionalProperties", "properties"]

/-- A keyword that is only a note allows every value. -/
theorem argumentAllows_note {key : String} (note : key ∉ ruling) (argument value : Json) :
    argumentAllows key argument value = true := by
  simp only [ruling, List.mem_cons, List.not_mem_nil, or_false, not_or] at note
  cases argument <;> simp [note]

theorem keywordsAllow_note {key : String} (note : key ∉ ruling) (argument : Option Json) (value : Json) :
    keywordsAllow (optional key argument) value = true := by
  cases argument with
  | none => rfl
  | some argument => exact (Bool.and_true _).trans (argumentAllows_note note argument value)

theorem argumentAllows_type (name : String) : argumentAllows "type" (.str name) value = value.hasType name := rfl

theorem argumentAllows_format (name : String) : argumentAllows "format" (.str name) value = value.inFormat name := rfl

theorem argumentAllows_enum (choices : List String) :
    argumentAllows "enum" (texts choices) value = true ↔ ∃ t ∈ choices, str t = value := by
  simp [texts]

theorem argumentAllows_required (keys : List String) :
    argumentAllows "required" (texts keys) value = true ↔ ∀ key ∈ keys, value.hasMember key = true := by
  simp [texts]

end Json

namespace Schema

open Json

variable {notes : Notes} {value : Json}

attribute [local simp] toJson conforms orNull keywordsAllow lookup hasType hasMember memberValues asItems?

theorem keywordsAllow_head : keywordsAllow notes.head value = true := by
  rw [Notes.head, keywordsAllow_append, keywordsAllow_note (by decide), keywordsAllow_note (by decide), Bool.and_true]

theorem keywordsAllow_nullability : keywordsAllow notes.nullability value = true := by
  have note : "nullable" ∉ ruling := by decide
  rw [Notes.nullability]
  split
  · exact keywordsAllow_note note (some (.bool true)) value
  · rfl

theorem toJson_eq_obj (s : Schema) : ∃ keywords, s.toJson = .obj keywords := by
  cases s <;> exact ⟨_, rfl⟩

theorem argumentAllows_items (s : Schema) :
    argumentAllows "items" s.toJson value = (value.asItems?.getD []).all (conforms s.toJson) := by
  obtain ⟨keywords, same⟩ := s.toJson_eq_obj
  rw [same]
  rfl

theorem argumentAllows_values (s : Schema) :
    argumentAllows "additionalProperties" s.toJson value = value.memberValues.all (conforms s.toJson) := by
  obtain ⟨keywords, same⟩ := s.toJson_eq_obj
  rw [same]
  rfl

theorem argumentAllows_properties (properties : List (String × Json)) :
    argumentAllows "properties" (.obj properties) value = propertiesAllow properties value := rfl

theorem argumentAllows_bounds (n : Nat) :
    argumentAllows "maximum" (boundJson n) value = value.atMost (boundJson n) ∧
      argumentAllows "minimum" (boundJson n) value = (boundJson n).atMost value := by
  rw [boundJson]
  cases Binary64.ofNat? n <;> exact ⟨rfl, rfl⟩

/-! ### Null -/

/-- Whether a schema says that null is valid. -/
def nullable : Schema → Bool
  | text notes _ => notes.nullable
  | flag notes => notes.nullable
  | integer notes _ _ => notes.nullable
  | quantity _ => false
  | list notes _ => notes.nullable
  | map notes _ => notes.nullable
  | record notes _ _ => notes.nullable

@[simp] theorem lookup_head {key : String} (own : key ∉ ["default", "description"]) :
    lookup key notes.head = none := by
  simp_all [Notes.head, eq_comm]

@[simp] theorem lookup_nullability :
    lookup "nullable" notes.nullability = if notes.nullable then some (.bool true) else none := by
  rw [Notes.nullability]
  split <;> simp

/-- **Null is valid where the schema is nullable.** -/
theorem conforms_null (s : Schema) : conforms s.toJson .null = s.nullable := by
  cases s with
  | text notes choices =>
    cases choices <;> cases null : notes.nullable <;> simp [nullable, null]
  | flag notes => cases null : notes.nullable <;> simp [nullable, null]
  | integer notes width range =>
    cases range <;> cases null : notes.nullable <;> simp [nullable, null]
  | quantity notes => simp [nullable]
  | list notes item => cases null : notes.nullable <;> simp [nullable, null]
  | map notes value => cases null : notes.nullable <;> simp [nullable, null]
  | record notes properties required =>
    cases required <;> cases null : notes.nullable <;> simp [nullable, null]

/-! ### Values other than null -/

theorem inFormat_int (width : Record.Width) (n : Int) :
    (int n).inFormat (formatName width) = true ↔ width.holds n = true := by
  rw [Record.Width.holds, Bool.and_eq_true, decide_eq_true_eq, decide_eq_true_eq]
  cases width with
  | i32 => exact isBetween_int.trans (and_congr_right fun _ => Int.le_sub_one_iff)
  | i64 => exact isBetween_int.trans (and_congr_right fun _ => Int.le_sub_one_iff)

/-- What fits into a format fits into the wider one. -/
theorem inFormat_wide (width : Record.Width) (format : value.inFormat (formatName width) = true) :
    value.inFormat "int64" = true := by
  cases width with
  | i32 => exact isBetween_mono (by decide) (by decide) format
  | i64 => exact format

theorem conforms_text {choices : List String} (there : value ≠ .null) :
    conforms (text notes choices).toJson value = true ↔ ∃ t, value = .str t ∧ (choices = [] ∨ t ∈ choices) := by
  rw [toJson, conforms, orNull_of_ne there]
  simp only [keywordsAllow_append, keywordsAllow_head, keywordsAllow_nullability, keywordsAllow_cons,
    argumentAllows_type]
  cases choices with
  | nil => cases value <;> simp
  | cons c choices => cases value <;> simp [argumentAllows_enum]

theorem conforms_flag (there : value ≠ .null) :
    conforms (flag notes).toJson value = true ↔ ∃ b, value = .bool b := by
  rw [toJson, conforms, orNull_of_ne there]
  simp only [keywordsAllow_append, keywordsAllow_head, keywordsAllow_nullability, keywordsAllow_cons,
    argumentAllows_type]
  cases value <;> simp

theorem conforms_integer {width : Record.Width} {range : Option (Nat × Nat)} (there : value ≠ .null) :
    conforms (integer notes width range).toJson value = true ↔
      value.inFormat (formatName width) = true ∧
        (∀ r ∈ range, value.atMost (boundJson r.2) = true ∧ (boundJson r.1).atMost value = true) ∧
        value.hasType "integer" = true := by
  cases range with
  | none =>
    rw [toJson, conforms, orNull_of_ne there]
    simp [keywordsAllow_append, keywordsAllow_head, keywordsAllow_nullability, keywordsAllow, argumentAllows_type,
      argumentAllows_format]
  | some r =>
    rw [toJson, conforms, orNull_of_ne there]
    simp [keywordsAllow_append, keywordsAllow_head, keywordsAllow_nullability, keywordsAllow, argumentAllows_type,
      argumentAllows_format, argumentAllows_bounds, and_assoc]

theorem conforms_quantity (there : value ≠ .null) :
    conforms (quantity notes).toJson value = true ↔
      value.hasType "string" = true ∨ value.hasType "integer" = true := by
  rw [toJson, conforms, orNull_of_ne there]
  simp [keywordsAllow_append, keywordsAllow_head, argumentAllows, keywordAllows, keywordsAllow]

theorem conforms_list {item : Schema} (there : value ≠ .null) :
    conforms (list notes item).toJson value = true ↔
      ∃ items, value = .arr items ∧ ∀ i ∈ items, conforms item.toJson i = true := by
  rw [toJson, conforms, orNull_of_ne there]
  simp only [keywordsAllow_append, keywordsAllow_head, keywordsAllow_nullability, keywordsAllow_cons,
    argumentAllows_type, argumentAllows_items]
  cases value <;> simp

theorem conforms_map {item : Schema} (there : value ≠ .null) :
    conforms (map notes item).toJson value = true ↔
      ∃ members, value = .obj members ∧ ∀ m ∈ members, conforms item.toJson m.2 = true := by
  rw [toJson, conforms, orNull_of_ne there]
  simp only [keywordsAllow_append, keywordsAllow_head, keywordsAllow_nullability, keywordsAllow_cons,
    argumentAllows_type, argumentAllows_values]
  cases value <;> simp

theorem conforms_record {properties : Properties} {required : List String} (there : value ≠ .null) :
    conforms (record notes properties required).toJson value = true ↔
      ∃ members, value = .obj members ∧ (∀ key ∈ required, (lookup key members).isSome = true) ∧
        propertiesAllow properties.toMembers value = true := by
  have title : keywordsAllow (Json.optional "title" (notes.title.map .str)) value = true :=
    keywordsAllow_note (by decide) _ _
  rw [toJson, conforms, orNull_of_ne there]
  simp only [keywordsAllow_append, keywordsAllow_head, keywordsAllow_nullability, keywordsAllow_cons,
    argumentAllows_type, argumentAllows_properties, title]
  cases required with
  | nil => cases value <;> simp
  | cons key required =>
    cases value <;> simp [argumentAllows_required, and_comm]

end Schema

end ControllerSynthesis
