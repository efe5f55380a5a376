/-
# Shapes that cover a schema

A shape covers a schema if it decodes every value other than null that the schema
allows. This is checked along both: a field of a record is in the schema with a schema
that its shape covers, it takes null if that is nullable, and it may be absent unless
the schema requires it. Objects may not have a key twice, and the numbers in a value
must be integers.

Key definitions: `Json.IsRegular`, `Record.Shape.covers`.
Key theorems: `Record.decodes_of_covers`.
-/
import ControllerSynthesis.Proofs.Record.Outcome
import ControllerSynthesis.Proofs.Schema.Validity

namespace ControllerSynthesis

/-! ### Values whose numbers are integers -/

namespace Json

/-- Whether an object has no key twice. -/
def hasKeysOnce : Json → Bool
  | .obj members => (members.map (·.1)).Nodup
  | _ => true

/-- Whether a number is an integer. One that is held as a binary number is if it is too
large for 64 bits. -/
def isIntegerIfNumber : Json → Bool
  | .float x => !(float x).inFormat "int64"
  | _ => true

mutual

/-- Whether something holds of a value and of all values in it. -/
def everywhere (p : Json → Bool) : Json → Bool
  | .arr items => p (.arr items) && itemsEverywhere p items
  | .obj members => p (.obj members) && membersEverywhere p members
  | .null => p .null
  | .bool b => p (.bool b)
  | .int n => p (.int n)
  | .float x => p (.float x)
  | .str text => p (.str text)

/-- Whether it holds in all items of a list. -/
def itemsEverywhere (p : Json → Bool) : List Json → Bool
  | [] => true
  | item :: items => item.everywhere p && itemsEverywhere p items

/-- Whether it holds in all members of an object. -/
def membersEverywhere (p : Json → Bool) : List (String × Json) → Bool
  | [] => true
  | (_, value) :: members => value.everywhere p && membersEverywhere p members

end

variable {p : Json → Bool} {value : Json}

theorem everywhere_arr {items : List Json} :
    (arr items).everywhere p = true ↔ p (arr items) = true ∧ ∀ i ∈ items, i.everywhere p = true := by
  have all : itemsEverywhere p items = true ↔ ∀ i ∈ items, i.everywhere p = true := by
    induction items with
    | nil => simp [itemsEverywhere]
    | cons item items ih => simp [itemsEverywhere, ih]
  rw [everywhere, Bool.and_eq_true, all]

theorem everywhere_obj {members : List (String × Json)} :
    (obj members).everywhere p = true ↔ p (obj members) = true ∧ ∀ m ∈ members, m.2.everywhere p = true := by
  have all : membersEverywhere p members = true ↔ ∀ m ∈ members, m.2.everywhere p = true := by
    induction members with
    | nil => simp [membersEverywhere]
    | cons m members ih =>
      obtain ⟨key, value⟩ := m
      simp [membersEverywhere, ih]
  rw [everywhere, Bool.and_eq_true, all]

/-- A value of which no object has a key twice and all numbers are integers. -/
structure IsRegular (value : Json) : Prop where
  keys : value.everywhere hasKeysOnce = true
  numbers : value.everywhere isIntegerIfNumber = true

theorem IsRegular.item {items : List Json} (regular : (arr items).IsRegular) {i : Json} (mem : i ∈ items) :
    i.IsRegular where
  keys := (everywhere_arr.mp regular.keys).2 i mem
  numbers := (everywhere_arr.mp regular.numbers).2 i mem

theorem IsRegular.member {members : List (String × Json)} (regular : (obj members).IsRegular) {m : String × Json}
    (mem : m ∈ members) : m.2.IsRegular where
  keys := (everywhere_obj.mp regular.keys).2 m mem
  numbers := (everywhere_obj.mp regular.numbers).2 m mem

theorem IsRegular.nodup {members : List (String × Json)} (regular : (obj members).IsRegular) :
    (members.map (·.1)).Nodup :=
  of_decide_eq_true (everywhere_obj.mp regular.keys).1

/-- Under a key that comes once there is one value. -/
theorem lookup_of_mem {key : String} : ∀ {members : List (String × Json)}, (members.map (·.1)).Nodup →
    (key, value) ∈ members → lookup key members = some value
  | m :: members, distinct, mem => by
    obtain ⟨single, distinct⟩ := List.nodup_cons.mp distinct
    rcases List.mem_cons.mp mem with rfl | mem
    · exact if_pos rfl
    · have other : m.1 ≠ key := fun same => single (List.mem_map.mpr ⟨_, mem, same.symm⟩)
      exact (if_neg other).trans (lookup_of_mem distinct mem)

end Json

/-! ### Shapes that cover a schema -/

/-- The schema of the field of that key. -/
def Schema.Properties.find? : Schema.Properties → String → Option Schema
  | .nil, _ => none
  | .cons key schema rest, name => if name = key then some schema else rest.find? name

namespace Record

mutual

/-- Whether a shape takes every value other than null that a schema allows. -/
def Shape.covers : Shape → Schema → Bool
  | .text, .text _ _ => true
  | .flag, .flag _ => true
  | .integer width, .integer _ format _ => width = format
  | .quantity, .quantity _ => true
  | .choice names, .text _ choices => choices ≠ [] && choices.all (· ∈ names)
  | .list item, .list _ schema => !schema.nullable && item.covers schema
  | .map value, .map _ schema => !schema.nullable && value.covers schema
  | .record _ _ fields, .record _ properties required =>
    fields.needs.all (· ∈ required) && fields.covers properties
  | _, _ => false

/-- Whether fields take all values that the schemas of their keys allow. -/
def Fields.covers : Fields → Schema.Properties → Bool
  | .nil, _ => true
  | .cons key presence shape rest, properties =>
    (properties.find? key).any (fun schema => (presence.takesNull || !schema.nullable) && shape.covers schema) &&
      rest.covers properties

end

/-! ### What a schema allows is decoded -/

open Json

theorem propertiesAllow_find {key : String} {schema : Schema} {value made : Json} :
    ∀ {properties : Schema.Properties}, propertiesAllow properties.toMembers value = true →
      properties.find? key = some schema →
      value.member? key = some made → conforms schema.toJson made = true
  | .cons name own rest, allowed, found, there => by
    rw [Schema.Properties.toMembers, propertiesAllow, Bool.and_eq_true] at allowed
    rw [Schema.Properties.find?] at found
    split at found
    · rename_i same
      cases found
      simpa [← same, there] using allowed.1
    · exact propertiesAllow_find allowed.2 found there

theorem Fields.isSome_find? {name : String} : ∀ {fields : Fields}, name ∈ fields.keys →
    (fields.find? name).isSome = true
  | .cons key presence shape rest, mem => by
    rw [Fields.find?]
    split
    · rfl
    · rename_i other
      exact isSome_find? ((List.mem_cons.mp mem).resolve_left other)

theorem Fields.needs_subset_keys : ∀ {fields : Fields} {name : String}, name ∈ fields.needs → name ∈ fields.keys
  | .cons key presence shape rest, name, mem => by
    rw [Fields.needs] at mem
    split at mem
    · exact List.mem_cons_of_mem _ (needs_subset_keys mem)
    · exact (List.mem_cons.mp mem).elim (fun same => same ▸ List.mem_cons_self)
        fun mem => List.mem_cons_of_mem _ (needs_subset_keys mem)

/-- An item of a list or a map is not null if its schema is not nullable. -/
theorem ne_null_of_conforms {schema : Schema} {value : Json} (strict : schema.nullable = false)
    (valid : conforms schema.toJson value = true) : value ≠ .null := by
  rintro rfl
  rw [Schema.conforms_null, strict] at valid
  cases valid

/-- A number that has a format and is an integer fits into the width of the format. -/
theorem holds_of_inFormat {width : Width} {value : Json} (regular : value.IsRegular)
    (number : value.hasType "integer" = true) (format : value.inFormat (Schema.formatName width) = true) :
    ∃ n, value = .int n ∧ width.holds n = true := by
  cases value with
  | int n => exact ⟨n, rfl, (Schema.inFormat_int width n).mp format⟩
  | float x =>
    have large : (!(float x).inFormat "int64") = true := regular.numbers
    rw [Schema.inFormat_wide width format] at large
    cases large
  | _ => simp [hasType] at number

mutual

/-- **A shape that covers a schema decodes what the schema allows.** -/
theorem decodes_of_covers : ∀ {shape : Shape} {schema : Schema} {value : Json},
    shape.covers schema = true → conforms schema.toJson value = true → value ≠ .null → value.IsRegular →
      ∃ made, shape.ofJson value = .ok made
  | .text, schema, value, covers, valid, there, _ => by
    cases schema with
    | text notes choices =>
      obtain ⟨text, rfl, -⟩ := (Schema.conforms_text there).mp valid
      exact ⟨_, rfl⟩
    | _ => cases covers
  | .flag, schema, value, covers, valid, there, _ => by
    cases schema with
    | flag notes =>
      obtain ⟨b, rfl⟩ := (Schema.conforms_flag there).mp valid
      exact ⟨_, rfl⟩
    | _ => cases covers
  | .integer width, schema, value, covers, valid, there, regular => by
    cases schema with
    | integer notes format range =>
      cases of_decide_eq_true covers
      obtain ⟨fits, -, number⟩ := (Schema.conforms_integer there).mp valid
      obtain ⟨n, rfl, holds⟩ := holds_of_inFormat regular number fits
      exact ⟨.int n, ofJson_canonical ⟨n, rfl, holds⟩⟩
    | _ => cases covers
  | .quantity, schema, value, covers, valid, there, _ => by
    cases schema with
    | quantity notes =>
      rcases (Schema.conforms_quantity there).mp valid with kind | kind <;>
        cases value <;> first | exact ⟨_, rfl⟩ | simp [hasType] at kind
    | _ => cases covers
  | .choice names, schema, value, covers, valid, there, _ => by
    cases schema with
    | text notes choices =>
      obtain ⟨text, rfl, mem⟩ := (Schema.conforms_text there).mp valid
      rw [Shape.covers, Bool.and_eq_true, List.all_eq_true] at covers
      have known : text ∈ names := by simpa using covers.2 text (mem.resolve_left (by simpa using covers.1))
      exact ⟨.str text, ofJson_canonical ⟨text, known, rfl⟩⟩
    | _ => cases covers
  | .list item, schema, value, covers, valid, there, regular => by
    cases schema with
    | list notes schema =>
      rw [Shape.covers, Bool.and_eq_true, Bool.not_eq_true'] at covers
      obtain ⟨items, rfl, all⟩ := (Schema.conforms_list there).mp valid
      have decoded : ∀ i ∈ items, ∃ made, item.ofJson i = .ok made := fun i mem =>
        decodes_of_covers covers.2 (all i mem) (ne_null_of_conforms covers.1 (all i mem)) (regular.item mem)
      obtain ⟨made, run⟩ := decodeItems_ok decoded 0
      exact ⟨.arr made, bind_eq_ok.mpr ⟨items, rfl, bind_eq_ok.mpr ⟨made, run, rfl⟩⟩⟩
    | _ => cases covers
  | .map shape, schema, value, covers, valid, there, regular => by
    cases schema with
    | map notes schema =>
      rw [Shape.covers, Bool.and_eq_true, Bool.not_eq_true'] at covers
      obtain ⟨members, rfl, all⟩ := (Schema.conforms_map there).mp valid
      have decoded : ∀ m ∈ members, ∃ made, shape.ofJson m.2 = .ok made := fun m mem =>
        decodes_of_covers covers.2 (all m mem) (ne_null_of_conforms covers.1 (all m mem)) (regular.member mem)
      obtain ⟨made, run⟩ := decodeEntries_ok decoded []
      exact ⟨.obj made, bind_eq_ok.mpr ⟨_, rfl, bind_eq_ok.mpr ⟨made, run, rfl⟩⟩⟩
    | _ => cases covers
  | .record name strict fields, schema, value, covers, valid, there, regular => by
    cases schema with
    | record notes properties required =>
      rw [Shape.covers, Bool.and_eq_true, List.all_eq_true] at covers
      obtain ⟨members, rfl, given, allowed⟩ := (Schema.conforms_record there).mp valid
      have decoded : ∀ m ∈ members, ∀ decode, Fields.decoder jsonFormat fields m.1 = some decode →
          ∃ kept, decode m.2 = .ok kept := by
        intro m mem decode known
        rw [decoder_eq, Option.map_eq_some_iff] at known
        obtain ⟨field, found, rfl⟩ := known
        exact field_decodes_of_covers covers.2 allowed found (Json.lookup_of_mem regular.nodup mem) (regular.member mem)
      obtain ⟨found, visited, all⟩ := @visitEntries_ok strict _ members [] decoded fun _ =>
        ⟨regular.nodup, fun _ _ => rfl⟩
      have needed : ∀ key ∈ fields.needs, (found.lookup key).isSome = true := by
        intro key mem
        refine all key (.inr ⟨?_, given key (by simpa using covers.1 key mem)⟩)
        rw [decoder_eq, Option.isSome_map]
        exact Fields.isSome_find? (Fields.needs_subset_keys mem)
      obtain ⟨made, filled⟩ := fill_ok needed
      exact ⟨.obj made, ofJson_obj_eq_ok.mpr ⟨found, made, visited, filled, rfl⟩⟩
    | _ => cases covers

/-- A field of a shape that covers a schema decodes what the schema allows under its key. -/
theorem field_decodes_of_covers : ∀ {fields : Fields} {properties : Schema.Properties}
    {members : List (String × Json)} {key : String} {field : Presence × Shape} {value : Json},
      fields.covers properties = true →
      propertiesAllow properties.toMembers (.obj members) = true → fields.find? key = some field →
      Json.lookup key members = some value → value.IsRegular →
      ∃ kept, decodeField jsonFormat field.1 field.2.ofJson value = .ok kept
  | .cons name presence shape rest, properties, members, key, field, value, covers, allowed, found, there, regular => by
    rw [Fields.covers, Bool.and_eq_true] at covers
    rw [Fields.find?] at found
    split at found
    · rename_i same
      cases found
      obtain ⟨schema, own, covered⟩ := Option.any_eq_true _ _ |>.mp covers.1
      rw [Bool.and_eq_true] at covered
      have valid := propertiesAllow_find allowed (same ▸ own) there
      by_cases null : value = .null
      · subst null
        rw [Schema.conforms_null] at valid
        rw [valid] at covered
        exact ⟨none, decodeField_null (by simpa using covered.1)⟩
      · obtain ⟨made, decoded⟩ := decodes_of_covers covered.2 valid null regular
        exact ⟨some made, decodeField_eq_ok.mpr (.inr ⟨fun _ => null, made, decoded, rfl⟩)⟩
    · exact field_decodes_of_covers covers.2 allowed found there regular

end

end Record

end ControllerSynthesis
