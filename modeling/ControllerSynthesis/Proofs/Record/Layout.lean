/-
# Texts by hand are decoded as texts

Where a text is wanted, a scalar stands for its text: whether it is plain or between
quotes decides nothing, nor what a plain one would mean. So where the texts that are
written by hand in a layout stand for fields that are texts, the layout is decoded as if
the writer had written them.

Fields that may be null are left out of this: there a plain text may stand for no value.

Key definitions: `Yaml.Layout.toJson`, `Yaml.Layout.suits`.
Key theorems: `Record.decode_node`, `Record.ofYaml_document`.
-/
import ControllerSynthesis.Proofs.Record.Entries
import ControllerSynthesis.Proofs.Record.ReadYaml
import ControllerSynthesis.Proofs.Yaml.Layout

namespace ControllerSynthesis

namespace Yaml.Layout

open Record (Shape Presence)

mutual

/-- The value that is laid out. -/
def toJson : Layout → Json
  | .value json => json
  | .spelled _ text => .str text
  | .block entries => .obj (members entries)

/-- The members of a mapping that is laid out. -/
def members : List (String × Layout) → List (String × Json)
  | [] => []
  | (key, part) :: entries => (key, part.toJson) :: members entries

end

/-- Whether a part is a text by hand. -/
def isSpelled : Layout → Bool
  | .spelled _ _ => true
  | _ => false

mutual

/-- Whether all texts by hand stand where a shape has texts. -/
def suits : Layout → Shape → Bool
  | .value _, _ => true
  | .spelled _ _, .text => true
  | .block entries, .map shape => entriesSuit entries fun _ => some (.required, shape)
  | .block entries, .record _ _ fields => entriesSuit entries fields.find?
  | _, _ => false

/-- Whether this holds of entries, of which some names are declared. -/
def entriesSuit : List (String × Layout) → (String → Option (Presence × Shape)) → Bool
  | [], _ => true
  | (key, part) :: entries, declared =>
    ((declared key).all fun field => part.suits field.2 && !(part.isSpelled && field.1.takesNull)) &&
      entriesSuit entries declared

end

theorem members_eq_map : ∀ entries : List (String × Layout), members entries = entries.map fun e => (e.1, e.2.toJson)
  | [] => rfl
  | (_, _) :: entries => congrArg (_ :: ·) (members_eq_map entries)

theorem members_append (front back : List (String × Layout)) :
    members (front ++ back) = members front ++ members back := by
  rw [members_eq_map, members_eq_map, members_eq_map, List.map_append]

theorem members_written (ms : List (String × Json)) : members (written ms) = ms := by
  rw [members_eq_map, written, List.map_map]
  exact List.map_id ms

@[simp] theorem suits_value (json : Json) (shape : Shape) : (value json).suits shape = true := by
  rw [suits]

@[simp] theorem suits_text (quoting : Quoting) (text : String) : (spelled quoting text).suits .text = true := by
  rw [suits]

@[simp] theorem suits_map (entries : List (String × Layout)) (shape : Shape) :
    (block entries).suits (.map shape) = entriesSuit entries fun _ => some (.required, shape) := by
  rw [suits]

@[simp] theorem suits_record (entries : List (String × Layout)) (name : String) (strict : Bool)
    (fields : Record.Fields) : (block entries).suits (.record name strict fields) = entriesSuit entries fields.find? := by
  rw [suits]

theorem entriesSuit_iff {declared : String → Option (Presence × Shape)} : ∀ {entries : List (String × Layout)},
    entriesSuit entries declared = true ↔ ∀ e ∈ entries, ∀ field, declared e.1 = some field →
      e.2.suits field.2 = true ∧ (e.2.isSpelled = true → field.1.takesNull = false)
  | [] => by simp [entriesSuit]
  | (key, part) :: entries => by
    rw [entriesSuit, Bool.and_eq_true, entriesSuit_iff, List.forall_mem_cons]
    cases declared key with
    | none => simp
    | some field => cases part.isSpelled <;> simp

theorem entriesSuit_append {declared : String → Option (Presence × Shape)} {front back : List (String × Layout)} :
    entriesSuit (front ++ back) declared = true ↔
      entriesSuit front declared = true ∧ entriesSuit back declared = true := by
  simp only [entriesSuit_iff, List.forall_mem_append]

theorem entriesSuit_written (declared : String → Option (Presence × Shape)) (ms : List (String × Json)) :
    entriesSuit (written ms) declared = true := by
  refine entriesSuit_iff.mpr fun e mem field _ => ?_
  obtain ⟨m, -, rfl⟩ := List.mem_map.mp mem
  exact ⟨suits_value _ _, nofun⟩

end Yaml.Layout

namespace Record

open Yaml (Node Layout)
open Yaml.Layout (members nodes entriesSuit areSound)

variable {anchored : List (Nat × Node)}

/-! ### Parts -/

mutual

/-- What is laid out is read over to its end. -/
theorem stop_node : ∀ layout : Layout, stop? layout.node = none
  | .value json => stop_ofJson json
  | .spelled _ _ => rfl
  | .block entries => stopPair_nodes entries

theorem stopPair_nodes : ∀ entries : List (String × Layout), stopPair? (nodes entries) = none
  | [] => rfl
  | (key, part) :: entries => by
    rw [nodes, stopPair?, stop_node part, stopPair_nodes entries]
    rfl

end

theorem pass_node (layout : Layout) (depth : Nat) : (yamlFormat anchored).pass ⟨layout.node, depth⟩ = pure () := by
  simp [yamlFormat, yamlPass, stop_node]

/-- As text a scalar stands for itself, whatever its form and its tag. -/
theorem text_scalar (wanted : String) (properties : Yaml.Properties) (form : Yaml.Form) (text : List Char)
    (depth : Nat) : (yamlFormat anchored).text wanted ⟨.scalar properties form text, depth⟩ = pure (String.ofList text) :=
  rfl

/-- A field is decoded as another part would be that its shape decodes alike, unless one of
them stands for no value. -/
theorem decodeField_alike {presence : Presence} {shape : Shape} {a b : Node} {depth : Nat}
    (decoded : shape.decode (yamlFormat anchored) ⟨a, depth⟩ = shape.decode (yamlFormat anchored) ⟨b, depth⟩)
    (present : presence.takesNull = true → (yamlFormat anchored).present? ⟨a, depth⟩ = pure (some ⟨a, depth⟩) ∧
      (yamlFormat anchored).present? ⟨b, depth⟩ = pure (some ⟨b, depth⟩)) :
    decodeField (yamlFormat anchored) presence (shape.decode (yamlFormat anchored)) ⟨a, depth⟩ =
      decodeField (yamlFormat anchored) presence (shape.decode (yamlFormat anchored)) ⟨b, depth⟩ := by
  cases presence with
  | required => simp only [decodeField, decoded]
  | defaulted fallback => simp only [decodeField, decoded]
  | nullable => simp only [decodeField, (present rfl).1, (present rfl).2, pure_bind, decoded]
  | omitted => simp only [decodeField, (present rfl).1, (present rfl).2, pure_bind, decoded]
  | lenient fallback => simp only [decodeField, (present rfl).1, (present rfl).2, pure_bind, decoded]

/-- A field of a layout is decoded as the value that is laid out, if its shape does so. -/
theorem decodeField_node {presence : Presence} {shape : Shape} {part : Layout} {depth : Nat}
    (text : (part.isSpelled && presence.takesNull) = false)
    (decoded : shape.decode (yamlFormat anchored) ⟨part.node, depth⟩ =
      shape.decode (yamlFormat anchored) ⟨.ofJson part.toJson, depth⟩) :
    decodeField (yamlFormat anchored) presence (shape.decode (yamlFormat anchored)) ⟨part.node, depth⟩ =
      decodeField (yamlFormat anchored) presence (shape.decode (yamlFormat anchored))
        ⟨.ofJson part.toJson, depth⟩ := by
  cases part with
  | value json => rfl
  | spelled quoting own =>
    have noNull : presence.takesNull = false := by simpa [Layout.isSpelled] using text
    exact decodeField_alike decoded fun takes => by simp [noNull] at takes
  | block entries => exact decodeField_alike decoded fun _ => ⟨rfl, rfl⟩

/-! ### Entries -/

theorem decode_map_mapping (shape : Shape) (entries : List (Node × Node)) (depth : Nat) :
    (Shape.map shape).decode (yamlFormat anchored) ⟨.mapping {} entries, depth⟩ = (do
      let members ← decodeEntries ((yamlFormat anchored).text "a string") (yamlFormat anchored).label
        (shape.decode (yamlFormat anchored)) [] (entries.map (entryAt (depth + 1)))
      return .obj members) := rfl

mutual

/-- **Where texts stand for texts, a layout is decoded as the value that is laid out.** -/
theorem decode_node : ∀ {part : Layout} {shape : Shape}, part.suits shape = true → ∀ depth : Nat,
    shape.decode (yamlFormat anchored) ⟨part.node, depth⟩ =
      shape.decode (yamlFormat anchored) ⟨.ofJson part.toJson, depth⟩
  | .value _, _, _, _ => rfl
  | .spelled quoting text, .text, _, depth => by
    have own : (yamlFormat anchored).text "a string" ⟨(Layout.spelled quoting text).node, depth⟩ = pure text := by
      rw [Layout.node, text_scalar, String.ofList_toList]
    have written : (yamlFormat anchored).text "a string" ⟨.ofText text, depth⟩ = pure text :=
      format_text "a string" text depth
    simp only [Shape.decode, Layout.toJson, Node.ofJson, own, written]
  | .block entries, .map shape, suit, depth => by
    have same := decodeEntries_nodes (by rwa [Layout.suits_map] at suit) (depth + 1) []
    rw [Layout.node, Layout.toJson, Node.ofJson, decode_map_mapping, decode_map_mapping, same]
  | .block entries, .record name strict fields, suit, depth => by
    have same := @visitEntries_nodes fields strict entries (by rwa [Layout.suits_record] at suit) (depth + 1) []
    rw [Layout.node, Layout.toJson, Node.ofJson, decode_record_mapping, decode_record_mapping, same]

/-- The entries of a map. -/
theorem decodeEntries_nodes {shape : Shape} : ∀ {entries : List (String × Layout)},
    (entriesSuit entries fun _ => some (.required, shape)) = true → ∀ (depth : Nat) (done : List (String × Json)),
    decodeEntries ((yamlFormat anchored).text "a string") (yamlFormat anchored).label
        (shape.decode (yamlFormat anchored)) done ((nodes entries).map (entryAt depth)) =
      decodeEntries ((yamlFormat anchored).text "a string") (yamlFormat anchored).label
        (shape.decode (yamlFormat anchored)) done ((Node.ofMembers (members entries)).map (entryAt depth))
  | [], _, _, _ => rfl
  | (key, part) :: entries, suit, depth, done => by
    rw [entriesSuit, Option.all_some, Bool.and_eq_true, Bool.and_eq_true] at suit
    rw [nodes, members, Node.ofMembers, List.map_cons, List.map_cons, entryAt, entryAt, decodeEntries, decodeEntries]
    simp only [decode_node suit.1.1 depth, decodeEntries_nodes suit.2 depth]

/-- The entries of a record. -/
theorem visitEntries_nodes {fields : Fields} {strict : Bool} : ∀ {entries : List (String × Layout)},
    entriesSuit entries fields.find? = true → ∀ (depth : Nat) (done : List (String × Option Json)),
    visitEntries (yamlFormat anchored) strict (Fields.decoder (yamlFormat anchored) fields) done
        ((nodes entries).map (entryAt depth)) =
      visitEntries (yamlFormat anchored) strict (Fields.decoder (yamlFormat anchored) fields) done
        ((Node.ofMembers (members entries)).map (entryAt depth))
  | [], _, _, _ => rfl
  | (key, part) :: entries, suit, depth, done => by
    rw [entriesSuit, Bool.and_eq_true] at suit
    have text : (yamlFormat anchored).text "field identifier" ⟨.ofText key, depth⟩ = pure key :=
      format_text "field identifier" key depth
    rw [nodes, members, Node.ofMembers, List.map_cons, List.map_cons, entryAt, entryAt, visitEntries, visitEntries,
      text, pure_bind, pure_bind, decoder_eq]
    cases declared : fields.find? key with
    | none =>
      have pass : (yamlFormat anchored).pass ⟨.ofJson part.toJson, depth⟩ = pure () := pass_node (.value _) depth
      simp only [Option.map_none, pass_node, pass, visitEntries_nodes suit.2 depth]
    | some field =>
      have own := suit.1
      rw [declared, Option.all_some, Bool.and_eq_true, Bool.not_eq_true'] at own
      simp only [Option.map_some, decodeField_node own.2 (decode_node own.1 depth), visitEntries_nodes suit.2 depth]

end

/-! ### Documents -/

mutual

theorem anchored_node : ∀ part : Layout, part.node.anchored = (Node.ofJson part.toJson).anchored
  | .value _ => rfl
  | .spelled _ _ => rfl
  | .block entries => congrArg (· ++ _) (anchoredPairs_nodes entries)

theorem anchoredPairs_nodes : ∀ entries : List (String × Layout),
    Node.anchoredPairs (nodes entries) = Node.anchoredPairs (Node.ofMembers (members entries))
  | [] => rfl
  | (key, part) :: entries => by
    rw [nodes, members, Node.ofMembers, Node.anchoredPairs, Node.anchoredPairs, anchored_node part,
      anchoredPairs_nodes entries]

end

mutual

theorem marks_node : ∀ part : Layout, part.node.marks = (Node.ofJson part.toJson).marks
  | .value _ => rfl
  | .spelled _ _ => rfl
  | .block entries => by
    rw [Layout.node, Layout.toJson, Node.ofJson, Node.marks, Node.marks, marksOfPairs_nodes entries]

theorem marksOfPairs_nodes : ∀ entries : List (String × Layout),
    Node.marksOfPairs (nodes entries) = Node.marksOfPairs (Node.ofMembers (members entries))
  | [] => rfl
  | (key, part) :: entries => by
    rw [nodes, members, Node.ofMembers, Node.marksOfPairs, Node.marksOfPairs, marks_node part,
      marksOfPairs_nodes entries]

end

mutual

theorem isExact_toJson : ∀ {part : Layout}, part.isSound = true → part.toJson.isExact = true
  | .value _, sound => sound
  | .spelled _ _, _ => rfl
  | .block entries, sound => by
    rw [Layout.isSound, Bool.and_eq_true] at sound
    rw [Layout.toJson, Json.isExact, membersExact_members sound.2]

theorem membersExact_members : ∀ {entries : List (String × Layout)}, areSound entries = true →
    Json.membersExact (members entries) = true
  | [], _ => rfl
  | (key, part) :: entries, sound => by
    simp only [areSound, Bool.and_eq_true] at sound
    rw [members, Json.membersExact, isExact_toJson sound.1.2, membersExact_members sound.2, Bool.and_self]

end

/-- **A document by hand is read as the writer's document of the same mapping.** -/
theorem ofYaml_document {shape : Shape} {entries : List (String × Layout)} (sound : areSound entries = true)
    (nonempty : entries ≠ []) (suit : (Layout.block entries).suits shape = true) :
    shape.ofYaml (Layout.document entries) = shape.ofYaml (Yaml.write (.obj (members entries))) := by
  have written : members entries ≠ [] := by
    obtain ⟨⟨key, part⟩, entries, rfl⟩ := List.exists_cons_of_ne_nil nonempty
    exact List.cons_ne_nil _ _
  have own : Yaml.Document.ofText (Layout.document entries) = ⟨(Layout.block entries).node, .clean⟩ :=
    Yaml.Document.ofText_document sound nonempty
  have laid : Yaml.Document.ofText (Yaml.write (.obj (members entries))) =
      ⟨.ofJson (Layout.block entries).toJson, .clean⟩ :=
    Yaml.Document.ofText_write (membersExact_members sound) written
  rw [Shape.ofYaml, Shape.ofYaml, own, laid, Shape.ofDocument, Shape.ofDocument]
  simp only [anchored_node, marks_node, decode_node suit]

end Record

end ControllerSynthesis
