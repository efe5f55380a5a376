/-
# Objects edited at every level

Members are taken out of the objects that stand for records, and others are put in, at
every level at once: in a record, in the records that are its members, and in those in
its lists and maps. If two edits make no difference to any single record, they make none
to a value as a whole, because what holds a record is decoded from what the record is
decoded to.

So it is enough to look at one record. Taking out the members that no field is declared
for makes no difference to it. And a field without a member has its default, so taking
out members that may be absent is the same as setting them to what stands for them then.

Key definitions: `Record.Edit`, `Record.Shape.edit`, `Record.Shape.IsCoherent`,
`Record.Shape.declared`, `Record.Shape.without`, `Record.Shape.withDefaults`.
Key theorems: `Record.ofJson_edit_congr`, `Record.ofJson_declared`, `Record.ofJson_without`.
-/
import ControllerSynthesis.Proofs.Record.Members

namespace ControllerSynthesis.Record

/-! ### Defaults -/

/-- The value that a field has by default: null where this means that there is none. -/
def Presence.default? : Presence → Option Json
  | required => none
  | defaulted value => some value
  | _ => some .null

/-- The fields that may be absent, each with its default. -/
def Fields.defaults : Fields → List (String × Json)
  | .nil => []
  | .cons key presence _ rest => (presence.default?.map fun value => (key, value)).toList ++ rest.defaults

mutual

/-- Whether in all records of a shape the keys are different, and each default is decoded
to itself. -/
def Shape.IsCoherent : Shape → Prop
  | .list item => item.IsCoherent
  | .map value => value.IsCoherent
  | .record _ _ fields => fields.keys.Nodup ∧ fields.AreCoherent
  | _ => True

def Fields.AreCoherent : Fields → Prop
  | .nil => True
  | .cons _ presence shape rest =>
    (∀ value, presence = .defaulted value → shape.ofJson value = .ok value) ∧
      shape.IsCoherent ∧ rest.AreCoherent

end

/-- A default is decoded to what the field falls back on. -/
theorem decode_default {presence : Presence} {shape : Shape} {value : Json}
    (itself : ∀ value, presence = .defaulted value → shape.ofJson value = .ok value)
    (default : presence.default? = some value) :
    ∃ kept, presence.fallback = some kept ∧ decodeField jsonFormat presence shape.ofJson value = .ok kept := by
  cases presence with
  | required => cases default
  | defaulted own =>
    cases default
    refine ⟨some value, rfl, ?_⟩
    show some <$> shape.ofJson value = _
    rw [itself value rfl]
    rfl
  | nullable =>
    cases default
    exact ⟨none, rfl, decodeField_null rfl⟩
  | omitted =>
    cases default
    exact ⟨none, rfl, decodeField_null rfl⟩
  | lenient other =>
    cases default
    exact ⟨none, rfl, decodeField_null rfl⟩

theorem Fields.keys_defaults_sublist : ∀ fields : Fields, (fields.defaults.map (·.1)).Sublist fields.keys
  | .nil => .slnil
  | .cons key presence shape rest => by
    rw [defaults, keys]
    cases presence.default? with
    | none => exact (keys_defaults_sublist rest).cons key
    | some value => exact (keys_defaults_sublist rest).cons_cons key

/-- What a default is declared with. -/
theorem Fields.find?_of_mem_defaults {key : String} {value : Json} : ∀ {fields : Fields}, fields.keys.Nodup →
    fields.AreCoherent → (key, value) ∈ fields.defaults →
      ∃ presence shape, fields.find? key = some (presence, shape) ∧ presence.default? = some value ∧
        ∀ value, presence = .defaulted value → shape.ofJson value = .ok value
  | .nil, _, _, mem => nomatch mem
  | .cons own presence shape rest, distinct, coherent, mem => by
    obtain ⟨single, distinct⟩ := List.nodup_cons.mp distinct
    obtain ⟨itself, -, later⟩ := coherent
    rw [defaults, List.mem_append, Option.mem_toList, Option.map_eq_some_iff] at mem
    rcases mem with ⟨value, default, same⟩ | mem
    · cases same
      exact ⟨presence, shape, if_pos rfl, default, itself⟩
    · obtain ⟨presence', shape', found, default, itself⟩ := find?_of_mem_defaults distinct later mem
      have ne : key ≠ own := fun same => single (same ▸ mem_keys_of_find? found)
      exact ⟨presence', shape', (if_neg ne).trans found, default, itself⟩

/-! ### Edits -/

/-- What is done to the members of each object that stands for a record, by where the
object stands: those under some keys are taken out, and others are put in behind. -/
structure Edit where
  drops : List Step → Fields → String → Bool
  adds : List Step → Fields → List (String × Json)

namespace Edit

/-- The members of one record after the edit. -/
def apply (e : Edit) (path : List Step) (fields : Fields) (members : List (String × Json)) : List (String × Json) :=
  (members.filter fun m => !e.drops path fields m.1) ++ e.adds path fields

/-- No edit at all. -/
def nothing : Edit where
  drops _ _ _ := false
  adds _ _ := []

theorem apply_nothing (path : List Step) (fields : Fields) (members : List (String × Json)) :
    nothing.apply path fields members = members := by
  simp [apply, nothing]

/-- Members that no field is declared for are taken out. -/
def undeclared : Edit where
  drops _ fields key := key ∉ fields.keys
  adds _ _ := []

/-- Further members are put in, those that no field is declared for. -/
def extending (further : List Step → List (String × Json)) : Edit where
  drops _ _ _ := false
  adds path fields := (further path).filter fun m => m.1 ∉ fields.keys

/-- Chosen members that may be absent are taken out. -/
def without (chosen : List Step → String → Bool) : Edit where
  drops path fields key := chosen path key && decide (key ∈ fields.defaults.map (·.1))
  adds _ _ := []

/-- Chosen members that may be absent are set to their defaults. -/
def withDefaults (chosen : List Step → String → Bool) : Edit where
  drops := (without chosen).drops
  adds path fields := fields.defaults.filter fun d => chosen path d.1

/-- Whether two edits make no difference to what a record is decoded to. -/
def Alike (e e' : Edit) : Prop :=
  ∀ (path : List Step) (name : String) (strict : Bool) (fields : Fields) (members : List (String × Json)),
    fields.keys.Nodup → fields.AreCoherent →
      (Shape.record name strict fields).ofJson (.obj (e.apply path fields members)) =
        (Shape.record name strict fields).ofJson (.obj (e'.apply path fields members))

end Edit

mutual

/-- A value with an edit made in each of its records; the path leads to the value. -/
def Shape.edit (e : Edit) : Shape → List Step → Json → Json
  | .list item => fun path value =>
    match value with
    | .arr items => .arr (items.mapIdx fun index i => item.edit e (path ++ [.item index]) i)
    | other => other
  | .map shape => fun path value =>
    match value with
    | .obj members => .obj (members.map fun m => (m.1, shape.edit e (path ++ [.entry (some m.1)]) m.2))
    | other => other
  | .record _ _ fields => fun path value =>
    match value with
    | .obj members => .obj (e.apply path fields (members.map fun m => (m.1, fields.editMember e path m.1 m.2)))
    | .arr parts => .arr (fields.editPlaces e path parts)
    | other => other
  | _ => fun _ value => value

/-- The member under a key with the edit made in it. -/
def Fields.editMember (e : Edit) : Fields → List Step → String → Json → Json
  | .nil => fun _ _ value => value
  | .cons key _ shape rest => fun path name value =>
    if name = key then shape.edit e (path ++ [.entry (some key)]) value else rest.editMember e path name value

/-- The places of a record given as a list, with the edit made in each. -/
def Fields.editPlaces (e : Edit) : Fields → List Step → List Json → List Json
  | .nil => fun _ parts => parts
  | .cons key _ shape rest => fun path parts =>
    match parts with
    | [] => []
    | part :: parts => shape.edit e (path ++ [.entry (some key)]) part :: rest.editPlaces e path parts

end

section

variable {e : Edit} {name key : String} (presence : Presence) (shape : Shape) {rest : Fields} {path : List Step}
  {value : Json}

theorem edit_obj (name : String) (strict : Bool) (fields : Fields) (members : List (String × Json)) :
    (Shape.record name strict fields).edit e path (.obj members) =
      .obj (e.apply path fields (members.map fun m => (m.1, fields.editMember e path m.1 m.2))) := rfl

theorem editPlaces_cons (part : Json) (parts : List Json) :
    (Fields.cons key presence shape rest).editPlaces e path (part :: parts) =
      shape.edit e (path ++ [.entry (some key)]) part :: rest.editPlaces e path parts := rfl

theorem editMember_self : (Fields.cons name presence shape rest).editMember e path name value =
    shape.edit e (path ++ [.entry (some name)]) value := by
  simp only [Fields.editMember, if_pos]

theorem editMember_of_ne (ne : name ≠ key) : (Fields.cons key presence shape rest).editMember e path name value =
    rest.editMember e path name value := by
  simp only [Fields.editMember, if_neg ne]

end

/-- A value is null after an edit only if it was before. -/
theorem edit_eq_null {e : Edit} {shape : Shape} {path : List Step} {value : Json} :
    shape.edit e path value = .null ↔ value = .null := by
  cases shape <;> cases value <;> simp [Shape.edit]

theorem length_editPlaces {e : Edit} {path : List Step} : ∀ {fields : Fields} {parts : List Json},
    (fields.editPlaces e path parts).length = parts.length
  | .nil, _ => rfl
  | .cons _ _ _ _, [] => rfl
  | .cons _ _ _ _, _ :: _ => congrArg (· + 1) length_editPlaces

/-! ### Values that are decoded alike part by part -/

section

variable {decode : Json → Result Json}

theorem decodeItems_congr {f g : Nat → Json → Json} (alike : ∀ index i, decode (f index i) = decode (g index i))
    (items : List Json) (index : Nat) :
    decodeItems decode index (items.mapIdx f) = decodeItems decode index (items.mapIdx g) := by
  induction items generalizing f g index with
  | nil => rfl
  | cons item items ih =>
    rw [List.mapIdx_cons, List.mapIdx_cons, decodeItems, decodeItems, alike, ih fun index => alike (index + 1)]

theorem decodeEntries_congr {f g : String × Json → Json} (alike : ∀ m, decode (f m) = decode (g m))
    (members : List (String × Json)) (done : List (String × Json)) :
    decodeEntries (jsonFormat.text "a string") jsonFormat.label decode done
        (entryParts itself 0 (members.map fun m => (m.1, f m))) =
      decodeEntries (jsonFormat.text "a string") jsonFormat.label decode done
        (entryParts itself 0 (members.map fun m => (m.1, g m))) := by
  induction members generalizing done with
  | nil => rfl
  | cons m members ih =>
    have value : decode (itself 0 (f m)) = decode (itself 0 (g m)) := alike m
    simp only [entryParts, List.map_cons, decodeEntries, jsonFormat_reads.text, pure_bind, value] at ih ⊢
    simp only [ih]

theorem decodeField_congr {presence : Presence} {value value' : Json} (alike : decode value = decode value')
    (null : value = .null ↔ value' = .null) :
    decodeField jsonFormat presence decode value = decodeField jsonFormat presence decode value' := by
  by_cases absent : presence.takesNull = true ∧ value = .null
  · rw [absent.2, null.mp absent.2]
  · have there : presence.takesNull = true → value ≠ .null := fun takes same => absent ⟨takes, same⟩
    have there' : presence.takesNull = true → value' ≠ .null := fun takes same => there takes (null.mpr same)
    rw [decodeField_there there, decodeField_there there', alike]

end

/-! ### Edits that make no difference -/

section

variable {e e' : Edit}

mutual

/-- **Edits that make no difference to a record** make none to a value with records in it. -/
theorem ofJson_edit_congr (alike : e.Alike e') : ∀ {shape : Shape} (path : List Step) (value : Json),
    shape.IsCoherent → shape.ofJson (shape.edit e path value) = shape.ofJson (shape.edit e' path value)
  | .text, _, _, _ => rfl
  | .flag, _, _, _ => rfl
  | .integer _, _, _, _ => rfl
  | .quantity, _, _, _ => rfl
  | .timestamp, _, _, _ => rfl
  | .any, _, _, _ => rfl
  | .choice _, _, _, _ => rfl
  | .list item, path, value, coherent => by
    cases value with
    | arr items =>
      have same := decodeItems_congr (fun index i =>
        @ofJson_edit_congr alike item (path ++ [.item index]) i coherent) items 0
      exact congrArg (· >>= fun values => pure (Json.arr values)) same
    | _ => rfl
  | .map shape, path, value, coherent => by
    cases value with
    | obj members =>
      have same := decodeEntries_congr (fun m : String × Json =>
        @ofJson_edit_congr alike shape (path ++ [.entry (some m.1)]) m.2 coherent) members []
      exact congrArg (· >>= fun members => pure (Json.obj members)) same
    | _ => rfl
  | .record name strict fields, path, value, coherent => by
    cases value with
    | obj members =>
      have nested : List.Forall₂ (fun m n : String × Json => m.1 = n.1 ∧
          ∀ decode, Fields.decoder jsonFormat fields m.1 = some decode → decode m.2 = decode n.2)
          (e'.apply path fields (members.map fun m => (m.1, fields.editMember e path m.1 m.2)))
          (e'.apply path fields (members.map fun m => (m.1, fields.editMember e' path m.1 m.2))) := by
        apply List.rel_append
        · apply List.rel_filter
          · rintro m n ⟨same, -⟩
            show (!e'.drops path fields m.1) = true ↔ (!e'.drops path fields n.1) = true
            rw [same]
          · rw [List.forall₂_map_left_iff, List.forall₂_map_right_iff, List.forall₂_same]
            intro m _
            exact ⟨rfl, fun decode known => decode_editMember_congr alike path m.2 coherent.2 known⟩
        · exact List.forall₂_same.mpr fun _ _ => ⟨rfl, fun _ _ => rfl⟩
      have visited := @visitMembers_congr strict _ _ _ nested []
      have one := alike path name strict fields (members.map fun m => (m.1, fields.editMember e path m.1 m.2))
        coherent.1 coherent.2
      rw [edit_obj, edit_obj, one, ofJson_obj, ofJson_obj, visited]
    | arr parts =>
      cases strict with
      | false => rfl
      | true =>
        have places := decodePlaces_edit_congr alike (wantedList name fields.size) path 0 parts coherent.2
        have run (all : List Json) : (Shape.record name true fields).ofJson (.arr all) = (do
            let (members, left) ← Fields.decodePlaces jsonFormat (wantedList name fields.size) fields 0 all
            if left.isEmpty then return .obj members
            else fail (.invalidLength all.length "fewer elements in array")) := rfl
        show (Shape.record name true fields).ofJson (.arr (fields.editPlaces e path parts)) =
          (Shape.record name true fields).ofJson (.arr (fields.editPlaces e' path parts))
        rw [run, run, places, length_editPlaces, length_editPlaces]
    | _ => rfl

theorem decode_editMember_congr (alike : e.Alike e') : ∀ {fields : Fields} (path : List Step) {name : String}
    (value : Json), fields.AreCoherent → ∀ {decode : Json → Result (Option Json)},
      Fields.decoder jsonFormat fields name = some decode →
        decode (fields.editMember e path name value) = decode (fields.editMember e' path name value)
  | .nil, _, _, _, _, _, known => nomatch known
  | .cons key presence shape rest, path, name, value, coherent, decode, known => by
    by_cases same : name = key
    · subst same
      rw [decoder_self] at known
      cases known
      rw [editMember_self, editMember_self]
      apply decodeField_congr
      · exact ofJson_edit_congr alike _ value coherent.2.1
      · rw [edit_eq_null, edit_eq_null]
    · rw [decoder_of_ne presence shape rest same] at known
      rw [editMember_of_ne _ _ same, editMember_of_ne _ _ same]
      exact decode_editMember_congr alike path value coherent.2.2 known

theorem decodePlaces_edit_congr (alike : e.Alike e') (wanted : String) : ∀ {fields : Fields} (path : List Step)
    (index : Nat) (parts : List Json), fields.AreCoherent →
      Fields.decodePlaces jsonFormat wanted fields index (fields.editPlaces e path parts) =
        Fields.decodePlaces jsonFormat wanted fields index (fields.editPlaces e' path parts)
  | .nil, _, _, _, _ => rfl
  | .cons _ _ _ _, _, _, [], _ => rfl
  | .cons key presence shape rest, path, index, part :: parts, coherent => by
    have run (part : Json) (parts : List Json) :
        Fields.decodePlaces jsonFormat wanted (.cons key presence shape rest) index (part :: parts) = (do
          let value ← decodeField jsonFormat presence shape.ofJson part
          let (others, left) ← Fields.decodePlaces jsonFormat wanted rest (index + 1) parts
          return (presence.kept key value ++ others, left)) := rfl
    have own := ofJson_edit_congr alike (path ++ [.entry (some key)]) part coherent.2.1
    have later := decodePlaces_edit_congr alike wanted path (index + 1) parts coherent.2.2
    have null : shape.edit e (path ++ [.entry (some key)]) part = .null ↔
        shape.edit e' (path ++ [.entry (some key)]) part = .null := by
      rw [edit_eq_null, edit_eq_null]
    rw [editPlaces_cons, editPlaces_cons, run, run, decodeField_congr own null, later]

end

end

mutual

/-- No edit leaves a value as it is. -/
theorem edit_nothing : ∀ {shape : Shape} (path : List Step) (value : Json), shape.edit .nothing path value = value
  | .text, _, _ => rfl
  | .flag, _, _ => rfl
  | .integer _, _, _ => rfl
  | .quantity, _, _ => rfl
  | .timestamp, _, _ => rfl
  | .any, _, _ => rfl
  | .choice _, _, _ => rfl
  | .list item, path, value => by
    cases value with
    | arr items =>
      have same : (items.mapIdx fun index i => item.edit .nothing (path ++ [.item index]) i) = items := by
        apply List.ext_getElem?
        intro index
        simp only [List.getElem?_mapIdx, @edit_nothing item, Option.map_id']
      exact congrArg Json.arr same
    | _ => rfl
  | .map shape, path, value => by
    cases value with
    | obj members =>
      have same : (members.map fun m => (m.1, shape.edit .nothing (path ++ [.entry (some m.1)]) m.2)) = members := by
        simp only [@edit_nothing shape, List.map_id']
      exact congrArg Json.obj same
    | _ => rfl
  | .record name strict fields, path, value => by
    cases value with
    | obj members =>
      have same : (members.map fun m => (m.1, fields.editMember .nothing path m.1 m.2)) = members := by
        simp only [@editMember_nothing fields, List.map_id']
      rw [edit_obj, same, Edit.apply_nothing]
    | arr parts => exact congrArg Json.arr (editPlaces_nothing path parts)
    | _ => rfl

theorem editMember_nothing : ∀ {fields : Fields} (path : List Step) (name : String) (value : Json),
    fields.editMember .nothing path name value = value
  | .nil, _, _, _ => rfl
  | .cons key presence shape rest, path, name, value => by
    by_cases same : name = key
    · subst same
      rw [editMember_self, edit_nothing]
    · rw [editMember_of_ne _ _ same, editMember_nothing]

theorem editPlaces_nothing : ∀ {fields : Fields} (path : List Step) (parts : List Json),
    fields.editPlaces .nothing path parts = parts
  | .nil, _, _ => rfl
  | .cons _ _ _ _, _, [] => rfl
  | .cons key presence shape rest, path, part :: parts => by
    rw [editPlaces_cons, edit_nothing, editPlaces_nothing]

end

/-! ### Unknown members -/

/-- A value without the members that no field is declared for, in all its records. -/
def Shape.declared (shape : Shape) (value : Json) : Json :=
  shape.edit .undeclared [] value

/-- A value with further members in its records, as far as no field is declared for them. -/
def Shape.extended (shape : Shape) (further : List Step → List (String × Json)) (value : Json) : Json :=
  shape.edit (.extending further) [] value

/-- Records with the same declared members are decoded alike. -/
theorem ofJson_obj_congr {name : String} {strict : Bool} {fields : Fields} {members others : List (String × Json)}
    (same : (members.filter fun m => m.1 ∈ fields.keys) = others.filter fun m => m.1 ∈ fields.keys) :
    (Shape.record name strict fields).ofJson (.obj members) =
      (Shape.record name strict fields).ofJson (.obj others) := by
  have declared : (fun m : String × Json => (Fields.decoder jsonFormat fields m.1).isSome) =
      fun m => decide (m.1 ∈ fields.keys) := by
    funext m
    rw [Bool.eq_iff_iff, decoder_isSome_iff, decide_eq_true_iff]
  rw [ofJson_obj, ofJson_obj, ← visitMembers_declared members, ← visitMembers_declared others, declared, same]

/-- To one record its unknown members make no difference. -/
theorem Edit.alike_undeclared : undeclared.Alike nothing := by
  intro path name strict fields members _ _
  apply ofJson_obj_congr
  rw [apply_nothing, apply, undeclared, List.append_nil, List.filter_filter]
  simp

/-- Nor do further ones. -/
theorem Edit.alike_extending (further : List Step → List (String × Json)) : (extending further).Alike nothing := by
  intro path name strict fields members _ _
  have none : ((further path).filter fun m => m.1 ∉ fields.keys).filter (fun m => m.1 ∈ fields.keys) = [] := by
    rw [List.filter_filter, List.filter_eq_nil_iff]
    simp
  apply ofJson_obj_congr
  show ((members.filter fun _ => !false) ++ (further path).filter fun m => m.1 ∉ fields.keys).filter
    (fun m => m.1 ∈ fields.keys) = _
  rw [apply_nothing, List.filter_append, none, List.append_nil, Bool.not_false, List.filter_true]

/-- **Decoding depends on the declared members only**, in all records of a value. -/
theorem ofJson_declared {shape : Shape} (coherent : shape.IsCoherent) (value : Json) :
    shape.ofJson (shape.declared value) = shape.ofJson value := by
  rw [Shape.declared, ofJson_edit_congr Edit.alike_undeclared [] value coherent, edit_nothing]

/-- So further members that no field is declared for change nothing. -/
theorem ofJson_extended {shape : Shape} (coherent : shape.IsCoherent) (further : List Step → List (String × Json))
    (value : Json) : shape.ofJson (shape.extended further value) = shape.ofJson value := by
  rw [Shape.extended, ofJson_edit_congr (Edit.alike_extending further) [] value coherent, edit_nothing]

/-! ### Absent members -/

/-- A value without the chosen members, as far as they may be absent. -/
def Shape.without (shape : Shape) (chosen : List Step → String → Bool) (value : Json) : Json :=
  shape.edit (.without chosen) [] value

/-- A value with the chosen members set to their defaults, as far as they may be absent. -/
def Shape.withDefaults (shape : Shape) (chosen : List Step → String → Bool) (value : Json) : Json :=
  shape.edit (.withDefaults chosen) [] value

/-- Defaults of fields that have not been found change nothing of what is filled in. -/
theorem visitMembers_defaults {strict : Bool} {fields : Fields} (distinct : fields.keys.Nodup)
    (coherent : fields.AreCoherent) : ∀ {adds : List (String × Json)} {found : List (String × Option Json)},
      (adds.map (·.1)).Nodup → (∀ d ∈ adds, d ∈ fields.defaults ∧ found.lookup d.1 = none) →
      ∃ later, visitMembers strict (Fields.decoder jsonFormat fields) found adds = .ok later ∧
        ∀ key presence shape, fields.find? key = some (presence, shape) →
          (later.lookup key).or presence.fallback = (found.lookup key).or presence.fallback
  | [], found, _, _ => ⟨found, rfl, fun _ _ _ _ => rfl⟩
  | (key, value) :: adds, found, single, all => by
    obtain ⟨new, single⟩ := List.nodup_cons.mp single
    obtain ⟨mem, fresh⟩ := all _ List.mem_cons_self
    obtain ⟨presence, shape, declared, default, itself⟩ := Fields.find?_of_mem_defaults distinct coherent mem
    obtain ⟨kept, fallback, decoded⟩ := decode_default itself default
    have known : Fields.decoder jsonFormat fields key = some (decodeField jsonFormat presence shape.ofJson) := by
      rw [decoder_eq, declared]
      rfl
    have others : ∀ d ∈ adds, d ∈ fields.defaults ∧ ((key, kept) :: found).lookup d.1 = none := by
      intro d other
      obtain ⟨own, absent⟩ := all d (List.mem_cons_of_mem _ other)
      have ne : d.1 ≠ key := fun same => new (List.mem_map.mpr ⟨d, other, same⟩)
      rw [lookup_cons_of_ne ne]
      exact ⟨own, absent⟩
    obtain ⟨later, visited, same⟩ := visitMembers_defaults distinct coherent single others
    refine ⟨later, ?_, ?_⟩
    · rw [visitMembers, visitEntries_known known, fresh, Option.isSome_none, Bool.and_false,
        if_neg Bool.false_ne_true, decoded]
      exact visited
    · intro name presence' shape' found'
      rw [same name presence' shape' found']
      by_cases own : name = key
      · subst own
        cases declared.symm.trans found'
        rw [List.lookup_cons_self, Option.some_or, fresh, Option.none_or, fallback]
      · rw [lookup_cons_of_ne own]

/-- To one record a member with its default is like none. -/
theorem Edit.alike_withDefaults (chosen : List Step → String → Bool) :
    (without chosen).Alike (withDefaults chosen) := by
  intro path name strict fields members distinct coherent
  have left : (without chosen).apply path fields members =
      members.filter fun m => !(without chosen).drops path fields m.1 :=
    List.append_nil _
  have set : (withDefaults chosen).apply path fields members =
      (members.filter fun m => !(without chosen).drops path fields m.1) ++
        fields.defaults.filter fun d => chosen path d.1 := rfl
  rw [left, set, ofJson_obj, ofJson_obj, visitMembers_append]
  cases visited : visitMembers strict (Fields.decoder jsonFormat fields) []
      (members.filter fun m => !(without chosen).drops path fields m.1) with
  | error fault => rfl
  | ok found =>
    have single : ((fields.defaults.filter fun d => chosen path d.1).map (·.1)).Nodup :=
      distinct.sublist ((List.filter_sublist.map _).trans fields.keys_defaults_sublist)
    have fresh : ∀ d ∈ fields.defaults.filter fun d => chosen path d.1,
        d ∈ fields.defaults ∧ found.lookup d.1 = none := by
      intro d mem
      obtain ⟨default, choice⟩ := List.mem_filter.mp mem
      refine ⟨default, ?_⟩
      rw [← Option.not_isSome_iff_eq_none, isSome_lookup_of_visitMembers visited]
      rintro (none | ⟨-, there⟩)
      · cases none
      · obtain ⟨m, mem, same⟩ := List.mem_map.mp there
        have kept := (List.mem_filter.mp mem).2
        have dropped : (without chosen).drops path fields d.1 = true := by
          simp [without, choice, List.mem_map_of_mem default]
        rw [same, dropped] at kept
        cases kept
    obtain ⟨later, defaults, same⟩ := @visitMembers_defaults strict _ distinct coherent _ _ single fresh
    show (do return Json.obj (← fields.fill found) : Result Json) =
      visitMembers strict (Fields.decoder jsonFormat fields) found _ >>= fun found => do
        return Json.obj (← fields.fill found)
    rw [defaults, fill_congr distinct fun key presence shape declared => (same key presence shape declared).symm]
    rfl

/-- **A missing member means its default**, in all records of a value: to take members out
is to set them to their defaults. -/
theorem ofJson_without {shape : Shape} (coherent : shape.IsCoherent) (chosen : List Step → String → Bool)
    (value : Json) : shape.ofJson (shape.without chosen value) = shape.ofJson (shape.withDefaults chosen value) :=
  ofJson_edit_congr (Edit.alike_withDefaults chosen) [] value coherent

/-! ### Edits that keep what is decoded -/

/-- Whether an edit leaves each record that is decoded so that it still is. -/
def Edit.Keeps (e : Edit) : Prop :=
  ∀ (path : List Step) (name : String) (strict : Bool) (fields : Fields) (members : List (String × Json)),
    fields.keys.Nodup → fields.AreCoherent →
      (∃ made, (Shape.record name strict fields).ofJson (.obj members) = .ok made) →
      ∃ made, (Shape.record name strict fields).ofJson (.obj (e.apply path fields members)) = .ok made

/-- Members with the same keys whose values are decoded wherever those of the others are. -/
theorem visitMembers_succeeds {strict : Bool} {decoder : String → Option (Json → Result (Option Json))}
    {members others : List (String × Json)}
    (kept : List.Forall₂ (fun m n => m.1 = n.1 ∧ ∀ decode, decoder m.1 = some decode →
      (∃ made, decode m.2 = .ok made) → ∃ made, decode n.2 = .ok made) members others) :
    ∀ {done found again : List (String × Option Json)},
      (∀ name, (again.lookup name).isSome = (done.lookup name).isSome) →
      visitMembers strict decoder done members = .ok found →
      ∃ other, visitMembers strict decoder again others = .ok other ∧
        ∀ name, (other.lookup name).isSome = (found.lookup name).isSome := by
  induction kept with
  | nil =>
    intro done found again same visited
    cases visited
    exact ⟨again, rfl, same⟩
  | @cons m n members others own _ ih =>
    intro done found again same visited
    obtain ⟨key, value⟩ := m
    obtain ⟨key', value'⟩ := n
    obtain ⟨keys, decoded⟩ := own
    obtain rfl : key = key' := keys
    cases known : decoder key with
    | none =>
      rw [visitMembers_unknown known] at visited
      rw [visitMembers_unknown known]
      exact ih same visited
    | some decode =>
      rw [visitMembers, visitEntries_known known] at visited
      split at visited
      · cases visited
      · rename_i fresh
        obtain ⟨made, own, visited⟩ := bind_eq_ok.mp visited
        obtain ⟨made', own'⟩ := decoded decode known ⟨made, under_eq_ok.mp own⟩
        have later : ∀ name,
            (((key, made') :: again).lookup name).isSome = (((key, made) :: done).lookup name).isSome := by
          intro name
          by_cases here : name = key
          · simp [here]
          · rw [lookup_cons_of_ne here, lookup_cons_of_ne here, same name]
        obtain ⟨other, visited', all⟩ := ih later visited
        refine ⟨other, ?_, all⟩
        rw [visitMembers, visitEntries_known known, same key, if_neg fresh, own']
        exact visited'

/-- A record whose members are decoded wherever those of another are is decoded if that is. -/
theorem ofJson_obj_succeeds {name : String} {strict : Bool} {fields : Fields} {members others : List (String × Json)}
    (kept : List.Forall₂ (fun m n : String × Json => m.1 = n.1 ∧
      ∀ decode, Fields.decoder jsonFormat fields m.1 = some decode →
        (∃ made, decode m.2 = .ok made) → ∃ made, decode n.2 = .ok made) members others)
    (decoded : ∃ made, (Shape.record name strict fields).ofJson (.obj members) = .ok made) :
    ∃ made, (Shape.record name strict fields).ofJson (.obj others) = .ok made := by
  obtain ⟨made, decoded⟩ := decoded
  obtain ⟨found, filling, visited, filled, -⟩ := ofJson_obj_eq_ok.mp decoded
  obtain ⟨other, visited', same⟩ := visitMembers_succeeds kept (fun _ => rfl) visited
  obtain ⟨filling', filled'⟩ := fill_ok fun key mem => (same key).trans (needs_of_fill filled key mem)
  exact ⟨_, ofJson_obj_eq_ok.mpr ⟨other, filling', visited', filled', rfl⟩⟩

/-- A field is decoded if its shape decodes the new value wherever it did the old one. -/
theorem decodeField_succeeds {presence : Presence} {decode : Json → Result Json} {value value' : Json}
    {kept : Option Json} (decoded : decodeField jsonFormat presence decode value = .ok kept)
    (null : value' = .null ↔ value = .null)
    (succeeds : (∃ made, decode value = .ok made) → ∃ made, decode value' = .ok made) :
    ∃ kept, decodeField jsonFormat presence decode value' = .ok kept := by
  rcases decodeField_eq_ok.mp decoded with ⟨takes, absent, -⟩ | ⟨there, made, own, -⟩
  · rw [null.mpr absent]
    exact ⟨none, decodeField_null takes⟩
  · obtain ⟨made', own'⟩ := succeeds ⟨made, own⟩
    exact ⟨some made', decodeField_eq_ok.mpr (.inr ⟨fun takes => mt null.mp (there takes), made', own', rfl⟩)⟩

section

variable {e : Edit}

mutual

/-- **Edits that keep each record decoded** keep a value with records in it decoded. -/
theorem decodes_edit (keeps : e.Keeps) : ∀ {shape : Shape} (path : List Step) (value : Json), shape.IsCoherent →
    (∃ made, shape.ofJson value = .ok made) → ∃ made, shape.ofJson (shape.edit e path value) = .ok made
  | .text, _, _, _, decoded => decoded
  | .flag, _, _, _, decoded => decoded
  | .integer _, _, _, _, decoded => decoded
  | .quantity, _, _, _, decoded => decoded
  | .timestamp, _, _, _, decoded => decoded
  | .any, _, _, _, decoded => decoded
  | .choice _, _, _, _, decoded => decoded
  | .list item, path, value, coherent, ⟨made, decoded⟩ => by
    obtain ⟨items, all, rfl, -, run⟩ := ofJson_list_eq_ok decoded
    have each : ∀ i ∈ items.mapIdx fun index i => item.edit e (path ++ [.item index]) i,
        ∃ made, item.ofJson i = .ok made := by
      intro i mem
      obtain ⟨index, small, rfl⟩ := List.mem_mapIdx.mp mem
      exact decodes_edit keeps _ _ coherent ((decodeItems_eq_ok run).1 _ (List.getElem_mem small))
    obtain ⟨edited, run'⟩ := decodeItems_ok each 0
    exact ⟨.arr edited, bind_eq_ok.mpr ⟨_, rfl, bind_eq_ok.mpr ⟨edited, run', rfl⟩⟩⟩
  | .map shape, path, value, coherent, ⟨made, decoded⟩ => by
    obtain ⟨members, all, rfl, -, run⟩ := ofJson_map_eq_ok decoded
    have each : ∀ m ∈ members.map fun m => (m.1, shape.edit e (path ++ [.entry (some m.1)]) m.2),
        ∃ made, shape.ofJson m.2 = .ok made := by
      intro m mem
      obtain ⟨own, inside, rfl⟩ := List.mem_map.mp mem
      exact decodes_edit keeps _ _ coherent (decodeEntries_eq_ok run own inside)
    obtain ⟨edited, run'⟩ := decodeEntries_ok each []
    exact ⟨.obj edited, bind_eq_ok.mpr ⟨_, rfl, bind_eq_ok.mpr ⟨edited, run', rfl⟩⟩⟩
  | .record name strict fields, path, value, coherent, decoded => by
    cases value with
    | obj members =>
      rw [edit_obj]
      apply keeps path name strict fields _ coherent.1 coherent.2
      refine ofJson_obj_succeeds ?_ decoded
      rw [List.forall₂_map_right_iff, List.forall₂_same]
      intro m _
      exact ⟨rfl, fun decode known => decodes_editMember keeps path m.2 coherent.2 known⟩
    | arr parts =>
      cases strict with
      | false => exact absurd decoded (fun ⟨_, run⟩ => nomatch run)
      | true =>
        obtain ⟨made, decoded⟩ := decoded
        have run (all : List Json) : (Shape.record name true fields).ofJson (.arr all) = (do
            let (members, left) ← Fields.decodePlaces jsonFormat (wantedList name fields.size) fields 0 all
            if left.isEmpty then return .obj members
            else fail (.invalidLength all.length "fewer elements in array")) := rfl
        rw [run] at decoded
        obtain ⟨⟨members, left⟩, places, decoded⟩ := bind_eq_ok.mp decoded
        obtain ⟨others, left', places', ends⟩ := decodesPlaces_edit keeps path coherent.2 places
        have none : left.isEmpty = true := by
          by_contra more
          dsimp only at decoded
          rw [if_neg more] at decoded
          cases decoded
        refine ⟨.obj others, ?_⟩
        show (Shape.record name true fields).ofJson (.arr (fields.editPlaces e path parts)) = _
        rw [run, places']
        show (if left'.isEmpty then _ else _) = _
        rw [ends, if_pos none]
        rfl
    | _ => exact decoded

theorem decodes_editMember (keeps : e.Keeps) : ∀ {fields : Fields} (path : List Step) {name : String}
    (value : Json), fields.AreCoherent → ∀ {decode : Json → Result (Option Json)},
      Fields.decoder jsonFormat fields name = some decode → (∃ made, decode value = .ok made) →
        ∃ made, decode (fields.editMember e path name value) = .ok made
  | .nil, _, _, _, _, _, known, _ => nomatch known
  | .cons key presence shape rest, path, name, value, coherent, decode, known, ⟨made, decoded⟩ => by
    by_cases same : name = key
    · subst same
      rw [decoder_self] at known
      cases known
      rw [editMember_self]
      exact decodeField_succeeds decoded edit_eq_null (decodes_edit keeps _ value coherent.2.1)
    · rw [decoder_of_ne presence shape rest same] at known
      rw [editMember_of_ne _ _ same]
      exact decodes_editMember keeps path value coherent.2.2 known ⟨made, decoded⟩

theorem decodesPlaces_edit (keeps : e.Keeps) {wanted : String} : ∀ {fields : Fields} (path : List Step) {index : Nat}
    {parts left : List Json} {members : List (String × Json)}, fields.AreCoherent →
      Fields.decodePlaces jsonFormat wanted fields index parts = .ok (members, left) →
      ∃ others left', Fields.decodePlaces jsonFormat wanted fields index (fields.editPlaces e path parts) =
        .ok (others, left') ∧ left'.isEmpty = left.isEmpty
  | .nil, _, _, _, left, members, _, decoded => ⟨members, left, decoded, rfl⟩
  | .cons _ _ _ _, _, _, [], left, members, _, decoded => ⟨members, left, decoded, rfl⟩
  | .cons key presence shape rest, path, index, part :: parts, left, members, coherent, decoded => by
    have run (part : Json) (parts : List Json) :
        Fields.decodePlaces jsonFormat wanted (.cons key presence shape rest) index (part :: parts) = (do
          let value ← decodeField jsonFormat presence shape.ofJson part
          let (others, left) ← Fields.decodePlaces jsonFormat wanted rest (index + 1) parts
          return (presence.kept key value ++ others, left)) := rfl
    rw [run] at decoded
    obtain ⟨value, own, decoded⟩ := bind_eq_ok.mp decoded
    obtain ⟨⟨others, left⟩, later, same⟩ := bind_eq_ok.mp decoded
    cases same
    obtain ⟨value', own'⟩ := decodeField_succeeds own (@edit_eq_null e shape (path ++ [.entry (some key)]) part)
      (decodes_edit keeps _ part coherent.2.1)
    obtain ⟨others', left', later', ends⟩ := decodesPlaces_edit keeps path coherent.2.2 later
    refine ⟨presence.kept key value' ++ others', left', ?_, ends⟩
    rw [editPlaces_cons, run, own']
    show Fields.decodePlaces jsonFormat wanted rest (index + 1) (rest.editPlaces e path parts) >>= _ = _
    rw [later']
    rfl

end

end

/-- A field that must be given has nothing to fall back on. -/
theorem Fields.find?_of_mem_needs {key : String} : ∀ {fields : Fields}, fields.keys.Nodup → key ∈ fields.needs →
    ∃ presence shape, fields.find? key = some (presence, shape) ∧ presence.fallback = none
  | .nil, _, mem => nomatch mem
  | .cons own presence shape rest, distinct, mem => by
    obtain ⟨single, distinct⟩ := List.nodup_cons.mp distinct
    have behind (mem : key ∈ rest.needs) : ∃ presence' shape',
        (cons own presence shape rest).find? key = some (presence', shape') ∧ presence'.fallback = none := by
      obtain ⟨presence', shape', found, lacks⟩ := find?_of_mem_needs distinct mem
      have ne : key ≠ own := fun same => single (same ▸ mem_keys_of_find? found)
      exact ⟨presence', shape', (if_neg ne).trans found, lacks⟩
    rw [needs] at mem
    split at mem
    · exact behind mem
    · rename_i lacks
      rcases List.mem_cons.mp mem with rfl | mem
      · exact ⟨presence, shape, if_pos rfl, by simpa using lacks⟩
      · exact behind mem

/-- To take out members that may be absent keeps a record decoded. -/
theorem Edit.keeps_without (chosen : List Step → String → Bool) : (without chosen).Keeps := by
  rintro path name strict fields members distinct coherent ⟨made, decoded⟩
  obtain ⟨found, filling, visited, filled, -⟩ := ofJson_obj_eq_ok.mp decoded
  have left := visitMembers_filter (fun key => !(without chosen).drops path fields key) visited
  have given : ∀ key ∈ fields.needs,
      ((found.filter fun f => !(without chosen).drops path fields f.1).lookup key).isSome = true := by
    intro key mem
    obtain ⟨presence, shape, declared, lacks⟩ := Fields.find?_of_mem_needs distinct mem
    have stays : (without chosen).drops path fields key = false := by
      by_contra dropped
      have default : key ∈ fields.defaults.map (·.1) := by
        simp only [without, Bool.not_eq_false, Bool.and_eq_true, decide_eq_true_eq] at dropped
        exact dropped.2
      obtain ⟨d, own, rfl⟩ := List.mem_map.mp default
      obtain ⟨presence', shape', declared', default, itself⟩ := Fields.find?_of_mem_defaults distinct coherent own
      cases declared.symm.trans declared'
      obtain ⟨kept, fallback, -⟩ := decode_default itself default
      rw [lacks] at fallback
      cases fallback
    rw [lookup_filter fun key => !(without chosen).drops path fields key, stays]
    exact needs_of_fill filled key mem
  obtain ⟨others, filled'⟩ := fill_ok given
  have apply : (without chosen).apply path fields members =
      members.filter fun m => !(without chosen).drops path fields m.1 :=
    List.append_nil _
  exact ⟨.obj others, ofJson_obj_eq_ok.mpr ⟨_, others, by rw [apply]; exact left, filled', rfl⟩⟩

/-- **Without members that may be absent** a value that is decoded still is. -/
theorem decodes_without {shape : Shape} (coherent : shape.IsCoherent) (chosen : List Step → String → Bool)
    {value made : Json} (decoded : shape.ofJson value = .ok made) :
    ∃ other, shape.ofJson (shape.without chosen value) = .ok other :=
  decodes_edit (Edit.keeps_without chosen) [] value coherent ⟨made, decoded⟩

end ControllerSynthesis.Record
