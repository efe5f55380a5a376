/-
# Canonical values are decoded to themselves

The canonical values of a shape are those that decoding can give: declared fields
only, in the order of their declaration, with those absent that may be, and maps in
the order of their keys. Which values of any kind are canonical differs from format to
format. A format reads values if each value has a part, and this part is what the value
is. In such a format the part of a canonical value is decoded to it, and a record stands
for the same value if unknown fields are written in front of it.

Key definitions: `Record.Shape.Canonical`, `Record.Fields.Canonical`,
`Record.Format.Reads`.
Key theorems: `Record.Format.Reads.decode_canonical`,
`Record.Format.Reads.decode_record_behind`.
-/
import ControllerSynthesis.Proofs.KeyMap
import ControllerSynthesis.Record.Decoding

namespace ControllerSynthesis.Record

/-- Whether a field may be absent, and is then left out or null. -/
def Presence.mayLack : Presence → Bool
  | .nullable => true
  | .omitted => true
  | .lenient none => true
  | _ => false

/-- What such a field has when it is absent. -/
theorem Presence.kept_none (presence : Presence) (key : String) (lacks : presence.mayLack = true) :
    (presence = .nullable ∧ presence.kept key none = [(key, .null)]) ∨
      (presence ≠ .nullable ∧ presence.kept key none = []) := by
  rcases presence with - | _ | - | - | - | _
  · cases lacks
  · cases lacks
  · exact .inl ⟨rfl, rfl⟩
  · exact .inr ⟨nofun, rfl⟩
  · exact .inr ⟨nofun, rfl⟩
  · cases lacks

mutual

/-- The values that decoding by a shape can give, in a part that lies in so many lists
and mappings; `any` says which values of any kind are among them. -/
def Shape.Canonical (any : Nat → Json → Prop) : Shape → Nat → Json → Prop
  | .text, _, value => ∃ text, value = .str text
  | .flag, _, value => ∃ b, value = .bool b
  | .integer width, _, value => ∃ n, value = .int n ∧ width.holds n = true
  | .quantity, _, value => ∃ text, value = .str text
  | .timestamp, _, value => ∃ text, value = .str text ∧ readTimestamp text = .ok text
  | .any, depth, value => any depth value
  | .choice names, _, value => ∃ name ∈ names, value = .str name
  | .list item, depth, value =>
    ∃ items, value = .arr items ∧ ∀ i ∈ items, item.Canonical any (depth + 1) i
  | .map shape, depth, value => ∃ members, value = .obj members ∧
    members.Pairwise (fun a b => a.1 < b.1) ∧ ∀ m ∈ members, shape.Canonical any (depth + 1) m.2
  | .record _ _ fields, depth, value =>
    ∃ members, value = .obj members ∧ fields.Canonical any (depth + 1) members

/-- The members that decoding by fields can give. -/
def Fields.Canonical (any : Nat → Json → Prop) : Fields → Nat → List (String × Json) → Prop
  | .nil, _, members => members = []
  | .cons key presence shape rest, depth, members => key ∉ rest.keys ∧ ∃ value others,
    members = presence.kept key value ++ others ∧ rest.Canonical any depth others ∧
      match value with
      | some value => shape.Canonical any depth value ∧ value ≠ .null
      | none => presence.mayLack = true

end

/-- A text is read exactly if it names a point in time. -/
theorem readTimestamp_eq_ok {given text : String} :
    readTimestamp given = .ok text ↔ text = given ∧ ∃ t, Calendar.Instant.read given.toList = .ok t := by
  unfold readTimestamp
  split
  · rename_i t read
    exact ⟨fun same => ⟨(Except.ok.inj same).symm, t, read⟩, fun named => by rw [named.1]⟩
  · rename_i fault read
    exact ⟨nofun, fun ⟨_, t, names⟩ => nomatch read.symm.trans names⟩

theorem Presence.fallback_of_mayLack {presence : Presence} (lacks : presence.mayLack = true) :
    presence.fallback = some none := by
  cases presence <;> first | rfl | cases lacks

/-! ### Formats that read values -/

variable {μ : Type → Type} [Monad μ] [MonadExceptOf Failure μ] {ν : Type}

/-- The members of an object as parts. -/
def entryParts (part : Nat → Json → ν) (depth : Nat) (members : List (String × Json)) : List (ν × ν) :=
  members.map fun m => (part depth (.str m.1), part depth m.2)

/-- A format in which each value has a part in so many lists and mappings, and the part
is what the value is. Of the values of any kind, those in `any` are read. -/
structure Format.Reads (format : Format μ ν) (any : Nat → Json → Prop) (part : Nat → Json → ν) : Prop where
  under_pure : ∀ {α : Type} (step : Step) (a : α), under step (pure a : μ α) = pure a
  text : ∀ (wanted text : String) (depth : Nat), format.text wanted (part depth (.str text)) = pure text
  flag : ∀ (b : Bool) (depth : Nat), format.flag (part depth (.bool b)) = pure b
  integer : ∀ {width : Width} {n : Int}, width.holds n = true → ∀ depth : Nat,
    format.integer width (part depth (.int n)) = pure n
  quantity : ∀ (text : String) (depth : Nat), format.quantity (part depth (.str text)) = pure text
  timestamp : ∀ {text : String}, readTimestamp text = .ok text → ∀ depth : Nat,
    format.timestamp (part depth (.str text)) = pure text
  choice : ∀ {names : List String} {name : String}, name ∈ names → ∀ depth : Nat,
    format.choice names (part depth (.str name)) = pure name
  anything : ∀ {depth : Nat} {value : Json}, any depth value → format.any (part depth value) = pure value
  present : ∀ {shape : Shape} {depth : Nat} {value : Json}, shape.Canonical any depth value → value ≠ .null →
    format.present? (part depth value) = pure (some (part depth value))
  absent : ∀ depth : Nat, format.present? (part depth .null) = pure none
  items : ∀ (items : List Json) (depth : Nat),
    format.items (part depth (.arr items)) = pure (items.map (part (depth + 1)))
  entries : ∀ (members : List (String × Json)) (depth : Nat),
    format.entries (part depth (.obj members)) = pure (entryParts part (depth + 1) members)
  contents : ∀ (name : String) (strict : Bool) (members : List (String × Json)) (depth : Nat),
    format.contents name strict (part depth (.obj members)) = pure (.entries (entryParts part (depth + 1) members))
  pass : ∀ (depth : Nat) (value : Json), format.pass (part depth value) = pure ()

/-! ### Decoders of fields -/

theorem Fields.not_mem_keys_cons {name key : String} {presence : Presence} {shape : Shape} {rest : Fields} :
    name ∉ (Fields.cons key presence shape rest).keys ↔ name ≠ key ∧ name ∉ rest.keys := by
  simp [Fields.keys]

theorem lookup_cons_of_ne {α : Type} {name key : String} (ne : name ≠ key) (value : α)
    (entries : List (String × α)) : ((key, value) :: entries).lookup name = entries.lookup name := by
  rw [List.lookup_cons, beq_false_of_ne ne]

section

variable {format : Format μ ν}

theorem decoder_self (key : String) (presence : Presence) (shape : Shape) (rest : Fields) :
    Fields.decoder format (.cons key presence shape rest) key =
      some (decodeField format presence (Shape.decode format shape)) := by
  simp only [Fields.decoder, if_pos]

theorem decoder_of_ne {name key : String} (presence : Presence) (shape : Shape) (rest : Fields) (ne : name ≠ key) :
    Fields.decoder format (.cons key presence shape rest) name = Fields.decoder format rest name := by
  simp only [Fields.decoder, if_neg ne]

theorem decoder_of_not_mem : ∀ {fields : Fields} {name : String}, name ∉ fields.keys →
    Fields.decoder format fields name = none
  | .nil, _, _ => rfl
  | .cons key presence shape rest, name, mem => by
    obtain ⟨ne, notRest⟩ := Fields.not_mem_keys_cons.mp mem
    rw [decoder_of_ne presence shape rest ne, decoder_of_not_mem notRest]

end

variable [LawfulMonad μ] {format : Format μ ν} {any : Nat → Json → Prop} {part : Nat → Json → ν}

namespace Format.Reads

/-- A field with a value is decoded to its value. -/
theorem decodeField_part (reads : format.Reads any part) {presence : Presence} {shape : Shape} {depth : Nat}
    {value : Json} (canonical : shape.Canonical any depth value) (there : value ≠ .null)
    (decoded : shape.decode format (part depth value) = pure value) :
    decodeField format presence (shape.decode format) (part depth value) = pure (some value) := by
  have present := reads.present canonical there
  cases presence with
  | required => simp [decodeField, decoded]
  | defaulted fallback => simp [decodeField, decoded]
  | nullable => simp [decodeField, present, decoded]
  | omitted => simp [decodeField, present, decoded]
  | lenient fallback => simp [decodeField, present, decoded]

/-- The items of a list are decoded one by one. -/
theorem decodeItems_parts (reads : format.Reads any part) {decode : ν → μ Json} {depth : Nat} :
    ∀ {items : List Json}, (∀ i ∈ items, decode (part depth i) = pure i) → ∀ index : Nat,
      decodeItems decode index (items.map (part depth)) = pure items
  | [], _, _ => rfl
  | item :: items, decoded, index => by
    rw [List.map_cons, decodeItems, decoded item List.mem_cons_self, reads.under_pure, pure_bind,
      reads.decodeItems_parts (fun i mem => decoded i (List.mem_cons_of_mem _ mem)) (index + 1), pure_bind]

/-- The entries of a map are decoded in their order. -/
theorem decodeEntries_parts (reads : format.Reads any part) {decode : ν → μ Json} {depth : Nat} :
    ∀ {members done : List (String × Json)}, (done ++ members).Pairwise (fun a b => a.1 < b.1) →
      (∀ m ∈ members, decode (part depth m.2) = pure m.2) →
      decodeEntries (format.text "a string") format.label decode done (entryParts part depth members) =
        pure (done ++ members)
  | [], done, _, _ => by
    rw [List.append_nil]
    rfl
  | (key, value) :: members, done, ascending, decoded => by
    have before : ∀ e ∈ done, e.1 < key := fun e mem =>
      (List.pairwise_append.mp ascending).2.2 e mem _ List.mem_cons_self
    rw [entryParts, List.map_cons, decodeEntries, reads.text, pure_bind, decoded _ List.mem_cons_self,
      reads.under_pure, pure_bind, KeyMap.insertEntry_last before]
    have later := @decodeEntries_parts reads decode depth members (done ++ [(key, value)]) (by simpa using ascending)
      fun m mem => decoded m (List.mem_cons_of_mem _ mem)
    simpa [entryParts] using later

section

variable {decoder : String → Option (ν → μ (Option Json))} {strict : Bool} {done : List (String × Option Json)}
  {key : String} {value : Json} {depth : Nat} {parts : List (ν × ν)}

/-- An entry of a declared field that has not come yet. -/
theorem visitEntries_declared (reads : format.Reads any part) {decode : ν → μ (Option Json)} {found : Option Json}
    (known : decoder key = some decode) (fresh : strict = true → done.lookup key = none)
    (decoded : decode (part depth value) = pure found) :
    visitEntries format strict decoder done ((part depth (.str key), part depth value) :: parts) =
      visitEntries format strict decoder ((key, found) :: done) parts := by
  have single : ¬(strict && (done.lookup key).isSome) = true := by
    cases strict with
    | false => exact Bool.false_ne_true
    | true => simp [fresh rfl]
  rw [visitEntries, reads.text, pure_bind]
  simp only [known, if_neg single, decoded, reads.under_pure, pure_bind]

/-- An entry of an unknown field is read over. -/
theorem visitEntries_unknown (reads : format.Reads any part) (unknown : decoder key = none) :
    visitEntries format strict decoder done ((part depth (.str key), part depth value) :: parts) =
      visitEntries format strict decoder done parts := by
  rw [visitEntries, reads.text, pure_bind]
  simp only [unknown, reads.pass, reads.under_pure, pure_bind]

end

end Format.Reads

/-! ### Records -/

/-- Visiting entries finds what the fields are filled with to give these members. -/
def Finds (format : Format μ ν) (fields : Fields) (decoder : String → Option (ν → μ (Option Json)))
    (strict : Bool) (done : List (String × Option Json)) (parts : List (ν × ν))
    (members : List (String × Json)) : Prop :=
  ∃ found : List (String × Option Json),
    visitEntries format strict decoder done parts = pure (found ++ done) ∧
    (∀ key, key ∉ fields.keys → found.lookup key = none) ∧
    ∀ more : List (String × Option Json), (∀ key ∈ fields.keys, more.lookup key = found.lookup key) →
      (fields.fill more : μ _) = pure members

section

variable {decoder : String → Option (ν → μ (Option Json))} {strict : Bool}
  {done : List (String × Option Json)} {parts : List (ν × ν)} {key : String} {presence : Presence}
  {shape : Shape} {rest : Fields} {others : List (String × Json)}

theorem fill_cons {more : List (String × Option Json)} {kept : Option Json}
    (own : (more.lookup key).or presence.fallback = some kept)
    (later : (rest.fill more : μ _) = pure others) :
    ((Fields.cons key presence shape rest).fill more : μ _) = pure (presence.kept key kept ++ others) := by
  rw [Fields.fill, own]
  simp only [later, pure_bind]

/-- A field that is written is found. -/
theorem Finds.written (reads : format.Reads any part) {decode : ν → μ (Option Json)} {depth : Nat} {value : Json}
    {kept : Option Json} (single : key ∉ rest.keys) (known : decoder key = some decode)
    (fresh : done.lookup key = none) (decoded : decode (part depth value) = pure kept)
    (later : Finds format rest decoder strict ((key, kept) :: done) parts others) :
    Finds format (.cons key presence shape rest) decoder strict done
      ((part depth (.str key), part depth value) :: parts) (presence.kept key kept ++ others) := by
  obtain ⟨found, visited, none, filled⟩ := later
  have own : (found ++ [(key, kept)]).lookup key = some kept := by
    simp [List.lookup_append, none key single]
  have other (name : String) (ne : name ≠ key) :
      (found ++ [(key, kept)]).lookup name = found.lookup name := by
    rw [List.lookup_append, lookup_cons_of_ne ne, List.lookup_nil, Option.or_none]
  refine ⟨found ++ [(key, kept)], ?_, fun name mem => ?_, fun more agree => ?_⟩
  · rw [reads.visitEntries_declared known (fun _ => fresh) decoded, visited]
    simp
  · obtain ⟨ne, notRest⟩ := Fields.not_mem_keys_cons.mp mem
    rw [other name ne, none name notRest]
  · refine fill_cons ?_ (filled more fun name mem => ?_)
    · rw [agree key List.mem_cons_self, own]
      rfl
    · have ne : name ≠ key := fun same => single (same ▸ mem)
      rw [agree name (List.mem_cons_of_mem _ mem), other name ne]

/-- A field that is not written may be absent. -/
theorem Finds.absent (single : key ∉ rest.keys) (lacks : presence.fallback = some none)
    (later : Finds format rest decoder strict done parts others) :
    Finds format (.cons key presence shape rest) decoder strict done parts
      (presence.kept key none ++ others) := by
  obtain ⟨found, visited, none, filled⟩ := later
  refine ⟨found, visited, fun name mem => none name (Fields.not_mem_keys_cons.mp mem).2, fun more agree => ?_⟩
  refine fill_cons ?_ (filled more fun name mem => agree name (List.mem_cons_of_mem _ mem))
  rw [agree key List.mem_cons_self, none key single, lacks]
  rfl

end

namespace Format.Reads

/-- A record from what was found for its fields. -/
theorem decode_record (reads : format.Reads any part) {name : String} {strict : Bool} {fields : Fields} {depth : Nat}
    {written members : List (String × Json)} {found : List (String × Option Json)}
    (visited : visitEntries format strict (Fields.decoder format fields) []
      (entryParts part (depth + 1) written) = pure found)
    (filled : (fields.fill found : μ _) = pure members) :
    (Shape.record name strict fields).decode format (part depth (.obj written)) = pure (.obj members) := by
  simp only [Shape.decode, reads.contents, pure_bind, visited, filled]

mutual

/-- **The part of a canonical value is decoded to it.** -/
theorem decode_canonical (reads : format.Reads any part) : ∀ {shape : Shape} {depth : Nat} {value : Json},
    shape.Canonical any depth value → shape.decode format (part depth value) = pure value
  | .text, depth, _, canonical => by
    obtain ⟨text, rfl⟩ := canonical
    simp [Shape.decode, reads.text]
  | .flag, depth, _, canonical => by
    obtain ⟨b, rfl⟩ := canonical
    simp [Shape.decode, reads.flag]
  | .integer width, depth, _, canonical => by
    obtain ⟨n, rfl, holds⟩ := canonical
    simp [Shape.decode, reads.integer holds]
  | .quantity, depth, _, canonical => by
    obtain ⟨text, rfl⟩ := canonical
    simp [Shape.decode, reads.quantity]
  | .timestamp, depth, _, canonical => by
    obtain ⟨text, rfl, read⟩ := canonical
    simp [Shape.decode, reads.timestamp read]
  | .any, depth, value, canonical => reads.anything canonical
  | .choice names, depth, _, canonical => by
    obtain ⟨name, mem, rfl⟩ := canonical
    simp [Shape.decode, reads.choice mem]
  | .list item, depth, _, canonical => by
    obtain ⟨items, rfl, all⟩ := canonical
    have decoded := reads.decodeItems_parts (fun i mem => @decode_canonical reads item (depth + 1) i (all i mem)) 0
    simp only [Shape.decode, reads.items, pure_bind, decoded]
  | .map shape, depth, _, canonical => by
    obtain ⟨members, rfl, ascending, all⟩ := canonical
    have decoded := @decodeEntries_parts _ _ _ _ _ _ _ _ reads _ (depth + 1) members [] ascending fun m mem =>
      @decode_canonical reads shape (depth + 1) m.2 (all m mem)
    simp only [Shape.decode, reads.entries, pure_bind, decoded, List.nil_append]
  | .record name strict fields, depth, _, canonical => by
    obtain ⟨members, rfl, fits⟩ := canonical
    have finds : Finds format fields (Fields.decoder format fields) strict [] _ members :=
      finds_ofMembers reads fits (fun _ _ => rfl) fun _ _ => rfl
    obtain ⟨found, visited, -, filled⟩ := finds
    rw [List.append_nil] at visited
    exact reads.decode_record visited (filled found fun _ _ => rfl)

/-- Visiting the members of canonical fields finds what the fields are filled with. -/
theorem finds_ofMembers (reads : format.Reads any part) : ∀ {fields : Fields} {depth : Nat}
    {members : List (String × Json)}, fields.Canonical any depth members →
    ∀ {decoder : String → Option (ν → μ (Option Json))} {strict : Bool} {done : List (String × Option Json)},
      (∀ key ∈ fields.keys, decoder key = Fields.decoder format fields key) →
      (∀ key ∈ fields.keys, done.lookup key = none) →
      Finds format fields decoder strict done (entryParts part depth members) members
  | .nil, depth, _, canonical, decoder, strict, done, _, _ => by
    rw [show _ = [] from canonical]
    exact ⟨[], rfl, fun _ _ => rfl, fun _ _ => rfl⟩
  | .cons key presence shape rest, depth, _, canonical, decoder, strict, done, declared, fresh => by
    obtain ⟨single, value, others, rfl, later, given⟩ := canonical
    have other : ∀ name ∈ rest.keys, name ≠ key := fun name mem same => single (same ▸ mem)
    have known := (declared key List.mem_cons_self).trans (decoder_self key presence shape rest)
    have find {done : List (String × Option Json)} (fresh : ∀ name ∈ rest.keys, done.lookup name = none) :
        Finds format rest decoder strict done (entryParts part depth others) others := by
      refine finds_ofMembers reads later (fun name mem => ?_) fresh
      rw [declared name (List.mem_cons_of_mem _ mem), decoder_of_ne _ _ _ (other name mem)]
    have freshLater : ∀ name ∈ rest.keys, done.lookup name = none := fun name mem =>
      fresh name (List.mem_cons_of_mem _ mem)
    have freshBehind (kept : Option Json) : ∀ name ∈ rest.keys, ((key, kept) :: done).lookup name = none := by
      intro name mem
      rw [lookup_cons_of_ne (other name mem), freshLater name mem]
    cases value with
    | some value =>
      exact Finds.written reads single known (fresh key List.mem_cons_self)
        (reads.decodeField_part given.1 given.2 (decode_canonical reads given.1)) (find (freshBehind _))
    | none =>
      obtain ⟨rfl, null⟩ | ⟨-, absent⟩ := presence.kept_none key given
      · refine Finds.written reads single known (fresh key List.mem_cons_self) ?_ (find (freshBehind _))
        simp [decodeField, reads.absent]
      · have found : Finds format (.cons key presence shape rest) decoder strict done
            (entryParts part depth others) (presence.kept key none ++ others) :=
          (find freshLater).absent single (Presence.fallback_of_mayLack given)
        rw [absent] at found ⊢
        exact found

end

/-- **Unknown fields in front of a record are read over.** -/
theorem decode_record_behind (reads : format.Reads any part) {name : String} {strict : Bool} {fields : Fields}
    {depth : Nat} {unknown members : List (String × Json)} (canonical : fields.Canonical any (depth + 1) members)
    (others : ∀ m ∈ unknown, m.1 ∉ fields.keys) :
    (Shape.record name strict fields).decode format (part depth (.obj (unknown ++ members))) =
      pure (.obj members) := by
  have finds : Finds format fields (Fields.decoder format fields) strict [] _ members :=
    reads.finds_ofMembers canonical (fun _ _ => rfl) fun _ _ => rfl
  obtain ⟨found, visited, -, filled⟩ := finds
  rw [List.append_nil] at visited
  refine reads.decode_record ?_ (filled found fun _ _ => rfl)
  induction unknown with
  | nil => exact visited
  | cons m unknown ih =>
    exact (reads.visitEntries_unknown (decoder_of_not_mem (others m List.mem_cons_self))).trans
      (ih fun m mem => others m (List.mem_cons_of_mem _ mem))

end Format.Reads

end ControllerSynthesis.Record
