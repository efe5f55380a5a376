/-
# Members of written values

What the members of an object are read as is what they were made of, one field at a
time: a member that is left out or null is read as absent.

Key theorems: `Json.lookup_append`, `Json.lookup_optional`, `Json.asText?_getD`,
`Json.asKeyMap?_ofKeyMap`, `KeyMap.ofList_entries`.
-/
import ControllerSynthesis.Json.Access
import ControllerSynthesis.Proofs.KeyMap

namespace ControllerSynthesis

/-- A map is the map of its entries. -/
theorem KeyMap.ofList_entries {α : Type} (m : KeyMap α) : ofList m.entries = m := by
  have add : ∀ (es : List (String × α)) (done : KeyMap α), (done.entries ++ es).Pairwise (fun a b => a.1 < b.1) →
      (es.foldl (fun m e => m.insert e.1 e.2) done).entries = done.entries ++ es := by
    intro es
    induction es with
    | nil => simp
    | cons e es ih =>
      intro done ascending
      have before : ∀ d ∈ done.entries, d.1 < e.1 := fun d mem =>
        (List.pairwise_append.mp ascending).2.2 d mem e List.mem_cons_self
      have entries : (done.insert e.1 e.2).entries = done.entries ++ [e] := insertEntry_last before
      rw [List.foldl_cons, ih _ (by rw [entries]; simpa using ascending), entries]
      simp
  exact ext_entries (add m.entries empty m.ascending)

namespace Json

/-! ### Looking up members -/

variable {key : String}

@[simp] theorem lookup_append : ∀ a b : List (String × Json), lookup key (a ++ b) = (lookup key a).or (lookup key b)
  | [], _ => rfl
  | (k, v) :: a, b => by
    rw [List.cons_append, lookup, lookup, lookup_append a b]
    split <;> rfl

@[simp] theorem lookup_optional (k : String) (value : Option Json) :
    lookup key (optional k value) = if k = key then value else none := by
  cases value with
  | none => simp [optional, lookup]
  | some value => simp [optional, lookup]

@[simp] theorem mem_optional {k : String} {v : Json} {value : Option Json} :
    (key, v) ∈ optional k value ↔ key = k ∧ value = some v := by
  cases value with
  | none => simp [optional]
  | some value => simp [optional, eq_comm]

theorem lookup_eq_find? (members : List (String × Json)) :
    lookup key members = (members.find? fun m => m.1 = key).map (·.2) := by
  induction members with
  | nil => rfl
  | cons m members ih =>
    obtain ⟨own, value⟩ := m
    by_cases same : own = key
    · simp [lookup, same]
    · simp [lookup, same, ih]

theorem lookup_eq_none {members : List (String × Json)} (absent : key ∉ members.map Prod.fst) :
    lookup key members = none := by
  rw [lookup_eq_find?, List.find?_eq_none.mpr, Option.map_none]
  intro m mem same
  exact absent (List.mem_map.mpr ⟨m, mem, by simpa using same⟩)

@[simp] theorem get_obj (members : List (String × Json)) : (obj members).get key = (lookup key members).getD null := rfl

/-! ### Reading what was written -/

@[simp] theorem asText?_str (text : String) : (str text).asText? = some text := rfl

@[simp] theorem asInt?_int (n : Int) : (int n).asInt? = some n := rfl

@[simp] theorem asFlag?_bool (b : Bool) : (bool b).asFlag? = some b := rfl

@[simp] theorem asText?_getD (value : Option String) : ((value.map str).getD null).asText? = value := by
  cases value <;> rfl

@[simp] theorem asText?_textOrNull (value : Option String) : (textOrNull value).asText? = value := by
  cases value <;> rfl

@[simp] theorem asInt?_getD (value : Option Int) : ((value.map int).getD null).asInt? = value := by
  cases value <;> rfl

@[simp] theorem asFlag?_getD (value : Option Bool) : ((value.map bool).getD null).asFlag? = value := by
  cases value <;> rfl

@[simp] theorem asKeyMap?_ofKeyMap (m : KeyMap String) : (ofKeyMap m).asKeyMap? = some m := by
  have entries : (m.entries.map fun e => (e.1, str e.2)).map (fun e => (e.1, e.2.asText?.getD "")) = m.entries := by
    rw [List.map_map]
    exact List.map_id m.entries
  rw [ofKeyMap, asKeyMap?, entries, KeyMap.ofList_entries]

/-- The members of a map are what is found in it. -/
theorem get_ofKeyMap (m : KeyMap String) (key : String) : (ofKeyMap m).get key = ((m.get? key).map str).getD null := by
  rw [ofKeyMap, get_obj, lookup_eq_find?, List.find?_map, KeyMap.get?, Option.map_map, Option.map_map]
  rfl

@[simp] theorem asKeyMap?_getD (value : Option (KeyMap String)) :
    ((value.map ofKeyMap).getD null).asKeyMap? = value := by
  cases value with
  | none => rfl
  | some m => exact asKeyMap?_ofKeyMap m

@[simp] theorem asItems?_null : null.asItems? = none := rfl

@[simp] theorem asItems?_arr (items : List Json) : (arr items).asItems? = some items := rfl

@[simp] theorem asItems?_texts (value : Option (List String)) :
    (((value.map texts).getD null).asItems?.map fun items => items.map fun i => i.asText?.getD "") = value := by
  cases value with
  | none => rfl
  | some items =>
    have same : (items.map str).map (fun i => i.asText?.getD "") = items := by
      rw [List.map_map]
      exact List.map_id items
    exact congrArg some same

theorem asInt?_eq_some {value : Json} {n : Int} : value.asInt? = some n ↔ value = int n := by
  cases value <;> simp [asInt?]

theorem eq_of_asRecord? {value record : Json} (same : value.asRecord? = some record) :
    value = record := by
  cases value <;> cases same
  rfl

/-- Records in a list. -/
theorem asItems?_getD_of_mem {α : Type} {toJson : α → Json} {ofJson : Json → α} {value : Option (List α)}
    (read : ∀ items ∈ value, ∀ a ∈ items, ofJson (toJson a) = a) :
    (((value.map fun items => arr (items.map toJson)).getD null).asItems?.map fun items => items.map ofJson) =
      value := by
  cases value with
  | none => rfl
  | some items =>
    have same : (items.map toJson).map ofJson = items := by
      rw [List.map_map]
      exact (List.map_congr_left (read items rfl)).trans (List.map_id items)
    exact congrArg some same

theorem asItems?_getD {α : Type} {toJson : α → Json} {ofJson : Json → α} (read : ∀ a, ofJson (toJson a) = a)
    (value : Option (List α)) :
    (((value.map fun items => arr (items.map toJson)).getD null).asItems?.map fun items => items.map ofJson) =
      value :=
  asItems?_getD_of_mem fun _ _ a _ => read a

/-- A record, of which the value is an object. -/
theorem asRecord?_getD {α : Type} {toJson : α → Json} {ofJson : Json → α} (read : ∀ a, ofJson (toJson a) = a)
    (object : ∀ a, ∃ members, toJson a = obj members) (value : Option α) :
    (((value.map toJson).getD null).asRecord?.map ofJson) = value := by
  cases value with
  | none => rfl
  | some a =>
    obtain ⟨members, same⟩ := object a
    have back := read a
    rw [same] at back
    simp [same, asRecord?, back]

end Json

end ControllerSynthesis
