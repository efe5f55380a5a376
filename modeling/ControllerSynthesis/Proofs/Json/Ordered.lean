/-
# Objects in order stay as they are

Putting the members of every object in the order of their keys gives a value on which
the same has no effect.

In an object of which the keys are distinct the same is found at every key, in order too.

Key definitions: `Json.IsSettled`.
Key theorems: `Json.ordered_ordered`, `Json.ordered_eq_null`, `Json.get_ordered`.
-/
import ControllerSynthesis.Json.Value
import ControllerSynthesis.Proofs.Json.Access

namespace ControllerSynthesis.Json

/-- Members in the order of their keys, with the objects in them in order too. -/
structure IsSettled (members : List (String × Json)) : Prop where
  ascending : members.Pairwise fun a b => a.1 < b.1
  own : ∀ m ∈ members, m.2.ordered = m.2

theorem IsSettled.insertEntry {key : String} {value : Json} {members : List (String × Json)}
    (settled : IsSettled members) (own : value.ordered = value) :
    IsSettled (KeyMap.insertEntry key value members) where
  ascending := KeyMap.ascending_insertEntry key value settled.ascending
  own m mem := (KeyMap.mem_insertEntry mem).elim (fun same => by rw [same, own]) (settled.own m)

/-- Settled members are added behind those that come before them. -/
theorem orderedMembers_settled : ∀ {members done : List (String × Json)}, IsSettled (done ++ members) →
    orderedMembers done members = done ++ members
  | [], done, _ => (List.append_nil done).symm
  | (key, value) :: members, done, settled => by
    have before : ∀ e ∈ done, e.1 < key := fun e mem =>
      (List.pairwise_append.mp settled.ascending).2.2 e mem _ List.mem_cons_self
    have own : value.ordered = value := settled.own (key, value) (by simp)
    have regrouped : done ++ (key, value) :: members = (done ++ [(key, value)]) ++ members := by simp
    rw [orderedMembers, own, KeyMap.insertEntry_last before, regrouped,
      orderedMembers_settled (regrouped ▸ settled)]

mutual

/-- **Putting objects in order has no effect on what it gives.** -/
theorem ordered_ordered : ∀ value : Json, value.ordered.ordered = value.ordered
  | .null => rfl
  | .bool _ => rfl
  | .int _ => rfl
  | .float _ => rfl
  | .str _ => rfl
  | .arr items => congrArg arr (orderedItems_orderedItems items)
  | .obj members => congrArg obj (@orderedMembers_settled _ [] (isSettled_orderedMembers members ⟨.nil, List.forall_mem_nil _⟩))

theorem orderedItems_orderedItems : ∀ items : List Json, orderedItems (orderedItems items) = orderedItems items
  | [] => rfl
  | item :: items => by
    rw [orderedItems, orderedItems, ordered_ordered item, orderedItems_orderedItems items]

theorem isSettled_orderedMembers : ∀ (members : List (String × Json)) {done : List (String × Json)},
    IsSettled done → IsSettled (orderedMembers done members)
  | [], _, settled => settled
  | (_, value) :: members, _, settled =>
    isSettled_orderedMembers members (settled.insertEntry (ordered_ordered value))

end

theorem ordered_eq_null {value : Json} : value.ordered = null ↔ value = null := by
  cases value <;> simp [ordered]

/-- A map of texts is in order. -/
theorem ordered_ofKeyMap (m : KeyMap String) : (ofKeyMap m).ordered = ofKeyMap m := by
  have settled : IsSettled ([] ++ m.entries.map fun e => (e.1, str e.2)) := by
    refine ⟨List.pairwise_map.mpr m.ascending, fun e mem => ?_⟩
    obtain ⟨entry, -, rfl⟩ := List.mem_map.mp mem
    rfl
  rw [ofKeyMap, ordered, orderedMembers_settled settled, List.nil_append]

/-! ### Members of objects in order -/

theorem lookup_insertEntry (own : String) (value : Json) (key : String) (members : List (String × Json)) :
    lookup key (KeyMap.insertEntry own value members) = if own = key then some value else lookup key members := by
  rw [lookup_eq_find?, KeyMap.find?_insertEntry, lookup_eq_find?]
  split <;> rfl

/-- What is found among members that are added in order to others. -/
theorem lookup_orderedMembers {key : String} : ∀ {members : List (String × Json)}, (members.map Prod.fst).Nodup →
    ∀ done : List (String × Json),
      lookup key (orderedMembers done members) = ((lookup key members).map ordered).or (lookup key done)
  | [], _, _ => rfl
  | (own, value) :: members, distinct, done => by
    obtain ⟨absent, distinct⟩ := List.nodup_cons.mp distinct
    rw [orderedMembers, lookup_orderedMembers distinct, lookup_insertEntry, lookup]
    by_cases same : own = key
    · subst same
      have none : lookup own members = none := lookup_eq_none absent
      simp [none]
    · simp [same]

/-- **In order, an object has the same members**, each in order too. -/
theorem get_ordered {members : List (String × Json)} (distinct : (members.map Prod.fst).Nodup) (key : String) :
    (obj members).ordered.get key = ((obj members).get key).ordered := by
  rw [ordered, get_obj, get_obj, lookup_orderedMembers distinct]
  cases lookup key members <;> rfl

end ControllerSynthesis.Json
