/-
# Maps hold one value for each key

The entries of a map are in strictly ascending order of the keys, so a key has at
most one entry, and looking it up finds exactly that. What is found at its keys is all
there is to a map: maps in which the same is found are equal, whatever changes they
came from.

Key theorems: `KeyMap.mem_entries_iff`, `KeyMap.get?_insert`, `KeyMap.get?_erase`,
`KeyMap.ext_get?`.
-/
import ControllerSynthesis.KeyMap

namespace ControllerSynthesis.KeyMap

variable {α : Type}

/-- In a list of entries in order the first entry with a key is the only one. -/
theorem find?_eq_some_of_mem {key : String} {value : α} : ∀ {es : List (String × α)},
    es.Pairwise (fun a b => a.1 < b.1) → (key, value) ∈ es →
      es.find? (fun e => e.1 = key) = some (key, value)
  | [], _, h => by simp at h
  | e :: es, ordered, h => by
    obtain ⟨first, rest⟩ := List.pairwise_cons.mp ordered
    rcases List.mem_cons.mp h with h | h
    · simp [← h]
    · have before : e.1 < key := first _ h
      have other : e.1 ≠ key := fun same => String.lt_irrefl key (same ▸ before)
      rw [List.find?_cons_of_neg (by simpa using other)]
      exact find?_eq_some_of_mem rest h

/-- The entries of a map are its keys with the values found at them. -/
theorem mem_entries_iff (m : KeyMap α) (key : String) (value : α) :
    (key, value) ∈ m.entries ↔ m.get? key = some value := by
  constructor
  · intro h
    simp [get?, find?_eq_some_of_mem m.ascending h]
  · intro h
    obtain ⟨e, found, rfl⟩ := Option.map_eq_some_iff.mp h
    have same : e.1 = key := by simpa using List.find?_some found
    exact same ▸ List.mem_of_find?_eq_some found

/-- The entries around the one of a key do not depend on its value. -/
theorem exists_insert (m : KeyMap α) (key : String) : ∃ before after,
    (∀ value, (m.insert key value).entries = before ++ (key, value) :: after) ∧
      ∀ e ∈ before ++ after, e.1 ≠ key := by
  have split (es : List (String × α)) :
      ∃ before after, ∀ value, insertEntry key value es = before ++ (key, value) :: after := by
    induction es with
    | nil => exact ⟨[], [], fun _ => rfl⟩
    | cons e es ih =>
      obtain ⟨before, after, split⟩ := ih
      by_cases first : key < e.1
      · exact ⟨[], e :: es, fun value => if_pos first⟩
      · by_cases later : e.1 < key
        · exact ⟨e :: before, after, fun value => by
            rw [insertEntry, if_neg first, if_pos later, split, List.cons_append]⟩
        · exact ⟨[], es, fun value => by rw [insertEntry, if_neg first, if_neg later, List.nil_append]⟩
  obtain ⟨before, after, entries⟩ := split m.entries
  refine ⟨before, after, entries, fun e mem same => ?_⟩
  have ascending := (m.insert key e.2).ascending
  rw [show (m.insert key e.2).entries = _ from entries e.2, List.pairwise_append] at ascending
  obtain ⟨-, behind, front⟩ := ascending
  have apart : e.1 < key ∨ key < e.1 := (List.mem_append.mp mem).imp
    (fun mem => front e mem _ List.mem_cons_self) fun mem => (List.pairwise_cons.mp behind).1 e mem
  rw [same] at apart
  exact apart.elim (String.lt_irrefl key) (String.lt_irrefl key)

/-! ### Looking up after a change -/

@[simp] theorem get?_empty (key : String) : (empty : KeyMap α).get? key = none := rfl

/-- An entry that goes in is found at its key, and hides no entry with another key. -/
theorem find?_insertEntry (key : String) (value : α) (other : String) : ∀ es : List (String × α),
    (insertEntry key value es).find? (fun e => e.1 = other) =
      if key = other then some (key, value) else es.find? fun e => e.1 = other
  | [] => by
    by_cases same : key = other <;> simp [insertEntry, same]
  | e :: es => by
    have ih := find?_insertEntry key value other es
    rw [insertEntry]
    split
    · by_cases same : key = other <;> simp [List.find?_cons, same]
    · split
      · rename_i after
        by_cases first : e.1 = other
        · have different : key ≠ other := (String.ne_of_lt (first ▸ after)).symm
          simp [first, different]
        · simpa [first] using ih
      · rename_i notBefore notAfter
        have same : key = e.1 := eq_of_not_lt notBefore notAfter
        by_cases found : key = other
        · simp [found]
        · simp [found, ← same]

@[simp] theorem get?_insert (m : KeyMap α) (key : String) (value : α) (other : String) :
    (m.insert key value).get? other = if key = other then some value else m.get? other := by
  rw [get?, insert, find?_insertEntry]
  split <;> rfl

@[simp] theorem get?_erase (m : KeyMap α) (key other : String) :
    (m.erase key).get? other = if key = other then none else m.get? other := by
  rw [get?, erase, List.find?_filter]
  by_cases same : key = other
  · simp [same]
  · rw [if_neg same, get?]
    congr 2
    funext e
    by_cases found : e.1 = other <;> simp [found, Ne.symm same]

/-- **Maps in which the same is found at every key are equal.** -/
theorem ext_get? {m n : KeyMap α} (same : ∀ key, m.get? key = n.get? key) : m = n := by
  have distinct (m : KeyMap α) : m.entries.Nodup :=
    m.ascending.imp fun before => mt (congrArg Prod.fst) (String.ne_of_lt before)
  have permuted : m.entries.Perm n.entries := by
    refine (List.perm_ext_iff_of_nodup (distinct m) (distinct n)).mpr fun e => ?_
    rw [mem_entries_iff, mem_entries_iff, same]
  refine ext_entries (permuted.eq_of_pairwise (fun a b _ _ before after => ?_) m.ascending n.ascending)
  exact absurd after (String.lt_asymm before)

/-! ### Adding entries in order -/

theorem insertEntry_last {key : String} {value : α} : ∀ {es : List (String × α)}, (∀ e ∈ es, e.1 < key) →
    insertEntry key value es = es ++ [(key, value)]
  | [], _ => rfl
  | e :: es, before => by
    have first : e.1 < key := before e List.mem_cons_self
    rw [insertEntry, if_neg (fun after => String.lt_irrefl key (String.lt_trans after first)), if_pos first,
      insertEntry_last fun d mem => before d (List.mem_cons_of_mem e mem), List.cons_append]

end ControllerSynthesis.KeyMap
