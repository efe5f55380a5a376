/-
# Maps from text, in order

A map from text to values is its list of entries in strictly ascending order of
the keys by code point, so two maps with the same entries are equal whatever the
order in which they came about.

Key definitions: `KeyMap`, `KeyMap.insert`, `KeyMap.erase`, `KeyMap.get?`,
`KeyMap.ofList`.
Key theorems: `KeyMap.ext_entries`.
-/

namespace ControllerSynthesis

/-- A finite map from text, kept as its entries in ascending order of the keys. -/
structure KeyMap (α : Type) where
  entries : List (String × α)
  ascending : entries.Pairwise fun a b => a.1 < b.1

namespace KeyMap

variable {α : Type}

/-- The entries with `key` at `value`, in order if the entries were. -/
def insertEntry (key : String) (value : α) : List (String × α) → List (String × α)
  | [] => [(key, value)]
  | e :: es =>
    if key < e.1 then (key, value) :: e :: es
    else if e.1 < key then e :: insertEntry key value es
    else (key, value) :: es

/-- An entry of the outcome is the new one or was there before. -/
theorem mem_insertEntry {key : String} {value : α} {e : String × α} : ∀ {es : List (String × α)},
    e ∈ insertEntry key value es → e = (key, value) ∨ e ∈ es
  | [], mem => .inl (List.mem_singleton.mp mem)
  | d :: es, mem => by
    rw [insertEntry] at mem
    split at mem
    · exact List.mem_cons.mp mem
    · split at mem
      · refine (List.mem_cons.mp mem).elim (fun first => .inr (List.mem_cons.mpr (.inl first))) fun later => ?_
        exact (mem_insertEntry later).imp_right (List.mem_cons_of_mem d)
      · exact (List.mem_cons.mp mem).imp_right (List.mem_cons_of_mem d)

theorem eq_of_not_lt {a b : String} (h : ¬ a < b) (h' : ¬ b < a) : a = b :=
  String.le_antisymm (String.not_lt.mp h') (String.not_lt.mp h)

theorem ascending_insertEntry (key : String) (value : α) :
    ∀ {es : List (String × α)}, es.Pairwise (fun a b => a.1 < b.1) →
      (insertEntry key value es).Pairwise fun a b => a.1 < b.1
  | [], _ => by simp [insertEntry]
  | e :: es, h => by
    obtain ⟨first, rest⟩ := List.pairwise_cons.mp h
    unfold insertEntry
    split
    · rename_i before
      refine List.pairwise_cons.mpr ⟨fun d hd => ?_, h⟩
      rcases List.mem_cons.mp hd with hd | hd
      · exact hd ▸ before
      · exact String.lt_trans before (first d hd)
    · split
      · rename_i after
        refine List.pairwise_cons.mpr ⟨fun d hd => ?_, ascending_insertEntry key value rest⟩
        rcases mem_insertEntry hd with hd | hd
        · exact hd ▸ after
        · exact first d hd
      · rename_i notBefore notAfter
        have same : key = e.1 := eq_of_not_lt notBefore notAfter
        exact List.pairwise_cons.mpr ⟨fun d hd => same ▸ first d hd, rest⟩

/-- The map without entries. -/
def empty : KeyMap α := ⟨[], .nil⟩

/-- The map with `key` at `value`, whether or not it had the key before. -/
def insert (m : KeyMap α) (key : String) (value : α) : KeyMap α :=
  ⟨insertEntry key value m.entries, ascending_insertEntry key value m.ascending⟩

/-- The map without `key`. -/
def erase (m : KeyMap α) (key : String) : KeyMap α :=
  ⟨m.entries.filter fun e => e.1 ≠ key, m.ascending.filter _⟩

/-- The value at `key`. -/
def get? (m : KeyMap α) (key : String) : Option α :=
  (m.entries.find? fun e => e.1 = key).map (·.2)

/-- The map of a list of entries; of several with one key the last counts. -/
def ofList (entries : List (String × α)) : KeyMap α :=
  entries.foldl (fun m e => m.insert e.1 e.2) empty

/-- Maps with the same entries are equal. -/
theorem ext_entries {m n : KeyMap α} (h : m.entries = n.entries) : m = n := by
  cases m; cases n; cases h; rfl

instance : Inhabited (KeyMap α) := ⟨empty⟩

instance [Repr α] : Repr (KeyMap α) := ⟨fun m n => reprPrec m.entries n⟩

instance [DecidableEq α] : DecidableEq (KeyMap α) := fun m n =>
  if h : m.entries = n.entries then isTrue (ext_entries h)
  else isFalse fun e => h (congrArg entries e)

end KeyMap

end ControllerSynthesis
