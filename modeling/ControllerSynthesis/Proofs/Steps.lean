/-
# Steps

A computation of several steps gives an outcome if each of its steps does, and fails with
the first of them that does. A step that reads takes a part off the front of a text: the
characters of one kind up to a character of another kind, or to the end. `takeWhile` and
`dropWhile` cut the text there, and it can be cut in no other way.

Key definitions: `Text.Stops`.
Key theorems: `bind_eq_ok`, `bind_eq_error`, `map_eq_ok`, `map_eq_error`,
`Text.takeWhile_stops`, `Text.dropWhile_stops`, `Text.append_inj_of_stops`.
-/
import Mathlib.Data.List.TakeWhile

namespace ControllerSynthesis

/-! ### Steps that may fail -/

section

variable {ε α β : Type} {b : β} {e : ε}

/-- Two steps give what the second one makes of the outcome of the first. -/
theorem bind_eq_ok {first : Except ε α} {next : α → Except ε β} :
    first >>= next = .ok b ↔ ∃ a, first = .ok a ∧ next a = .ok b := by
  cases first with
  | error e => exact ⟨nofun, fun ⟨_, own, _⟩ => nomatch own⟩
  | ok a => exact ⟨fun same => ⟨a, rfl, same⟩, fun ⟨_, own, same⟩ => Except.ok.inj own ▸ same⟩

/-- Two steps fail if the first one does, or the second one on its outcome. -/
theorem bind_eq_error {first : Except ε α} {next : α → Except ε β} :
    first >>= next = .error e ↔ first = .error e ∨ ∃ a, first = .ok a ∧ next a = .error e := by
  cases first with
  | error e' => simp [bind, Except.bind]
  | ok a => simp [bind, Except.bind]

theorem map_eq_ok {first : Except ε α} {f : α → β} : first.map f = .ok b ↔ ∃ a, first = .ok a ∧ f a = b := by
  cases first with
  | error e => exact ⟨nofun, fun ⟨_, own, _⟩ => nomatch own⟩
  | ok a => exact ⟨fun same => ⟨a, rfl, Except.ok.inj same⟩, fun ⟨_, own, same⟩ => by cases own; rw [← same]; rfl⟩

theorem map_eq_error {first : Except ε α} {f : α → β} : first.map f = .error e ↔ first = .error e := by
  cases first with
  | error e' => simp [Except.map]
  | ok a => simp [Except.map]

end

/-! ### The part of a text up to a character of another kind -/

namespace Text

variable {p : Char → Bool} {front rest : List Char}

/-- Whether the text does not begin with a character of the kind. -/
def Stops (p : Char → Bool) (rest : List Char) : Prop :=
  ∀ c ∈ rest.head?, p c = false

theorem stops_nil : Stops p [] := nofun

theorem stops_cons {c : Char} : Stops p (c :: rest) ↔ p c = false := by
  simp [Stops]

theorem takeWhile_stops (inside : ∀ c ∈ front, p c = true) (stops : Stops p rest) :
    (front ++ rest).takeWhile p = front := by
  rw [List.takeWhile_append_of_pos inside]
  cases rest with
  | nil => simp
  | cons c rest => rw [List.takeWhile_cons_of_neg (by simp [stops c rfl]), List.append_nil]

theorem dropWhile_stops (inside : ∀ c ∈ front, p c = true) (stops : Stops p rest) :
    (front ++ rest).dropWhile p = rest := by
  rw [List.dropWhile_append_of_pos inside]
  cases rest with
  | nil => rfl
  | cons c rest => exact List.dropWhile_cons_of_neg (by simp [stops c rfl])

theorem stops_dropWhile (text : List Char) : Stops p (text.dropWhile p) := by
  intro c mem
  have first := List.head?_dropWhile_not p text
  rw [mem] at first
  simpa using first

/-- Where the kind changes for the first time, there is one cut. -/
theorem append_inj_of_stops {front' rest' : List Char} (inside : ∀ c ∈ front, p c = true)
    (inside' : ∀ c ∈ front', p c = true) (stops : Stops p rest) (stops' : Stops p rest')
    (same : front ++ rest = front' ++ rest') : front = front' ∧ rest = rest' := by
  have fronts := congrArg (List.takeWhile p) same
  have rests := congrArg (List.dropWhile p) same
  rw [takeWhile_stops inside stops, takeWhile_stops inside' stops'] at fronts
  rw [dropWhile_stops inside stops, dropWhile_stops inside' stops'] at rests
  exact ⟨fronts, rests⟩

end Text

end ControllerSynthesis
