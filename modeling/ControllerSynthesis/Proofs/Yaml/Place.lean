/-
# Places in a written text

What is written as YAML consists of characters that are shown, so no place in it
is inside a line break of two characters, and every break stays what it is. The
place behind a text is then found character by character, and a text may be cut
anywhere. Without a break the column grows by the number of characters and the
line stays; a break leads to the first column of a later line.

Key definitions: `Yaml.Shown`, `Yaml.Unbroken`, `Yaml.Place.behind`, `Yaml.byteSize`.
Key theorems: `Yaml.locate_append`, `Yaml.finish_append`, `Yaml.finish_of_unbroken`,
`Yaml.column_finish_of_endsBreak`, `Yaml.line_le_finish`.
-/
import ControllerSynthesis.Yaml.Located
import ControllerSynthesis.Yaml.Writing

namespace ControllerSynthesis.Yaml

/-! ### Characters -/

/-- Whether all characters of a text are shown as they are. -/
def Shown (text : List Char) : Prop :=
  ∀ c ∈ text, isShown c = true

/-- Whether no line ends in a text. -/
def Unbroken (text : List Char) : Prop :=
  ∀ c ∈ text, isBreak c = false

theorem shown_nil : Shown [] := by simp [Shown]

theorem shown_cons {c : Char} {cs : List Char} : Shown (c :: cs) ↔ isShown c = true ∧ Shown cs :=
  List.forall_mem_cons

theorem shown_append {a b : List Char} : Shown (a ++ b) ↔ Shown a ∧ Shown b :=
  List.forall_mem_append

theorem shown_iff_all {text : List Char} : Shown text ↔ text.all isShown = true :=
  List.all_eq_true.symm

theorem unbroken_nil : Unbroken [] := by simp [Unbroken]

theorem unbroken_cons {c : Char} {cs : List Char} :
    Unbroken (c :: cs) ↔ isBreak c = false ∧ Unbroken cs :=
  List.forall_mem_cons

theorem unbroken_append {a b : List Char} : Unbroken (a ++ b) ↔ Unbroken a ∧ Unbroken b :=
  List.forall_mem_append

theorem unbroken_of_any (text : List Char) (none : text.any isBreak = false) : Unbroken text := by
  simpa [Unbroken] using none

theorem ne_of_isShown {c d : Char} (shown : isShown c = true) (hidden : isShown d = false) :
    c ≠ d := by
  rintro rfl
  simp [shown] at hidden

theorem ne_carriageReturn {c : Char} (shown : isShown c = true) : c ≠ '\r' :=
  ne_of_isShown shown (by decide)

theorem ne_tab {c : Char} (shown : isShown c = true) : c ≠ '\t' :=
  ne_of_isShown shown (by decide)

theorem ne_byteOrderMark {c : Char} (shown : isShown c = true) : c ≠ byteOrderMark :=
  ne_of_isShown shown (by decide)

/-- The breaks among the characters that are shown. -/
theorem isBreak_of_isShown {c : Char} (shown : isShown c = true) :
    isBreak c = (c == '\n' || c == lineSeparator || c == paragraphSeparator) := by
  have next : (c == nextLine) = false := beq_false_of_ne (ne_of_isShown shown (by decide))
  have carriageReturn : (c == '\r') = false := beq_false_of_ne (ne_carriageReturn shown)
  simp [isBreak, carriageReturn, next]

/-- A break that is shown stays as it is. -/
theorem lineFeedFor_of_isShown {c : Char} (shown : isShown c = true) (broken : isBreak c = true) :
    lineFeedFor c = c := by
  rw [isBreak_of_isShown shown] at broken
  simp only [Bool.or_eq_true, beq_iff_eq] at broken
  rcases broken with (rfl | rfl) | rfl <;> decide

theorem isBlank_of_isShown {c : Char} (shown : isShown c = true) : isBlank c = (c == ' ') := by
  have tab : (c == '\t') = false := beq_false_of_ne (ne_tab shown)
  simp [isBlank, tab]

theorem isGap_of_isShown {c : Char} (shown : isShown c = true) :
    isGap c = (c == ' ' || isBreak c) := by
  rw [isGap, isBlank_of_isShown shown]

theorem isGap_space : isGap ' ' = true := by decide

theorem isGap_of_isBreak {c : Char} (broken : isBreak c = true) : isGap c = true := by
  simp [isGap, broken]

theorem isShown_space : isShown ' ' = true := by decide

theorem isShown_feed : isShown '\n' = true := by decide

theorem isBreak_feed : isBreak '\n' = true := by decide

theorem isBreak_space : isBreak ' ' = false := by decide

theorem shown_pad (n : Nat) : Shown (pad n) := by
  intro c h
  rw [List.eq_of_mem_replicate h]
  exact isShown_space

theorem unbroken_pad (n : Nat) : Unbroken (pad n) := by
  intro c h
  rw [List.eq_of_mem_replicate h]
  exact isBreak_space

theorem pad_succ (n : Nat) : pad (n + 1) = ' ' :: pad n := rfl

theorem length_pad (n : Nat) : (pad n).length = n := List.length_replicate ..

/-! ### Places character by character -/

/-- The place behind a character. -/
def Place.behind (p : Place) (c : Char) : Place :=
  if isBreak c then p.nextLine c.utf8Size else p.next c.utf8Size

theorem Place.behind_of_break (p : Place) {c : Char} (broken : isBreak c = true) :
    p.behind c = p.nextLine c.utf8Size := by
  rw [behind, if_pos broken]

theorem Place.behind_of_noBreak (p : Place) {c : Char} (unbroken : isBreak c = false) :
    p.behind c = p.next c.utf8Size := by
  rw [behind, if_neg (by simp [unbroken])]

theorem Place.column_behind (p : Place) {c : Char} (unbroken : isBreak c = false) :
    (p.behind c).column = p.column + 1 := by
  rw [p.behind_of_noBreak unbroken]
  rfl

theorem locate_cons {c : Char} (shown : isShown c = true) (p : Place) (cs : List Char) :
    locate p (c :: cs) = ⟨c, p⟩ :: locate (p.behind c) cs := by
  rw [locate]
  · by_cases broken : isBreak c = true
    · rw [if_pos broken, lineFeedFor_of_isShown shown broken, p.behind_of_break broken]
    · rw [if_neg broken, p.behind_of_noBreak (by simpa using broken)]
  · intro rest same
    exact absurd same (ne_carriageReturn shown)

theorem finish_cons {c : Char} (shown : isShown c = true) (p : Place) (cs : List Char) :
    finish p (c :: cs) = finish (p.behind c) cs := by
  rw [finish]
  · by_cases broken : isBreak c = true
    · rw [if_pos broken, p.behind_of_break broken]
    · rw [if_neg broken, p.behind_of_noBreak (by simpa using broken)]
  · intro rest same
    exact absurd same (ne_carriageReturn shown)

theorem locate_nil (p : Place) : locate p [] = [] := by rw [locate]

theorem finish_nil (p : Place) : finish p [] = p := by rw [finish]

theorem locate_append : ∀ {a : List Char}, Shown a → ∀ (p : Place) (b : List Char),
    locate p (a ++ b) = locate p a ++ locate (finish p a) b
  | [], _, p, b => by simp [locate_nil, finish_nil]
  | c :: cs, shown, p, b => by
    obtain ⟨first, rest⟩ := shown_cons.mp shown
    rw [List.cons_append, locate_cons first, locate_cons first, finish_cons first,
      locate_append rest, List.cons_append]

theorem finish_append : ∀ {a : List Char}, Shown a → ∀ (p : Place) (b : List Char),
    finish p (a ++ b) = finish (finish p a) b
  | [], _, p, b => by simp [finish_nil]
  | c :: cs, shown, p, b => by
    obtain ⟨first, rest⟩ := shown_cons.mp shown
    rw [List.cons_append, finish_cons first, finish_cons first, finish_append rest]

theorem length_locate : ∀ {a : List Char}, Shown a → ∀ p : Place, (locate p a).length = a.length
  | [], _, p => by simp [locate_nil]
  | c :: cs, shown, p => by
    obtain ⟨first, rest⟩ := shown_cons.mp shown
    rw [locate_cons first, List.length_cons, List.length_cons, length_locate rest]

theorem characters_locate : ∀ {a : List Char}, Shown a → ∀ p : Place, characters (locate p a) = a
  | [], _, p => by simp [locate_nil, characters]
  | c :: cs, shown, p => by
    obtain ⟨first, rest⟩ := shown_cons.mp shown
    have later := characters_locate rest (p.behind c)
    rw [locate_cons first]
    simpa [characters] using later

/-! ### Lines and columns -/

/-- The number of bytes of a text. -/
def byteSize : List Char → Nat
  | [] => 0
  | c :: cs => c.utf8Size + byteSize cs

theorem byteSize_nil : byteSize [] = 0 := rfl

theorem byteSize_cons (c : Char) (cs : List Char) :
    byteSize (c :: cs) = c.utf8Size + byteSize cs := rfl

theorem byteSize_append (a b : List Char) : byteSize (a ++ b) = byteSize a + byteSize b := by
  induction a with
  | nil => rw [List.nil_append, byteSize_nil, Nat.zero_add]
  | cons c cs ih => rw [List.cons_append, byteSize_cons, byteSize_cons, ih, Nat.add_assoc]

theorem byteSize_pad (n : Nat) : byteSize (pad n) = n := by
  induction n with
  | zero => rfl
  | succ n ih =>
    have size : byteSize (' ' :: pad n) = 1 + byteSize (pad n) := byteSize_cons ' ' (pad n)
    rw [pad, List.replicate_succ, ← pad, size, ih, Nat.add_comm]

/-- The bytes of a text are those of its characters. -/
theorem byteSize_toList (s : String) : byteSize s.toList = s.utf8ByteSize := by
  have all : ∀ text : List Char, byteSize text = (String.ofList text).utf8ByteSize := by
    intro text
    induction text with
    | nil => rfl
    | cons c cs ih =>
      rw [byteSize_cons, ih, ← List.singleton_append, String.ofList_append, String.utf8ByteSize_append,
        ← String.singleton_eq_ofList, String.utf8ByteSize_singleton]
  rw [all, String.ofList_toList]

/-- A text without breaks leads along the line. -/
theorem finish_of_unbroken : ∀ {text : List Char}, Shown text → Unbroken text → ∀ p : Place,
    finish p text = ⟨p.index + byteSize text, p.line, p.column + text.length⟩
  | [], _, _, p => by simp [finish_nil, byteSize_nil]
  | c :: cs, shown, unbroken, p => by
    obtain ⟨first, rest⟩ := shown_cons.mp shown
    obtain ⟨here, later⟩ := unbroken_cons.mp unbroken
    rw [finish_cons first, p.behind_of_noBreak here, finish_of_unbroken rest later]
    simp only [Place.next, byteSize_cons, List.length_cons]
    congr 1 <;> omega

theorem line_le_behind (p : Place) (c : Char) : p.line ≤ (p.behind c).line := by
  unfold Place.behind
  split <;> simp [Place.next, Place.nextLine]

/-- Places come in the order of their lines. -/
theorem line_le_finish : ∀ {text : List Char}, Shown text → ∀ p : Place,
    p.line ≤ (finish p text).line
  | [], _, p => by simp [finish_nil]
  | c :: cs, shown, p => by
    obtain ⟨first, rest⟩ := shown_cons.mp shown
    rw [finish_cons first]
    exact Nat.le_trans (line_le_behind p c) (line_le_finish rest _)

theorem endsWith_append_singleton (q : Char → Bool) (text : List Char) (c : Char) :
    endsWith q (text ++ [c]) = q c := by
  simp [endsWith]

/-- A text that ends with a property has a last character with it. -/
theorem exists_append_of_endsWith {q : Char → Bool} {text : List Char} (h : endsWith q text = true) :
    ∃ front c, text = front ++ [c] ∧ q c = true := by
  unfold endsWith at h
  cases last : text.getLast? with
  | none => simp [last] at h
  | some c =>
    obtain ⟨front, rfl⟩ := List.getLast?_eq_some_iff.mp last
    exact ⟨front, c, rfl, by simpa [last] using h⟩

theorem endsWith_append {q : Char → Bool} (front : List Char) {back : List Char} (closed : endsWith q back = true) :
    endsWith q (front ++ back) = true := by
  obtain ⟨others, c, rfl, last⟩ := exists_append_of_endsWith closed
  rw [← List.append_assoc, endsWith_append_singleton, last]

/-- Behind a text that ends a line a line begins. -/
theorem column_finish_of_endsBreak {text : List Char} (shown : Shown text)
    (ends : endsWith isBreak text = true) (p : Place) : (finish p text).column = 0 := by
  obtain ⟨front, c, rfl, broken⟩ := exists_append_of_endsWith ends
  obtain ⟨before, last⟩ := shown_append.mp shown
  rw [finish_append before, finish_cons (last c (by simp)), finish_nil, Place.behind_of_break _ broken]
  rfl

/-- The place behind spaces. -/
theorem finish_pad (p : Place) (n : Nat) : finish p (pad n) = ⟨p.index + n, p.line, p.column + n⟩ := by
  rw [finish_of_unbroken (shown_pad n) (unbroken_pad n), length_pad, byteSize_pad]

end ControllerSynthesis.Yaml
