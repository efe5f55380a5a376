/-
# Zeros that are put in, and messages about them

A text of a manifest is read with zeros put in for the numbers that are missing, and a
fault is told of the text that is read. The character that it names is one of the given
text, or it is one of the dots that were put in. The second happens in two cases. If there
is nothing in front of the suffixes, a dot is put in where the major number must begin, and
the message blames this dot, whether or not the given text has a dot in it. If there is one
number and a dot, a second dot is put in where the minor number must begin, and the message
blames this one.

Key definitions: `Version.coreOf`, `Version.zeros`, `Version.IsPutIn`.
Key theorems: `Version.completed_eq`, `Version.Offends.isPutIn_iff_core`,
`Version.Offends.mem_iff`, `Version.blamed_character`.
-/
import ControllerSynthesis.Proofs.Version.Blame

namespace ControllerSynthesis.Version

open Text (stops_dropWhile)

/-- What stands in front of the suffixes of a text. -/
def coreOf (text : List Char) : List Char :=
  text.takeWhile fun c => !opensSuffix c

/-- The suffixes of a text. -/
def suffixesOf (text : List Char) : List Char :=
  text.dropWhile fun c => !opensSuffix c

/-- What is put in behind a core with so many dots. -/
def zeros : Nat → List Char
  | 0 => ['.', '0', '.', '0']
  | 1 => ['.', '0']
  | _ => []

/-- Whether what stands behind `front` in the completed text was put in: it stands behind
the core, and no farther than the text became longer there. -/
def IsPutIn (text front : List Char) : Prop :=
  (coreOf text).length ≤ front.length ∧
    front.length + text.length < (coreOf text).length + (completed text).length

variable {text front : List Char} {c : Char} {fault : Fault}

/-! ### The completed text -/

theorem coreOf_append (text : List Char) : coreOf text ++ suffixesOf text = text :=
  List.takeWhile_append_dropWhile

/-- Zeros are put in between the core and the suffixes. -/
theorem completed_eq (text : List Char) :
    completed text = coreOf text ++ (zeros ((coreOf text).count '.') ++ suffixesOf text) := by
  have inside : ∀ c ∈ coreOf text, (!opensSuffix c) = true :=
    fun _ mem => List.mem_takeWhile_imp (p := fun c => !opensSuffix c) mem
  have whole : completed (coreOf text ++ suffixesOf text) = _ := completed_append inside (stops_dropWhile text)
  rw [coreOf_append] at whole
  rw [whole]
  rcases (coreOf text).count '.' with - | - | dots
  · exact List.append_assoc _ _ _
  · exact List.append_assoc _ _ _
  · exact (coreOf_append text).symm

theorem isPutIn_iff_length : IsPutIn text front ↔ (coreOf text).length ≤ front.length ∧
    front.length < (coreOf text).length + (zeros ((coreOf text).count '.')).length := by
  have whole := congrArg List.length (coreOf_append text)
  rw [List.length_append] at whole
  unfold IsPutIn
  rw [completed_eq, List.length_append, List.length_append]
  omega

/-- A character of the completed text that was not put in is one of the text. -/
theorem mem_of_not_isPutIn (stands : front ++ [c] <+: completed text) (own : ¬ IsPutIn text front) : c ∈ text := by
  have place : (completed text)[front.length]? = some c := by
    obtain ⟨rest, whole⟩ := stands
    rw [← whole, List.append_assoc, List.getElem?_append_right (Nat.le_refl _), Nat.sub_self]
    rfl
  rw [completed_eq] at place
  rw [isPutIn_iff_length, not_and, Nat.not_lt] at own
  rw [← coreOf_append text, List.mem_append]
  by_cases inside : front.length < (coreOf text).length
  · rw [List.getElem?_append_left inside] at place
    exact .inl (List.mem_of_getElem? place)
  · have behind := own (Nat.le_of_not_lt inside)
    rw [List.getElem?_append_right (by omega), List.getElem?_append_right (by omega)] at place
    exact .inr (List.mem_of_getElem? place)

/-! ### Characters that were put in -/

/-- Of what is put in, only the dots are no digits. -/
theorem dot_of_zeros {dots : Nat} {before : List Char} (among : before ++ [c] <+: zeros dots)
    (other : Digits.isDecimal c = false) :
    c = '.' ∧ (before = [] ∧ dots ≤ 1 ∨ before = ['.', '0'] ∧ dots = 0) := by
  obtain ⟨after, whole⟩ := among
  have start : (zeros dots).take before.length = before := by simp [← whole]
  have place : (zeros dots)[before.length]? = some c := by simp [← whole]
  generalize before.length = i at start place
  rcases dots with - | - | dots
  · rcases i with - | - | - | - | i <;> cases place
    · exact ⟨rfl, .inl ⟨start.symm, Nat.zero_le 1⟩⟩
    · cases other
    · exact ⟨rfl, .inr ⟨start.symm, rfl⟩⟩
    · cases other
  · rcases i with - | - | i <;> cases place
    · exact ⟨rfl, .inl ⟨start.symm, Nat.le_refl 1⟩⟩
    · cases other
  · cases place

/-- In front of such a dot stands the core, and maybe a zero with its dot. -/
theorem front_of_isPutIn (stands : front ++ [c] <+: completed text) (put : IsPutIn text front)
    (other : Digits.isDecimal c = false) : c = '.' ∧
      (front = coreOf text ∧ (coreOf text).count '.' ≤ 1 ∨
        front = coreOf text ++ ['.', '0'] ∧ (coreOf text).count '.' = 0) := by
  obtain ⟨behind, within⟩ := isPutIn_iff_length.mp put
  rw [completed_eq] at stands
  obtain ⟨before, rfl⟩ : coreOf text <+: front :=
    List.prefix_of_prefix_length_le (List.prefix_append _ _) ((List.prefix_append front [c]).trans stands) behind
  rw [List.append_assoc, List.prefix_append_right_inj] at stands
  have among : before ++ [c] <+: zeros ((coreOf text).count '.') := by
    apply List.prefix_of_prefix_length_le stands (List.prefix_append _ _)
    simp only [List.length_append, List.length_singleton] at within ⊢
    omega
  obtain ⟨rfl, ⟨rfl, few⟩ | ⟨rfl, none⟩⟩ := dot_of_zeros among other
  · exact ⟨rfl, .inl ⟨List.append_nil _, few⟩⟩
  · exact ⟨rfl, .inr ⟨rfl, none⟩⟩

/-- The first two dots of a text are named only where a number must begin. -/
theorem Blames.front_of_dot (blames : Blames front '.' fault) (few : front.count '.' ≤ 1) :
    front = [] ∨ ∃ n ≤ maxNumber, front = Digits.ofNat 10 n ++ ['.'] := by
  cases blames with
  | major => exact .inl rfl
  | afterMajor _ ends => cases ends
  | @minor n _ fits => exact .inr ⟨n, fits, rfl⟩
  | afterMinor _ _ ends => cases ends
  | patch => simp [count_dot_ofNat] at few
  | afterVersion => simp [display, count_dot_ofNat] at few

/-- Without a core, the first dot that is put in is named. -/
theorem completed_of_coreless (none : coreOf text = []) :
    ∃ rest, completed text = '.' :: rest ∧ Blames [] '.' (.unexpectedChar '.' .major) := by
  refine ⟨['0', '.', '0'] ++ suffixesOf text, ?_, .major rfl⟩
  rw [completed_eq, none]
  rfl

/-- Behind a number and a dot, the dot that is put in is named. -/
theorem completed_of_dangling {n : Nat} (fits : n ≤ maxNumber) (dangling : coreOf text = Digits.ofNat 10 n ++ ['.']) :
    ∃ rest, completed text = Digits.ofNat 10 n ++ ['.'] ++ '.' :: rest ∧
      Blames (Digits.ofNat 10 n ++ ['.']) '.' (.unexpectedChar '.' .minor) := by
  refine ⟨['0'] ++ suffixesOf text, ?_, .minor fits rfl⟩
  rw [completed_eq, dangling, List.count_append, count_dot_ofNat]
  rfl

/-- **What was put in is named** in these two cases and in no other. -/
theorem Offends.isPutIn_iff_core (offends : Offends (completed text) front c) (blames : Blames front c fault) :
    IsPutIn text front ↔ coreOf text = [] ∨ ∃ n ≤ maxNumber, coreOf text = Digits.ofNat 10 n ++ ['.'] := by
  constructor
  · intro put
    obtain ⟨rfl, ⟨rfl, few⟩ | ⟨rfl, none⟩⟩ := front_of_isPutIn offends.1 put blames.not_isDecimal
    · exact blames.front_of_dot few
    · -- A zero that was put in would have to be a dot, or nothing.
      rcases blames.front_of_dot (by simp [none]) with same | ⟨n, -, same⟩
      · simp at same
      · simpa using congrArg List.getLast? same
  · rintro (none | ⟨n, fits, dangling⟩)
    · obtain ⟨rest, whole, first⟩ := completed_of_coreless none
      obtain rfl : front = [] := offends.unique (whole ▸ first.offends)
      simp [isPutIn_iff_length, none, zeros]
    · obtain ⟨rest, whole, first⟩ := completed_of_dangling fits dangling
      obtain rfl : front = Digits.ofNat 10 n ++ ['.'] := offends.unique (whole ▸ first.offends)
      simp [isPutIn_iff_length, dangling, zeros, count_dot_ofNat]

/-- **The named character is one of the given text** unless the text has neither a core nor
a dot. -/
theorem Offends.mem_iff {given : List Char} (offends : Offends (completed text) front c)
    (blames : Blames front c fault) (within : ∀ d ∈ text, d ∈ given) :
    c ∈ given ↔ coreOf text ≠ [] ∨ '.' ∈ given := by
  by_cases put : IsPutIn text front
  · obtain ⟨rfl, -⟩ := front_of_isPutIn offends.1 put blames.not_isDecimal
    refine ⟨.inr, ?_⟩
    rintro (there | mem)
    · obtain ⟨n, -, dangling⟩ := ((offends.isPutIn_iff_core blames).mp put).resolve_left there
      apply within
      rw [← coreOf_append text, dangling]
      simp
    · exact mem
  · have there : coreOf text ≠ [] := fun none => put ((offends.isPutIn_iff_core blames).mpr (.inl none))
    exact iff_of_true (within c (mem_of_not_isPutIn offends.1 put)) (.inl there)

/-! ### Messages about texts -/

theorem mem_of_isStripped {body : List Char} (stripping : IsStripped text body) (mem : c ∈ body) : c ∈ text := by
  obtain ⟨middle, ⟨lead, tail, rfl, -⟩, rfl | ⟨-, rfl⟩⟩ := stripping
  · simp [mem]
  · simp [mem]

theorem ofText_eq_malformed_iff {raw : String} : ofText raw = .error (.malformed raw fault) ↔
    read (completed (stripped raw.toList)) = .error fault := by
  unfold ofText parse
  cases read (completed (stripped raw.toList)) with
  | ok v => simp
  | error other => simp

/-- **Which character a message blames.** A message that says `unexpected character` blames
the place at which the completed text stops being the beginning of a version. What stands
there was put in if and only if nothing is left in front of the suffixes, or a number and a
dot; and it is a character of the given text unless nothing is left there and the text has
no dot. All such texts are refused, with the dot that was put in as the character. -/
theorem blamed_character (raw : String) : ∃ body, IsStripped raw.toList body ∧
    (∀ fault c tail, ofText raw = .error (.malformed raw fault) →
      fault.message = "unexpected character " ++ Text.quotedChar c ++ tail →
      ∃ front, Offends (completed body) front c ∧
        (IsPutIn body front ↔ coreOf body = [] ∨ ∃ n ≤ maxNumber, coreOf body = Digits.ofNat 10 n ++ ['.']) ∧
        (c ∈ raw.toList ↔ coreOf body ≠ [] ∨ '.' ∈ raw.toList)) ∧
    (coreOf body = [] → ofText raw = .error (.malformed raw (.unexpectedChar '.' .major))) ∧
    ∀ n ≤ maxNumber, coreOf body = Digits.ofNat 10 n ++ ['.'] →
      ofText raw = .error (.malformed raw (.unexpectedChar '.' .minor)) := by
  have stripping : IsStripped raw.toList (stripped raw.toList) := isStripped_iff.mpr rfl
  refine ⟨stripped raw.toList, stripping, ?_, ?_, ?_⟩
  · intro fault c tail refused stated
    have named := message_names_iff.mp ⟨tail, stated⟩
    obtain ⟨front, rest, whole, blames⟩ := read_names_iff.mp ⟨ofText_eq_malformed_iff.mp refused, named⟩
    have offends : Offends (completed (stripped raw.toList)) front c := whole ▸ blames.offends
    exact ⟨front, offends, offends.isPutIn_iff_core blames,
      offends.mem_iff blames fun _ mem => mem_of_isStripped stripping mem⟩
  · intro none
    obtain ⟨rest, whole, first⟩ := completed_of_coreless none
    rw [ofText_eq_malformed_iff, whole]
    exact first.read_append rest
  · intro n fits dangling
    obtain ⟨rest, whole, first⟩ := completed_of_dangling fits dangling
    rw [ofText_eq_malformed_iff, whole]
    exact first.read_append rest

/-- Build metadata without a number in front of it: the dot that is blamed was put in, and
the text has none. -/
theorem blamed_character_coreless : ofText "v+7" = .error (.malformed "v+7" (.unexpectedChar '.' .major)) ∧
    '.' ∉ "v+7".toList ∧ ∃ front, Offends (completed "+7".toList) front '.' ∧ IsPutIn "+7".toList front := by
  obtain ⟨body, stripping, named, coreless, -⟩ := blamed_character "v+7"
  obtain rfl : body = "+7".toList := isStripped_iff.mp stripping
  have refused := coreless rfl
  obtain ⟨front, offends, put, mem⟩ := named _ '.' " while parsing major version number" refused rfl
  have foreign : '.' ∉ "v+7".toList := by decide
  exact ⟨refused, foreign, front, offends, put.mpr (.inl rfl)⟩

/-- The empty text is told that it has a dot where a number must begin. -/
theorem blamed_padding :
    ¬ (∀ (raw : String) (fault : Fault) (c : Char) (tail : String),
        ofText raw = .error (.malformed raw fault) →
        fault.message = "unexpected character " ++ Text.quotedChar c ++ tail → c ∈ raw.toList) ∧
      ofText "" = .error (.malformed "" (.unexpectedChar '.' .major)) ∧
      (Fault.unexpectedChar '.' .major).message =
        "unexpected character " ++ Text.quotedChar '.' ++ " while parsing major version number" := by
  have refused : ofText "" = .error (.malformed "" (.unexpectedChar '.' .major)) := rfl
  have stated : (Fault.unexpectedChar '.' .major).message =
      "unexpected character " ++ Text.quotedChar '.' ++ " while parsing major version number" := rfl
  refine ⟨?_, refused, stated⟩
  intro always
  cases always "" _ '.' _ refused stated

end ControllerSynthesis.Version
