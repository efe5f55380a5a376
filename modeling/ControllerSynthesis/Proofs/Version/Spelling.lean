/-
# The spellings of a version

A text spells a version if, without white space around it and without one leading `v`, it
is one, two or three decimal numbers with dots between them, and then the suffixes. A
number that is left out is zero. Such texts are read as what they spell, and all others
are refused with the text as it was given.

So the canonical text of a well-formed version is read back, and a version determines its
texts: they are the canonical text, and what it is without numbers that are zero, with
white space around it and a `v` in front of it.

Key definitions: `Version.IsStripped`, `Version.IsCore`, `Version.Spells`,
`Version.spellings`, `Version.Respells`.
Key theorems: `Version.isStripped_iff`, `Version.read_completed_eq_ok`,
`Version.ofText_iff_spells`, `Version.ofText_display`.
-/
import ControllerSynthesis.Proofs.Text.Blank
import ControllerSynthesis.Proofs.Version.Canonical
import ControllerSynthesis.Version.Comparison

namespace ControllerSynthesis.Version

open Digits (IsNumeral isNumeral_iff)
open Text (AreBlank IsTrimmed isTrimmed_iff Stops stops_nil stops_cons takeWhile_stops dropWhile_stops
  stops_dropWhile append_inj_of_stops)

/-! ### What a text spells -/

/-- Whether `body` is the text without the white space around it and without one `v` in
front. -/
def IsStripped (text body : List Char) : Prop :=
  ∃ middle, IsTrimmed text middle ∧ (middle = 'v' :: body ∨ middle.head? ≠ some 'v' ∧ middle = body)

/-- Whether a text is one, two or three decimal numbers with dots between them; numbers
that are not there are zero. -/
inductive IsCore : List Char → Nat → Nat → Nat → Prop where
  | major {a : List Char} {major : Nat} (first : IsNumeral a major) : IsCore a major 0 0
  | minor {a b : List Char} {major minor : Nat} (first : IsNumeral a major) (second : IsNumeral b minor) :
    IsCore (a ++ '.' :: b) major minor 0
  | patch {a b c : List Char} {major minor patch : Nat} (first : IsNumeral a major)
    (second : IsNumeral b minor) (third : IsNumeral c patch) :
    IsCore (a ++ '.' :: (b ++ '.' :: c)) major minor patch

/-- Whether a text spells the version: numbers, then the suffixes, all as the grammar
allows them. -/
def Spells (text : List Char) (v : Version) : Prop :=
  v.IsWellFormed ∧ ∃ core, IsCore core v.major v.minor v.patch ∧
    text = core ++ (suffix '-' v.pre ++ suffix '+' v.build)

/-! ### White space and the leading letter -/

/-- **What is stripped of a text** is the white space around it and one `v`. -/
theorem isStripped_iff {text body : List Char} : IsStripped text body ↔ body = stripped text := by
  have trimmed (middle : List Char) : IsTrimmed text middle ↔ middle = Text.trim text := by
    rw [isTrimmed_iff, eq_comm]
  unfold IsStripped
  simp only [trimmed, exists_eq_left]
  unfold stripped
  split
  · rename_i rest marked
    rw [marked]
    simp [eq_comm]
  · rename_i middle plain
    have unmarked : (Text.trim text).head? ≠ some 'v' := by
      intro first
      cases same : Text.trim text with
      | nil =>
        rw [same] at first
        cases first
      | cons c rest =>
        rw [same] at first
        exact plain rest (by rw [same, Option.some.inj first])
    constructor
    · rintro (marked | ⟨-, same⟩)
      · exact absurd marked (plain body)
      · exact same.symm
    · intro same
      exact .inr ⟨unmarked, same.symm⟩

/-! ### Missing numbers -/

/-- A text is cut where its suffixes begin, and there only. -/
theorem completed_append {core rest : List Char} (inside : ∀ c ∈ core, (!opensSuffix c) = true)
    (stops : Stops (fun c => !opensSuffix c) rest) : completed (core ++ rest) =
      match core.count '.' with
      | 0 => core ++ ['.', '0', '.', '0'] ++ rest
      | 1 => core ++ ['.', '0'] ++ rest
      | _ => core ++ rest := by
  have front : (core ++ rest).takeWhile (fun c => !opensSuffix c) = core := takeWhile_stops inside stops
  have behind : (core ++ rest).dropWhile (fun c => !opensSuffix c) = rest := dropWhile_stops inside stops
  unfold completed
  exact congrArg₂ (fun front behind => match front.count '.' with
    | 0 => front ++ ['.', '0', '.', '0'] ++ behind
    | 1 => front ++ ['.', '0'] ++ behind
    | _ => core ++ rest) front behind

theorem stops_suffixes (v : Version) : Stops (fun c => !opensSuffix c) (suffix '-' v.pre ++ suffix '+' v.build) := by
  rw [← List.append_nil (suffix '+' v.build)]
  exact stops_suffix v.pre rfl (stops_suffix v.build rfl stops_nil)

theorem not_opensSuffix_of_isDecimal {c : Char} (digit : Digits.isDecimal c = true) : (!opensSuffix c) = true := by
  have hyphen : c ≠ '-' := Digits.ne_of_isDecimal digit rfl
  have plus : c ≠ '+' := Digits.ne_of_isDecimal digit rfl
  simp [opensSuffix, hyphen, plus]

theorem not_opensSuffix_ofNat (n : Nat) : ∀ c ∈ Digits.ofNat 10 n, (!opensSuffix c) = true :=
  fun _ mem => not_opensSuffix_of_isDecimal (Digits.isDecimal_of_mem_ofNat mem)

theorem dot_not_mem_ofNat (n : Nat) : '.' ∉ Digits.ofNat 10 n := by
  intro mem
  have digit : Digits.isDecimal '.' = true := Digits.isDecimal_of_mem_ofNat mem
  cases digit

theorem count_dot_ofNat (n : Nat) : (Digits.ofNat 10 n).count '.' = 0 :=
  List.count_eq_zero.mpr (dot_not_mem_ofNat n)

/-- In front of its first dot a text can be cut in one way. -/
theorem dot_inj {a b x y : List Char} (plain : '.' ∉ a) (plain' : '.' ∉ b) (same : a ++ '.' :: x = b ++ '.' :: y) :
    a = b ∧ x = y := by
  have inside {cs : List Char} (none : '.' ∉ cs) : ∀ c ∈ cs, (c != '.') = true := by
    intro c mem
    rw [bne_iff_ne]
    rintro rfl
    exact none mem
  obtain ⟨fronts, rests⟩ := append_inj_of_stops (inside plain) (inside plain') (stops_cons.mpr rfl)
    (stops_cons.mpr rfl) same
  exact ⟨fronts, (List.cons.inj rests).2⟩

/-- The three numbers of the canonical text. -/
def core (v : Version) : List Char :=
  Digits.ofNat 10 v.major ++ '.' :: (Digits.ofNat 10 v.minor ++ '.' :: Digits.ofNat 10 v.patch)

theorem display_eq (v : Version) : v.display = v.core ++ (suffix '-' v.pre ++ suffix '+' v.build) := by
  simp [display, core]

theorem not_opensSuffix_core (v : Version) : ∀ c ∈ v.core, (!opensSuffix c) = true := by
  intro c mem
  simp only [core, List.mem_append, List.mem_cons] at mem
  rcases mem with mem | rfl | mem | rfl | mem
  · exact not_opensSuffix_ofNat _ c mem
  · rfl
  · exact not_opensSuffix_ofNat _ c mem
  · rfl
  · exact not_opensSuffix_ofNat _ c mem

theorem isCore_core (v : Version) : IsCore v.core v.major v.minor v.patch :=
  .patch (Digits.isNumeral_ofNat _) (Digits.isNumeral_ofNat _) (Digits.isNumeral_ofNat _)

/-- Zeros that are put in for missing numbers make the canonical text. -/
theorem completed_of_isCore {v : Version} {front : List Char} (numbers : IsCore front v.major v.minor v.patch) :
    completed (front ++ (suffix '-' v.pre ++ suffix '+' v.build)) = v.display := by
  have zero : Digits.ofNat 10 0 = ['0'] := rfl
  obtain ⟨major, minor, patch, pre, build⟩ := v
  rw [display_eq]
  unfold core
  cases numbers with
  | major first =>
    obtain rfl := isNumeral_iff.mp first
    rw [completed_append (not_opensSuffix_ofNat _) (stops_suffixes ⟨major, 0, 0, pre, build⟩), count_dot_ofNat]
    simp [zero]
  | minor first second =>
    obtain rfl := isNumeral_iff.mp first
    obtain rfl := isNumeral_iff.mp second
    have inside : ∀ c ∈ Digits.ofNat 10 major ++ '.' :: Digits.ofNat 10 minor, (!opensSuffix c) = true := by
      intro c mem
      rcases List.mem_append.mp mem with mem | mem
      · exact not_opensSuffix_ofNat _ c mem
      · rcases List.mem_cons.mp mem with rfl | mem
        · rfl
        · exact not_opensSuffix_ofNat _ c mem
    have dots : (Digits.ofNat 10 major ++ '.' :: Digits.ofNat 10 minor).count '.' = 1 := by
      rw [List.count_append, List.count_cons_self, count_dot_ofNat, count_dot_ofNat]
    rw [completed_append inside (stops_suffixes ⟨major, minor, 0, pre, build⟩), dots]
    simp [zero]
  | patch first second third =>
    obtain rfl := isNumeral_iff.mp first
    obtain rfl := isNumeral_iff.mp second
    obtain rfl := isNumeral_iff.mp third
    have dots : (core ⟨major, minor, patch, pre, build⟩).count '.' = 2 := by
      unfold core
      rw [List.count_append, List.count_cons_self, List.count_append, List.count_cons_self, count_dot_ofNat,
        count_dot_ofNat, count_dot_ofNat]
    have whole := completed_append (not_opensSuffix_core ⟨major, minor, patch, pre, build⟩)
      (stops_suffixes ⟨major, minor, patch, pre, build⟩)
    rw [dots] at whole
    exact whole

/-- A text that becomes canonical when zeros are put in has the numbers of the canonical
text, but for those zeros. -/
theorem isCore_of_completed {v : Version} {text : List Char} (same : completed text = v.display) :
    ∃ front, IsCore front v.major v.minor v.patch ∧ text = front ++ (suffix '-' v.pre ++ suffix '+' v.build) := by
  have numeral (n : Nat) : IsNumeral (Digits.ofNat 10 n) n := Digits.isNumeral_ofNat n
  have zero {n : Nat} (digits : ['0'] = Digits.ofNat 10 n) : n = 0 := Digits.ofNat_inj (digits.symm.trans rfl)
  obtain ⟨front, rest, split, inside, stops⟩ : ∃ front rest, text = front ++ rest ∧
      (∀ c ∈ front, (!opensSuffix c) = true) ∧ Stops (fun c => !opensSuffix c) rest :=
    ⟨_, _, List.takeWhile_append_dropWhile.symm, fun c mem => List.mem_takeWhile_imp (p := fun c => !opensSuffix c) mem,
      stops_dropWhile text⟩
  have inserted {zeros : List Char} (plain : zeros.all (fun c => !opensSuffix c) = true)
      (same : front ++ zeros ++ rest = v.display) :
      front ++ zeros = v.core ∧ rest = suffix '-' v.pre ++ suffix '+' v.build := by
    rw [display_eq] at same
    refine append_inj_of_stops ?_ (not_opensSuffix_core v) stops (stops_suffixes v) same
    intro c mem
    exact (List.mem_append.mp mem).elim (inside c) (List.all_eq_true.mp plain c)
  rw [split, completed_append inside stops] at same
  rw [split]
  -- The dots of what stands in front of the suffixes tell how many numbers are missing.
  split at same
  · rename_i dots
    have plain : '.' ∉ front := List.count_eq_zero.mp dots
    obtain ⟨numbers, rfl⟩ := inserted rfl same
    obtain ⟨rfl, behind⟩ := dot_inj plain (dot_not_mem_ofNat v.major) numbers
    obtain ⟨minor, patch⟩ := dot_inj (a := ['0']) (x := ['0']) (by decide) (dot_not_mem_ofNat v.minor) behind
    refine ⟨_, ?_, rfl⟩
    rw [zero minor, zero patch]
    exact .major (numeral v.major)
  · rename_i dots
    obtain ⟨a, b, rfl, plain⟩ := List.eq_append_cons_of_mem (List.count_pos_iff.mp (by omega : 0 < front.count '.'))
    have plain' : '.' ∉ b := by
      rw [List.count_append, List.count_cons_self, List.count_eq_zero.mpr plain] at dots
      exact List.count_eq_zero.mp (by omega)
    obtain ⟨numbers, rfl⟩ := inserted rfl same
    rw [List.append_assoc, List.cons_append] at numbers
    obtain ⟨rfl, behind⟩ := dot_inj plain (dot_not_mem_ofNat v.major) numbers
    obtain ⟨rfl, patch⟩ := dot_inj plain' (dot_not_mem_ofNat v.minor) behind
    refine ⟨_, ?_, rfl⟩
    rw [zero patch]
    exact .minor (numeral v.major) (numeral v.minor)
  · exact ⟨v.core, isCore_core v, by rw [same, display_eq]⟩

/-- **A text is read with zeros put in** exactly as the version it spells. -/
theorem read_completed_eq_ok {text : List Char} {v : Version} :
    read (completed text) = .ok v ↔ Spells text v := by
  rw [read_eq_ok]
  constructor
  · rintro ⟨wellFormed, same⟩
    exact ⟨wellFormed, isCore_of_completed same⟩
  · rintro ⟨wellFormed, front, numbers, rfl⟩
    exact ⟨wellFormed, completed_of_isCore numbers⟩

/-! ### What is accepted -/

theorem ofText_eq_ok {raw : String} {v : Version} : ofText raw = .ok v ↔ Spells (stripped raw.toList) v := by
  rw [← read_completed_eq_ok]
  unfold ofText parse
  cases read (completed (stripped raw.toList)) with
  | ok w => simp
  | error fault => simp

/-- **A text is accepted exactly by its grammar.** What is left of it without the white
space around it and without one `v` must spell a version, and then this version is read.
In every other case the text is reported as malformed, as it was given. -/
theorem ofText_iff_spells (raw : String) : ∃ body, (∀ other, IsStripped raw.toList other ↔ other = body) ∧
    (∀ v, ofText raw = .ok v ↔ Spells body v) ∧
    ((∀ v, ¬ Spells body v) ↔ ∃ fault, ofText raw = .error (.malformed raw fault)) := by
  refine ⟨stripped raw.toList, fun _ => isStripped_iff, fun _ => ofText_eq_ok, ?_⟩
  constructor
  · intro none
    cases outcome : ofText raw with
    | ok v => exact absurd (ofText_eq_ok.mp outcome) (none v)
    | error why =>
      unfold ofText at outcome
      split at outcome
      · cases outcome
      · rename_i fault _
        cases outcome
        exact ⟨fault, rfl⟩
  · rintro ⟨fault, refused⟩ v spelled
    rw [ofText_eq_ok.mpr spelled] at refused
    cases refused

/-! ### All spellings of a version -/

/-- The texts of a version without white space and without a `v`: the canonical one, and
what it is without a patch number that is zero, or without a minor and a patch number that
are. -/
def spellings (v : Version) : List (List Char) :=
  let ends := suffix '-' v.pre ++ suffix '+' v.build
  [v.display] ++
    (if v.patch = 0 then [Digits.ofNat 10 v.major ++ '.' :: Digits.ofNat 10 v.minor ++ ends] else []) ++
    (if v.minor = 0 ∧ v.patch = 0 then [Digits.ofNat 10 v.major ++ ends] else [])

/-- Whether a text is a spelling of the version with white space around it and, maybe, one
`v` in front of it. -/
def Respells (text : List Char) (v : Version) : Prop :=
  ∃ lead mark short tail, text = lead ++ (mark ++ short) ++ tail ∧ AreBlank lead ∧ AreBlank tail ∧
    (mark = [] ∨ mark = ['v']) ∧ short ∈ v.spellings

theorem mem_spellings {v : Version} {text : List Char} : text ∈ v.spellings ↔
    ∃ front, IsCore front v.major v.minor v.patch ∧ text = front ++ (suffix '-' v.pre ++ suffix '+' v.build) := by
  have numeral (n : Nat) : IsNumeral (Digits.ofNat 10 n) n := Digits.isNumeral_ofNat n
  constructor
  · intro mem
    simp only [spellings, List.mem_append, List.mem_singleton, List.mem_ite_nil_right] at mem
    rcases mem with (rfl | ⟨zero, rfl⟩) | ⟨⟨zero, zero'⟩, rfl⟩
    · exact ⟨v.core, isCore_core v, display_eq v⟩
    · refine ⟨_, ?_, rfl⟩
      rw [zero]
      exact .minor (numeral v.major) (numeral v.minor)
    · refine ⟨_, ?_, rfl⟩
      rw [zero, zero']
      exact .major (numeral v.major)
  · rintro ⟨front, numbers, rfl⟩
    obtain ⟨major, minor, patch, pre, build⟩ := v
    cases numbers with
    | major first =>
      obtain rfl := isNumeral_iff.mp first
      simp [spellings]
    | minor first second =>
      obtain rfl := isNumeral_iff.mp first
      obtain rfl := isNumeral_iff.mp second
      simp [spellings]
    | patch first second third =>
      obtain rfl := isNumeral_iff.mp first
      obtain rfl := isNumeral_iff.mp second
      obtain rfl := isNumeral_iff.mp third
      simp [spellings, display]

theorem spells_iff {v : Version} {text : List Char} : Spells text v ↔ v.IsWellFormed ∧ text ∈ v.spellings := by
  rw [mem_spellings]
  rfl

theorem isBlank_of_isSegmentChar {c : Char} (inside : isSegmentChar c = true) : Text.isBlank c = false := by
  simp only [isSegmentChar, Digits.isDecimal, Bool.or_eq_true, Bool.and_eq_true, decide_eq_true_eq, beq_iff_eq,
    Char.le_def, UInt32.le_iff_toNat_le] at inside
  have range : 45 ≤ c.toNat ∧ c.toNat ≤ 122 := by
    rcases inside with ((⟨low, high⟩ | ⟨low, high⟩) | ⟨low, high⟩) | rfl
    · exact ⟨Nat.le_trans (by decide) low, Nat.le_trans high (by decide)⟩
    · exact ⟨Nat.le_trans (by decide) low, Nat.le_trans high (by decide)⟩
    · exact ⟨Nat.le_trans (by decide) low, Nat.le_trans high (by decide)⟩
    · decide
  simp [Text.isBlank]
  omega

theorem isSegmentChar_of_isDecimal {c : Char} (digit : Digits.isDecimal c = true) : isSegmentChar c = true := by
  simp [isSegmentChar, digit]

theorem mem_joined {c : Char} : ∀ {words : List (List Char)}, c ∈ joined words → c = '.' ∨ ∃ w ∈ words, c ∈ w
  | [], mem => by cases mem
  | [word], mem => by
    rw [joined_singleton] at mem
    exact .inr ⟨word, List.mem_cons_self, mem⟩
  | word :: next :: words, mem => by
    rw [joined_cons_cons] at mem
    rcases List.mem_append.mp mem with mem | mem
    · exact .inr ⟨word, List.mem_cons_self, mem⟩
    · rcases List.mem_cons.mp mem with rfl | mem
      · exact .inl rfl
      · obtain dot | ⟨w, own, mem⟩ := mem_joined mem
        · exact .inl dot
        · exact .inr ⟨w, List.mem_cons_of_mem word own, mem⟩

theorem mem_suffix {mark c : Char} {words : List (List Char)} (segments : ∀ w ∈ words, IsSegment w)
    (mem : c ∈ suffix mark words) : c = mark ∨ c = '.' ∨ isSegmentChar c = true := by
  cases words with
  | nil => cases mem
  | cons first words =>
    rcases List.mem_cons.mp mem with rfl | mem
    · exact .inl rfl
    · obtain dot | ⟨w, own, mem⟩ := mem_joined mem
      · exact .inr (.inl dot)
      · exact .inr (.inr ((segments w own).2 c mem))

theorem mem_isCore {front : List Char} {major minor patch : Nat} (numbers : IsCore front major minor patch) {c : Char}
    (mem : c ∈ front) : c = '.' ∨ Digits.isDecimal c = true := by
  cases numbers with
  | major first => exact .inr (first.digits c mem)
  | minor first second =>
    simp only [List.mem_append, List.mem_cons] at mem
    rcases mem with mem | rfl | mem
    · exact .inr (first.digits c mem)
    · exact .inl rfl
    · exact .inr (second.digits c mem)
  | patch first second third =>
    simp only [List.mem_append, List.mem_cons] at mem
    rcases mem with mem | rfl | mem | rfl | mem
    · exact .inr (first.digits c mem)
    · exact .inl rfl
    · exact .inr (second.digits c mem)
    · exact .inl rfl
    · exact .inr (third.digits c mem)

/-- No spelling has white space in it. -/
theorem isBlank_of_spells {text : List Char} {v : Version} (spelled : Spells text v) {c : Char} (mem : c ∈ text) :
    Text.isBlank c = false := by
  obtain ⟨wellFormed, front, numbers, rfl⟩ := spelled
  simp only [List.mem_append] at mem
  rcases mem with mem | mem | mem
  · rcases mem_isCore numbers mem with rfl | digit
    · rfl
    · exact isBlank_of_isSegmentChar (isSegmentChar_of_isDecimal digit)
  · rcases mem_suffix (fun w own => (wellFormed.pre w own).1) mem with rfl | rfl | inside
    · rfl
    · rfl
    · exact isBlank_of_isSegmentChar inside
  · rcases mem_suffix (fun w own => (wellFormed.build w own).1) mem with rfl | rfl | inside
    · rfl
    · rfl
    · exact isBlank_of_isSegmentChar inside

theorem head?_of_isCore {front : List Char} {major minor patch : Nat} (numbers : IsCore front major minor patch) :
    ∃ c rest, front = c :: rest ∧ Digits.isDecimal c = true := by
  have first {a : List Char} {n : Nat} (numeral : IsNumeral a n) (rest : List Char) :
      ∃ c later, a ++ rest = c :: later ∧ Digits.isDecimal c = true := by
    obtain ⟨c, cs, rfl⟩ := List.exists_cons_of_ne_nil numeral.nonempty
    exact ⟨c, cs ++ rest, rfl, numeral.digits c List.mem_cons_self⟩
  cases numbers with
  | major numeral =>
    rw [← List.append_nil front]
    exact first numeral []
  | minor numeral _ => exact first numeral _
  | patch numeral _ _ => exact first numeral _

/-- Every spelling begins with a digit. -/
theorem head?_of_spells {text : List Char} {v : Version} (spelled : Spells text v) :
    ∃ c rest, text = c :: rest ∧ Digits.isDecimal c = true := by
  obtain ⟨-, front, numbers, rfl⟩ := spelled
  obtain ⟨c, rest, rfl, digit⟩ := head?_of_isCore numbers
  exact ⟨c, _, rfl, digit⟩

/-- White space around a spelling with, maybe, a `v` in front of it is all that is trimmed. -/
theorem isTrimmed_of_spells {lead mark short tail : List Char} {v : Version} (spelled : Spells short v)
    (blankLead : AreBlank lead) (blankTail : AreBlank tail) (marked : mark = [] ∨ mark = ['v']) :
    IsTrimmed (lead ++ (mark ++ short) ++ tail) (mark ++ short) := by
  have visible : ∀ c ∈ mark ++ short, Text.isBlank c = false := by
    intro c mem
    rcases List.mem_append.mp mem with mem | mem
    · rcases marked with rfl | rfl
      · cases mem
      · rw [List.mem_singleton.mp mem]
        rfl
    · exact isBlank_of_spells spelled mem
  refine ⟨lead, tail, rfl, blankLead, blankTail, ?_, ?_⟩
  · exact fun c first => visible c (List.mem_of_mem_head? first)
  · exact fun c last => visible c (List.mem_of_getLast? last)

/-- White space around a spelling, and a `v` in front of it, are stripped. -/
theorem isStripped_of_spells {lead mark short tail : List Char} {v : Version} (spelled : Spells short v)
    (blankLead : AreBlank lead) (blankTail : AreBlank tail) (marked : mark = [] ∨ mark = ['v']) :
    IsStripped (lead ++ (mark ++ short) ++ tail) short := by
  refine ⟨mark ++ short, isTrimmed_of_spells spelled blankLead blankTail marked, ?_⟩
  rcases marked with rfl | rfl
  · right
    obtain ⟨c, rest, rfl, digit⟩ := head?_of_spells spelled
    refine ⟨?_, rfl⟩
    intro first
    exact Digits.ne_of_isDecimal digit rfl (Option.some.inj first)
  · exact .inl rfl

/-- **The texts that are read as a version** are its spellings with white space around
them and, maybe, a `v` in front. -/
theorem ofText_iff_respells {raw : String} {v : Version} :
    ofText raw = .ok v ↔ v.IsWellFormed ∧ Respells raw.toList v := by
  rw [ofText_eq_ok]
  constructor
  · intro spelled
    have short := spells_iff.mp spelled
    obtain ⟨middle, ⟨lead, tail, split, blankLead, blankTail, -, -⟩, stripping⟩ :=
      isStripped_iff.mpr (rfl : stripped raw.toList = stripped raw.toList)
    refine ⟨short.1, lead, ?_⟩
    rcases stripping with marked | ⟨-, plain⟩
    · exact ⟨['v'], _, tail, split.trans (by rw [marked]; rfl), blankLead, blankTail, .inr rfl, short.2⟩
    · exact ⟨[], _, tail, split.trans (by rw [plain]; rfl), blankLead, blankTail, .inl rfl, short.2⟩
  · rintro ⟨wellFormed, lead, mark, short, tail, split, blankLead, blankTail, marked, mem⟩
    have spelled : Spells short v := spells_iff.mpr ⟨wellFormed, mem⟩
    have body := isStripped_iff.mp (isStripped_of_spells spelled blankLead blankTail marked)
    rw [split, ← body]
    exact spelled

/-- **The canonical text of a version is read back**, for every well-formed version. So
what any text is read as has a canonical text, which is read as the same version and is
its own canonical text; and two texts are read as the same version only if both are
spellings of it: white space around it, a `v` in front, and numbers left out that are zero
are all that is forgotten. -/
theorem ofText_display : (∀ v : Version, v.IsWellFormed → ofText (String.ofList v.display) = .ok v) ∧
    ∀ (raw : String) (v : Version), ofText raw = .ok v →
      v.IsWellFormed ∧ ofText (String.ofList v.display) = .ok v ∧
        (ofText (String.ofList v.display)).map display = .ok v.display ∧
        ∀ other : String, ofText other = .ok v ↔ Respells other.toList v := by
  have readBack (v : Version) (wellFormed : v.IsWellFormed) : ofText (String.ofList v.display) = .ok v := by
    apply ofText_iff_respells.mpr
    refine ⟨wellFormed, [], [], v.display, [], ?_, nofun, nofun, .inl rfl, List.mem_cons_self⟩
    rw [String.toList_ofList, List.append_nil]
    rfl
  refine ⟨readBack, ?_⟩
  intro raw v accepted
  have wellFormed : v.IsWellFormed := (ofText_iff_respells.mp accepted).1
  refine ⟨wellFormed, readBack v wellFormed, by rw [readBack v wellFormed]; rfl, ?_⟩
  intro other
  rw [ofText_iff_respells, and_iff_right wellFormed]

/-- A version whose pre-release begins with a hyphen and whose build has one in it. -/
def hyphenated : Version :=
  ⟨18446744073709551615, 0, 0, [['-', '1'], ['0']], [['1', '-', '2'], ['0', '3']]⟩

theorem isWellFormed_hyphenated : hyphenated.IsWellFormed where
  major := by decide
  minor := by decide
  patch := by decide
  pre := by simp only [hyphenated, List.forall_mem_cons]; decide
  build := by simp only [hyphenated, List.forall_mem_cons]; decide

/-- It is read back from its canonical text and from a shorter one. -/
theorem ofText_display_hyphenated :
    ofText (String.ofList hyphenated.display) = .ok hyphenated ∧
      ofText " v18446744073709551615--1.0+1-2.03\n" = .ok hyphenated := by
  have readBack := ofText_display.1 hyphenated isWellFormed_hyphenated
  have shorter : "18446744073709551615--1.0+1-2.03".toList ∈ hyphenated.spellings := by decide
  have respells : Respells " v18446744073709551615--1.0+1-2.03\n".toList hyphenated :=
    ⟨[' '], ['v'], _, ['\n'], rfl, by simp [AreBlank]; decide, by simp [AreBlank]; decide, .inr rfl, shorter⟩
  exact ⟨readBack, ((ofText_display.2 _ hyphenated readBack).2.2.2 _).mpr respells⟩

end ControllerSynthesis.Version
