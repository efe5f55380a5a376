/-
# The canonical text of a version

The strict reader takes exactly the canonical texts of well-formed versions, and gives the
version whose text it is. A version is well-formed if its numbers fit into 64 bits and its
segments are what the grammar allows: letters, digits and hyphens, one at least, and in a
pre-release no number with a zero in front.

Every part is read up to the first character that cannot belong to it, so a part is read
back whatever stands behind it, if only that begins with another kind of character: a
build such as `1-2.3` and a pre-release that begins with a hyphen are not cut in the
wrong place.

Key definitions: `Version.IsSegment`, `Version.Part.Admits`, `Version.IsWellFormed`.
Key theorems: `Version.number_eq_ok`, `Version.segmentsFrom_joined`,
`Version.suffixFrom_eq_ok`, `Version.read_eq_ok`.
-/
import ControllerSynthesis.Proofs.Steps
import ControllerSynthesis.Proofs.Number.Decimal
import ControllerSynthesis.Version.Reading

namespace ControllerSynthesis.Version

open Text (Stops stops_nil stops_cons append_inj_of_stops)

/-- Whether a text is a segment: letters, digits and hyphens, one at least. -/
def IsSegment (word : List Char) : Prop :=
  word ≠ [] ∧ ∀ c ∈ word, isSegmentChar c = true

/-- Whether a text is a number that begins with a zero it could do without. -/
def HasSpareZero (word : List Char) : Prop :=
  (∀ c ∈ word, Digits.isDecimal c = true) ∧ 1 < word.length ∧ word.head? = some '0'

/-- Whether a text may be a segment of the suffix: numbers in a pre-release have no zero
in front. -/
def Part.Admits (part : Part) (word : List Char) : Prop :=
  IsSegment word ∧ (part = .preRelease → ¬ HasSpareZero word)

/-- Whether a version has a text: its numbers fit into 64 bits, and its segments are
admitted where they stand. -/
structure IsWellFormed (v : Version) : Prop where
  major : v.major ≤ maxNumber
  minor : v.minor ≤ maxNumber
  patch : v.patch ≤ maxNumber
  pre : ∀ word ∈ v.pre, Part.preRelease.Admits word
  build : ∀ word ∈ v.build, Part.build.Admits word

instance (word : List Char) : Decidable (IsSegment word) :=
  decidable_of_iff (word ≠ [] ∧ word.all isSegmentChar = true) (by rw [List.all_eq_true]; rfl)

instance (word : List Char) : Decidable (HasSpareZero word) :=
  decidable_of_iff (word.all Digits.isDecimal = true ∧ 1 < word.length ∧ word.head? = some '0')
    (by rw [List.all_eq_true]; rfl)

instance (part : Part) (word : List Char) : Decidable (part.Admits word) :=
  inferInstanceAs (Decidable (IsSegment word ∧ (part = .preRelease → ¬ HasSpareZero word)))

/-! ### Numbers -/

/-- The rest of a number goes on to the first character that is no digit. -/
theorem numberFrom_digits (part : Part) : ∀ {digits : List Char} {value : Nat} (rest : List Char),
    (∀ c ∈ digits, Digits.isDecimal c = true) → (digits ≠ [] → value ≠ 0) →
      Digits.worth value digits ≤ maxNumber → Stops Digits.isDecimal rest →
      numberFrom part value (digits ++ rest) = .ok (Digits.worth value digits, rest)
  | [], value, rest, _, _, _, stops => by
    cases rest with
    | nil => rfl
    | cons c rest =>
      rw [List.nil_append, numberFrom, stops_cons.mp stops]
      rfl
  | c :: digits, value, rest, all, positive, fits, stops => by
    have digit : Digits.isDecimal c = true := all c List.mem_cons_self
    have nonzero : value ≠ 0 := positive (List.cons_ne_nil c digits)
    rw [Digits.worth_cons] at fits ⊢
    have small : ¬ maxNumber < value * 10 + Digits.decimal c := by
      have grows := Digits.le_worth digits (value * 10 + Digits.decimal c)
      omega
    rw [List.cons_append, numberFrom, if_pos digit, if_neg nonzero, if_neg small]
    apply numberFrom_digits part rest (fun d mem => all d (List.mem_cons_of_mem c mem)) _ fits stops
    intro _
    omega

/-- What is read as the rest of a number are digits, and its value is theirs. -/
theorem digits_of_numberFrom {part : Part} : ∀ {text : List Char} {value n : Nat} {rest : List Char},
    numberFrom part value text = .ok (n, rest) → value ≤ maxNumber →
      ∃ digits, text = digits ++ rest ∧ (∀ c ∈ digits, Digits.isDecimal c = true) ∧
        (digits ≠ [] → value ≠ 0) ∧ n = Digits.worth value digits ∧ n ≤ maxNumber ∧ Stops Digits.isDecimal rest
  | [], value, n, rest, read, fits => by
    cases read
    exact ⟨[], rfl, nofun, fun same => absurd rfl same, rfl, fits, stops_nil⟩
  | c :: text, value, n, rest, read, fits => by
    rw [numberFrom] at read
    by_cases digit : Digits.isDecimal c = true
    · rw [if_pos digit] at read
      by_cases zero : value = 0
      · rw [if_pos zero] at read
        cases read
      · rw [if_neg zero] at read
        by_cases large : maxNumber < value * 10 + Digits.decimal c
        · rw [if_pos large] at read
          cases read
        · rw [if_neg large] at read
          obtain ⟨digits, split, all, -, worth, small, stops⟩ := digits_of_numberFrom read (Nat.le_of_not_lt large)
          refine ⟨c :: digits, by rw [split]; rfl, ?_, fun _ => zero, by rw [worth, Digits.worth_cons], small, stops⟩
          intro d mem
          rcases List.mem_cons.mp mem with rfl | mem
          · exact digit
          · exact all d mem
    · rw [if_neg digit] at read
      cases read
      exact ⟨[], rfl, nofun, fun same => absurd rfl same, rfl, fits,
        stops_cons.mpr (Bool.eq_false_iff.mpr digit)⟩

/-- **A number is read** exactly if a decimal number that fits stands there, up to the
first character that is no digit. -/
theorem number_eq_ok {part : Part} {text rest : List Char} {n : Nat} :
    number part text = .ok (n, rest) ↔
      n ≤ maxNumber ∧ text = Digits.ofNat 10 n ++ rest ∧ Stops Digits.isDecimal rest := by
  constructor
  · intro read
    cases text with
    | nil => cases read
    | cons c text =>
      rw [number] at read
      by_cases digit : Digits.isDecimal c = true
      · rw [if_pos digit] at read
        have bound : Digits.decimal c ≤ maxNumber :=
          Nat.le_trans (Nat.le_of_lt (Digits.decimal_lt digit)) (by decide)
        obtain ⟨digits, split, all, positive, worth, fits, stops⟩ := digits_of_numberFrom read bound
        have numeral : Digits.IsNumeral (c :: digits) n := by
          refine ⟨List.cons_ne_nil c digits, ?_, ?_, by rw [worth, Digits.worth_cons, Nat.zero_mul, Nat.zero_add]⟩
          · intro d mem
            rcases List.mem_cons.mp mem with rfl | mem
            · exact digit
            · exact all d mem
          · intro first
            have zero : c = '0' := Option.some.inj first
            subst zero
            by_cases last : digits = []
            · rw [last]
            · exact absurd rfl (positive last)
        rw [Digits.isNumeral_iff] at numeral
        exact ⟨fits, by rw [split, ← List.cons_append, numeral], stops⟩
      · rw [if_neg digit] at read
        cases read
  · rintro ⟨fits, rfl, stops⟩
    have numeral := Digits.isNumeral_ofNat n
    obtain ⟨c, digits, same, digit⟩ := Digits.exists_cons_ofNat n
    rw [same] at numeral ⊢
    have worth : Digits.worth (Digits.decimal c) digits = n := by
      have value := numeral.value
      rwa [Digits.worth_cons, Nat.zero_mul, Nat.zero_add] at value
    have nonzero : digits ≠ [] → Digits.decimal c ≠ 0 := by
      intro more
      apply Digits.decimal_ne_zero digit
      rintro rfl
      exact more (List.cons.inj (numeral.shortest rfl)).2
    rw [List.cons_append, number, if_pos digit]
    have read := numberFrom_digits part rest (fun d mem => numeral.digits d (List.mem_cons_of_mem c mem)) nonzero
      (worth.symm ▸ fits) stops
    rwa [worth] at read

theorem dot_eq_ok {part : Part} {text rest : List Char} : dot part text = .ok rest ↔ text = '.' :: rest := by
  cases text with
  | nil => simp [dot]
  | cons c text =>
    rw [dot]
    by_cases same : c = '.'
    · simp [same]
    · simp [same]

/-! ### Segments -/

theorem hasLeadingZero_iff {word : List Char} : hasLeadingZero word = true ↔ HasSpareZero word := by
  unfold HasSpareZero
  rcases word with - | ⟨c, - | ⟨d, word⟩⟩
  · simp [hasLeadingZero]
  · simp [hasLeadingZero]
  · by_cases zero : c = '0'
    · subst zero
      have digit : Digits.isDecimal '0' = true := by decide
      simp [hasLeadingZero, digit]
    · simp [hasLeadingZero, zero]

theorem segment_eq_ok_iff {part : Part} {word w : List Char} :
    segment part word = .ok w ↔ w = word ∧ word ≠ [] ∧ (part = .preRelease → ¬ HasSpareZero word) := by
  unfold segment
  by_cases empty : word = []
  · simp [empty]
  · rw [if_neg empty]
    by_cases spare : part = .preRelease ∧ hasLeadingZero word = true
    · rw [if_pos spare]
      have refused := hasLeadingZero_iff.mp spare.2
      simp [spare.1, refused]
    · rw [if_neg spare]
      have admitted : part = .preRelease → ¬ HasSpareZero word := fun own zero =>
        spare ⟨own, hasLeadingZero_iff.mpr zero⟩
      constructor
      · intro same
        exact ⟨(Except.ok.inj same).symm, empty, admitted⟩
      · rintro ⟨rfl, -, -⟩
        rfl

theorem segment_of_admits {part : Part} {word : List Char} (admitted : part.Admits word) :
    segment part word = .ok word :=
  segment_eq_ok_iff.mpr ⟨rfl, admitted.1.1, admitted.2⟩

/-- Whether no segment goes on here. -/
def EndsSegments (rest : List Char) : Prop :=
  Stops isSegmentChar rest ∧ Stops (· == '.') rest

theorem joined_cons_cons (u v : List Char) (words : List (List Char)) :
    joined (u :: v :: words) = u ++ '.' :: joined (v :: words) := by
  rw [joined, List.intercalate_cons_cons, List.append_assoc, List.singleton_append]
  rfl

theorem joined_singleton (word : List Char) : joined [word] = word :=
  List.intercalate_singleton

/-- A word that is begun is read on. -/
theorem segmentsFrom_word (part : Part) (done : List (List Char)) : ∀ {more word : List Char} (rest : List Char),
    (∀ c ∈ more, isSegmentChar c = true) →
      segmentsFrom part done word (more ++ rest) = segmentsFrom part done (word ++ more) rest
  | [], word, rest, _ => by rw [List.nil_append, List.append_nil]
  | c :: more, word, rest, all => by
    have own : isSegmentChar c = true := all c List.mem_cons_self
    rw [List.cons_append, segmentsFrom, if_pos own,
      segmentsFrom_word part done rest fun d mem => all d (List.mem_cons_of_mem c mem), List.append_assoc,
      List.singleton_append]

/-- Segments are read up to the first character that belongs to none. -/
theorem segmentsFrom_joined {part : Part} {rest : List Char} (ends : EndsSegments rest) :
    ∀ {words : List (List Char)} (done : List (List Char)), words ≠ [] → (∀ w ∈ words, part.Admits w) →
      segmentsFrom part done [] (joined words ++ rest) = .ok (done ++ words, rest)
  | [], _, there, _ => absurd rfl there
  | [word], done, _, all => by
    have admitted := all word List.mem_cons_self
    have last := segment_of_admits admitted
    rw [joined_singleton, segmentsFrom_word part done rest admitted.1.2, List.nil_append]
    cases rest with
    | nil =>
      rw [segmentsFrom, last]
      rfl
    | cons c rest =>
      have other : isSegmentChar c = false := stops_cons.mp ends.1
      have noDot : c ≠ '.' := by simpa using stops_cons.mp ends.2
      rw [segmentsFrom, other, if_neg Bool.false_ne_true, if_neg noDot, last]
      rfl
  | word :: next :: words, done, _, all => by
    have admitted := all word List.mem_cons_self
    have own := segment_of_admits admitted
    have noSegment : isSegmentChar '.' = false := by decide
    rw [joined_cons_cons, List.append_assoc, segmentsFrom_word part done _ admitted.1.2, List.nil_append,
      List.cons_append, segmentsFrom, noSegment, if_neg Bool.false_ne_true, if_pos rfl, own]
    show segmentsFrom part (done ++ [word]) [] (joined (next :: words) ++ rest) = _
    rw [segmentsFrom_joined ends (done ++ [word]) (List.cons_ne_nil next words)
      fun w mem => all w (List.mem_cons_of_mem word mem), List.append_assoc, List.singleton_append]

/-- The last segment, which ends here. -/
theorem joined_of_last {part : Part} {word text : List Char} {done segments : List (List Char)} {rest : List Char}
    (read : ((segment part word).map fun w => (done ++ [w], text)) = .ok (segments, rest))
    (all : ∀ c ∈ word, isSegmentChar c = true) (ends : EndsSegments text) :
    ∃ words, segments = done ++ words ∧ words ≠ [] ∧ word ++ text = joined words ++ rest ∧
      (∀ w ∈ words, part.Admits w) ∧ EndsSegments rest := by
  obtain ⟨w, own, same⟩ := map_eq_ok.mp read
  obtain ⟨rfl, nonempty, admitted⟩ := segment_eq_ok_iff.mp own
  obtain ⟨rfl, rfl⟩ := Prod.mk.inj same
  refine ⟨[w], rfl, List.cons_ne_nil w [], by rw [joined_singleton], ?_, ends⟩
  intro u mem
  rw [List.mem_singleton.mp mem]
  exact ⟨⟨nonempty, all⟩, admitted⟩

/-- What is read as segments are segments with dots between them, the first of which may
have begun before. -/
theorem joined_of_segmentsFrom {part : Part} : ∀ {text word : List Char} {done segments : List (List Char)}
    {rest : List Char}, segmentsFrom part done word text = .ok (segments, rest) →
      (∀ c ∈ word, isSegmentChar c = true) →
      ∃ words, segments = done ++ words ∧ words ≠ [] ∧ word ++ text = joined words ++ rest ∧
        (∀ w ∈ words, part.Admits w) ∧ EndsSegments rest
  | [], word, done, segments, rest, read, all => by
    rw [segmentsFrom] at read
    exact joined_of_last read all ⟨stops_nil, stops_nil⟩
  | c :: text, word, done, segments, rest, read, all => by
    rw [segmentsFrom] at read
    by_cases inside : isSegmentChar c = true
    · rw [if_pos inside] at read
      have longer : ∀ d ∈ word ++ [c], isSegmentChar d = true := by
        intro d mem
        rcases List.mem_append.mp mem with mem | mem
        · exact all d mem
        · rw [List.mem_singleton.mp mem]
          exact inside
      obtain ⟨words, found, there, split, rest⟩ := joined_of_segmentsFrom read longer
      exact ⟨words, found, there, by rw [← split, List.append_assoc, List.singleton_append], rest⟩
    · rw [if_neg inside] at read
      by_cases between : c = '.'
      · rw [if_pos between] at read
        cases own : segment part word with
        | error fault =>
          rw [own] at read
          cases read
        | ok w =>
          rw [own] at read
          obtain ⟨rfl, nonempty, admitted⟩ := segment_eq_ok_iff.mp own
          obtain ⟨words, rfl, there, split, later, ends⟩ := joined_of_segmentsFrom read nofun
          obtain ⟨next, words, rfl⟩ := List.exists_cons_of_ne_nil there
          have whole : done ++ [w] ++ next :: words = done ++ w :: next :: words := by
            rw [List.append_assoc, List.singleton_append]
          refine ⟨w :: next :: words, whole, List.cons_ne_nil _ _, ?_, ?_, ends⟩
          · rw [joined_cons_cons, List.append_assoc, List.cons_append, ← split, between, List.nil_append]
          · intro u mem
            rcases List.mem_cons.mp mem with rfl | mem
            · exact ⟨⟨nonempty, all⟩, admitted⟩
            · exact later u mem
      · rw [if_neg between] at read
        have ends : EndsSegments (c :: text) :=
          ⟨stops_cons.mpr (Bool.eq_false_iff.mpr inside), stops_cons.mpr (by simpa using between)⟩
        exact joined_of_last read all ends

/-! ### Suffixes -/

/-- Whether the text can stand behind a suffix with these segments: it does not go on with
one of them, nor is it the suffix that is not there. -/
def Follows (mark : Char) (segments : List (List Char)) (rest : List Char) : Prop :=
  if segments = [] then Stops (· == mark) rest else EndsSegments rest

/-- **A suffix is read** exactly if its mark with segments behind it stands there, or not
its mark. -/
theorem suffixFrom_eq_ok {mark : Char} {own current : Part} {text rest : List Char} {segments : List (List Char)} :
    (∃ part, suffixFrom mark own current text = .ok (part, segments, rest)) ↔
      text = suffix mark segments ++ rest ∧ (∀ w ∈ segments, own.Admits w) ∧ Follows mark segments rest := by
  constructor
  · rintro ⟨part, read⟩
    cases text with
    | nil =>
      cases read
      exact ⟨rfl, nofun, by rw [Follows, if_pos rfl]; exact stops_nil⟩
    | cons c text =>
      rw [suffixFrom] at read
      by_cases opens : c = mark
      · rw [if_pos opens] at read
        obtain ⟨⟨words, left⟩, segmented, same⟩ := map_eq_ok.mp read
        obtain ⟨-, same⟩ := Prod.mk.inj same
        obtain ⟨rfl, rfl⟩ := Prod.mk.inj same
        obtain ⟨words, rfl, there, split, all, ends⟩ := joined_of_segmentsFrom segmented nofun
        rw [List.nil_append] at split
        refine ⟨?_, all, by rw [Follows, if_neg there]; exact ends⟩
        obtain ⟨first, words, rfl⟩ := List.exists_cons_of_ne_nil there
        rw [split, opens]
        rfl
      · rw [if_neg opens] at read
        cases read
        refine ⟨rfl, nofun, ?_⟩
        rw [Follows, if_pos rfl]
        exact stops_cons.mpr (by simpa using opens)
  · rintro ⟨rfl, all, follows⟩
    cases segments with
    | nil =>
      rw [Follows, if_pos rfl] at follows
      cases rest with
      | nil => exact ⟨current, rfl⟩
      | cons c rest =>
        have other : c ≠ mark := by simpa using stops_cons.mp follows
        exact ⟨current, by rw [suffix, List.nil_append, suffixFrom, if_neg other]⟩
    | cons first words =>
      rw [Follows, if_neg (List.cons_ne_nil first words)] at follows
      have segmented := segmentsFrom_joined follows [] (List.cons_ne_nil first words) all
      refine ⟨own, ?_⟩
      show suffixFrom mark own current (mark :: (joined (first :: words) ++ rest)) = _
      rw [suffixFrom, if_pos rfl, segmented]
      rfl

/-! ### The whole text -/

/-- A suffix begins with its mark, if there is one. -/
theorem stops_suffix {p : Char → Bool} {mark : Char} (segments : List (List Char)) {rest : List Char}
    (other : p mark = false) (stops : Stops p rest) : Stops p (suffix mark segments ++ rest) := by
  cases segments with
  | nil => exact stops
  | cons first words => exact stops_cons.mpr other

/-- **The strict reader takes the canonical texts of well-formed versions**, and no other
text. -/
theorem read_eq_ok {text : List Char} {v : Version} : read text = .ok v ↔ v.IsWellFormed ∧ text = v.display := by
  constructor
  · intro accepted
    unfold read at accepted
    split at accepted
    · cases accepted
    · obtain ⟨⟨major, t₁⟩, readMajor, accepted⟩ := bind_eq_ok.mp accepted
      obtain ⟨t₂, firstDot, accepted⟩ := bind_eq_ok.mp accepted
      obtain ⟨⟨minor, t₃⟩, readMinor, accepted⟩ := bind_eq_ok.mp accepted
      obtain ⟨t₄, secondDot, accepted⟩ := bind_eq_ok.mp accepted
      obtain ⟨⟨patch, t₅⟩, readPatch, accepted⟩ := bind_eq_ok.mp accepted
      obtain ⟨⟨part, pre, t₆⟩, readPre, accepted⟩ := bind_eq_ok.mp accepted
      obtain ⟨⟨part', build, t₇⟩, readBuild, accepted⟩ := bind_eq_ok.mp accepted
      cases t₇ with
      | cons c t₇ => cases accepted
      | nil =>
        cases accepted
        obtain ⟨fitsMajor, rfl, -⟩ := number_eq_ok.mp readMajor
        obtain rfl := dot_eq_ok.mp firstDot
        obtain ⟨fitsMinor, rfl, -⟩ := number_eq_ok.mp readMinor
        obtain rfl := dot_eq_ok.mp secondDot
        obtain ⟨fitsPatch, rfl, -⟩ := number_eq_ok.mp readPatch
        obtain ⟨rfl, admittedPre, -⟩ := suffixFrom_eq_ok.mp ⟨part, readPre⟩
        obtain ⟨rfl, admittedBuild, -⟩ := suffixFrom_eq_ok.mp ⟨part', readBuild⟩
        exact ⟨⟨fitsMajor, fitsMinor, fitsPatch, admittedPre, admittedBuild⟩, by simp [display]⟩
  · rintro ⟨wellFormed, rfl⟩
    -- What stands behind each part begins with a character that cannot belong to it.
    have behindBuild : Follows '+' v.build [] := by
      unfold Follows
      split
      · exact stops_nil
      · exact ⟨stops_nil, stops_nil⟩
    have behindPre : Follows '-' v.pre (suffix '+' v.build ++ []) := by
      unfold Follows
      split
      · exact stops_suffix v.build rfl stops_nil
      · exact ⟨stops_suffix v.build rfl stops_nil, stops_suffix v.build rfl stops_nil⟩
    have behindPatch : Stops Digits.isDecimal (suffix '-' v.pre ++ (suffix '+' v.build ++ [])) :=
      stops_suffix v.pre rfl (stops_suffix v.build rfl stops_nil)
    have behindNumber (rest : List Char) : Stops Digits.isDecimal ('.' :: rest) := stops_cons.mpr rfl
    have whole : v.display = Digits.ofNat 10 v.major ++ '.' :: (Digits.ofNat 10 v.minor ++ '.' ::
        (Digits.ofNat 10 v.patch ++ (suffix '-' v.pre ++ (suffix '+' v.build ++ [])))) := by
      simp [display]
    obtain ⟨part, readPre⟩ : ∃ part, suffixFrom '-' .preRelease .patch _ = .ok (part, v.pre, _) :=
      suffixFrom_eq_ok.mpr ⟨rfl, wellFormed.pre, behindPre⟩
    obtain ⟨part', readBuild⟩ : ∃ part', suffixFrom '+' .build part _ = .ok (part', v.build, _) :=
      suffixFrom_eq_ok.mpr ⟨rfl, wellFormed.build, behindBuild⟩
    rw [whole]
    unfold read
    split
    · rename_i empty
      exact absurd (List.append_eq_nil_iff.mp empty).1 (Digits.ofNat_ne_nil 10 v.major)
    · refine bind_eq_ok.mpr ⟨_, number_eq_ok.mpr ⟨wellFormed.major, rfl, behindNumber _⟩, ?_⟩
      refine bind_eq_ok.mpr ⟨_, dot_eq_ok.mpr rfl, ?_⟩
      refine bind_eq_ok.mpr ⟨_, number_eq_ok.mpr ⟨wellFormed.minor, rfl, behindNumber _⟩, ?_⟩
      refine bind_eq_ok.mpr ⟨_, dot_eq_ok.mpr rfl, ?_⟩
      refine bind_eq_ok.mpr ⟨_, number_eq_ok.mpr ⟨wellFormed.patch, rfl, behindPatch⟩, ?_⟩
      refine bind_eq_ok.mpr ⟨_, readPre, ?_⟩
      exact bind_eq_ok.mpr ⟨_, readBuild, rfl⟩

end ControllerSynthesis.Version
