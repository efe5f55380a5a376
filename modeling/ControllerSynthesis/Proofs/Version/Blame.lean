/-
# The character that a fault names

Some faults name a character: a number must begin where it stands, or the part in front of
it is over and cannot be followed by it. What has been read in front of it is the beginning
of a version, and together with it no longer is, so this is the place at which a text stops
being the beginning of a version; there is only one such place. What stands behind it is
never looked at.

A message says `unexpected character` and quotes one exactly if its fault names it.

Key definitions: `Version.Fault.character?`, `Version.Part.goesOn`, `Version.Blames`,
`Version.Begins`, `Version.Offends`.
Key theorems: `Version.read_names_iff`, `Version.Blames.offends`, `Version.Offends.unique`,
`Version.message_names_iff`.
-/
import ControllerSynthesis.Proofs.Text.Quoted
import ControllerSynthesis.Proofs.Version.Spelling

namespace ControllerSynthesis.Version

open Text (Stops stops_cons)

/-- The character that a fault names, if it names one. -/
def Fault.character? : Fault → Option Char
  | unexpectedChar c _ => some c
  | unexpectedAfter c _ => some c
  | _ => none

/-- Whether `c` can stand behind the part: it goes on with it, or what follows the part
begins with it. -/
def Part.goesOn : Part → Char → Bool
  | major, c => Digits.isDecimal c || c == '.'
  | minor, c => Digits.isDecimal c || c == '.'
  | patch, c => Digits.isDecimal c || opensSuffix c
  | preRelease, c => isSegmentChar c || c == '.' || c == '+'
  | build, c => isSegmentChar c || c == '.'

/-- The part that the text of a version ends with. -/
def lastPart (v : Version) : Part :=
  if v.build = [] then if v.pre = [] then .patch else .preRelease else .build

/-- Whether `fault` names `c` behind a front that has been read: a number must begin there,
or the part at the end of the front cannot be followed by it. -/
inductive Blames : List Char → Char → Fault → Prop where
  | major {c : Char} (other : Digits.isDecimal c = false) : Blames [] c (.unexpectedChar c .major)
  | afterMajor {a : Nat} {c : Char} (fits : a ≤ maxNumber) (ends : Part.major.goesOn c = false) :
    Blames (Digits.ofNat 10 a) c (.unexpectedAfter c .major)
  | minor {a : Nat} {c : Char} (fits : a ≤ maxNumber) (other : Digits.isDecimal c = false) :
    Blames (Digits.ofNat 10 a ++ ['.']) c (.unexpectedChar c .minor)
  | afterMinor {a b : Nat} {c : Char} (fits : a ≤ maxNumber) (fits' : b ≤ maxNumber)
    (ends : Part.minor.goesOn c = false) :
    Blames (Digits.ofNat 10 a ++ '.' :: Digits.ofNat 10 b) c (.unexpectedAfter c .minor)
  | patch {a b : Nat} {c : Char} (fits : a ≤ maxNumber) (fits' : b ≤ maxNumber)
    (other : Digits.isDecimal c = false) :
    Blames (Digits.ofNat 10 a ++ '.' :: (Digits.ofNat 10 b ++ ['.'])) c (.unexpectedChar c .patch)
  | afterVersion {v : Version} {c : Char} (wellFormed : v.IsWellFormed) (ends : v.lastPart.goesOn c = false) :
    Blames v.display c (.unexpectedAfter c v.lastPart)

/-- Whether the text of a version can begin so. -/
def Begins (text : List Char) : Prop :=
  ∃ v : Version, v.IsWellFormed ∧ text <+: v.display

/-- Whether the text stops being the beginning of a version at `c`, which stands behind
`front`. -/
def Offends (text front : List Char) (c : Char) : Prop :=
  front ++ [c] <+: text ∧ Begins front ∧ ¬ Begins (front ++ [c])

variable {α : Type} {part : Part} {text front rest : List Char} {c : Char} {fault : Fault} {n : Nat}

/-- Digits go on with every part. -/
theorem not_isDecimal_of_goesOn (ends : part.goesOn c = false) : Digits.isDecimal c = false := by
  by_contra digit
  rw [Bool.not_eq_false] at digit
  cases part <;> simp [Part.goesOn, digit, isSegmentChar_of_isDecimal] at ends

theorem goesOn_number_iff (number : part = .major ∨ part = .minor) :
    part.goesOn c = false ↔ Digits.isDecimal c = false ∧ c ≠ '.' := by
  rcases number with rfl | rfl <;> simp [Part.goesOn]

/-! ### A number and its dot -/

/-- Too large a number and a zero in front name no character. -/
theorem numberFrom_unnamed : ∀ {text : List Char} {value : Nat},
    numberFrom part value text = .error fault → fault.character? = none
  | [], _, refused => by cases refused
  | c :: text, value, refused => by
    rw [numberFrom] at refused
    split at refused
    · split at refused
      · cases refused
        rfl
      · split at refused
        · cases refused
          rfl
        · exact numberFrom_unnamed refused
    · cases refused

theorem number_blames (refused : number part text = .error fault) (named : fault.character? = some c) :
    ∃ rest, text = c :: rest ∧ Digits.isDecimal c = false ∧ fault = .unexpectedChar c part := by
  cases text with
  | nil =>
    cases refused
    cases named
  | cons d rest =>
    rw [number] at refused
    by_cases digit : Digits.isDecimal d = true
    · rw [if_pos digit] at refused
      rw [numberFrom_unnamed refused] at named
      cases named
    · rw [if_neg digit] at refused
      cases refused
      cases named
      exact ⟨rest, rfl, Bool.eq_false_iff.mpr digit, rfl⟩

theorem number_of_other (other : Digits.isDecimal c = false) :
    number part (c :: rest) = .error (.unexpectedChar c part) := by
  rw [number, other]
  rfl

theorem dot_blames (refused : dot part text = .error fault) (named : fault.character? = some c) :
    ∃ rest, text = c :: rest ∧ c ≠ '.' ∧ fault = .unexpectedAfter c part := by
  cases text with
  | nil =>
    cases refused
    cases named
  | cons d rest =>
    rw [dot] at refused
    by_cases own : d = '.'
    · rw [if_pos own] at refused
      cases refused
    · rw [if_neg own] at refused
      cases refused
      cases named
      exact ⟨rest, rfl, own, rfl⟩

theorem dot_of_ne (other : c ≠ '.') : dot part (c :: rest) = .error (.unexpectedAfter c part) := by
  rw [dot, if_neg other]

/-- A number and the dot behind it, and what `next` reads behind them. -/
def numbered (part : Part) (next : Nat → List Char → Except Fault α) (text : List Char) : Except Fault α := do
  let (n, text) ← number part text
  let text ← dot part text
  next n text

variable {next : Nat → List Char → Except Fault α}

theorem numbered_of_other (other : Digits.isDecimal c = false) :
    numbered part next (c :: rest) = .error (.unexpectedChar c part) := by
  rw [numbered, number_of_other other]
  rfl

theorem numbered_of_ne (fits : n ≤ maxNumber) (other : Digits.isDecimal c = false) (noDot : c ≠ '.') :
    numbered part next (Digits.ofNat 10 n ++ c :: rest) = .error (.unexpectedAfter c part) := by
  rw [numbered, number_eq_ok.mpr ⟨fits, rfl, stops_cons.mpr other⟩]
  show (dot part (c :: rest) >>= next n) = _
  rw [dot_of_ne noDot]
  rfl

theorem numbered_of_dot (fits : n ≤ maxNumber) :
    numbered part next (Digits.ofNat 10 n ++ '.' :: rest) = next n rest := by
  rw [numbered, number_eq_ok.mpr ⟨fits, rfl, stops_cons.mpr rfl⟩]
  rfl

/-- A character is named in the place of the number, in the place of its dot, or behind
both. -/
theorem numbered_blames (refused : numbered part next text = .error fault) (named : fault.character? = some c) :
    (∃ rest, text = c :: rest ∧ Digits.isDecimal c = false ∧ fault = .unexpectedChar c part) ∨
    (∃ n rest, n ≤ maxNumber ∧ text = Digits.ofNat 10 n ++ c :: rest ∧ Digits.isDecimal c = false ∧ c ≠ '.' ∧
      fault = .unexpectedAfter c part) ∨
    ∃ n rest, n ≤ maxNumber ∧ text = Digits.ofNat 10 n ++ '.' :: rest ∧ next n rest = .error fault := by
  rcases bind_eq_error.mp refused with first | ⟨⟨n, behind⟩, first, later⟩
  · exact .inl (number_blames first named)
  obtain ⟨fits, rfl, stops⟩ := number_eq_ok.mp first
  rcases bind_eq_error.mp later with second | ⟨rest, second, last⟩
  · obtain ⟨rest, rfl, noDot, rfl⟩ := dot_blames second named
    exact .inr (.inl ⟨n, rest, fits, rfl, stops_cons.mp stops, noDot, rfl⟩)
  · obtain rfl := dot_eq_ok.mp second
    exact .inr (.inr ⟨n, rest, fits, rfl, last⟩)

/-! ### Suffixes -/

theorem segment_unnamed {word : List Char} (refused : segment part word = .error fault) :
    fault.character? = none := by
  unfold segment at refused
  split at refused
  · cases refused
    rfl
  · split at refused
    · cases refused
      rfl
    · cases refused

theorem segmentsFrom_unnamed : ∀ {text word : List Char} {done : List (List Char)},
    segmentsFrom part done word text = .error fault → fault.character? = none
  | [], _, _, refused => by
    rw [segmentsFrom, map_eq_error] at refused
    exact segment_unnamed refused
  | c :: text, word, done, refused => by
    rw [segmentsFrom] at refused
    split at refused
    · exact segmentsFrom_unnamed refused
    · split at refused
      · split at refused
        · exact segmentsFrom_unnamed refused
        · rename_i own
          cases refused
          exact segment_unnamed own
      · rw [map_eq_error] at refused
        exact segment_unnamed refused

/-- What is wrong in a suffix is told without a character. -/
theorem suffixFrom_unnamed {mark : Char} {own current : Part}
    (refused : suffixFrom mark own current text = .error fault) : fault.character? = none := by
  unfold suffixFrom at refused
  split at refused
  · cases refused
  · split at refused
    · rw [map_eq_error] at refused
      exact segmentsFrom_unnamed refused
    · cases refused

/-- A suffix that is there makes its part the current one. -/
theorem part_of_suffixFrom {mark : Char} {own current : Part} {segments : List (List Char)}
    (read : suffixFrom mark own current text = .ok (part, segments, rest)) :
    part = if segments = [] then current else own := by
  cases text with
  | nil =>
    cases read
    rfl
  | cons c text =>
    rw [suffixFrom] at read
    split at read
    · obtain ⟨⟨words, left⟩, segmented, same⟩ := map_eq_ok.mp read
      cases same
      obtain ⟨words, same, there, -⟩ := joined_of_segmentsFrom segmented (List.forall_mem_nil _)
      rw [same, List.nil_append, if_neg there]
    · cases read
      rfl

/-- What cannot stand behind the last part belongs neither to the patch number nor to one
of the suffixes, nor does it open a suffix that is not there. -/
theorem goesOn_lastPart_iff {v : Version} : v.lastPart.goesOn c = false ↔
    Stops Digits.isDecimal (suffix '-' v.pre ++ (suffix '+' v.build ++ c :: rest)) ∧
      Follows '-' v.pre (suffix '+' v.build ++ c :: rest) ∧ Follows '+' v.build (c :: rest) := by
  obtain ⟨major, minor, patch, pre, build⟩ := v
  have plus : isSegmentChar '+' = false := rfl
  cases build with
  | nil =>
    cases pre with
    | nil => simp [lastPart, Part.goesOn, opensSuffix, Follows, suffix, stops_cons]
    | cons word pre => simp [lastPart, Part.goesOn, Follows, EndsSegments, suffix, stops_cons, Digits.isDecimal]
  | cons word build =>
    cases pre with
    | nil => simp [lastPart, Part.goesOn, Follows, EndsSegments, suffix, stops_cons, Digits.isDecimal]
    | cons word' pre =>
      simp [lastPart, Part.goesOn, Follows, EndsSegments, suffix, stops_cons, Digits.isDecimal, plus]

/-- The last number, the suffixes, and nothing behind them. -/
def finished (major minor : Nat) (text : List Char) : Except Fault Version := do
  let (patch, text) ← number .patch text
  let (part, pre, text) ← suffixFrom '-' .preRelease .patch text
  let (part, build, text) ← suffixFrom '+' .build part text
  match text with
  | [] => return ⟨major, minor, patch, pre, build⟩
  | c :: _ => throw (.unexpectedAfter c part)

theorem finished_of_other {a b : Nat} (other : Digits.isDecimal c = false) :
    finished a b (c :: rest) = .error (.unexpectedChar c .patch) := by
  rw [finished, number_of_other other]
  rfl

theorem finished_of_ends {v : Version} (wellFormed : v.IsWellFormed) (ends : v.lastPart.goesOn c = false) :
    finished v.major v.minor (Digits.ofNat 10 v.patch ++ (suffix '-' v.pre ++ (suffix '+' v.build ++ c :: rest))) =
      .error (.unexpectedAfter c v.lastPart) := by
  obtain ⟨stops, behindPre, behindBuild⟩ := goesOn_lastPart_iff.mp ends
  obtain ⟨part, readPre⟩ : ∃ part, suffixFrom '-' .preRelease .patch _ = .ok (part, v.pre, _) :=
    suffixFrom_eq_ok.mpr ⟨rfl, wellFormed.pre, behindPre⟩
  obtain ⟨part', readBuild⟩ : ∃ part', suffixFrom '+' .build part _ = .ok (part', v.build, _) :=
    suffixFrom_eq_ok.mpr ⟨rfl, wellFormed.build, behindBuild⟩
  have last : part' = v.lastPart := by
    rw [part_of_suffixFrom readBuild, part_of_suffixFrom readPre]
    rfl
  refine bind_eq_error.mpr (.inr ⟨_, number_eq_ok.mpr ⟨wellFormed.patch, rfl, stops⟩, ?_⟩)
  refine bind_eq_error.mpr (.inr ⟨_, readPre, ?_⟩)
  refine bind_eq_error.mpr (.inr ⟨_, readBuild, ?_⟩)
  rw [last]
  rfl

/-- A character is named in the place of the patch number, or behind a whole version. -/
theorem finished_blames {a b : Nat} (fits : a ≤ maxNumber) (fits' : b ≤ maxNumber)
    (refused : finished a b text = .error fault) (named : fault.character? = some c) :
    (∃ rest, text = c :: rest ∧ Digits.isDecimal c = false ∧ fault = .unexpectedChar c .patch) ∨
    ∃ n pre build rest, IsWellFormed ⟨a, b, n, pre, build⟩ ∧
      text = Digits.ofNat 10 n ++ (suffix '-' pre ++ (suffix '+' build ++ c :: rest)) ∧
      (lastPart ⟨a, b, n, pre, build⟩).goesOn c = false ∧
      fault = .unexpectedAfter c (lastPart ⟨a, b, n, pre, build⟩) := by
  rcases bind_eq_error.mp refused with first | ⟨⟨n, behind⟩, first, later⟩
  · exact .inl (number_blames first named)
  obtain ⟨fits'', rfl, stops⟩ := number_eq_ok.mp first
  rcases bind_eq_error.mp later with second | ⟨⟨part, pre, behind'⟩, second, later'⟩
  · rw [suffixFrom_unnamed second] at named
    cases named
  obtain ⟨rfl, admittedPre, behindPre⟩ := suffixFrom_eq_ok.mp ⟨part, second⟩
  rcases bind_eq_error.mp later' with third | ⟨⟨part', build, left⟩, third, last⟩
  · rw [suffixFrom_unnamed third] at named
    cases named
  obtain ⟨rfl, admittedBuild, behindBuild⟩ := suffixFrom_eq_ok.mp ⟨part', third⟩
  cases left with
  | nil => cases last
  | cons d rest =>
    cases last
    cases named
    have own : part' = lastPart ⟨a, b, n, pre, build⟩ := by
      rw [part_of_suffixFrom third, part_of_suffixFrom second]
      rfl
    refine .inr ⟨n, pre, build, rest, ⟨fits, fits', fits'', admittedPre, admittedBuild⟩, rfl, ?_, by rw [own]⟩
    exact goesOn_lastPart_iff.mpr ⟨stops, behindPre, behindBuild⟩

/-! ### The strict reader -/

/-- The strict reader takes two numbers with their dots, and then the rest. -/
theorem read_eq (there : text ≠ []) :
    read text = numbered .major (fun major => numbered .minor (finished major)) text := by
  cases text with
  | nil => exact absurd rfl there
  | cons c text => rfl

theorem display_append (v : Version) (rest : List Char) : v.display ++ rest = Digits.ofNat 10 v.major ++ '.' ::
    (Digits.ofNat 10 v.minor ++ '.' :: (Digits.ofNat 10 v.patch ++
      (suffix '-' v.pre ++ (suffix '+' v.build ++ rest)))) := by
  simp [display]

/-- The front and the character behind it decide the outcome, whatever follows them. -/
theorem Blames.read_append (blames : Blames front c fault) (rest : List Char) :
    read (front ++ c :: rest) = .error fault := by
  rw [read_eq (by simp)]
  cases blames with
  | major other => exact numbered_of_other other
  | afterMajor fits ends =>
    obtain ⟨other, noDot⟩ := (goesOn_number_iff (.inl rfl)).mp ends
    exact numbered_of_ne fits other noDot
  | minor fits other =>
    rw [List.append_assoc, List.singleton_append, numbered_of_dot fits]
    exact numbered_of_other other
  | afterMinor fits fits' ends =>
    obtain ⟨other, noDot⟩ := (goesOn_number_iff (.inr rfl)).mp ends
    rw [List.append_assoc, List.cons_append, numbered_of_dot fits]
    exact numbered_of_ne fits' other noDot
  | patch fits fits' other =>
    rw [List.append_assoc, List.cons_append, List.append_assoc, List.singleton_append, numbered_of_dot fits,
      numbered_of_dot fits']
    exact finished_of_other other
  | afterVersion wellFormed ends =>
    rw [display_append, numbered_of_dot wellFormed.major, numbered_of_dot wellFormed.minor]
    exact finished_of_ends wellFormed ends

theorem Blames.character?_eq (blames : Blames front c fault) : fault.character? = some c := by
  cases blames <;> rfl

theorem Blames.not_isDecimal (blames : Blames front c fault) : Digits.isDecimal c = false := by
  cases blames with
  | major other => exact other
  | minor _ other => exact other
  | patch _ _ other => exact other
  | afterMajor _ ends => exact not_isDecimal_of_goesOn ends
  | afterMinor _ _ ends => exact not_isDecimal_of_goesOn ends
  | afterVersion _ ends => exact not_isDecimal_of_goesOn ends

/-- **A character is named** by the strict reader exactly if it cannot stand behind the
front of the text that has been read. -/
theorem read_names_iff : read text = .error fault ∧ fault.character? = some c ↔
    ∃ front rest, text = front ++ c :: rest ∧ Blames front c fault := by
  constructor
  · rintro ⟨refused, named⟩
    have there : text ≠ [] := by
      rintro rfl
      cases refused
      cases named
    rw [read_eq there] at refused
    rcases numbered_blames refused named with ⟨rest, rfl, other, rfl⟩ | ⟨a, rest, fits, rfl, other, noDot, rfl⟩ |
      ⟨a, behind, fits, rfl, first⟩
    · exact ⟨[], rest, rfl, .major other⟩
    · exact ⟨_, rest, rfl, .afterMajor fits ((goesOn_number_iff (.inl rfl)).mpr ⟨other, noDot⟩)⟩
    rcases numbered_blames first named with ⟨rest, rfl, other, rfl⟩ | ⟨b, rest, fits', rfl, other, noDot, rfl⟩ |
      ⟨b, behind, fits', rfl, second⟩
    · exact ⟨_, rest, by simp, .minor fits other⟩
    · exact ⟨_, rest, by simp, .afterMinor fits fits' ((goesOn_number_iff (.inr rfl)).mpr ⟨other, noDot⟩)⟩
    rcases finished_blames fits fits' second named with ⟨rest, rfl, other, rfl⟩ |
      ⟨n, pre, build, rest, wellFormed, rfl, ends, rfl⟩
    · exact ⟨_, rest, by simp, .patch fits fits' other⟩
    · exact ⟨_, rest, (display_append ⟨a, b, n, pre, build⟩ _).symm, .afterVersion wellFormed ends⟩
  · rintro ⟨front, rest, rfl, blames⟩
    exact ⟨blames.read_append rest, blames.character?_eq⟩

/-! ### The place of the character -/

/-- The numbers that are there go on as a version, with zeros for the others. -/
theorem begins_of_numbers {a b : Nat} (fits : a ≤ maxNumber) (fits' : b ≤ maxNumber)
    (start : front <+: display ⟨a, b, 0, [], []⟩) : Begins front :=
  ⟨⟨a, b, 0, [], []⟩, ⟨fits, fits', Nat.zero_le _, List.forall_mem_nil _, List.forall_mem_nil _⟩, start⟩

theorem Blames.begins (blames : Blames front c fault) : Begins front := by
  have zero : 0 ≤ maxNumber := Nat.zero_le _
  cases blames with
  | major => exact begins_of_numbers zero zero List.nil_prefix
  | afterMajor fits => exact begins_of_numbers fits zero (by simp [display])
  | minor fits => exact begins_of_numbers fits zero (by simp [display])
  | afterMinor fits fits' => exact begins_of_numbers fits fits' (by simp [display])
  | patch fits fits' => exact begins_of_numbers fits fits' (by simp [display])
  | afterVersion wellFormed => exact ⟨_, wellFormed, List.prefix_rfl⟩

/-- With the character behind it, a front does not go on as a version: that would be read. -/
theorem Blames.not_begins (blames : Blames front c fault) : ¬ Begins (front ++ [c]) := by
  rintro ⟨v, wellFormed, rest, whole⟩
  have accepted : read v.display = .ok v := read_eq_ok.mpr ⟨wellFormed, rfl⟩
  rw [← whole, List.append_assoc, List.singleton_append, blames.read_append] at accepted
  cases accepted

/-- **The named character** is where the text stops being the beginning of a version. -/
theorem Blames.offends (blames : Blames front c fault) : Offends (front ++ c :: rest) front c :=
  ⟨⟨rest, by simp⟩, blames.begins, blames.not_begins⟩

theorem begins_of_longer (start : front <+: text) (begins : Begins text) : Begins front := by
  obtain ⟨v, wellFormed, whole⟩ := begins
  exact ⟨v, wellFormed, start.trans whole⟩

theorem Offends.length_le {front' : List Char} {c' : Char} (offends : Offends text front c)
    (offends' : Offends text front' c') : front'.length ≤ front.length := by
  by_contra longer
  -- The longer front would begin with the other one and the character behind it.
  have within : front ++ [c] <+: front' := by
    apply List.prefix_of_prefix_length_le offends.1 ((List.prefix_append front' [c']).trans offends'.1)
    rw [List.length_append, List.length_singleton]
    omega
  exact offends.2.2 (begins_of_longer within offends'.2.1)

/-- **There is only one such place** in a text. -/
theorem Offends.unique {front' : List Char} {c' : Char} (offends : Offends text front c)
    (offends' : Offends text front' c') : front = front' := by
  have same : front.length = front'.length :=
    Nat.le_antisymm (offends'.length_le offends) (offends.length_le offends')
  have start : front <+: front' :=
    List.prefix_of_prefix_length_le ((List.prefix_append front [c]).trans offends.1)
      ((List.prefix_append front' [c']).trans offends'.1) (Nat.le_of_eq same)
  exact start.eq_of_length same

/-! ### Messages -/

theorem exists_message (named : fault.character? = some c) :
    ∃ tail, fault.message = "unexpected character " ++ Text.quotedChar c ++ tail := by
  cases fault with
  | unexpectedChar d part =>
    cases named
    exact ⟨" while parsing " ++ part.name, String.append_assoc⟩
  | unexpectedAfter d part =>
    cases named
    exact ⟨" after " ++ part.name, String.append_assoc⟩
  | _ => cases named

/-- A letter of the text that a message begins with. -/
theorem getElem?_ofList_append {letters : List Char} {i : Nat} (inside : i < letters.length) (tail : String) :
    (String.ofList letters ++ tail).toList[i]? = letters[i]? := by
  rw [String.toList_append, String.toList_ofList, List.getElem?_append_left inside]

/-- **A message says `unexpected character`** and then quotes one exactly if its fault names
this one. -/
theorem message_names_iff : (∃ tail, fault.message = "unexpected character " ++ Text.quotedChar c ++ tail) ↔
    fault.character? = some c := by
  refine ⟨?_, exists_message⟩
  rintro ⟨tail, stated⟩
  cases named : fault.character? with
  | some d =>
    obtain ⟨tail', own⟩ := exists_message named
    rw [Text.quotedChar_inj (own.symm.trans stated)]
  | none =>
    -- The other messages begin with another letter, or their second word does.
    have whole : fault.message = "unexpected character " ++ (Text.quotedChar c ++ tail) :=
      stated.trans String.append_assoc
    have first : fault.message.toList[0]? = some 'u' := by
      rw [whole]
      exact getElem?_ofList_append (Nat.zero_lt_succ _) _
    have second : fault.message.toList[11]? = some 'c' := by
      rw [whole]
      exact getElem?_ofList_append (by decide) _
    cases fault with
    | unexpectedChar d part => cases named
    | unexpectedAfter d part => cases named
    | empty => cases first
    | unexpectedEnd part => cases (getElem?_ofList_append (by decide) part.name).symm.trans second
    | leadingZero part => cases (getElem?_ofList_append (by decide) part.name).symm.trans first
    | tooLarge part =>
      have own : (Fault.tooLarge part).message = "value of " ++ (part.name ++ " exceeds u64::MAX") :=
        String.append_assoc
      rw [own] at first
      cases (getElem?_ofList_append (by decide) _).symm.trans first
    | emptySegment part => cases (getElem?_ofList_append (by decide) part.name).symm.trans first

end ControllerSynthesis.Version
