/-
# The text of a point in time is read back

What a point in time is written as is read as that point in time without its fraction of
a second, if its year is not before the year zero. A year before that is written with four
digits behind its sign, but read with six, so the text is not read at all.

Key theorems: `Calendar.readNumber_padded`, `Calendar.Instant.read_text`,
`Calendar.Instant.not_read_text`.
-/
import ControllerSynthesis.Calendar.Instant
import ControllerSynthesis.Proofs.Calendar.Days
import ControllerSynthesis.Proofs.Steps
import ControllerSynthesis.Proofs.Number.Digits

namespace ControllerSynthesis.Calendar

/-! ### Numbers -/

theorem isDecimal_of_mem_padded {width n : Nat} {c : Char} (mem : c ∈ padded width n) :
    Digits.isDecimal c = true := by
  rcases Digits.mem_padded (by decide) mem with rfl | ⟨d, bound, rfl⟩
  · decide
  · exact Digits.isDecimal_char bound

theorem padded_cons (width n : Nat) : ∃ c cs, padded width n = c :: cs ∧ Digits.isDecimal c = true := by
  cases digits : padded width n with
  | nil => simp [padded, Digits.padded, Digits.ofNat_ne_nil] at digits
  | cons c cs => exact ⟨c, cs, rfl, @isDecimal_of_mem_padded width n c (by simp [digits])⟩

theorem utf8Size_of_isDecimal {c : Char} (digit : Digits.isDecimal c = true) : c.utf8Size = 1 := by
  simp only [Digits.isDecimal, Bool.and_eq_true, decide_eq_true_eq] at digit
  exact Char.utf8Size_eq_one_iff.mpr (Nat.le_trans digit.2 (by decide))

/-- Digits have a byte each. -/
theorem byteCount_digits {digits : List Char} (all : ∀ c ∈ digits, Digits.isDecimal c = true) :
    byteCount digits = digits.length := by
  have count : ∀ (digits : List Char) (n : Nat), (∀ c ∈ digits, Digits.isDecimal c = true) →
      digits.foldl (fun n c => n + c.utf8Size) n = n + digits.length := by
    intro digits
    induction digits with
    | nil => exact fun n _ => rfl
    | cons c digits ih =>
      intro n all
      rw [List.foldl_cons, utf8Size_of_isDecimal (all c List.mem_cons_self),
        ih (n + 1) fun c mem => all c (List.mem_cons_of_mem _ mem), List.length_cons]
      omega
  rw [byteCount, count digits 0 all, Nat.zero_add]

theorem Part.width_pos (part : Part) : ∃ k, part.width = k + 1 := by
  cases part <;> exact ⟨_, rfl⟩

/-- The largest number of a part has no more digits than the part. -/
theorem Part.range_lt (part : Part) : part.range.2 < (10 ^ part.width : Nat) := by
  cases part <;> decide

/-- **The digits of a part are read back.** -/
theorem readNumber_padded {part : Part} {n : Nat} (ranged : part.range.1 ≤ n ∧ n ≤ part.range.2) (rest : List Char) :
    readNumber part (padded part.width n ++ rest) = .ok (n, rest) := by
  have small : n < 10 ^ part.width := by
    have limit := part.range_lt
    omega
  have length : (padded part.width n).length = part.width := by
    obtain ⟨k, same⟩ := part.width_pos
    rw [same] at small ⊢
    exact Digits.length_padded small
  have digits : ∀ c ∈ padded part.width n, Digits.isDecimal c = true := fun c => isDecimal_of_mem_padded
  have worth : Digits.toNat? 10 (padded part.width n) = some n := by
    have worth := Digits.toNat?_padded (Digits.keeps_id (by decide : 10 ≤ 36)) rfl (by decide) part.width n
    rwa [List.map_id] at worth
  have none : (padded part.width n).find? (fun c => !Digits.isDecimal c) = none :=
    List.find?_eq_none.mpr fun c mem => by simp [digits c mem]
  have enough : ¬byteCount (padded part.width n) < part.width := by
    rw [byteCount_digits digits, length]
    exact Nat.lt_irrefl _
  simp only [readNumber, List.take_left' length, List.drop_left' length, if_neg enough, none, worth,
    Option.getD_some, if_pos ranged]

/-- A part that is read has digits only. -/
theorem digits_of_readNumber {part : Part} {text rest : List Char} {n : Nat}
    (read : readNumber part text = .ok (n, rest)) : ∀ c ∈ text.take part.width, Digits.isDecimal c = true := by
  unfold readNumber at read
  dsimp only at read
  split at read
  · cases read
  · split at read
    · cases read
    · rename_i none
      simpa using none

/-- A part of two digits is read back. -/
theorem readNumber_two {part : Part} {n : Nat} (two : part.width = 2)
    (ranged : part.range.1 ≤ n ∧ n ≤ part.range.2) (rest : List Char) :
    readNumber part (padded 2 n ++ rest) = .ok (n, rest) :=
  two ▸ readNumber_padded ranged rest

/-! ### Dates -/

theorem readYear_padded {n : Nat} (small : n ≤ 9999) (rest : List Char) :
    readYear (padded 4 n ++ rest) = .ok ((n : Int), rest) := by
  have read : readNumber .year (padded 4 n ++ rest) = .ok (n, rest) :=
    readNumber_padded (by simp only [Part.range]; omega) rest
  obtain ⟨c, cs, digits, digit⟩ := padded_cons 4 n
  rw [digits, List.cons_append] at read ⊢
  unfold readYear
  split
  · rename_i plus
    exact absurd (List.cons.inj plus).1 (Digits.ne_of_isDecimal digit (by decide))
  · rename_i minus
    exact absurd (List.cons.inj minus).1 (Digits.ne_of_isDecimal digit (by decide))
  · rw [read]
    rfl

/-- Behind a sign a year has six digits. -/
theorem digits_of_readYear {text rest : List Char} {year : Int} (read : readYear ('-' :: text) = .ok (year, rest)) :
    ∀ c ∈ text.take 6, Digits.isDecimal c = true := by
  obtain ⟨⟨n, behind⟩, number, -⟩ := bind_eq_ok.mp read
  exact digits_of_readNumber number

/-- A date of a year that is not before zero is read back. -/
theorem readDate_text {d : Date} (valid : d.IsValid) (least : 0 ≤ d.year) (most : d.year ≤ 9999) (rest : List Char) :
    readDate (d.text false ++ rest) = .ok (d, rest) := by
  obtain ⟨year, month, day⟩ := d
  obtain ⟨y, rfl⟩ := Int.eq_ofNat_of_zero_le least
  obtain ⟨months, days⟩ := valid
  simp only at months days most
  have short : Date.monthLength y month ≤ 31 := by
    unfold Date.monthLength
    repeat' split
    all_goals omega
  have text : Date.text false ⟨y, month, day⟩ ++ rest =
      padded 4 y ++ '-' :: (padded 2 month ++ '-' :: (padded 2 day ++ rest)) := by
    simp [Date.text, Date.yearText, Int.not_lt.mpr least]
  have readMonth := @readNumber_two .month month rfl (by simp only [Part.range]; omega)
    ('-' :: (padded 2 day ++ rest))
  have readDay := @readNumber_two .day day rfl (by simp only [Part.range]; omega) rest
  rw [text, readDate, readYear_padded (by omega)]
  simp only [bind, Except.bind, List.head?_cons, beq_self_eq_true, skipHyphen, if_true, readMonth, readDay,
    if_neg (Nat.not_lt.mpr days.2)]
  rfl

/-! ### Times of day -/

namespace Time

/-- A time of day in whole seconds. -/
structure IsWhole (t : Time) : Prop where
  hour : t.hour < 24
  minute : t.minute < 60
  second : t.second < 60
  nanosecond : t.nanosecond = 0

theorem isWhole_ofSeconds {n : Nat} (bound : n < 86400) : (ofSeconds n).IsWhole := by
  constructor <;> simp only [ofSeconds] <;> omega

theorem seconds_ofSeconds (n : Nat) : (ofSeconds n).seconds = n := by
  simp only [ofSeconds, seconds]
  omega

end Time

/-- A time of day in universal time is read back. -/
theorem readTime_text {t : Time} (whole : t.IsWhole) : readTime (t.text ++ ['Z']) = .ok (t, ['Z']) := by
  obtain ⟨hour, minute, second, nanosecond⟩ := t
  obtain ⟨hours, minutes, seconds, rfl⟩ := whole
  simp only at hours minutes seconds
  have text : Time.text ⟨hour, minute, second, 0⟩ ++ ['Z'] =
      padded 2 hour ++ ':' :: (padded 2 minute ++ ':' :: (padded 2 second ++ ['Z'])) := by
    simp [Time.text, fractionText]
  have readHour := @readNumber_two .hour hour rfl (by simp only [Part.range]; omega)
    (':' :: (padded 2 minute ++ ':' :: (padded 2 second ++ ['Z'])))
  have readMinute := @readNumber_two .minute minute rfl (by simp only [Part.range]; omega)
    (':' :: (padded 2 second ++ ['Z']))
  have readSecond := @readNumber_two .second second rfl (by simp only [Part.range]; omega) ['Z']
  rw [text, readTime, readHour]
  simp only [bind, Except.bind, List.head?_cons, beq_self_eq_true, nextPart?, if_true, readMinute, readSecond]
  rw [show readFraction false ['Z'] = .ok (none, ['Z']) from rfl]
  simp only [Option.getD_none, Nat.min_eq_left (Nat.le_of_lt_succ seconds)]
  rfl

/-! ### Points in time -/

namespace Instant

@[simp] theorem text_cut (t : Instant) : t.cut.text = t.text := rfl

theorem year_date (t : Instant) : -9999 ≤ t.date.year ∧ t.date.year ≤ 9999 := by
  have least := t.least
  have most := t.most
  simp only [span] at least most
  exact Date.year_ofDayNumber (by omega) (by omega)

/-- The date and the time of day make the point in time. -/
theorem seconds_eq (t : Instant) : t.date.dayNumber * 86400 + t.time.seconds = t.seconds := by
  rw [date, Date.dayNumber_ofDayNumber, time, Time.seconds_ofSeconds]
  omega

/-- **The text of a point in time is read as that point in time without its fraction of a
second**, unless its year is before the year zero. -/
theorem read_text {t : Instant} (least : 0 ≤ t.date.year) : Instant.read t.text = .ok t.cut := by
  have whole : t.time.IsWhole := Time.isWhole_ofSeconds (by omega)
  have valid : t.date.IsValid := Date.isValid_ofDayNumber _
  have readDay := readDate_text valid least t.year_date.2 ('T' :: (t.time.text ++ ['Z']))
  have parts : Written.read t.text = .ok (⟨t.date, some t.time, some .universal, []⟩, []) := by
    rw [text, Written.read, readDay]
    simp only [bind, Except.bind, pure, Except.pure, true_or, or_true, if_true, readTime_text whole]
    rfl
  have made : ofWritten ⟨t.date, some t.time, some .universal, []⟩ = .ok t.cut := by
    simp only [ofWritten, Offset.seconds, bind, Except.bind, Int.sub_zero, seconds_eq,
      dif_pos (And.intro t.least t.most)]
    rfl
  rw [Instant.read, parts]
  exact made

/-- A date of a year before the year zero begins with a sign. -/
theorem text_of_early {d : Date} (early : d.year < 0) (rest : List Char) :
    d.text false ++ rest =
      '-' :: (padded 4 d.year.natAbs ++ '-' :: (padded 2 d.month ++ '-' :: (padded 2 d.day ++ rest))) := by
  simp [Date.text, Date.yearText, early]

/-- **The text of a point in time of a year before the year zero is not read.** -/
theorem not_read_text {t : Instant} (early : t.date.year < 0) (other : Instant) :
    Instant.read t.text ≠ .ok other := by
  intro read
  have four : (padded 4 t.date.year.natAbs).length = 4 := by
    have years := t.year_date
    exact Digits.length_padded (by omega)
  obtain ⟨⟨w, left⟩, parts, -⟩ := bind_eq_ok.mp read
  obtain ⟨⟨d, behind⟩, readDay, -⟩ := bind_eq_ok.mp parts
  rw [text, text_of_early early] at readDay
  obtain ⟨⟨year, later⟩, readYear, -⟩ := bind_eq_ok.mp readDay
  -- The hyphen behind the four digits is among the six characters.
  have hyphen := digits_of_readYear readYear '-' (by simp [List.take_append, four])
  exact absurd hyphen (by decide)

end Instant

end ControllerSynthesis.Calendar
