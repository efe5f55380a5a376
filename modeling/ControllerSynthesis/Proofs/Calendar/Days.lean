/-
# Days and their dates

The date of a day is a date of the calendar, and it is the date of that day: its day
number is the number it was made from. The years of an era of 400 years, which begin in
March, start on the days that `yearStart` says. The year of a day is estimated by taking
off the leap days before it, and the estimate is exact because it grows with the day and
is right on the first and on the last day of every year.

Key definitions: `Calendar.Date.IsValid`, `Calendar.yearStart`, `Calendar.yearEstimate`.
Key theorems: `Calendar.year_of_day`, `Calendar.Date.dayNumber_ofDayNumber`,
`Calendar.Date.isValid_ofDayNumber`, `Calendar.Date.year_ofDayNumber`.
-/
import ControllerSynthesis.Calendar.Date

namespace ControllerSynthesis.Calendar

/-! ### Years of an era -/

/-- The days from the start of an era to the start of a year of it. -/
def yearStart (y : Int) : Int :=
  365 * y + y / 4 - y / 100

/-- A day of an era without the leap days before it. -/
def yearEstimate (d : Int) : Int :=
  d - d / 1460 + d / 36524 - d / 146096

theorem yearEstimate_mono {a b : Int} (le : a ≤ b) : yearEstimate a ≤ yearEstimate b := by
  unfold yearEstimate
  omega

/-- The estimate is right on the first day of every year and on the last one. -/
theorem yearEstimate_yearStart {y : Nat} (small : y < 400) : 365 * (y : Int) ≤ yearEstimate (yearStart y) ∧
    (y ≠ 0 → yearEstimate (yearStart y - 1) < 365 * (y : Int)) := by
  have table : ∀ y : Fin 400, 365 * (y.val : Int) ≤ yearEstimate (yearStart y.val) ∧
      (y.val ≠ 0 → yearEstimate (yearStart y.val - 1) < 365 * (y.val : Int)) := by
    decide +kernel
  exact table ⟨y, small⟩

/-- **A day of an era lies in the year that is estimated for it.** -/
theorem year_of_day {d : Int} (least : 0 ≤ d) (most : d < 146097) :
    0 ≤ yearEstimate d / 365 ∧ yearEstimate d / 365 < 400 ∧ yearStart (yearEstimate d / 365) ≤ d ∧
      (d < yearStart (yearEstimate d / 365 + 1) ∨ yearEstimate d / 365 = 399) := by
  have range : 0 ≤ yearEstimate d / 365 ∧ yearEstimate d / 365 < 400 := by
    unfold yearEstimate
    omega
  obtain ⟨y, same⟩ := Int.eq_ofNat_of_zero_le range.1
  rw [same] at range ⊢
  have small : y < 400 := by omega
  refine ⟨range.1, range.2, ?_, ?_⟩
  · -- Else the day lies before the year, and so does its estimate.
    refine Int.not_lt.mp fun before => ?_
    have first : y ≠ 0 := by
      rintro rfl
      exact absurd before (Int.not_lt.mpr least)
    have last := (yearEstimate_yearStart small).2 first
    have mono : yearEstimate d ≤ yearEstimate (yearStart y - 1) := yearEstimate_mono (Int.le_sub_one_of_lt before)
    omega
  · by_cases later : y + 1 < 400
    · refine .inl (Int.not_le.mp fun behind => ?_)
      have first := (yearEstimate_yearStart later).1
      have mono := yearEstimate_mono behind
      rw [Int.natCast_succ] at first
      omega
    · exact .inr (by omega)

namespace Date

/-- A month of a year and a day of that month. -/
structure IsValid (d : Date) : Prop where
  month : 1 ≤ d.month ∧ d.month ≤ 12
  day : 1 ≤ d.day ∧ d.day ≤ monthLength d.year d.month

/-- The leap years of every era are the same. -/
theorem isLeap_add_era (year era : Int) : isLeap (year + era * 400) = isLeap year := by
  have fourth : (year + era * 400) % 4 = year % 4 := by omega
  have hundredth : (year + era * 400) % 100 = year % 100 := by omega
  have last : (year + era * 400) % 400 = year % 400 := by omega
  simp only [isLeap, fourth, hundredth, last]

/-- The date of a day of a year and of month `m` of it, where the year begins in March. -/
def ofMarch (year m r : Int) : Date :=
  let month := if m < 10 then m + 3 else m - 9
  ⟨year + (if month ≤ 2 then 1 else 0), month.toNat, (r - daysBefore m + 1).toNat⟩

/-- Month `m` of a year that begins in March has day `r` of the year in it. -/
structure HasDay (m r : Int) : Prop where
  month : 0 ≤ m ∧ m ≤ 11
  first : daysBefore m ≤ r
  next : r < daysBefore (m + 1)

/-- A day of a year lies in the month that is estimated for it. -/
theorem hasDay_estimate {r : Int} (least : 0 ≤ r) (most : r ≤ 365) : HasDay ((5 * r + 2) / 153) r := by
  constructor
  · omega
  · unfold daysBefore
    omega
  · unfold daysBefore
    omega

theorem dayNumber_ofMarch {year m r : Int} (has : HasDay m r) :
    (ofMarch year m r).dayNumber = 365 * year + year / 4 - year / 100 + year / 400 + r - epoch := by
  obtain ⟨range, first, -⟩ := has
  simp only [ofMarch, dayNumber]
  by_cases spring : m < 10
  · have month : ¬m + 3 ≤ 2 := by omega
    have same : ((m + 3).toNat : Int) - 3 = m := by omega
    have later : ¬(m + 3).toNat ≤ 2 := by omega
    simp only [spring, month, later, same, if_true, if_false]
    omega
  · have month : m - 9 ≤ 2 := by omega
    have same : ((m - 9).toNat : Int) + 9 = m := by omega
    have later : (m - 9).toNat ≤ 2 := by omega
    simp only [spring, month, later, same, if_true, if_false]
    omega

/-- A year that begins in March has its last day in a leap year only. -/
theorem isValid_ofMarch {year m r : Int} (has : HasDay m r)
    (most : r < 365 ∨ r = 365 ∧ isLeap (year + 1) = true) : (ofMarch year m r).IsValid := by
  obtain ⟨range, first, next⟩ := has
  constructor
  · simp only [ofMarch]
    split <;> omega
  · have table : m = 0 ∨ m = 1 ∨ m = 2 ∨ m = 3 ∨ m = 4 ∨ m = 5 ∨ m = 6 ∨ m = 7 ∨ m = 8 ∨ m = 9 ∨ m = 10 ∨ m = 11 := by
      omega
    by_cases leap : isLeap (year + 1) = true <;>
      simp only [leap, and_true, and_false, or_false, Bool.false_eq_true] at most <;>
      rcases table with rfl | rfl | rfl | rfl | rfl | rfl | rfl | rfl | rfl | rfl | rfl | rfl <;>
      simp [ofMarch, daysBefore, monthLength, leap] at first next ⊢ <;> omega

/-- The year, the month and the day of the year, counted from March, that a day falls on. -/
theorem ofDayNumber_march (n : Int) : ∃ year m r : Int,
    ofDayNumber n = ofMarch year m r ∧ HasDay m r ∧ (r < 365 ∨ r = 365 ∧ isLeap (year + 1) = true) ∧
      n = 365 * year + year / 4 - year / 100 + year / 400 + r - epoch := by
  have least : 0 ≤ (n + epoch) % 146097 := by omega
  have most : (n + epoch) % 146097 < 146097 := by omega
  have era : n + epoch = 146097 * ((n + epoch) / 146097) + (n + epoch) % 146097 := by omega
  obtain ⟨low, high, start, next⟩ := year_of_day least most
  have parts : ofDayNumber n = ofMarch (yearEstimate ((n + epoch) % 146097) / 365 + (n + epoch) / 146097 * 400)
      ((5 * ((n + epoch) % 146097 - yearStart (yearEstimate ((n + epoch) % 146097) / 365)) + 2) / 153)
      ((n + epoch) % 146097 - yearStart (yearEstimate ((n + epoch) % 146097) / 365)) := rfl
  refine ⟨_, _, _, parts, ?_⟩
  generalize yearEstimate ((n + epoch) % 146097) / 365 = y at low high start next
  refine ⟨hasDay_estimate ?_ ?_, ?_, ?_⟩ <;> unfold yearStart at start next ⊢
  · omega
  · omega
  · have shift : y + (n + epoch) / 146097 * 400 + 1 = y + 1 + (n + epoch) / 146097 * 400 := by omega
    have fourth : (y + 1) / 4 = y / 4 ∧ (y + 1) % 4 ≠ 0 ∨ (y + 1) / 4 = y / 4 + 1 ∧ (y + 1) % 4 = 0 := by omega
    have hundredth : (y + 1) / 100 = y / 100 ∧ (y + 1) % 100 ≠ 0 ∨
      (y + 1) / 100 = y / 100 + 1 ∧ (y + 1) % 100 = 0 := by omega
    rw [shift, isLeap_add_era]
    simp only [isLeap, Bool.and_eq_true, Bool.or_eq_true, beq_iff_eq, bne_iff_ne]
    omega
  · omega

/-- **The date of a day is the date of that day.** -/
theorem dayNumber_ofDayNumber (n : Int) : (ofDayNumber n).dayNumber = n := by
  obtain ⟨year, m, r, same, has, -, number⟩ := ofDayNumber_march n
  rw [same, dayNumber_ofMarch has, number]

/-- **The date of a day is a date of the calendar.** -/
theorem isValid_ofDayNumber (n : Int) : (ofDayNumber n).IsValid := by
  obtain ⟨year, m, r, same, has, most, -⟩ := ofDayNumber_march n
  rw [same]
  exact isValid_ofMarch has most

/-- The days from the second of January of the year −9999 to the 30th of December of the
year 9999 lie in years of four digits. -/
theorem year_ofDayNumber {n : Int} (least : -4371587 ≤ n) (most : n ≤ 2932895) :
    -9999 ≤ (ofDayNumber n).year ∧ (ofDayNumber n).year ≤ 9999 := by
  obtain ⟨year, m, r, same, ⟨range, first, next⟩, length, number⟩ := ofDayNumber_march n
  rw [same]
  simp only [ofMarch]
  unfold daysBefore at first next
  unfold epoch at number
  split <;> split <;> omega

end Date

end ControllerSynthesis.Calendar
