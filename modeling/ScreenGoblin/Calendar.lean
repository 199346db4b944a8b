-- The proleptic Gregorian calendar: day numbers since 1970-01-01 and civil dates.
-- The year is counted from March here, so that the leap day is the last day of it.

namespace calendar

structure CivilDate where
  year : Int
  month : Int
  day : Int
  deriving DecidableEq

/-- The day number of a date. The day may lie outside its month, and counts on from there. -/
def daysFromCivil (date : CivilDate) : Int :=
  let year := if date.month ≤ 2 then date.year - 1 else date.year
  let era := year / 400
  let yearOfEra := year % 400
  let monthFromMarch := (date.month + 9) % 12
  let dayOfYear := (153 * monthFromMarch + 2) / 5 + date.day - 1
  era * 146097 + (yearOfEra * 365 + yearOfEra / 4 - yearOfEra / 100 + dayOfYear) - 719468

def civilFromDays (days : Int) : CivilDate :=
  let era := (days + 719468) / 146097
  let dayOfEra := (days + 719468) % 146097
  let yearOfEra :=
    (dayOfEra - dayOfEra / 1460 + dayOfEra / 36524 - dayOfEra / 146096) / 365
  let dayOfYear := dayOfEra - (365 * yearOfEra + yearOfEra / 4 - yearOfEra / 100)
  let monthFromMarch := (5 * dayOfYear + 2) / 153
  let month := if monthFromMarch < 10 then monthFromMarch + 3 else monthFromMarch - 9
  { year := era * 400 + yearOfEra + (if month ≤ 2 then 1 else 0)
    month := month
    day := dayOfYear - (153 * monthFromMarch + 2) / 5 + 1 }

/-- 0 is Sunday. The first of January 1970 was a Thursday. -/
def weekday (days : Int) : Int := (days + 4) % 7

/-! ## Day numbers and dates -/

/-- The year of a day of an era: at most 365 days lie between the start of the year and the day. -/
theorem yearOfEra_spec {dayOfEra leaps centuries eras year : Int} (first : 0 ≤ dayOfEra)
    (last : dayOfEra < 146097) (hleaps : leaps = dayOfEra / 1460)
    (hcenturies : centuries = dayOfEra / 36524) (heras : eras = dayOfEra / 146096)
    (hyear : year = (dayOfEra - leaps + centuries - eras) / 365) :
    0 ≤ year ∧ year < 400 ∧ 0 ≤ dayOfEra - (365 * year + year / 4 - year / 100) ∧
      dayOfEra - (365 * year + year / 4 - year / 100) ≤ 365 := by
  have whichCentury : centuries = 0 ∨ centuries = 1 ∨ centuries = 2 ∨ centuries = 3 ∨
      centuries = 4 := by omega
  have whichEra : eras = 0 ∨ eras = 1 := by omega
  have fourth : year / 4 = leaps ∨ (year / 4 = leaps - 1 ∧ year = 4 * leaps - 1) := by omega
  have hundredth : year / 100 = centuries ∨ (year / 100 = 3 ∧ centuries = 4) := by
    rcases whichCentury with rfl | rfl | rfl | rfl | rfl <;> rcases whichEra with rfl | rfl <;>
      omega
  refine ⟨by omega, by omega, ?_, ?_⟩
  · rcases fourth with _ | _ <;> rcases hundredth with _ | _ <;> omega
  · rcases fourth with _ | _ <;> rcases hundredth with _ | _ <;> omega

/-- The steps of `civilFromDays`, by name: the day counts on from the start of the era, the year
and the month, and the months of a year from March are 0 to 11. -/
theorem civilFromDays_spec (days : Int) : ∃ era year month day : Int,
    days + 719468 = era * 146097 + (365 * year + year / 4 - year / 100) + (153 * month + 2) / 5 +
        (day - 1) ∧
      0 ≤ year ∧ year < 400 ∧ 0 ≤ month ∧ month ≤ 11 ∧ 1 ≤ day ∧ day ≤ 31 ∧
      civilFromDays days =
        if month < 10 then { year := era * 400 + year, month := month + 3, day }
        else { year := era * 400 + year + 1, month := month - 9, day } := by
  obtain ⟨dayOfEra, hday⟩ : ∃ dayOfEra, dayOfEra = (days + 719468) % 146097 := ⟨_, rfl⟩
  obtain ⟨year, hyear⟩ : ∃ year, year = (dayOfEra - dayOfEra / 1460 + dayOfEra / 36524 -
    dayOfEra / 146096) / 365 := ⟨_, rfl⟩
  obtain ⟨month, hmonth⟩ : ∃ month, month =
    (5 * (dayOfEra - (365 * year + year / 4 - year / 100)) + 2) / 153 := ⟨_, rfl⟩
  obtain ⟨positive, small, first, last⟩ :=
    yearOfEra_spec (by omega) (by omega) rfl rfl rfl hyear
  refine ⟨(days + 719468) / 146097, year, month,
    dayOfEra - (365 * year + year / 4 - year / 100) - (153 * month + 2) / 5 + 1, by omega,
    positive, small, by omega, by omega, by omega, by omega, ?_⟩
  unfold civilFromDays
  dsimp only
  rw [← hday, ← hyear, ← hmonth]
  by_cases early : month < 10
  · have notFirst : ¬month + 3 ≤ 2 := by omega
    simp only [early, notFirst, if_true, if_false, Int.add_zero]
  · have isFirst : month - 9 ≤ 2 := by omega
    simp only [early, isFirst, if_true, if_false]

/-- A date is the date of its day. -/
theorem daysFromCivil_civilFromDays (days : Int) : daysFromCivil (civilFromDays days) = days := by
  obtain ⟨era, year, month, day, total, _, _, _, _, _, _, date⟩ := civilFromDays_spec days
  rw [date]
  by_cases early : month < 10
  · rw [if_pos early]
    unfold daysFromCivil
    dsimp only
    rw [if_neg (by omega)]
    have months : (month + 3 + 9) % 12 = month := by omega
    rw [months]
    omega
  · rw [if_neg early]
    unfold daysFromCivil
    dsimp only
    rw [if_pos (by omega)]
    have months : (month - 9 + 9) % 12 = month := by omega
    rw [months]
    omega

/-- A year starts 365 days after the year before, or later. -/
theorem year_of_days (days : Int) (late : 1 ≤ (civilFromDays days).year) :
    ((civilFromDays days).year - 1) * 365 ≤ days + 719468 := by
  obtain ⟨era, year, month, day, total, _, _, _, _, _, _, date⟩ := civilFromDays_spec days
  rw [date] at late ⊢
  by_cases early : month < 10
  · rw [if_pos early] at late ⊢
    dsimp only at late ⊢
    omega
  · rw [if_neg early] at late ⊢
    dsimp only at late ⊢
    omega

theorem year_after (days : Int) (late : 36600 ≤ days + 719468) :
    100 ≤ (civilFromDays days).year := by
  obtain ⟨era, year, month, day, total, _, _, _, _, _, _, date⟩ := civilFromDays_spec days
  rw [date]
  by_cases early : month < 10
  · rw [if_pos early]
    dsimp only
    omega
  · rw [if_neg early]
    dsimp only
    omega

end calendar
