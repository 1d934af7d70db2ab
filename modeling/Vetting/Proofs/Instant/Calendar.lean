import Mathlib.Tactic.IntervalCases
import Vetting.Calendar

/-!
# The calendar in both directions

Every number of days is the number of an existing date (`CalendarDate.isValid_ofDays`), which is as many days away from
1970-01-01 (`CalendarDate.toDays_ofDays`).  A cycle is made of centuries, a century of blocks of four years, and a block
of years; a day of the cycle is told by its place in each of these (`CyclePlace`).
-/

namespace Vetting.CalendarDate

/-- A day of a cycle: whole centuries, whole blocks of four years, whole years, and days.  Each century ends a day early
but the last of the cycle, and each block ends with a leap day. -/
structure CyclePlace where
  centuries : Nat
  blocks : Nat
  years : Nat
  days : Nat
  centuries_lt : centuries < 4
  blocks_lt : blocks < 25
  years_lt : years < 4
  days_lt : days < 365 ∨ (days = 365 ∧ years = 3 ∧ (blocks ≠ 24 ∨ centuries = 3))

namespace CyclePlace

variable (place : CyclePlace)

/-- The year of the cycle. -/
def year : Nat :=
  100 * place.centuries + 4 * place.blocks + place.years

/-- The day of the cycle. -/
def dayOfCycle : Nat :=
  36524 * place.centuries + 1461 * place.blocks + 365 * place.years + place.days

/-- A cycle has 400 years. -/
theorem year_lt : place.year < 400 := by
  have centuries := place.centuries_lt
  have blocks := place.blocks_lt
  have years := place.years_lt
  rw [year]
  omega

/-- No year has more than 366 days. -/
theorem days_le : place.days ≤ 365 := by
  rcases place.days_lt with regular | leap
  · exact Nat.le_of_lt regular
  · exact leap.1.le

/-- A cycle has 146097 days. -/
theorem dayOfCycle_lt : place.dayOfCycle < 146097 := by
  obtain ⟨centuries, blocks, years, days, centuries_lt, blocks_lt, years_lt, days_lt⟩ := place
  simp only [dayOfCycle]
  omega

/-- Every day of a cycle has its place. -/
theorem exists_dayOfCycle_eq {day : Nat} (inCycle : day < 146097) : ∃ place : CyclePlace, place.dayOfCycle = day := by
  -- The last day of the cycle would begin another century, and a leap day another year.
  let centuries := min (day / 36524) 3
  let inCentury := day - 36524 * centuries
  let years := min (inCentury % 1461 / 365) 3
  refine ⟨⟨centuries, inCentury / 1461, years, inCentury % 1461 - 365 * years, ?_, ?_, ?_, ?_⟩, ?_⟩
  · omega
  · omega
  · omega
  · omega
  · change 36524 * centuries + 1461 * (inCentury / 1461) + 365 * years + (inCentury % 1461 - 365 * years) = day
    omega

/-- The days before a year and those in it count the days of the cycle. -/
theorem daysBeforeYear_year : daysBeforeYear place.year + place.days = place.dayOfCycle := by
  have blocks := place.blocks_lt
  have years := place.years_lt
  have fourth : place.year / 4 = 25 * place.centuries + place.blocks := by
    rw [year]
    omega
  have hundredth : place.year / 100 = place.centuries := by
    rw [year]
    omega
  rw [daysBeforeYear, fourth, hundredth, dayOfCycle, year]
  omega

/-- Divided by the days of four years without a leap day, a day of the cycle counts the blocks before its own one, and
this one as well if the day is late in it. -/
theorem dayOfCycle_div : ∃ early : Nat, place.dayOfCycle / 1460 = 25 * place.centuries + place.blocks + early ∧
    early ≤ place.days ∧ place.days < 365 + early := by
  obtain ⟨centuries, blocks, years, days, centuries_lt, blocks_lt, years_lt, days_lt⟩ := place
  simp only [dayOfCycle]
  by_cases late : 1460 ≤ 24 * centuries + blocks + 365 * years + days
  · exact ⟨1, by omega, by omega, by omega⟩
  · exact ⟨0, by omega, by omega, by omega⟩

/-- The last day of the cycle is the only one that looks like part of a fifth century. -/
theorem dayOfCycle_div_century : place.dayOfCycle / 36524 = place.centuries + place.dayOfCycle / 146096 := by
  obtain ⟨centuries, blocks, years, days, centuries_lt, blocks_lt, years_lt, days_lt⟩ := place
  simp only [dayOfCycle]
  by_cases last : 1461 * blocks + 365 * years + days = 36524
  · have final : centuries = 3 := by omega
    omega
  · have inside : 1461 * blocks + 365 * years + days < 36524 := by omega
    omega

/-- The year is found again from the day of the cycle. -/
theorem yearOfCycle_dayOfCycle : yearOfCycle place.dayOfCycle = place.year := by
  obtain ⟨early, fourth, few, inYear⟩ := place.dayOfCycle_div
  rw [yearOfCycle, fourth, place.dayOfCycle_div_century, dayOfCycle, year]
  omega

/-- A year that has a 366th day is followed by a leap year. -/
theorem isLeapYear_year (leapDay : place.days = 365) (cycle : Int) :
    isLeapYear (place.year + cycle * 400 + 1) = true := by
  obtain ⟨centuries, blocks, years, days, centuries_lt, blocks_lt, years_lt, days_lt⟩ := place
  simp only [isLeapYear, year, Bool.and_eq_true, Bool.or_eq_true, beq_iff_eq, bne_iff_ne] at leapDay ⊢
  omega

end CyclePlace

/-- Every day is in some cycle, at some place. -/
theorem exists_place (days : Int) :
    ∃ (cycle : Int) (place : CyclePlace), cycle * 146097 + place.dayOfCycle - 719468 = days := by
  have inCycle : ((days + 719468) % 146097).toNat < 146097 := by omega
  obtain ⟨place, same⟩ := CyclePlace.exists_dayOfCycle_eq inCycle
  exact ⟨(days + 719468) / 146097, place, by omega⟩

/-- The date of a day is found from its place in the cycle. -/
theorem ofDays_of_place (cycle : Int) (place : CyclePlace) :
    ofDays (cycle * 146097 + place.dayOfCycle - 719468) = ofDayOfYear (place.year + cycle * 400) place.days := by
  have inCycle := place.dayOfCycle_lt
  have cycles : (cycle * 146097 + place.dayOfCycle - 719468 + 719468) / 146097 = cycle := by omega
  have day : ((cycle * 146097 + place.dayOfCycle - 719468 + 719468) % 146097).toNat = place.dayOfCycle := by omega
  rw [ofDays, cycles, day, place.yearOfCycle_dayOfCycle, ← place.daysBeforeYear_year, Nat.add_sub_cancel_left]

/-! ## Existing dates -/

/-- Months have at most 31 days, and there are twelve of them. -/
theorem daysInMonth_le (year : Int) (month : Nat) : daysInMonth year month ≤ if month ≤ 12 then 31 else 0 := by
  unfold daysInMonth
  split <;> split_ifs <;> omega

/-- The number of a month is at most twelve, and the number of a day at most thirty-one. -/
theorem bounds_of_isValid {date : CalendarDate} (valid : date.isValid = true) : date.month ≤ 12 ∧ date.day ≤ 31 := by
  simp only [isValid, Bool.and_eq_true, decide_eq_true_eq] at valid
  have long := daysInMonth_le date.year date.month
  split_ifs at long <;> omega

/-! ## Days of a year -/

variable {year : Int} {day : Nat}

/-- A day of a year belongs to one of the twelve months from March on. -/
theorem exists_month (inYear : day ≤ 365) : ∃ month < 12, (5 * day + 2) / 153 = month ∧
    daysBeforeMonth month ≤ day ∧ day < daysBeforeMonth (month + 1) := by
  simp only [daysBeforeMonth]
  exact ⟨(5 * day + 2) / 153, by omega, rfl, by omega, by omega⟩

/-- The months are as long as the days in front of them tell, but for February, which ends the year. -/
theorem daysBeforeMonth_succ {month : Nat} (known : month < 11) (year : Int) :
    daysBeforeMonth (month + 1) = daysBeforeMonth month + daysInMonth year (monthOf month) := by
  interval_cases month <;> rfl

/-- The day of a year is a date of the calendar, a leap day in leap years only. -/
theorem isValid_ofDayOfYear (inYear : day ≤ 365) (leapDay : day = 365 → isLeapYear (year + 1) = true) :
    (ofDayOfYear year day).isValid = true := by
  obtain ⟨month, known, same, begun, ongoing⟩ := exists_month inYear
  simp only [ofDayOfYear, same, isValid, Bool.and_eq_true, decide_eq_true_eq]
  refine ⟨Nat.le_add_left _ _, ?_⟩
  rcases Nat.lt_succ_iff_lt_or_eq.mp known with regular | rfl
  · rw [daysBeforeMonth_succ regular] at ongoing
    exact Nat.sub_lt_left_of_lt_add begun ongoing
  · change day - 337 + 1 ≤ if isLeapYear (year + 1) = true then 29 else 28
    split_ifs with leap
    · omega
    · have regular : day ≠ 365 := fun last => leap (leapDay last)
      omega

/-- January and February belong to the year that began in the March before. -/
theorem year_ofDayOfYear : (if (ofDayOfYear year day).month ≤ 2 then (ofDayOfYear year day).year - 1
    else (ofDayOfYear year day).year) = year := by
  simp only [ofDayOfYear]
  split_ifs
  · exact Int.add_sub_cancel year 1
  · rfl

/-- The day of a year is found again from its date. -/
theorem dayOfYear_ofDayOfYear (inYear : day ≤ 365) :
    daysBeforeMonth (((ofDayOfYear year day).month + 9) % 12) + (ofDayOfYear year day).day - 1 = day := by
  obtain ⟨month, known, same, begun, -⟩ := exists_month inYear
  have months : ∀ month < 12, (monthOf month + 9) % 12 = month := by decide
  simp only [ofDayOfYear, same, months month known]
  omega

/-- The number of a day is found again from its date. -/
theorem toDays_ofDayOfYear {cycle : Int} {yearOfCycle : Nat} (inCycle : yearOfCycle < 400) (inYear : day ≤ 365) :
    (ofDayOfYear (yearOfCycle + cycle * 400) day).toDays =
      cycle * 146097 + (daysBeforeYear yearOfCycle + day : Nat) - 719468 := by
  have cycles : (yearOfCycle + cycle * 400) / 400 = cycle := by omega
  have years : ((yearOfCycle + cycle * 400) % 400).toNat = yearOfCycle := by omega
  rw [toDays, year_ofDayOfYear, dayOfYear_ofDayOfYear inYear, cycles, years, Nat.cast_add]

/-! ## Days -/

/-- **Existing dates.**  A number of days is the number of a date that exists. -/
theorem isValid_ofDays (days : Int) : (ofDays days).isValid = true := by
  obtain ⟨cycle, place, rfl⟩ := exists_place days
  rw [ofDays_of_place]
  exact isValid_ofDayOfYear place.days_le fun last => place.isLeapYear_year last cycle

/-- **Counting days.**  A date is as many days away from 1970-01-01 as the number that it was made from. -/
theorem toDays_ofDays (days : Int) : (ofDays days).toDays = days := by
  obtain ⟨cycle, place, rfl⟩ := exists_place days
  rw [ofDays_of_place, toDays_ofDayOfYear place.year_lt place.days_le, place.daysBeforeYear_year]

end Vetting.CalendarDate
