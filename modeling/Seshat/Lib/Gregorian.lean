import Mathlib.Tactic.Common
import Mathlib.Tactic.IntervalCases

/-! The Gregorian calendar: leap years, dates that exist, the number of a day, and the date of
a day by way of years that start in March and repeat after 400 of them. -/

namespace Seshat.Lib.Gregorian

def Leap (year : Nat) : Prop := year % 4 = 0 ∧ (year % 100 ≠ 0 ∨ year % 400 = 0)

instance (year : Nat) : Decidable (Leap year) := inferInstanceAs (Decidable (_ ∧ _))

def yearLength (year : Nat) : Nat := if Leap year then 366 else 365

def monthLength (year month : Nat) : Nat :=
  if month = 2 then if Leap year then 29 else 28
  else if month = 4 ∨ month = 6 ∨ month = 9 ∨ month = 11 then 30
  else 31

/-- A date that exists. -/
@[ext] structure Date where
  year : Nat
  month : Nat
  day : Nat
  monthValid : 1 ≤ month ∧ month ≤ 12
  dayValid : 1 ≤ day ∧ day ≤ monthLength year month

/-- The days from the first of January of year 0 to that of a year. -/
def daysBeforeYear : Nat → Nat
  | 0 => 0
  | year + 1 => daysBeforeYear year + yearLength year

/-- The days of a year in front of a month. -/
def daysBeforeMonth (year : Nat) : Nat → Nat
  | 0 => 0
  | 1 => 0
  | month + 2 => daysBeforeMonth year (month + 1) + monthLength year (month + 1)

def Date.dayNumber (date : Date) : Nat :=
  daysBeforeYear date.year + daysBeforeMonth date.year date.month + (date.day - 1)

/-! A day has one date. -/

theorem daysBeforeMonth_succ (year : Nat) {month : Nat} (some_month : 1 ≤ month) :
    daysBeforeMonth year (month + 1) = daysBeforeMonth year month + monthLength year month := by
  cases month with
  | zero => cases some_month
  | succ month => rfl

theorem daysBeforeMonth_mono (year : Nat) : Monotone (daysBeforeMonth year) := by
  refine monotone_nat_of_le_succ fun month => ?_
  cases month with
  | zero => exact Nat.le_refl _
  | succ month => exact Nat.le_add_right _ _

theorem daysBeforeYear_mono : Monotone daysBeforeYear :=
  monotone_nat_of_le_succ fun _ => Nat.le_add_right _ _

theorem daysBeforeMonth_year (year : Nat) : daysBeforeMonth year 13 = yearLength year := by
  by_cases leap : Leap year <;> simp [daysBeforeMonth, monthLength, yearLength, leap]

/-- The day of a date stands in front of the next month, and with it of the next year. -/
theorem Date.before_month (date : Date) : daysBeforeMonth date.year date.month + (date.day - 1) <
    daysBeforeMonth date.year (date.month + 1) := by
  have valid := date.dayValid
  rw [daysBeforeMonth_succ date.year date.monthValid.1]
  omega

theorem Date.before_year (date : Date) : date.dayNumber < daysBeforeYear (date.year + 1) := by
  have month := date.before_month
  have last : daysBeforeMonth date.year (date.month + 1) ≤ yearLength date.year := by
    rw [← daysBeforeMonth_year]
    exact daysBeforeMonth_mono date.year (Nat.succ_le_succ date.monthValid.2)
  rw [daysBeforeYear, Date.dayNumber]
  omega

theorem Date.dayNumber_lt_of_year {a b : Date} (earlier : a.year < b.year) :
    a.dayNumber < b.dayNumber := by
  have start : daysBeforeYear (a.year + 1) ≤ daysBeforeYear b.year := daysBeforeYear_mono earlier
  apply lt_of_lt_of_le a.before_year
  rw [Date.dayNumber]
  omega

theorem Date.dayNumber_lt_of_month {a b : Date} (year : a.year = b.year)
    (earlier : a.month < b.month) : a.dayNumber < b.dayNumber := by
  have before := a.before_month
  have start : daysBeforeMonth b.year (a.month + 1) ≤ daysBeforeMonth b.year b.month :=
    daysBeforeMonth_mono b.year earlier
  rw [year] at before
  rw [Date.dayNumber, Date.dayNumber, year]
  omega

theorem Date.dayNumber_injective : Function.Injective Date.dayNumber := by
  intro a b same
  have year : a.year = b.year := by
    rcases Nat.lt_trichotomy a.year b.year with earlier | equal | later
    · exact absurd same (dayNumber_lt_of_year earlier).ne
    · exact equal
    · exact absurd same (dayNumber_lt_of_year later).ne'
  have month : a.month = b.month := by
    rcases Nat.lt_trichotomy a.month b.month with earlier | equal | later
    · exact absurd same (dayNumber_lt_of_month year earlier).ne
    · exact equal
    · exact absurd same (dayNumber_lt_of_month year.symm later).ne'
  have first := a.dayValid.1
  have second := b.dayValid.1
  rw [Date.dayNumber, Date.dayNumber, year, month] at same
  exact Date.ext year month (by omega)

/-! Years. -/

theorem daysBeforeYear_eq (year : Nat) :
    daysBeforeYear year = 365 * year + (year + 3) / 4 - (year + 99) / 100 + (year + 399) / 400 := by
  induction year with
  | zero => rfl
  | succ year ih =>
    rw [daysBeforeYear, ih, yearLength]
    by_cases leap : Leap year
    · rw [if_pos leap]
      unfold Leap at leap
      omega
    · rw [if_neg leap]
      unfold Leap at leap
      omega

/-- The days of the years that start in March, from that of year 0 on. -/
def marchYear (year : Nat) : Nat := 365 * year + year / 4 - year / 100 + year / 400

theorem daysBeforeYear_succ (year : Nat) : daysBeforeYear (year + 1) = marchYear year + 366 := by
  rw [daysBeforeYear_eq, marchYear]
  omega

/-- Every 400 years have the same days. -/
theorem marchYear_era {yoe : Nat} (inside : yoe < 400) (era : Nat) :
    marchYear (yoe + era * 400) = era * 146097 + (365 * yoe + yoe / 4 - yoe / 100) := by
  have fours : (yoe + era * 400) / 4 = yoe / 4 + era * 100 := by omega
  have centuries : (yoe + era * 400) / 100 = yoe / 100 + era * 4 := by omega
  have eras : (yoe + era * 400) / 400 = era := by omega
  rw [marchYear, fours, centuries, eras]
  omega

/-- In front of March there are 60 days of year 0, and those up to the year's own. -/
theorem daysBeforeYear_march (year : Nat) :
    daysBeforeYear year + (if Leap year then 60 else 59) = marchYear year + 60 := by
  have next := daysBeforeYear_succ year
  rw [daysBeforeYear, yearLength] at next
  by_cases leap : Leap year
  · rw [if_pos leap] at next ⊢
    omega
  · rw [if_neg leap] at next ⊢
    omega

/-! The place of a day in its 400 years. -/

/-- A day as its century, its four years, its year in them and its place in that; only a year
whose February has 29 days has a day 365. -/
structure InEra (c q r j : Nat) : Prop where
  century : c ≤ 3
  cycle : q ≤ 24
  year : r ≤ 3
  day : j ≤ 365
  leap : j = 365 → r = 3 ∧ (q ≠ 24 ∨ c = 3)

theorem exists_inEra {doe : Nat} (inside : doe < 146097) :
    ∃ c q r j, InEra c q r j ∧ doe = 36524 * c + 1461 * q + 365 * r + j := by
  obtain ⟨c, century⟩ : ∃ c, c = min (doe / 36524) 3 := ⟨_, rfl⟩
  obtain ⟨q, cycle⟩ : ∃ q, q = min ((doe - 36524 * c) / 1461) 24 := ⟨_, rfl⟩
  obtain ⟨r, year⟩ : ∃ r, r = min ((doe - 36524 * c - 1461 * q) / 365) 3 := ⟨_, rfl⟩
  refine ⟨c, q, r, doe - 36524 * c - 1461 * q - 365 * r,
    ⟨by omega, by omega, by omega, ?_, ?_⟩, ?_⟩
  · omega
  · omega
  · omega

/-- A year of the era by its parts. -/
theorem year_parts {c q r : Nat} (cycle : q ≤ 24) (year : r ≤ 3) :
    (100 * c + 4 * q + r) / 4 = 25 * c + q ∧ (100 * c + 4 * q + r) / 100 = c := by omega

def yearOfEra (doe : Nat) : Nat := (doe - doe / 1460 + doe / 36524 - doe / 146096) / 365

def dayOfYear (doe : Nat) : Nat :=
  doe - (365 * yearOfEra doe + yearOfEra doe / 4 - yearOfEra doe / 100)

/-- The corrections for centuries, four years and the last day make the division by 365 exact. -/
theorem yearOfEra_eq {c q r j doe : Nat} (era : InEra c q r j)
    (same : doe = 36524 * c + 1461 * q + 365 * r + j) : yearOfEra doe = 100 * c + 4 * q + r := by
  obtain ⟨century, cycle, year, day, leap⟩ := era
  unfold yearOfEra
  by_cases last : doe = 146096
  · have lastCentury : c = 3 := by omega
    have lastCycle : q = 24 := by omega
    have lastYear : r = 3 := by omega
    subst last
    omega
  · have cycles : doe / 146096 = 0 := by omega
    have centuries : doe / 36524 = c := by omega
    have fours : doe / 1460 = 25 * c + q + (24 * c + q + 365 * r + j) / 1460 := by omega
    -- The rest holds one more 1460 only late in the last of four years.
    have once : (24 * c + q + 365 * r + j) / 1460 ≤ 1 := by omega
    have late : 1 ≤ (24 * c + q + 365 * r + j) / 1460 → r = 3 ∧ 1 ≤ j := by omega
    have always : j = 365 → 1 ≤ (24 * c + q + 365 * r + j) / 1460 := by omega
    have years : doe - doe / 1460 + doe / 36524 - doe / 146096 =
        365 * (100 * c + 4 * q + r) + (j - (24 * c + q + 365 * r + j) / 1460) := by omega
    rw [years]
    omega

theorem dayOfYear_eq {c q r j doe : Nat} (era : InEra c q r j)
    (same : doe = 36524 * c + 1461 * q + 365 * r + j) : dayOfYear doe = j := by
  obtain ⟨fours, centuries⟩ := @year_parts c q r era.cycle era.year
  rw [dayOfYear, yearOfEra_eq era same, fours, centuries]
  omega

/-- What is left of an era behind its years is a day of a year. -/
theorem era_split {doe : Nat} (inside : doe < 146097) :
    yearOfEra doe < 400 ∧ dayOfYear doe ≤ 365 ∧
      doe = 365 * yearOfEra doe + yearOfEra doe / 4 - yearOfEra doe / 100 + dayOfYear doe ∧
      (dayOfYear doe = 365 → Leap (yearOfEra doe + 1)) := by
  obtain ⟨c, q, r, j, era, same⟩ := exists_inEra inside
  obtain ⟨fours, centuries⟩ := @year_parts c q r era.cycle era.year
  rw [yearOfEra_eq era same, dayOfYear_eq era same, fours, centuries]
  obtain ⟨century, cycle, year, day, leap⟩ := era
  refine ⟨by omega, day, by omega, fun last => ?_⟩
  have late := leap last
  unfold Leap
  omega

/-! Months from March on. -/

def marchMonth (doy : Nat) : Nat := (5 * doy + 2) / 153

/-- The days in front of a month. -/
def marchMonthStart (mp : Nat) : Nat := (153 * mp + 2) / 5

theorem marchMonth_le {doy : Nat} (inside : doy ≤ 365) : marchMonth doy ≤ 11 := by
  unfold marchMonth
  omega

def monthOf (mp : Nat) : Nat := if mp < 10 then mp + 3 else mp - 9

theorem marchMonth_spec (doy : Nat) :
    marchMonthStart (marchMonth doy) ≤ doy ∧ doy < marchMonthStart (marchMonth doy + 1) := by
  unfold marchMonthStart marchMonth
  omega

/-- The months up to December. -/
theorem march_to_december {mp : Nat} (early : mp < 10) (year : Nat) :
    daysBeforeMonth year (mp + 3) = (if Leap year then 60 else 59) + marchMonthStart mp ∧
      marchMonthStart (mp + 1) = marchMonthStart mp + monthLength year (mp + 3) := by
  by_cases leap : Leap year
  · interval_cases mp <;> simp [daysBeforeMonth, monthLength, marchMonthStart, leap]
  · interval_cases mp <;> simp [daysBeforeMonth, monthLength, marchMonthStart, leap]

theorem january_february {mp : Nat} (late : 10 ≤ mp) (last : mp ≤ 11) (year : Nat) :
    daysBeforeMonth year (mp - 9) + 306 = marchMonthStart mp := by
  interval_cases mp <;> rfl

/-- January and February belong to the year after. -/
def civilYear (year mp : Nat) : Nat := if monthOf mp ≤ 2 then year + 1 else year

section Months

variable {mp : Nat}

theorem monthOf_early (early : mp < 10) : monthOf mp = mp + 3 := if_pos early

theorem monthOf_late (late : 10 ≤ mp) : monthOf mp = mp - 9 := if_neg (Nat.not_lt.mpr late)

theorem civilYear_early (early : mp < 10) (year : Nat) : civilYear year mp = year := by
  rw [civilYear, monthOf_early early, if_neg (by omega)]

theorem civilYear_late (late : 10 ≤ mp) (last : mp ≤ 11) (year : Nat) :
    civilYear year mp = year + 1 := by
  rw [civilYear, monthOf_late late, if_pos (by omega)]

theorem monthOf_valid (last : mp ≤ 11) : 1 ≤ monthOf mp ∧ monthOf mp ≤ 12 := by
  unfold monthOf
  split <;> omega

/-- The first day of a month. -/
theorem month_start (last : mp ≤ 11) (year : Nat) :
    daysBeforeYear (civilYear year mp) + daysBeforeMonth (civilYear year mp) (monthOf mp) =
      marchYear year + 60 + marchMonthStart mp := by
  by_cases early : mp < 10
  · have start := daysBeforeYear_march year
    rw [civilYear_early early, monthOf_early early, (march_to_december early year).1]
    omega
  · have late := Nat.not_lt.mp early
    have months := january_february late last (year + 1)
    rw [civilYear_late late last, monthOf_late late, daysBeforeYear_succ]
    omega

/-- A day of the year is one of its month. -/
theorem day_fits {doy year : Nat} (inside : doy ≤ 365) (leap : doy = 365 → Leap (year + 1)) :
    doy - marchMonthStart (marchMonth doy) + 1 ≤
      monthLength (civilYear year (marchMonth doy)) (monthOf (marchMonth doy)) := by
  have last := marchMonth_le inside
  obtain ⟨above, below⟩ := marchMonth_spec doy
  by_cases early : marchMonth doy < 10
  · rw [civilYear_early early, monthOf_early early]
    have next := (march_to_december early year).2
    omega
  · have late := Nat.not_lt.mp early
    rw [civilYear_late late last, monthOf_late late]
    have tenth : marchMonthStart 10 = 306 := rfl
    have eleventh : marchMonthStart 11 = 337 := rfl
    rcases Nat.lt_or_ge (marchMonth doy) 11 with before | behind
    · have january : marchMonth doy = 10 := by omega
      have days : monthLength (year + 1) (10 - 9) = 31 := rfl
      rw [january] at above below ⊢
      change doy < marchMonthStart 11 at below
      omega
    · have february : marchMonth doy = 11 := by omega
      have days : monthLength (year + 1) (11 - 9) = if Leap (year + 1) then 29 else 28 := rfl
      rw [february] at above ⊢
      rw [days]
      split
      case isTrue => omega
      case isFalse common =>
        have earlier : doy ≠ 365 := fun end_of_year => common (leap end_of_year)
        omega

end Months

/-! The date of a day. -/

/-- The date `z` days after the first of March of year 0. -/
def dateOf (z : Nat) : Date where
  year := civilYear (yearOfEra (z % 146097) + z / 146097 * 400)
    (marchMonth (dayOfYear (z % 146097)))
  month := monthOf (marchMonth (dayOfYear (z % 146097)))
  day := dayOfYear (z % 146097) - marchMonthStart (marchMonth (dayOfYear (z % 146097))) + 1
  monthValid :=
    monthOf_valid (marchMonth_le (era_split (Nat.mod_lt z (by decide))).2.1)
  dayValid := by
    obtain ⟨-, inside, -, leap⟩ := era_split (Nat.mod_lt z (by decide : 0 < 146097))
    refine ⟨Nat.le_add_left 1 _, day_fits inside fun last => ?_⟩
    have cycle := leap last
    unfold Leap at cycle ⊢
    omega

theorem dateOf_dayNumber (z : Nat) : (dateOf z).dayNumber = z + 60 := by
  obtain ⟨early, inside, whole, -⟩ := era_split (Nat.mod_lt z (by decide : 0 < 146097))
  have start := month_start (marchMonth_le inside)
    (yearOfEra (z % 146097) + z / 146097 * 400)
  have above := (marchMonth_spec (dayOfYear (z % 146097))).1
  change daysBeforeYear (civilYear _ _) + daysBeforeMonth (civilYear _ _) (monthOf _) +
    (_ - _ + 1 - 1) = _
  rw [start, marchYear_era early]
  omega

end Seshat.Lib.Gregorian
