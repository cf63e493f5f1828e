import Seshat.Lib.Checked
import Seshat.Lib.Gregorian
import Mathlib.Tactic.Common

/-! The date and time of a Unix timestamp, after which a result tree is named. -/

namespace Seshat.Report
open Lib.Checked Lib.Gregorian

structure Civil where
  year : Int
  month : UInt32
  day : UInt32
  hour : UInt32
  minute : UInt32
  second : UInt32
  deriving DecidableEq

/-- Every sum and product of signed words is checked; `none` is an overflow. -/
def civilFromUnix (unixSecs : UInt64) : Option Civil := do
  let days := Int.bmod (unixSecs / 86400).toNat (2 ^ 64)
  let rem := (unixSecs % 86400).toUInt32
  let z ← addInt days 719468
  let from_era ← (if 0 ≤ z then some z else subInt z 146096 : Option Int)
  let era := from_era.tdiv 146097
  let doe ← subInt z (← mulInt era 146097)
  let years ← subInt (← addInt (← subInt doe (doe.tdiv 1460)) (doe.tdiv 36524)) (doe.tdiv 146096)
  let yoe := years.tdiv 365
  let y ← addInt yoe (← mulInt era 400)
  let doy ← subInt doe
    (← subInt (← addInt (← mulInt 365 yoe) (yoe.tdiv 4)) (yoe.tdiv 100))
  let mp := (← addInt (← mulInt 5 doy) 2).tdiv 153
  let d ← addInt (← subInt doy ((← addInt (← mulInt 153 mp) 2).tdiv 5)) 1
  let m ← (if mp < 10 then addInt mp 3 else subInt mp 9 : Option Int)
  let year ← (if m ≤ 2 then addInt y 1 else some y : Option Int)
  return { year, month := .ofInt m, day := .ofInt d, hour := rem / 3600,
           minute := rem % 3600 / 60, second := rem % 60 }

/-- The days of the timestamp, counted from the first of March of year 0. -/
def marchDays (unixSecs : UInt64) : Nat := unixSecs.toNat / 86400 + 719468

theorem days_toInt (unixSecs : UInt64) :
    Int.bmod (unixSecs / 86400).toNat (2 ^ 64) = ((unixSecs.toNat / 86400 : Nat) : Int) := by
  have bound := unixSecs.toNat_lt
  rw [UInt64.toNat_div]
  change Int.bmod ((unixSecs.toNat / 86400 : Nat) : Int) _ = _
  exact Int.bmod_eq_of_le (by omega) (by omega)

section Months

variable {mp year : Nat}

theorem month_toInt (last : mp ≤ 11) :
    (if (mp : Int) < 10 then addInt mp 3 else subInt mp 9) = some (monthOf mp : Int) := by
  by_cases early : mp < 10
  · rw [if_pos (by omega), monthOf_early early]
    exact addInt_natCast (n := 3) (by omega)
  · rw [if_neg (by omega), monthOf_late (Nat.not_lt.mp early)]
    exact subInt_natCast (n := 9) (by omega) (by omega)

theorem year_toInt (small : year < 2 ^ 60) :
    (if (monthOf mp : Int) ≤ 2 then addInt year 1 else some (year : Int)) =
      some (civilYear year mp : Int) := by
  unfold civilYear
  by_cases late : monthOf mp ≤ 2
  · rw [if_pos (by omega), if_pos late]
    exact addInt_natCast (n := 1) (by omega)
  · rw [if_neg (by omega), if_neg late]

end Months

section Stages

variable {β : Type} {doe doy mp : Nat}

/-- What the division by 365 is of. -/
theorem yearOfEra_toInt (inside : doe < 146097) (next : Int → Option β) :
    (do
      let fours ← subInt doe ((doe : Int).tdiv 1460)
      let centuries ← addInt fours ((doe : Int).tdiv 36524)
      let years ← subInt centuries ((doe : Int).tdiv 146096)
      next years) = next (doe - doe / 1460 + doe / 36524 - doe / 146096 : Nat) := by
  rw [tdiv_natCast, tdiv_natCast, tdiv_natCast]
  refine bind_eq (subInt_natCast (by omega) (by omega)) ?_
  refine bind_eq (addInt_natCast (by omega)) ?_
  exact bind_eq (subInt_natCast (by omega) (by omega)) rfl

/-- The days of the year behind those of the years before. -/
theorem dayOfYear_toInt (inside : doe < 146097) (next : Int → Option β) :
    (do
      let days ← mulInt 365 (yearOfEra doe)
      let cycles ← addInt days ((yearOfEra doe : Int).tdiv 4)
      let before ← subInt cycles ((yearOfEra doe : Int).tdiv 100)
      let doy ← subInt doe before
      next doy) = next (dayOfYear doe) := by
  obtain ⟨early, -, whole, -⟩ := era_split inside
  rw [tdiv_natCast, tdiv_natCast]
  refine bind_eq (mulInt_natCast (m := 365) (by omega)) ?_
  refine bind_eq (addInt_natCast (by omega)) ?_
  refine bind_eq (subInt_natCast (by omega) (by omega)) ?_
  refine bind_eq (subInt_natCast (by omega) (by omega)) ?_
  rfl

/-- What the division by 153 is of. -/
theorem marchMonth_toInt (inside : doy ≤ 365) (next : Int → Option β) :
    (do
      let scaled ← mulInt 5 doy
      let shifted ← addInt scaled 2
      next shifted) = next (5 * doy + 2 : Nat) := by
  refine bind_eq (mulInt_natCast (m := 5) (by omega)) ?_
  exact bind_eq (addInt_natCast (n := 2) (by omega)) rfl

theorem day_toInt (last : mp ≤ 11) (inside : doy ≤ 365) (above : marchMonthStart mp ≤ doy)
    (next : Int → Option β) :
    (do
      let scaled ← mulInt 153 mp
      let shifted ← addInt scaled 2
      let rest ← subInt doy (shifted.tdiv 5)
      let day ← addInt rest 1
      next day) = next (doy - marchMonthStart mp + 1 : Nat) := by
  refine bind_eq (mulInt_natCast (m := 153) (by omega)) ?_
  refine bind_eq (addInt_natCast (n := 2) (by omega)) ?_
  rw [tdiv_natCast]
  refine bind_eq (subInt_natCast above (by omega)) ?_
  have days : doy - (153 * mp + 2) / 5 + 1 < 2 ^ 63 := by omega
  exact bind_eq (addInt_natCast (n := 1) days) rfl

end Stages

theorem civilFromUnix_eq (unixSecs : UInt64) : civilFromUnix unixSecs = some
    { year := (dateOf (marchDays unixSecs)).year,
      month := .ofInt (dateOf (marchDays unixSecs)).month,
      day := .ofInt (dateOf (marchDays unixSecs)).day,
      hour := (unixSecs % 86400).toUInt32 / 3600,
      minute := (unixSecs % 86400).toUInt32 % 3600 / 60,
      second := (unixSecs % 86400).toUInt32 % 60 } := by
  have bound := unixSecs.toNat_lt
  obtain ⟨z, start⟩ : ∃ z, z = marchDays unixSecs := ⟨_, rfl⟩
  have small : z < 2 ^ 60 := by
    unfold marchDays at start
    omega
  have left : z % 146097 < 146097 := Nat.mod_lt z (by decide)
  obtain ⟨early, inside, -, -⟩ := era_split left
  have last := marchMonth_le inside
  have above := (marchMonth_spec (dayOfYear (z % 146097))).1
  unfold civilFromUnix
  rw [days_toInt, ← start]
  have shifted : addInt (unixSecs.toNat / 86400 : Nat) 719468 = some (z : Int) := by
    rw [start]
    exact addInt_natCast (n := 719468) (by omega)
  refine bind_eq shifted ?_
  refine bind_eq (if_pos (Int.natCast_nonneg z)) ?_
  rw [tdiv_natCast]
  refine bind_eq (mulInt_natCast (n := 146097) (by omega)) ?_
  refine bind_eq (subInt_natCast (by omega) (by omega)) ?_
  rw [show z - z / 146097 * 146097 = z % 146097 by omega]
  refine (yearOfEra_toInt left _).trans ?_
  rw [tdiv_natCast, ← yearOfEra]
  refine bind_eq (mulInt_natCast (n := 400) (by omega)) ?_
  refine bind_eq (addInt_natCast (by omega)) ?_
  refine (dayOfYear_toInt left _).trans ?_
  refine (marchMonth_toInt inside _).trans ?_
  rw [tdiv_natCast, ← marchMonth]
  refine (day_toInt last inside above _).trans ?_
  exact bind_eq (month_toInt last) (bind_eq (year_toInt (by omega)) rfl)

theorem ofInt_toNat {n : Nat} (fits : n < 2 ^ 32) : (UInt32.ofInt n).toNat = n := by
  change (UInt32.ofNat ((n : Int) % 2 ^ 32).toNat).toNat = n
  rw [UInt32.toNat_ofNat']
  omega

/-- The first of January 1970. -/
def epoch : Date := ⟨1970, 1, 1, by decide, by decide⟩

theorem epoch_dayNumber : epoch.dayNumber = 719528 := by
  rw [Date.dayNumber, daysBeforeYear_eq]
  rfl

theorem monthLength_le (year month : Nat) : monthLength year month ≤ 31 := by
  unfold monthLength
  split_ifs <;> omega

/-- A timestamp is named by the date that exists, and the time of that day, which it stands for. -/
theorem civilFromUnix_date (unixSecs : UInt64) : ∃ (date : Date) (civil : Civil),
    civilFromUnix unixSecs = some civil ∧
      civil.year = date.year ∧ civil.month.toNat = date.month ∧ civil.day.toNat = date.day ∧
      civil.hour < 24 ∧ civil.minute < 60 ∧ civil.second < 60 ∧
      ((date.dayNumber : Int) - epoch.dayNumber) * 86400 +
        civil.hour.toNat * 3600 + civil.minute.toNat * 60 + civil.second.toNat = unixSecs.toNat := by
  have days := dateOf_dayNumber (marchDays unixSecs)
  have month := (dateOf (marchDays unixSecs)).monthValid
  have day := (dateOf (marchDays unixSecs)).dayValid
  have length :=
    monthLength_le (dateOf (marchDays unixSecs)).year (dateOf (marchDays unixSecs)).month
  have rest : (unixSecs % 86400).toUInt32.toNat = unixSecs.toNat % 86400 := by
    rw [UInt64.toNat_toUInt32, UInt64.toNat_mod]
    change unixSecs.toNat % 86400 % 2 ^ 32 = unixSecs.toNat % 86400
    omega
  refine ⟨_, _, civilFromUnix_eq unixSecs, rfl, ofInt_toNat (by omega), ofInt_toNat (by omega),
    ?_, ?_, ?_, ?_⟩
  · rw [UInt32.lt_iff_toNat_lt, UInt32.toNat_div, rest]
    change unixSecs.toNat % 86400 / 3600 < 24
    omega
  · rw [UInt32.lt_iff_toNat_lt, UInt32.toNat_div, UInt32.toNat_mod, rest]
    change unixSecs.toNat % 86400 % 3600 / 60 < 60
    omega
  · rw [UInt32.lt_iff_toNat_lt, UInt32.toNat_mod, rest]
    change unixSecs.toNat % 86400 % 60 < 60
    omega
  · rw [UInt32.toNat_div, UInt32.toNat_div, UInt32.toNat_mod, UInt32.toNat_mod, rest, days,
      epoch_dayNumber]
    change ((unixSecs.toNat / 86400 + 719468 + 60 : Nat) - (719528 : Nat) : Int) * 86400 +
      (unixSecs.toNat % 86400 / 3600 : Nat) * 3600 +
      (unixSecs.toNat % 86400 % 3600 / 60 : Nat) * 60 + (unixSecs.toNat % 86400 % 60 : Nat) = _
    omega

example : civilFromUnix 1700000000 = some ⟨2023, 11, 14, 22, 13, 20⟩ := by decide +kernel

/-- Of the dates that exist it is the one whose day the timestamp falls in. -/
theorem civilFromUnix_of_day {unixSecs : UInt64} {date : Date}
    (day : date.dayNumber = epoch.dayNumber + unixSecs.toNat / 86400) : ∃ civil,
    civilFromUnix unixSecs = some civil ∧
      civil.year = date.year ∧ civil.month.toNat = date.month ∧ civil.day.toNat = date.day := by
  have same : date = dateOf (marchDays unixSecs) := by
    apply Date.dayNumber_injective
    rw [dateOf_dayNumber, day, epoch_dayNumber, marchDays]
    omega
  have length := monthLength_le date.year date.month
  have month := date.monthValid
  have fits := date.dayValid
  rw [same] at length month fits ⊢
  exact ⟨_, civilFromUnix_eq unixSecs, rfl, ofInt_toNat (by omega), ofInt_toNat (by omega)⟩

end Seshat.Report
