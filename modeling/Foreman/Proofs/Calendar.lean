import Foreman.Time.Timestamp
import Mathlib.Algebra.Order.Group.Int
import Mathlib.Order.Monotone.Basic

/-!
# `Foreman.Proofs.Calendar` — days and dates

The calendar repeats every 400 years, which are 146097 days. Counted from March, an era of 400 years
is made of centuries of 36524 days, cycles of 1461 days and years of 365 days, of which only the last
one of its kind may be a day longer (`EraDay`). The arithmetic by which `civilFromDays` finds a year
and a month is explained by this decomposition, and it is inverse to `daysFromCivil`.

## Contents
- **Eras**: `EraDay` and the year and the leap day of an era that belong to it.
- **Years**: `daysToMarch`, the days before a year, and `monthDay`, the months of a year.
- **Dates**: `isDate_civilFromDays`, every day has a date of the calendar, and `IsDate.year_bounds`.
-/

namespace Foreman

variable {n century cycle year day days era y : Int} {m d : Nat}

/-! ## Eras -/

/-- What a day of an era of 400 years is made of: whole centuries, whole cycles of four years in the
    last one, whole years in the last cycle, and days in the last year. -/
structure EraDay (n century cycle year day : Int) : Prop where
  eq : n = 36524 * century + 1461 * cycle + 365 * year + day
  century_bounds : 0 ≤ century ∧ century ≤ 3
  cycle_bounds : 0 ≤ cycle ∧ cycle ≤ 24
  year_bounds : 0 ≤ year ∧ year ≤ 3
  day_bounds : 0 ≤ day ∧ day ≤ 365
  leap : day = 365 → year = 3 ∧ (cycle < 24 ∨ century = 3)

namespace EraDay

/-- The year of the era that a day falls into. -/
def yearOfEra (century cycle year : Int) : Int := 100 * century + 4 * cycle + year

/-- Only the last century of an era and the last year of a cycle are longer, so counting them stops at
    the last one. -/
theorem exists_of_bounds (h0 : 0 ≤ n) (h1 : n < 146097) :
    ∃ century cycle year day, EraDay n century cycle year day := by
  let century := min (n / 36524) 3
  let ofCentury := n - 36524 * century
  let cycle := ofCentury / 1461
  let ofCycle := ofCentury - 1461 * cycle
  let year := min (ofCycle / 365) 3
  refine ⟨century, cycle, year, ofCycle - 365 * year, ?_, ?_, ?_, ?_, ?_, ?_⟩ <;> omega

theorem bounds (h : EraDay n century cycle year day) : 0 ≤ n ∧ n < 146097 := by
  obtain ⟨hn, hcentury, hcycle, hyear, hday, hleap⟩ := h
  omega

theorem yearOfEra_eq (h : EraDay n century cycle year day) :
    (n - n / 1460 + n / 36524 - n / 146096) / 365 = yearOfEra century cycle year := by
  obtain ⟨hn, hcentury, hcycle, hyear, hday, hleap⟩ := h
  unfold yearOfEra
  -- the last two corrections cancel on the last day of the era
  have hlong : n / 36524 - n / 146096 = century := by
    by_cases hlast : n = 146096
    · omega
    · have hera : n / 146096 = 0 := by omega
      omega
  -- a cycle has one day more than 1460, so the days that are left over may fill one more such span
  by_cases hcarry : 1460 ≤ 24 * century + cycle + 365 * year + day
  · have hlastYear : year = 3 ∧ 1 ≤ day := by omega
    have hshort : n / 1460 = 25 * century + cycle + 1 := by omega
    omega
  · have hday364 : day ≤ 364 := by omega
    have hshort : n / 1460 = 25 * century + cycle := by omega
    omega

/-- The days of an era before the year of a day. -/
theorem daysBefore_eq (h : EraDay n century cycle year day) (hy : y = yearOfEra century cycle year) :
    y * 365 + y / 4 - y / 100 = n - day := by
  have hn := h.eq
  have hcentury := h.century_bounds
  have hcycle := h.cycle_bounds
  have hyear := h.year_bounds
  unfold yearOfEra at hy
  have hfours : y / 4 = 25 * century + cycle := by omega
  have hhundreds : y / 100 = century := by omega
  omega

/-- A 29th of February stands at the end of a year that is counted from March; the next year is a leap
    year in the usual count. -/
theorem isLeapYear_next (h : EraDay n century cycle year day) (hday : day = 365) (era : Int) :
    isLeapYear (400 * era + yearOfEra century cycle year + 1) = true := by
  have hcycle := h.cycle_bounds
  have hcentury := h.century_bounds
  obtain ⟨hyear, hlast⟩ := h.leap hday
  unfold yearOfEra
  simp only [isLeapYear, Bool.and_eq_true, Bool.or_eq_true, decide_eq_true_eq]
  constructor
  · omega
  · omega

end EraDay

/-! ## Years -/

/-- The days from the 1st of March of the year zero to the 1st of March of a year. -/
def daysToMarch (y : Int) : Int := 365 * y + y / 4 - y / 100 + y / 400

theorem daysToMarch_eq (y : Int) :
    y / 400 * 146097 + ((y - y / 400 * 400) * 365 + (y - y / 400 * 400) / 4 -
      (y - y / 400 * 400) / 100) = daysToMarch y := by
  have hfours : (y - y / 400 * 400) / 4 = y / 4 - 100 * (y / 400) := by omega
  have hhundreds : (y - y / 400 * 400) / 100 = y / 100 - 4 * (y / 400) := by omega
  rw [hfours, hhundreds, daysToMarch]
  omega

theorem EraDay.daysToMarch_eq (h : EraDay n century cycle year day) (era : Int) :
    daysToMarch (400 * era + yearOfEra century cycle year) = 146097 * era + n - day := by
  obtain ⟨k, hk⟩ : ∃ k, k = yearOfEra century cycle year := ⟨_, rfl⟩
  have hbefore := h.daysBefore_eq hk
  have hyears : 0 ≤ k ∧ k < 400 := by
    obtain ⟨hn, hcentury, hcycle, hyear, hday, hleap⟩ := h
    unfold yearOfEra at hk
    omega
  rw [← hk, daysToMarch]
  omega

/-- A year has at least 365 days. -/
theorem daysToMarch_succ (y : Int) : daysToMarch y + 365 ≤ daysToMarch (y + 1) := by
  have hfours : (y + 1) / 4 - y / 4 = if (y + 1) % 4 = 0 then 1 else 0 := by split <;> omega
  have hhundreds : (y + 1) / 100 - y / 100 = if (y + 1) % 100 = 0 then 1 else 0 := by
    split <;> omega
  have heras : y / 400 ≤ (y + 1) / 400 := by omega
  unfold daysToMarch
  split at hfours
  · split at hhundreds <;> omega
  · split at hhundreds <;> omega

theorem daysFromCivil_eq_daysToMarch (y : Int) (m d : Nat) :
    daysFromCivil y m d = daysToMarch (if m ≤ 2 then y - 1 else y) +
      ((153 * (((m + 9) % 12 : Nat) : Int) + 2) / 5 + d - 1) - 719468 := by
  rw [← daysToMarch_eq]
  simp only [daysFromCivil]
  omega

/-- January and February belong to the year before when years begin in March. -/
theorem marchYear_shift (y : Int) (m : Nat) :
    (if m ≤ 2 then y + (if m ≤ 2 then 1 else 0) - 1 else y + (if m ≤ 2 then 1 else 0)) = y := by
  split
  · omega
  · omega

/-- The month and the day of the month of a day in a year that is counted from March. -/
def monthDay (day : Int) : Nat × Nat :=
  let shifted := (5 * day + 2) / 153
  ((if shifted < 10 then shifted + 3 else shifted - 9).toNat,
    (day - (153 * shifted + 2) / 5 + 1).toNat)

theorem monthDay_spec (h0 : 0 ≤ day) (h365 : day ≤ 365) :
    1 ≤ (monthDay day).1 ∧ (monthDay day).1 ≤ 12 ∧ 1 ≤ (monthDay day).2 ∧
      (153 * ((((monthDay day).1 + 9) % 12 : Nat) : Int) + 2) / 5 + ((monthDay day).2 : Int) - 1 =
        day := by
  obtain ⟨shifted, hshifted⟩ : ∃ shifted, shifted = (5 * day + 2) / 153 := ⟨_, rfl⟩
  have hmonth : (((monthDay day).1 + 9) % 12 : Nat) = shifted := by
    simp only [monthDay, ← hshifted]
    split
    · omega
    · omega
  rw [hmonth]
  simp only [monthDay, ← hshifted]
  split
  · omega
  · omega

theorem day_le_daysInMonth (h0 : 0 ≤ day) (h365 : day ≤ 365)
    (hleap : day = 365 → isLeapYear y = true) :
    (monthDay day).2 ≤ daysInMonth y (monthDay day).1 := by
  obtain ⟨shifted, hshifted⟩ : ∃ shifted, shifted = (5 * day + 2) / 153 := ⟨_, rfl⟩
  have hd : ((monthDay day).2 : Int) = day - (153 * shifted + 2) / 5 + 1 := by
    simp only [monthDay, ← hshifted]
    omega
  have hm : ((monthDay day).1 : Int) = if shifted < 10 then shifted + 3 else shifted - 9 := by
    simp only [monthDay, ← hshifted]
    split
    · omega
    · omega
  unfold daysInMonth
  split
  · next hfebruary =>
    rw [hfebruary] at hm
    by_cases hlast : day = 365
    · rw [if_pos (hleap hlast)]
      omega
    · split <;> omega
  all_goals omega

theorem daysInMonth_le (y : Int) (m : Nat) : daysInMonth y m ≤ 31 := by
  unfold daysInMonth
  split
  · split <;> decide
  all_goals decide

/-! ## Dates -/

/-- A date of the calendar, that many days after 1970-01-01. -/
structure IsDate (y : Int) (m d : Nat) (days : Int) : Prop where
  month_pos : 1 ≤ m
  month_le : m ≤ 12
  day_pos : 1 ≤ d
  day_le : d ≤ daysInMonth y m
  days_eq : daysFromCivil y m d = days

theorem civilFromDays_eq (hdays : days + 719468 = 146097 * era + n)
    (h : EraDay n century cycle year day) :
    civilFromDays days = (400 * era + EraDay.yearOfEra century cycle year +
      (if (monthDay day).1 ≤ 2 then 1 else 0), monthDay day) := by
  have hn := h.bounds
  have hera : (days + 719468) / 146097 = era := by omega
  have hof : days + 719468 - era * 146097 = n := by omega
  have hyear := h.yearOfEra_eq
  have hday := h.daysBefore_eq rfl
  simp only [civilFromDays, hera, hof, hyear, Int.mul_comm 365, hday, Int.sub_sub_self, monthDay]
  refine Prod.ext ?_ rfl
  split
  · omega
  · omega

/-- **Every day has a date of the calendar.** -/
theorem isDate_civilFromDays (days : Int) :
    IsDate (civilFromDays days).1 (civilFromDays days).2.1 (civilFromDays days).2.2 days := by
  have hpos : 0 ≤ (days + 719468) % 146097 := Int.emod_nonneg _ (by decide)
  have hlt : (days + 719468) % 146097 < 146097 := Int.emod_lt_of_pos _ (by decide)
  obtain ⟨century, cycle, year, day, h⟩ := EraDay.exists_of_bounds hpos hlt
  have hdays := (Int.mul_ediv_add_emod (days + 719468) 146097).symm
  obtain ⟨hmonth, hmonths, hfirst, hday⟩ := monthDay_spec h.day_bounds.1 h.day_bounds.2
  rw [civilFromDays_eq hdays h]
  refine ⟨hmonth, hmonths, hfirst, ?_, ?_⟩
  · refine day_le_daysInMonth h.day_bounds.1 h.day_bounds.2 fun hlast => ?_
    have hfebruary : (monthDay day).1 ≤ 2 := by rw [hlast]; decide
    rw [if_pos hfebruary]
    exact h.isLeapYear_next hlast _
  · rw [daysFromCivil_eq_daysToMarch, marchYear_shift, h.daysToMarch_eq, hday, ← hdays]
    omega

theorem daysFromCivil_january (y : Int) :
    daysFromCivil y 1 1 = daysToMarch (y - 1) + 306 - 719468 := by
  rw [daysFromCivil_eq_daysToMarch, if_pos (by decide)]
  rfl

/-- A date is not before the first day of its year, and before the first day of the next one. -/
theorem IsDate.in_year (h : IsDate y m d days) :
    daysFromCivil y 1 1 ≤ days ∧ days < daysFromCivil (y + 1) 1 1 := by
  have hlong := h.day_le.trans (daysInMonth_le y m)
  obtain ⟨hm1, hm2, hd1, hd2, rfl⟩ := h
  have hnext := daysToMarch_succ (y - 1)
  rw [sub_add_cancel] at hnext
  rw [daysFromCivil_january, daysFromCivil_january, daysFromCivil_eq_daysToMarch, add_sub_cancel_right]
  by_cases hwinter : m ≤ 2
  · have hshifted : (m + 9) % 12 = m + 9 := by omega
    simp only [hwinter, if_true, hshifted]
    omega
  · have hshifted : (m + 9) % 12 = m - 3 := by omega
    simp only [hwinter, if_false, hshifted]
    omega

theorem firstDay_lt_iff {y z : Int} : daysFromCivil y 1 1 < daysFromCivil z 1 1 ↔ y < z := by
  have hmono : StrictMono fun y : Int => daysFromCivil y 1 1 := by
    refine strictMono_int_of_lt_succ fun y => ?_
    have hnext := daysToMarch_succ (y - 1)
    rw [sub_add_cancel] at hnext
    simp only [daysFromCivil_january, add_sub_cancel_right]
    omega
  exact hmono.lt_iff_lt

theorem IsDate.year_bounds {first last : Int} (h : IsDate y m d days)
    (hfirst : daysFromCivil first 1 1 ≤ days) (hlast : days < daysFromCivil last 1 1) :
    first ≤ y ∧ y < last := by
  have hfrom : first < y + 1 := firstDay_lt_iff.mp (hfirst.trans_lt h.in_year.2)
  have hto : y < last := firstDay_lt_iff.mp (h.in_year.1.trans_lt hlast)
  exact ⟨Int.lt_add_one_iff.mp hfrom, hto⟩

end Foreman
