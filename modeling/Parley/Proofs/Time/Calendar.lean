import Mathlib.Tactic.Lemma
import Mathlib.Tactic.SplitIfs
import Parley.Time.Timestamp

/-!
# Days and dates

Every day has a date, and the date says which day it is (`toDays_ofDays`). The date is one that is
in the calendar if its year is (`valid_ofDays`).
-/

namespace Parley.Timestamp

/-- A year of an era, counted from March, and a day of that year. Only the year before the end of a
leap year's February has a day 365. -/
structure InEra (year day : Int) : Prop where
  year_nonneg : 0 ≤ year
  year_lt : year < 400
  day_nonneg : 0 ≤ day
  day_le : day ≤ 365
  leap : day = 365 → year % 4 = 3 ∧ (year % 100 ≠ 99 ∨ year = 399)

/-- The day of an era falls into one of its years. -/
lemma inEra {day year : Int} (hday : 0 ≤ day) (hera : day < 146097)
    (hyear : year = (day - day / 1460 + day / 36524 - day / 146096) / 365) :
    InEra year (day - (365 * year + year / 4 - year / 100)) := by
  have hcentury : day / 36524 = 0 ∨ day / 36524 = 1 ∨ day / 36524 = 2 ∨ day / 36524 = 3 ∨
    day / 36524 = 4 := by omega
  have hhundred : year / 100 = day / 36524 - day / 146096 := by
    rcases hcentury with h | h | h | h | h <;> omega
  have hfour : year / 4 ≤ day / 1460 ∧ day / 1460 ≤ year / 4 + 1 := by omega
  constructor
  case year_nonneg => omega
  case year_lt => omega
  case day_nonneg => omega
  case day_le => omega
  case leap => omega

/-- The date of a day, by the year, the month and the day of the year counted from March. -/
lemma ofDays_spec (n : Int) : ∃ era year day month : Int, InEra year day ∧
    month = (5 * day + 2) / 153 ∧
    n + epochDay = era * 146097 + (365 * year + year / 4 - year / 100) + day ∧
    (Date.ofDays n).day = day - (153 * month + 2) / 5 + 1 ∧
    (month < 10 ∧ (Date.ofDays n).month = month + 3 ∧
        (Date.ofDays n).year = era * 400 + year ∨
      10 ≤ month ∧ (Date.ofDays n).month = month - 9 ∧
        (Date.ofDays n).year = era * 400 + year + 1) := by
  have hday : 0 ≤ (n + epochDay) % 146097 := Int.emod_nonneg _ (by decide)
  have hera : (n + epochDay) % 146097 < 146097 := Int.emod_lt_of_pos _ (by decide)
  have hin := inEra hday hera rfl
  refine ⟨(n + epochDay) / 146097, _, _, _, hin, rfl, by omega, ?_, ?_⟩
  · obtain ⟨-, -, hnonneg, hle, -⟩ := hin
    rw [Date.ofDays, Int.toNat_of_nonneg]
    omega
  · obtain ⟨-, -, hnonneg, hle, -⟩ := hin
    simp only [Date.ofDays]
    split_ifs <;> omega

theorem toDays_ofDays (n : Int) : (Date.ofDays n).toDays = n := by
  obtain ⟨era, year, day, month, hin, hmonth, hn, hday, hdate⟩ := ofDays_spec n
  obtain ⟨hyear, hlt, hnonneg, hle, -⟩ := hin
  rw [Date.toDays]
  obtain ⟨hlate, hmonth', hyear'⟩ | ⟨hearly, hmonth', hyear'⟩ := hdate
  · have hpast : ¬(Date.ofDays n).month ≤ 2 := by omega
    have hfrom : (((Date.ofDays n).month + 9) % 12 : Nat) = month := by omega
    simp only [if_neg hpast, hfrom, hyear', hday]
    omega
  · have hpast : (Date.ofDays n).month ≤ 2 := by omega
    have hfrom : (((Date.ofDays n).month + 9) % 12 : Nat) = month := by omega
    simp only [if_pos hpast, hfrom, hyear', hday]
    omega

/-- A day is in the calendar if its year is. -/
theorem valid_ofDays {n : Int} (hfirst : -lastYear - 1 ≤ (Date.ofDays n).year)
    (hlast : (Date.ofDays n).year ≤ lastYear) : (Date.ofDays n).valid := by
  obtain ⟨era, year, day, month, hin, hmonth, -, hday, hdate⟩ := ofDays_spec n
  obtain ⟨hyear, hlt, hnonneg, hle, hleap⟩ := hin
  have hmonths : 1 ≤ (Date.ofDays n).month ∧ (Date.ofDays n).month ≤ 12 ∧
      1 ≤ (Date.ofDays n).day := by omega
  have hdays : (Date.ofDays n).day ≤ daysInMonth (Date.ofDays n).year (Date.ofDays n).month := by
    rw [daysInMonth]
    split_ifs with hfebruary hleapYear hshort
    · omega
    · simp only [isLeapYear, Bool.and_eq_true, Bool.or_eq_true, decide_eq_true_eq] at hleapYear
      omega
    · omega
    · omega
  simp only [Date.valid, Bool.and_eq_true, decide_eq_true_eq]
  exact ⟨⟨⟨⟨⟨hfirst, hlast⟩, hmonths.1⟩, hmonths.2.1⟩, hmonths.2.2⟩, hdays⟩

end Parley.Timestamp
