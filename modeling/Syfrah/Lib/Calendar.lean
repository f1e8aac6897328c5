import Mathlib.Data.Nat.Basic
import Mathlib.Tactic.IntervalCases

/-!
# The Gregorian calendar

Dates are triples of year, month and day. Years that begin in March have their leap day at the end, so
that the months before it do not depend on the year.
-/

namespace Syfrah

namespace Calendar

abbrev Date := ℕ × ℕ × ℕ

def isLeap (year : ℕ) : Bool := year % 4 = 0 && (year % 100 ≠ 0 || year % 400 = 0)

def daysInMonth (year month : ℕ) : ℕ :=
  if month = 2 then if isLeap year then 29 else 28
  else if month = 4 ∨ month = 6 ∨ month = 9 ∨ month = 11 then 30
  else 31

/-- The day after a date. -/
def next : Date → Date
  | (year, month, day) =>
    if day < daysInMonth year month then (year, month, day + 1)
    else if month < 12 then (year, month + 1, 1)
    else (year + 1, 1, 1)

/-- The days from 1 March of year 0 to 1 March of a year. -/
def daysBefore (year : ℕ) : ℕ := 365 * year + year / 4 - year / 100 + year / 400

/-- The length of a year that begins in March. -/
def yearLength (year : ℕ) : ℕ := if isLeap (year + 1) then 366 else 365

theorem div_succ (year n : ℕ) :
    (year + 1) / n = year / n + if (year + 1) % n = 0 then 1 else 0 := by
  rw [Nat.succ_div]
  simp only [Nat.dvd_iff_mod_eq_zero]

theorem isLeap_iff (year : ℕ) : isLeap year = true ↔ year % 4 = 0 ∧ (year % 100 = 0 → year % 400 = 0) := by
  simp only [isLeap, Bool.and_eq_true, Bool.or_eq_true, decide_eq_true_eq]
  omega

theorem daysBefore_succ (year : ℕ) : daysBefore (year + 1) = daysBefore year + yearLength year := by
  have hcentury : (year + 1) % 100 = 0 → (year + 1) % 4 = 0 := by omega
  have hcycle : (year + 1) % 400 = 0 → (year + 1) % 100 = 0 := by omega
  have hle : year / 100 ≤ 365 * year := by omega
  simp only [daysBefore, yearLength, isLeap_iff, div_succ]
  generalize year / 4 = fours, year / 100 = centuries, year / 400 = cycles at hle ⊢
  split_ifs <;> omega

theorem yearLength_pos (year : ℕ) : 0 < yearLength year := by
  rw [yearLength]
  split <;> omega

/-- The months from March on, counted from 0. -/
def monthOf (mp : ℕ) : ℕ := if mp < 10 then mp + 3 else mp - 9

/-- The days before a month in a year that begins in March. -/
def monthStart (mp : ℕ) : ℕ := (153 * mp + 2) / 5

/-- The date of a day of a year that begins in March, counted from 0. -/
def ofMarch (year day : ℕ) : Date :=
  let mp := (5 * day + 2) / 153
  (if monthOf mp ≤ 2 then year + 1 else year, monthOf mp, day - monthStart mp + 1)

/-- All months but February. -/
theorem daysInMonth_monthOf (year : ℕ) {mp : ℕ} (h : mp < 11) :
    daysInMonth year (monthOf mp) = monthStart (mp + 1) - monthStart mp := by
  interval_cases mp <;> rfl

/-- The day after the last one of a month. -/
theorem next_monthOf (year : ℕ) {mp day : ℕ} (h : mp < 11)
    (hday : ¬ day < daysInMonth (if monthOf mp ≤ 2 then year + 1 else year) (monthOf mp)) :
    next (if monthOf mp ≤ 2 then year + 1 else year, monthOf mp, day) =
      (if monthOf (mp + 1) ≤ 2 then year + 1 else year, monthOf (mp + 1), 1) := by
  rw [next, if_neg hday]
  interval_cases mp <;> rfl

theorem next_ofMarch {year day : ℕ} (h : day + 1 < yearLength year) :
    next (ofMarch year day) = ofMarch year (day + 1) := by
  have hlength : yearLength year ≤ 366 := by
    rw [yearLength]
    split <;> omega
  rw [ofMarch, ofMarch]
  generalize hmp : (5 * day + 2) / 153 = mp
  have hstart : monthStart mp ≤ day := by rw [monthStart]; omega
  rcases Nat.lt_or_ge (day + 1) (monthStart (mp + 1)) with hsame | hlast
  · have hmp' : (5 * (day + 1) + 2) / 153 = mp := by rw [monthStart] at hsame; omega
    have hinside : day - monthStart mp + 1 < daysInMonth (if monthOf mp ≤ 2 then year + 1 else year) (monthOf mp) := by
      rcases Nat.lt_or_ge mp 11 with hlt | hge
      · rw [daysInMonth_monthOf _ hlt]
        omega
      · obtain rfl : mp = 11 := by omega
        -- the leap day ends the year
        rw [yearLength] at h
        change day - 337 + 1 < if isLeap (year + 1) then 29 else 28
        change 337 ≤ day at hstart
        split at h <;> simp only [*, if_true, Bool.false_eq_true, if_false] <;> omega
    rw [hmp', next, if_pos hinside]
    congr 2
    omega
  · have hmp' : (5 * (day + 1) + 2) / 153 = mp + 1 ∧ day + 1 = monthStart (mp + 1) := by
      simp only [monthStart] at hlast ⊢
      omega
    have hlt : mp < 11 := by omega
    have hdays := daysInMonth_monthOf (if monthOf mp ≤ 2 then year + 1 else year) hlt
    rw [hmp'.1, next_monthOf year hlt (by omega), hmp'.2, Nat.sub_self]

theorem next_ofMarch_last {year day : ℕ} (h : day + 1 = yearLength year) :
    next (ofMarch year day) = ofMarch (year + 1) 0 := by
  rw [yearLength] at h
  split at h
  · obtain rfl : day = 365 := by omega
    have hfebruary : daysInMonth (year + 1) 2 = 29 := by rw [daysInMonth, if_pos rfl, if_pos ‹_›]
    change next (year + 1, 2, 29) = (year + 1, 3, 1)
    rw [next, hfebruary]
    rfl
  · obtain rfl : day = 364 := by omega
    have hfebruary : daysInMonth (year + 1) 2 = 28 := by rw [daysInMonth, if_pos rfl, if_neg ‹_›]
    change next (year + 1, 2, 28) = (year + 1, 3, 1)
    rw [next, hfebruary]
    rfl

/-- Every day is in some year. -/
theorem exists_daysBefore (days : ℕ) : ∃ year day, day < yearLength year ∧ days = daysBefore year + day := by
  induction days with
  | zero => exact ⟨0, 0, yearLength_pos 0, rfl⟩
  | succ days ih =>
      obtain ⟨year, day, hlt, rfl⟩ := ih
      rcases Nat.lt_or_ge (day + 1) (yearLength year) with hnext | hlast
      · exact ⟨year, day + 1, hnext, rfl⟩
      · refine ⟨year + 1, 0, yearLength_pos (year + 1), ?_⟩
        rw [daysBefore_succ]
        omega

end Calendar

end Syfrah
