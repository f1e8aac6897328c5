import Syfrah.Compute.Timestamps
import Syfrah.Lib.Calendar

/-!
# Time stamps are exact

The conversion of days to dates works with years that begin in March, in cycles of 400 years.
-/

namespace Syfrah

namespace Compute

open Calendar

section Dates

variable {year day days : ℕ}

/-- The year within a cycle, from the day within it: `c` centuries, `q` spans of four years and `s` years. -/
theorem year_of_cycle {c q s doe : ℕ} (hc : c ≤ 3) (hq : q ≤ 24) (hs : s ≤ 3)
    (hday : day < 365 ∨ day = 365 ∧ s = 3 ∧ (q = 24 → c = 3))
    (hdoe : doe = 36524 * c + 1461 * q + 365 * s + day) :
    (doe - doe / 1460 + doe / 36524 - doe / 146096) / 365 = 100 * c + 4 * q + s := by
  have hcentury : doe = 146096 ∧ c = 3 ∧ q = 24 ∧ s = 3 ∨ doe < 36524 * (c + 1) := by omega
  rcases hcentury with ⟨rfl, rfl, rfl, rfl⟩ | hlt
  · rfl
  · have hfours : doe / 1460 = 25 * c + q + (24 * c + q + 365 * s + day) / 1460 := by omega
    have hlast : (24 * c + q + 365 * s + day) / 1460 ≤ 1 := by omega
    have hhundreds : doe / 36524 = c := by omega
    have hcycle : doe / 146096 = 0 := by omega
    rw [hfours, hhundreds, hcycle]
    omega

theorem daysBefore_cycle {era yoe : ℕ} (h : yoe < 400) :
    daysBefore (400 * era + yoe) = 146097 * era + (365 * yoe + yoe / 4 - yoe / 100) := by
  have hfours : (400 * era + yoe) / 4 = 100 * era + yoe / 4 := by omega
  have hhundreds : (400 * era + yoe) / 100 = 4 * era + yoe / 100 := by omega
  have hcycles : (400 * era + yoe) / 400 = era := by omega
  have hle : yoe / 100 ≤ 365 * yoe := by omega
  rw [daysBefore, hfours, hhundreds, hcycles]
  omega

/-- The conversion without signs. -/
theorem daysToYmd_eq (days : ℕ) : daysToYmd days =
    let doe := (days + 719468) % 146097
    let yoe := (doe - doe / 1460 + doe / 36524 - doe / 146096) / 365
    ofMarch (400 * ((days + 719468) / 146097) + yoe) (doe - (365 * yoe + yoe / 4 - yoe / 100)) := by
  have hera : (if 0 ≤ (days : ℤ) + 719468 then (days : ℤ) + 719468 else (days : ℤ) + 719468 - 146096).tdiv 146097 =
      ((days + 719468) / 146097 : ℕ) := by
    rw [if_pos (by omega), Int.tdiv_eq_ediv_of_nonneg (by omega)]
    rfl
  have hdoe : ((days : ℤ) + 719468 - ((days + 719468) / 146097 : ℕ) * 146097).toNat = (days + 719468) % 146097 := by
    omega
  simp only [daysToYmd, hera, hdoe, ofMarch, monthOf, monthStart]
  generalize (days + 719468) / 146097 = era
  generalize ((days + 719468) % 146097 - (days + 719468) % 146097 / 1460 + (days + 719468) % 146097 / 36524 -
    (days + 719468) % 146097 / 146096) / 365 = yoe
  rw [apply_ite Int.toNat]
  congr 2 <;> omega

/-- A year has a day number 365 if a leap year follows. -/
theorem leap_day {era yoe : ℕ} (hday : day < yearLength (400 * era + yoe)) :
    day < 365 ∨ day = 365 ∧ yoe % 4 = 3 ∧ (yoe % 100 / 4 = 24 → yoe / 100 % 4 = 3) := by
  simp only [yearLength, isLeap_iff] at hday
  split at hday
  · rename_i hleap
    rcases Nat.lt_or_ge day 365 with hlt | hge
    · exact .inl hlt
    · exact .inr ⟨by omega, by omega, by omega⟩
  · exact .inl hday

theorem year_of_day {yoe : ℕ} (hyoe : yoe < 400)
    (hday : day < 365 ∨ day = 365 ∧ yoe % 4 = 3 ∧ (yoe % 100 / 4 = 24 → yoe / 100 % 4 = 3)) :
    let doe := 365 * yoe + yoe / 4 - yoe / 100 + day
    (doe - doe / 1460 + doe / 36524 - doe / 146096) / 365 = yoe ∧ doe < 146097 := by
  obtain ⟨c, q, s, hc, hq, hs, rfl⟩ : ∃ c q s, c ≤ 3 ∧ q ≤ 24 ∧ s ≤ 3 ∧ yoe = 100 * c + 4 * q + s :=
    ⟨yoe / 100, yoe % 100 / 4, yoe % 4, by omega, by omega, by omega, by omega⟩
  have hfours : (100 * c + 4 * q + s) / 4 = 25 * c + q := by omega
  have hhundreds : (100 * c + 4 * q + s) / 100 = c := by omega
  have hdoe : 365 * (100 * c + 4 * q + s) + (25 * c + q) - c + day = 36524 * c + 1461 * q + 365 * s + day := by omega
  have hlast : day < 365 ∨ day = 365 ∧ s = 3 ∧ (q = 24 → c = 3) := by
    rw [hhundreds] at hday
    omega
  rw [hfours, hhundreds, hdoe]
  exact ⟨year_of_cycle hc hq hs hlast rfl, by omega⟩

theorem daysToYmd_of_march (hday : day < yearLength year) (hdays : days + 719468 = daysBefore year + day) :
    daysToYmd days = ofMarch year day := by
  obtain ⟨era, yoe, hyoe, rfl⟩ : ∃ era yoe, yoe < 400 ∧ year = 400 * era + yoe :=
    ⟨year / 400, year % 400, Nat.mod_lt _ (by omega), (Nat.div_add_mod year 400).symm⟩
  obtain ⟨hyear, hbound⟩ := year_of_day hyoe (leap_day hday)
  rw [daysBefore_cycle hyoe, Nat.add_assoc] at hdays
  have hera : (days + 719468) / 146097 = era := by omega
  have hdoe : (days + 719468) % 146097 = 365 * yoe + yoe / 4 - yoe / 100 + day := by omega
  simp only [daysToYmd_eq, hera, hdoe, hyear, Nat.add_sub_cancel_left]

theorem daysToYmd_succ (days : ℕ) : daysToYmd (days + 1) = next (daysToYmd days) := by
  obtain ⟨year, day, hday, hdays⟩ := exists_daysBefore (days + 719468)
  rw [daysToYmd_of_march hday hdays]
  rcases Nat.lt_or_ge (day + 1) (yearLength year) with hnext | hlast
  · rw [next_ofMarch hnext]
    exact daysToYmd_of_march hnext (by omega)
  · have hend : day + 1 = yearLength year := by omega
    rw [next_ofMarch_last hend]
    refine daysToYmd_of_march (yearLength_pos (year + 1)) ?_
    rw [daysBefore_succ]
    omega

theorem ymdToDays_eq (year month day : ℕ) : ymdToDays year month day =
    let y := if month ≤ 2 then year - 1 else year
    146097 * (y / 400) + (365 * (y % 400) + y % 400 / 4 - y % 400 / 100 +
      ((153 * (if 2 < month then month - 3 else month + 9) + 2) / 5 + day - 1)) - 719468 := by
  rw [ymdToDays]
  generalize (if month ≤ 2 then year - 1 else year) = y
  generalize (153 * (if 2 < month then month - 3 else month + 9) + 2) / 5 + day - 1 = doy
  have hera : (if 0 ≤ (y : ℤ) then (y : ℤ) else (y : ℤ) - 399).tdiv 400 = (y / 400 : ℕ) := by
    rw [if_pos (by omega), Int.tdiv_eq_ediv_of_nonneg (by omega)]
    rfl
  have hyoe : ((y : ℤ) - (y / 400 : ℕ) * 400).toNat = y % 400 := by omega
  simp only [hera, hyoe, Nat.mul_comm (y % 400) 365]
  generalize 365 * (y % 400) + y % 400 / 4 - y % 400 / 100 + doy = doe
  omega

theorem ymdToDays_ofMarch (hday : day < yearLength year) :
    ymdToDays (ofMarch year day).1 (ofMarch year day).2.1 (ofMarch year day).2.2 =
      daysBefore year + day - 719468 := by
  have hlength : day < 366 := by
    rw [yearLength] at hday
    split at hday <;> omega
  have hcycle := @daysBefore_cycle (year / 400) _ (Nat.mod_lt year (Nat.succ_pos 399))
  rw [Nat.div_add_mod] at hcycle
  simp only [ofMarch]
  generalize hmp : (5 * day + 2) / 153 = mp
  have hstart : monthStart mp ≤ day := by rw [monthStart]; omega
  have hyear : (if monthOf mp ≤ 2 then (if monthOf mp ≤ 2 then year + 1 else year) - 1
      else if monthOf mp ≤ 2 then year + 1 else year) = year := by
    split <;> rfl
  have hmonth : (if 2 < monthOf mp then monthOf mp - 3 else monthOf mp + 9) = mp := by
    rcases Nat.lt_or_ge mp 10 with hlt | hge
    · rw [monthOf, if_pos hlt, if_pos (by omega), Nat.add_sub_cancel]
    · have hwinter : monthOf mp = mp - 9 := if_neg (Nat.not_lt.mpr hge)
      rw [hwinter, if_neg (by omega)]
      omega
  have hdoy : (153 * mp + 2) / 5 + (day - monthStart mp + 1) - 1 = day := by
    rw [monthStart] at hstart ⊢
    omega
  rw [ymdToDays_eq, hyear, hmonth, hdoy, hcycle, Nat.add_assoc]

theorem ymdToDays_daysToYmd (days : ℕ) :
    ymdToDays (daysToYmd days).1 (daysToYmd days).2.1 (daysToYmd days).2.2 = days := by
  obtain ⟨year, day, hday, hdays⟩ := exists_daysBefore (days + 719468)
  rw [daysToYmd_of_march hday hdays, ymdToDays_ofMarch hday]
  omega

/-- Years, months and days are small. -/
theorem daysToYmd_le (days : ℕ) :
    (daysToYmd days).1 ≤ days + 719469 ∧ (daysToYmd days).2.1 ≤ 12 ∧ (daysToYmd days).2.2 ≤ 366 := by
  obtain ⟨year, day, hday, hdays⟩ := exists_daysBefore (days + 719468)
  have hlength : day < 366 := by
    rw [yearLength] at hday
    split at hday <;> omega
  have hyear : year ≤ daysBefore year := by rw [daysBefore]; omega
  rw [daysToYmd_of_march hday hdays]
  refine ⟨?_, ?_, ?_⟩
  · simp only [ofMarch]
    split <;> omega
  · simp only [ofMarch, monthOf]
    split <;> omega
  · simp only [ofMarch]
    omega

end Dates

section Text

variable {width n bound : ℕ} {c : Char}

theorem toList_padded (width n : ℕ) : (padded width n).toList =
    List.replicate (width - (Nat.toDigits 10 n).length) '0' ++ Nat.toDigits 10 n := by
  rw [padded, String.toList_ofList, List.leftpad]

theorem isDigit_of_mem_padded (h : c ∈ (padded width n).toList) : c.isDigit = true := by
  rw [toList_padded] at h
  rcases List.mem_append.mp h with hzero | hdigit
  · rw [List.eq_of_mem_replicate hzero]
    rfl
  · exact Nat.isDigit_of_mem_toDigits (by omega) (by omega) hdigit

theorem notMem_padded (hc : c.isDigit = false) : c ∉ (padded width n).toList := by
  intro h
  rw [isDigit_of_mem_padded h] at hc
  cases hc

theorem foldl_zeros (k : ℕ) : (List.replicate k '0').foldl (fun n c => n * 10 + (c.toNat - '0'.toNat)) 0 = 0 := by
  induction k with
  | zero => rfl
  | succ k ih => exact ih

theorem parseUnsigned_padded (width : ℕ) (h : n < bound) : Text.parseUnsigned bound (padded width n) = some n := by
  refine Text.parseUnsigned_of_digits (fun c hc => isDigit_of_mem_padded hc) ?_ ?_ h
  · simp [toList_padded, Nat.toDigits_ne_nil]
  · rw [toList_padded, List.foldl_append, foldl_zeros, Text.foldl_toDigits]

/-- Three numbers with a separator between them. -/
def joined (c : Char) (a b d : String) : List Char := a.toList ++ c :: (b.toList ++ c :: d.toList)

theorem notMem_joined {sep : Char} {w₁ w₂ w₃ n₁ n₂ n₃ : ℕ} (hc : c.isDigit = false) (hsep : c ≠ sep) :
    c ∉ joined sep (padded w₁ n₁) (padded w₂ n₂) (padded w₃ n₃) := by
  simp [joined, notMem_padded hc, hsep]

theorem split_joined {sep : Char} {w₁ w₂ w₃ n₁ n₂ n₃ : ℕ} (hsep : sep.isDigit = false) :
    split sep (joined sep (padded w₁ n₁) (padded w₂ n₂) (padded w₃ n₃)) =
      [padded w₁ n₁, padded w₂ n₂, padded w₃ n₃] := by
  have hjoined : joined sep (padded w₁ n₁) (padded w₂ n₂) (padded w₃ n₃) =
      [sep].intercalate [(padded w₁ n₁).toList, (padded w₂ n₂).toList, (padded w₃ n₃).toList] := by
    simp [joined, List.intercalate]
  rw [split, hjoined, List.splitOn_intercalate sep ?_ (by simp)]
  · simp
  · simp [notMem_padded hsep]

theorem toList_template (year month day hours minutes seconds : String) :
    (s!"{year}-{month}-{day}T{hours}:{minutes}:" ++ s!"{seconds}Z").toList =
      joined '-' year month day ++ 'T' :: (joined ':' hours minutes seconds ++ ['Z']) := by
  have htext : ∀ s : String, toString s = s := fun _ => rfl
  simp [htext, joined]

theorem trimEndMatches_append {s : List Char} (h : c ∉ s) : trimEndMatches c (String.ofList (s ++ [c])) = s := by
  have hkeep : s.reverse.dropWhile (· == c) = s.reverse := by
    cases hs : s.reverse with
    | nil => rfl
    | cons d ds =>
        have hd : d ≠ c := fun heq => h (by rw [← List.mem_reverse, hs, heq]; exact List.mem_cons_self)
        rw [List.dropWhile_cons_of_neg (by simpa using hd)]
  rw [trimEndMatches, String.toList_ofList, List.reverse_append, List.reverse_singleton, List.singleton_append,
    List.dropWhile_cons_of_pos (by simp), hkeep, List.reverse_reverse]

theorem split_date_time {date time : List Char} (hdate : 'T' ∉ date) (htime : 'T' ∉ time) :
    split 'T' (date ++ 'T' :: time) = [String.ofList date, String.ofList time] := by
  have hparts : date ++ 'T' :: time = ['T'].intercalate [date, time] := by simp [List.intercalate]
  rw [split, hparts, List.splitOn_intercalate 'T' (by simp [hdate, htime]) (by simp)]
  rfl

theorem parseIso8601ToUnix_iso8601 {now : ℕ} (h : now < 2 ^ 64) : parseIso8601ToUnix (iso8601 now) = some now := by
  obtain ⟨hyear, hmonth, hday⟩ := daysToYmd_le (now / 86400)
  have hdays := ymdToDays_daysToYmd (now / 86400)
  rw [iso8601]
  generalize daysToYmd (now / 86400) = date at hyear hmonth hday hdays
  obtain ⟨year, month, day⟩ := date
  dsimp only at hyear hmonth hday hdays ⊢
  rw [parseIso8601ToUnix, toList_template, split_date_time (notMem_joined (by decide) (by decide))
    (by simp [notMem_joined])]
  dsimp only
  rw [String.toList_ofList, split_joined (by decide), trimEndMatches_append (notMem_joined (by decide) (by decide)),
    split_joined (by decide)]
  simp only [List.filterMap_cons, List.filterMap_nil, parseUnsigned_padded _ (show year < 2 ^ 64 by omega),
    parseUnsigned_padded _ (show month < 2 ^ 64 by omega), parseUnsigned_padded _ (show day < 2 ^ 64 by omega),
    parseUnsigned_padded _ (show now % 86400 / 3600 < 2 ^ 64 by omega),
    parseUnsigned_padded _ (show now % 86400 % 3600 / 60 < 2 ^ 64 by omega),
    parseUnsigned_padded _ (show now % 86400 % 60 < 2 ^ 64 by omega), hdays]
  congr 1
  omega

end Text

/-- **Time stamps are exact.** Days are turned into dates one after another as in the calendar, and back;
and the text of a time is read as that time. -/
theorem timestamps_exact :
    daysToYmd 0 = (1970, 1, 1) ∧ (∀ days, daysToYmd (days + 1) = next (daysToYmd days)) ∧
      (∀ days, ymdToDays (daysToYmd days).1 (daysToYmd days).2.1 (daysToYmd days).2.2 = days) ∧
      ∀ now : UInt64, parseIso8601ToUnix (chronoNowIso8601 now) = some now.toNat ∧
        nowIso8601 now = chronoNowIso8601 now :=
  ⟨rfl, daysToYmd_succ, ymdToDays_daysToYmd, fun now => ⟨parseIso8601ToUnix_iso8601 now.toNat_lt, rfl⟩⟩

end Compute

end Syfrah
