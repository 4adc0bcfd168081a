import Mathlib.Data.Nat.Find
import Mathlib.Data.String.Basic
import Mathlib.Tactic.IntervalCases
import IosProjects.Library.Decimal
import IosProjects.Library.Lists

/-!
# CivilDate — Gregorian dates, counted from 1 January of the year 1

`ofDayNumber n` is the proleptic Gregorian date of the `n`-th day, where day `0` is 0001-01-01, and
`dayNumber` counts back. `iso` writes a date as `yyyy-MM-dd`.

* `dayNumber_ofDayNumber` — counting back recovers the day, so the date determines the day;
* `readIso_iso` — reading the text gives the day back, so the text determines it too;
* `iso_lt_iff` — up to the year 9999 the texts are ordered as the days are.
-/

namespace IosProjects
namespace Library

/-! ## The calendar -/

structure CivilDate where
  year : ℕ
  month : ℕ
  day : ℕ
  deriving DecidableEq, Repr

namespace CivilDate

def isLeapYear (y : ℕ) : Bool :=
  y % 4 = 0 && (y % 100 ≠ 0 || y % 400 = 0)

/-- Days from 0001-01-01 to 1 January of year `y`. -/
def daysBeforeYear (y : ℕ) : ℕ :=
  365 * (y - 1) + (y - 1) / 4 - (y - 1) / 100 + (y - 1) / 400

/-- Days from 1 January to the first of month `m`, in a common year. -/
def daysBeforeMonthCommon : ℕ → ℕ
  | 0 => 0
  | 1 => 0
  | 2 => 31
  | 3 => 59
  | 4 => 90
  | 5 => 120
  | 6 => 151
  | 7 => 181
  | 8 => 212
  | 9 => 243
  | 10 => 273
  | 11 => 304
  | _ => 334

def daysBeforeMonth (y m : ℕ) : ℕ :=
  daysBeforeMonthCommon m + if isLeapYear y ∧ 3 ≤ m then 1 else 0

/-- The number of the day a date names. -/
def dayNumber (c : CivilDate) : ℕ :=
  daysBeforeYear c.year + daysBeforeMonth c.year c.month + (c.day - 1)

/-- The last year that has begun by day `n`. -/
def yearOf (n : ℕ) : ℕ :=
  Nat.findGreatest (fun y => daysBeforeYear y ≤ n) (n / 365 + 1)

/-- The last month of year `y` that has begun by the `r`-th day of the year. -/
def monthOf (y r : ℕ) : ℕ :=
  Nat.findGreatest (fun m => daysBeforeMonth y m ≤ r) 12

def dayOfYear (n : ℕ) : ℕ :=
  n - daysBeforeYear (yearOf n)

/-- The date of the `n`-th day. -/
def ofDayNumber (n : ℕ) : CivilDate where
  year := yearOf n
  month := monthOf (yearOf n) (dayOfYear n)
  day := dayOfYear n - daysBeforeMonth (yearOf n) (monthOf (yearOf n) (dayOfYear n)) + 1

theorem daysBeforeYear_one : daysBeforeYear 1 = 0 := rfl

theorem daysBeforeMonth_one (y : ℕ) : daysBeforeMonth y 1 = 0 := by
  simp [daysBeforeMonth, daysBeforeMonthCommon]

theorem daysBeforeYear_yearOf_le (n : ℕ) : daysBeforeYear (yearOf n) ≤ n :=
  Nat.findGreatest_spec (P := fun y => daysBeforeYear y ≤ n) (Nat.le_add_left 1 _)
    (by rw [daysBeforeYear_one]; exact Nat.zero_le n)

theorem daysBeforeMonth_monthOf_le (y r : ℕ) : daysBeforeMonth y (monthOf y r) ≤ r :=
  Nat.findGreatest_spec (P := fun m => daysBeforeMonth y m ≤ r) (by norm_num : 1 ≤ 12)
    (by rw [daysBeforeMonth_one]; exact Nat.zero_le r)

/-- Counting the days before the date of day `n` gives `n`. -/
theorem dayNumber_ofDayNumber (n : ℕ) : (ofDayNumber n).dayNumber = n := by
  have hyear := daysBeforeYear_yearOf_le n
  have hmonth := daysBeforeMonth_monthOf_le (yearOf n) (dayOfYear n)
  simp only [dayNumber, ofDayNumber]
  simp only [dayOfYear] at hmonth ⊢
  omega

theorem one_le_yearOf (n : ℕ) : 1 ≤ yearOf n :=
  Nat.le_findGreatest (Nat.le_add_left 1 _) (by rw [daysBeforeYear_one]; exact Nat.zero_le n)

theorem one_le_monthOf (y r : ℕ) : 1 ≤ monthOf y r :=
  Nat.le_findGreatest (by norm_num) (by rw [daysBeforeMonth_one]; exact Nat.zero_le r)

theorem monthOf_le_twelve (y r : ℕ) : monthOf y r ≤ 12 :=
  Nat.findGreatest_le 12

def daysInYear (y : ℕ) : ℕ :=
  365 + if isLeapYear y then 1 else 0

theorem daysBeforeYear_succ {y : ℕ} (h : 1 ≤ y) :
    daysBeforeYear (y + 1) = daysBeforeYear y + daysInYear y := by
  -- each quotient grows by one exactly in the years it divides
  have h4 : y / 4 = (y - 1) / 4 + if y % 4 = 0 then 1 else 0 := by split <;> omega
  have h100 : y / 100 = (y - 1) / 100 + if y % 100 = 0 then 1 else 0 := by split <;> omega
  have h400 : y / 400 = (y - 1) / 400 + if y % 400 = 0 then 1 else 0 := by split <;> omega
  have hcentury : (y - 1) / 100 ≤ (y - 1) / 4 := Nat.div_le_div_left (by norm_num) (by norm_num)
  have hleap : isLeapYear y = true ↔ y % 4 = 0 ∧ (y % 100 ≠ 0 ∨ y % 400 = 0) := by
    simp [isLeapYear]
  simp only [daysBeforeYear, daysInYear, hleap, Nat.add_sub_cancel, h4, h100, h400]
  generalize (y - 1) / 4 = a at *
  generalize (y - 1) / 100 = b at *
  generalize (y - 1) / 400 = c at *
  by_cases hy4 : y % 4 = 0
  · by_cases hy100 : y % 100 = 0
    · by_cases hy400 : y % 400 = 0 <;> simp [hy4, hy100, hy400] <;> omega
    · have hy400 : ¬ y % 400 = 0 := by omega
      simp [hy4, hy100, hy400]
      omega
  · have hy100 : ¬ y % 100 = 0 := by omega
    have hy400 : ¬ y % 400 = 0 := by omega
    simp [hy4, hy100, hy400]
    omega

/-- Day `n` lies within the year found for it. -/
theorem dayOfYear_lt (n : ℕ) : dayOfYear n < daysInYear (yearOf n) := by
  have hyear := daysBeforeYear_yearOf_le n
  have hsucc := daysBeforeYear_succ (one_le_yearOf n)
  by_contra hge
  -- otherwise the next year has begun as well, and the search would have found it
  have hnext : daysBeforeYear (yearOf n + 1) ≤ n := by
    simp only [dayOfYear] at hge
    omega
  have hbound : yearOf n + 1 ≤ n / 365 + 1 := by
    simp only [daysBeforeYear] at hnext
    omega
  exact Nat.findGreatest_is_greatest (P := fun y => daysBeforeYear y ≤ n)
    (Nat.lt_succ_self (yearOf n)) hbound hnext

/-- A month has at most 31 days. -/
theorem daysBeforeMonth_succ_le (y : ℕ) {m : ℕ} (hm : 1 ≤ m) (hm' : m < 12) :
    daysBeforeMonth y (m + 1) ≤ daysBeforeMonth y m + 31 := by
  cases hleap : isLeapYear y <;> interval_cases m <;>
    simp [daysBeforeMonth, daysBeforeMonthCommon, hleap]

theorem daysInYear_eq (y : ℕ) : daysInYear y = daysBeforeMonth y 12 + 31 := by
  cases hleap : isLeapYear y <;>
    simp [daysInYear, daysBeforeMonth, daysBeforeMonthCommon, hleap]

theorem dayOfMonth_le (n : ℕ) : (ofDayNumber n).day ≤ 31 := by
  have hlt := dayOfYear_lt n
  have hle := daysBeforeMonth_monthOf_le (yearOf n) (dayOfYear n)
  have hend : dayOfYear n < daysBeforeMonth (yearOf n) (monthOf (yearOf n) (dayOfYear n)) + 31 := by
    -- December is closed by the end of the year, the other months by the next month
    rcases (monthOf_le_twelve (yearOf n) (dayOfYear n)).lt_or_eq with hmonth | hmonth
    · have hnext := Nat.findGreatest_is_greatest
        (P := fun m => daysBeforeMonth (yearOf n) m ≤ dayOfYear n)
        (Nat.lt_succ_self (monthOf (yearOf n) (dayOfYear n))) hmonth
      have hsucc := daysBeforeMonth_succ_le (yearOf n) (one_le_monthOf _ _) hmonth
      exact (not_le.1 hnext).trans_le hsucc
    · rw [hmonth, ← daysInYear_eq]
      exact hlt
  simp only [ofDayNumber]
  omega

/-! ## Order -/

theorem yearOf_mono {m n : ℕ} (h : m ≤ n) : yearOf m ≤ yearOf n := by
  have hbegun : daysBeforeYear (yearOf m) ≤ n := (daysBeforeYear_yearOf_le m).trans h
  have hbound : yearOf m ≤ n / 365 + 1 :=
    (Nat.findGreatest_le _).trans (Nat.add_le_add_right (Nat.div_le_div_right h) 1)
  exact Nat.le_findGreatest hbound hbegun

theorem monthOf_mono (y : ℕ) {r s : ℕ} (h : r ≤ s) : monthOf y r ≤ monthOf y s :=
  Nat.le_findGreatest (monthOf_le_twelve y r) ((daysBeforeMonth_monthOf_le y r).trans h)

/-- A later day has a date that is later in its year, else in its month, else in its day. -/
theorem ofDayNumber_lt {m n : ℕ} (h : m < n) :
    (ofDayNumber m).year < (ofDayNumber n).year ∨
      (ofDayNumber m).year = (ofDayNumber n).year ∧
        ((ofDayNumber m).month < (ofDayNumber n).month ∨
          (ofDayNumber m).month = (ofDayNumber n).month ∧
            (ofDayNumber m).day < (ofDayNumber n).day) := by
  rcases (yearOf_mono h.le).lt_or_eq with hyear | hyear
  · exact Or.inl hyear
  -- in the same year the days are compared by their distance from its first day
  have hday : dayOfYear m < dayOfYear n := by
    have hm := daysBeforeYear_yearOf_le m
    simp only [dayOfYear, ← hyear]
    omega
  refine Or.inr ⟨hyear, ?_⟩
  have hmono : (ofDayNumber m).month ≤ (ofDayNumber n).month := by
    have hmonth := monthOf_mono (yearOf m) hday.le
    simpa only [ofDayNumber, hyear] using hmonth
  rcases hmono.lt_or_eq with hmonth | hmonth
  · exact Or.inl hmonth
  refine Or.inr ⟨hmonth, ?_⟩
  have hle := daysBeforeMonth_monthOf_le (yearOf m) (dayOfYear m)
  simp only [ofDayNumber] at hmonth ⊢
  rw [← hmonth, ← hyear]
  omega

/-- Days before the year 10000. -/
def daysToYear9999 : ℕ := daysBeforeYear 10000

theorem year_lt_of_lt {n : ℕ} (h : n < daysToYear9999) : (ofDayNumber n).year < 10000 := by
  have hyear := daysBeforeYear_yearOf_le n
  by_contra hge
  have hge' : 10000 ≤ yearOf n := not_lt.1 hge
  simp only [daysToYear9999, daysBeforeYear] at h hyear
  omega

/-! ## The ISO text -/

/-- The characters of `yyyy-MM-dd`. -/
def isoChars (c : CivilDate) : List Char :=
  decimal 4 c.year ++ '-' :: (decimal 2 c.month ++ '-' :: decimal 2 c.day)

theorem dash_notMem_decimal (w n : ℕ) : '-' ∉ decimal w n := by
  intro h
  exact absurd (isDigit_of_mem_decimal h) (by decide)

theorem month_lt (n : ℕ) : (ofDayNumber n).month < 10 ^ 2 :=
  (monthOf_le_twelve _ _).trans_lt (by norm_num)

theorem day_lt (n : ℕ) : (ofDayNumber n).day < 10 ^ 2 :=
  (dayOfMonth_le n).trans_lt (by norm_num)

theorem isoChars_lt {m n : ℕ} (hm : m < daysToYear9999) (hn : n < daysToYear9999) (h : m < n) :
    isoChars (ofDayNumber m) < isoChars (ofDayNumber n) := by
  have hym : (ofDayNumber m).year < 10 ^ 4 := year_lt_of_lt hm
  have hyn : (ofDayNumber n).year < 10 ^ 4 := year_lt_of_lt hn
  -- numerals of one width, so the first difference of the texts is that of the numbers
  have hylen :
      (decimal 4 (ofDayNumber m).year).length = (decimal 4 (ofDayNumber n).year).length := by
    rw [decimal_length hym, decimal_length hyn]
  have hmlen :
      (decimal 2 (ofDayNumber m).month).length = (decimal 2 (ofDayNumber n).month).length := by
    rw [decimal_length (month_lt m), decimal_length (month_lt n)]
  rw [isoChars, isoChars, append_lt_append_iff hylen, decimal_lt_decimal_iff hym hyn]
  rcases ofDayNumber_lt h with hyear | ⟨hyear, hrest⟩
  · exact Or.inl hyear
  refine Or.inr ⟨by rw [hyear], List.cons_lt_cons_iff.2 (Or.inr ⟨rfl, ?_⟩)⟩
  rw [append_lt_append_iff hmlen, decimal_lt_decimal_iff (month_lt m) (month_lt n)]
  rcases hrest with hmonth | ⟨hmonth, hday⟩
  · exact Or.inl hmonth
  refine Or.inr ⟨by rw [hmonth], List.cons_lt_cons_iff.2 (Or.inr ⟨rfl, ?_⟩)⟩
  exact (decimal_lt_decimal_iff (day_lt m) (day_lt n)).2 hday

/-- `yyyy-MM-dd`. -/
def iso (c : CivilDate) : String :=
  String.ofList (isoChars c)

/-- Up to the year 9999, `yyyy-MM-dd` texts are ordered as the days they name. -/
theorem iso_lt_iff {m n : ℕ} (hm : m < daysToYear9999) (hn : n < daysToYear9999) :
    iso (ofDayNumber m) < iso (ofDayNumber n) ↔ m < n := by
  have hlists : iso (ofDayNumber m) < iso (ofDayNumber n) ↔
      isoChars (ofDayNumber m) < isoChars (ofDayNumber n) := by
    rw [String.lt_iff_toList_lt]
    simp [iso]
  rw [hlists]
  constructor
  · intro h
    by_contra hge
    rcases (not_lt.1 hge).lt_or_eq with hlt | heq
    · exact List.lt_asymm h (isoChars_lt hn hm hlt)
    · rw [heq] at h
      exact List.lt_irrefl _ h
  · exact isoChars_lt hm hn

/-! ## Reading the text back -/

/-- The date three numerals between dashes name, if there is such a day. -/
def readIso (s : String) : Option CivilDate :=
  match s.toList.splitOn '-' with
  | [ys, ms, ds] => do
      let year ← readDecimal ys
      let month ← readDecimal ms
      let day ← readDecimal ds
      let c : CivilDate := ⟨year, month, day⟩
      if ofDayNumber c.dayNumber = c then some c else none
  | _ => none

theorem splitOn_isoChars (c : CivilDate) :
    (isoChars c).splitOn '-' = [decimal 4 c.year, decimal 2 c.month, decimal 2 c.day] := by
  -- no numeral contains the separator
  have hjoin : isoChars c =
      ['-'].intercalate [decimal 4 c.year, decimal 2 c.month, decimal 2 c.day] := by
    simp [isoChars, List.intercalate]
  rw [hjoin]
  refine List.splitOn_intercalate '-' ?_ (by simp)
  intro cs hcs
  rcases List.mem_cons.1 hcs with rfl | hcs
  · exact dash_notMem_decimal 4 c.year
  rcases List.mem_cons.1 hcs with rfl | hcs
  · exact dash_notMem_decimal 2 c.month
  · obtain rfl := List.mem_singleton.1 hcs
    exact dash_notMem_decimal 2 c.day

/-- Reading recovers the date of every day. -/
theorem readIso_iso (n : ℕ) : readIso (iso (ofDayNumber n)) = some (ofDayNumber n) := by
  have hday := congrArg ofDayNumber (dayNumber_ofDayNumber n)
  simpa [readIso, iso, splitOn_isoChars, readDecimal_decimal] using hday

end CivilDate

end Library
end IosProjects
