import Mathlib.Data.Rat.Floor
import Mathlib.Order.WithBot
import Mathlib.Tactic.FieldSimp
import IosProjects.Library.CivilDate

/-!
# DateFormatter — days of due dates

Every formatter of the app is a fresh `DateFormatter()` with the pattern `yyyy-MM-dd`, so all of
them agree. Most of the development leaves open how they write a date. Where the order of the texts
matters, the formatter is the Gregorian calendar at a fixed distance from UTC.
-/

namespace IosProjects
namespace TaskMaster

open IosProjects.Library

/-- Seconds since 2001-01-01 00:00 UTC. Finite `Double`s are rationals, and the code only compares
and formats them. -/
abbrev Date := ℚ

/-- A `DateFormatter()` whose `dateFormat` is `yyyy-MM-dd`. -/
structure DateFormatter where
  string : Date → String
  date : String → Option Date

/-- `DateHelper.formattedFullDate(from:)`. -/
def DateFormatter.formattedFullDate (formatter : DateFormatter) (date : Date) : String :=
  formatter.string date

/-- The date a text stands for in comparisons; only texts that are dates are ever compared. -/
def DateFormatter.parsed (formatter : DateFormatter) (text : String) : WithBot Date :=
  match formatter.date text with
  | none => ⊥
  | some date => date

/-- A text that the formatter has written is a date to it, on the day with that text. -/
def DateFormatter.ParsesDays (formatter : DateFormatter) : Prop :=
  ∀ date, ∃ day, formatter.date (formatter.string date) = some day ∧
    formatter.string day = formatter.string date

/-! ## The Gregorian calendar -/

section Gregorian

/-- 2001-01-01, counted from 0001-01-01. -/
def referenceDay : ℕ := CivilDate.daysBeforeYear 2001

/-- The day of an instant, in a zone `offset` seconds ahead of UTC. -/
def dayNumber (offset : ℚ) (date : Date) : ℤ :=
  ⌊(date + offset) / 86400⌋ + referenceDay

/-- The first instant of a day. -/
def midnight (offset : ℚ) (n : ℕ) : Date :=
  ((n : ℚ) - referenceDay) * 86400 - offset

/-- The instant lies in the years 1 to 9999. -/
def InYears (offset : ℚ) (date : Date) : Prop :=
  0 ≤ dayNumber offset date ∧ dayNumber offset date < CivilDate.daysToYear9999

instance (offset : ℚ) (date : Date) : Decidable (InYears offset date) :=
  inferInstanceAs (Decidable (_ ∧ _))

def DateFormatter.gregorian (offset : ℚ) : DateFormatter where
  string := fun date => (CivilDate.ofDayNumber (dayNumber offset date).toNat).iso
  date := fun text => (CivilDate.readIso text).map fun c => midnight offset c.dayNumber

variable {offset : ℚ}

theorem dayNumber_mono {d e : Date} (h : d ≤ e) : dayNumber offset d ≤ dayNumber offset e := by
  have hdiv : (d + offset) / 86400 ≤ (e + offset) / 86400 := by
    have hadd : d + offset ≤ e + offset := by linarith
    exact div_le_div_of_nonneg_right hadd (by norm_num)
  have hfloor := Int.floor_le_floor hdiv
  simp only [dayNumber]
  omega

/-- A day text parses to the midnight of its day. -/
theorem date_string (date : Date) :
    (DateFormatter.gregorian offset).date ((DateFormatter.gregorian offset).string date) =
      some (midnight offset (dayNumber offset date).toNat) := by
  simp [DateFormatter.gregorian, CivilDate.readIso_iso, CivilDate.dayNumber_ofDayNumber]

theorem parsed_string (date : Date) :
    (DateFormatter.gregorian offset).parsed ((DateFormatter.gregorian offset).string date) =
      (midnight offset (dayNumber offset date).toNat : WithBot Date) := by
  rw [DateFormatter.parsed, date_string]

theorem midnight_lt_midnight {m n : ℕ} : midnight offset m < midnight offset n ↔ m < n :=
  calc midnight offset m < midnight offset n
      ↔ (m - referenceDay : ℚ) * 86400 < (n - referenceDay : ℚ) * 86400 := sub_lt_sub_iff_right _
    _ ↔ (m - referenceDay : ℚ) < n - referenceDay := mul_lt_mul_iff_left₀ (by norm_num)
    _ ↔ (m : ℚ) < n := sub_lt_sub_iff_right _
    _ ↔ m < n := Nat.cast_lt

theorem dayNumber_midnight (n : ℕ) : dayNumber offset (midnight offset n) = n := by
  have hdiv : (midnight offset n + offset) / 86400 = ((n - referenceDay : ℤ) : ℚ) := by
    rw [midnight, sub_add_cancel, mul_div_cancel_right₀ _ (by norm_num)]
    push_cast
    rfl
  calc dayNumber offset (midnight offset n)
      = ⌊((n - referenceDay : ℤ) : ℚ)⌋ + referenceDay := by rw [dayNumber, hdiv]
    _ = n := by rw [Int.floor_intCast, sub_add_cancel]

/-- The midnight of a day has the text of that day. -/
theorem string_midnight (date : Date) :
    (DateFormatter.gregorian offset).string (midnight offset (dayNumber offset date).toNat) =
      (DateFormatter.gregorian offset).string date := by
  simp only [DateFormatter.gregorian, dayNumber_midnight, Int.toNat_natCast]

theorem gregorian_parsesDays (offset : ℚ) : (DateFormatter.gregorian offset).ParsesDays :=
  fun date => ⟨_, date_string date, string_midnight date⟩

/-- From the year 1 on, two instants have one text exactly when they lie on one day. -/
theorem string_eq_string {d e : Date} (hd : 0 ≤ dayNumber offset d) (he : 0 ≤ dayNumber offset e) :
    (DateFormatter.gregorian offset).string d = (DateFormatter.gregorian offset).string e ↔
      dayNumber offset d = dayNumber offset e := by
  constructor
  · intro htext
    have hparsed := @date_string offset d
    rw [htext, date_string, Option.some.injEq] at hparsed
    have hday := congrArg (dayNumber offset) hparsed
    rw [dayNumber_midnight, dayNumber_midnight, Int.toNat_of_nonneg hd,
      Int.toNat_of_nonneg he] at hday
    exact hday.symm
  · intro hday
    simp only [DateFormatter.gregorian, hday]

/-- Within the years 1 to 9999 the texts are ordered as the days. -/
theorem string_lt_string {d e : Date} (hd : InYears offset d) (he : InYears offset e) :
    (DateFormatter.gregorian offset).string d < (DateFormatter.gregorian offset).string e ↔
      (dayNumber offset d).toNat < (dayNumber offset e).toNat := by
  have hd' : (dayNumber offset d).toNat < CivilDate.daysToYear9999 := by
    have hlt := hd.2
    have hpos := hd.1
    omega
  have he' : (dayNumber offset e).toNat < CivilDate.daysToYear9999 := by
    have hlt := he.2
    have hpos := he.1
    omega
  exact CivilDate.iso_lt_iff hd' he'

/-- An earlier instant has no later text. -/
theorem string_le_string {d e : Date} (hd : InYears offset d) (he : InYears offset e)
    (h : d ≤ e) :
    (DateFormatter.gregorian offset).string d ≤ (DateFormatter.gregorian offset).string e := by
  have hmono : dayNumber offset d ≤ dayNumber offset e := dayNumber_mono h
  apply not_lt.1
  intro hlt
  have hday := (string_lt_string he hd).1 hlt
  omega

end Gregorian

end TaskMaster
end IosProjects
