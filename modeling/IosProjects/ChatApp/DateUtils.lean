import Mathlib.Data.Fin.VecNotation
import IosProjects.Library.Elapsed
import IosProjects.ChatApp.InboxCells

/-!
# DateUtils — which days are written as weekdays

The weekday is written when fewer than seven days have passed, and not on the day itself. Counted
back from now that leaves seven days, so no two of them have the same name. But the count is
negative for a message from a clock that is ahead, and then the weekday is written however far ahead
it is.
-/

namespace IosProjects
namespace ChatApp

open IosProjects.Library

/-! ## Formats -/

/-- The format `convertTimestampToString(timestamp:)` sets. -/
def dateFormat (F : DateFormatting) (currentDate timestamp : TimeInterval) : String :=
  if F.isDateInSameDayAs timestamp currentDate then "h:mm a"
  else
    match F.dayFromTo timestamp currentDate with
    | some daysAgo => if daysAgo < 7 then "EEEE" else "M/d/yy"
    | none => "M/d/yy"

/-- The text is the timestamp in that format. -/
theorem convertTimestampToString_eq (F : DateFormatting) (currentDate timestamp : TimeInterval) :
    convertTimestampToString F currentDate timestamp =
      F.string (dateFormat F currentDate timestamp) timestamp := by
  unfold convertTimestampToString dateFormat
  by_cases hday : F.isDateInSameDayAs timestamp currentDate = true
  · simp only [hday, if_true]
  · cases hago : F.dayFromTo timestamp currentDate with
    | none => simp [hday]
    | some daysAgo => by_cases hlt : daysAgo < 7 <;> simp [hday, hlt]

/-! ## A calendar with a fixed offset -/

/-- A calendar with a fixed offset, and its formatter. `weekdaySymbols` begins with Sunday; `string`
gives the text in the other formats. -/
structure FixedOffset where
  secondsFromGMT : ℤ
  weekdaySymbols : Fin 7 → String
  distinct : Function.Injective weekdaySymbols
  string : String → TimeInterval → String

namespace FixedOffset

def days (C : FixedOffset) : Days TimeInterval where
  length := 86400
  offset := C.secondsFromGMT
  length_pos := by norm_num

/-- The day a timestamp lies in; day `0` is 1 January 1970. -/
def dayOf (C : FixedOffset) (t : TimeInterval) : ℤ :=
  C.days.dayOf t

/-- The weekday of a day, counted from Sunday; day `0` was a Thursday. -/
def weekday (day : ℤ) : Fin 7 :=
  ⟨((day + 4) % 7).toNat, by omega⟩

def dateFormatting (C : FixedOffset) : DateFormatting where
  isDateInSameDayAs t t' := decide (C.dayOf t = C.dayOf t')
  dayFromTo t t' := some (C.days.elapsed t t')
  string format t :=
    if format = "EEEE" then C.weekdaySymbols (weekday (C.dayOf t)) else C.string format t

theorem weekday_eq_iff {day day' : ℤ} : weekday day = weekday day' ↔ day % 7 = day' % 7 := by
  rw [weekday, weekday, Fin.mk.injEq]
  omega

variable {C : FixedOffset} {now t t' : TimeInterval}

/-- A weekday is written when it is not the same day and fewer than seven days have passed. -/
theorem dateFormat_eq_weekday_iff :
    dateFormat C.dateFormatting now t = "EEEE" ↔
      C.dayOf t ≠ C.dayOf now ∧ C.days.elapsed t now < 7 := by
  by_cases hday : C.dayOf t = C.dayOf now
  · simp [dateFormat, dateFormatting, hday]
  · by_cases hlt : C.days.elapsed t now < 7 <;> simp [dateFormat, dateFormatting, hday, hlt]

/-- Every later day is written as a weekday. -/
theorem dateFormat_of_later (h : C.dayOf now < C.dayOf t) :
    dateFormat C.dateFormatting now t = "EEEE" :=
  dateFormat_eq_weekday_iff.2
    ⟨ne_of_gt h, Days.elapsed_lt_of_dayOf_lt (by norm_num) h⟩

/-- A day in the past is written as a weekday only if it is one of the last seven. -/
theorem dayOf_le_of_weekday (h : dateFormat C.dateFormatting now t = "EEEE") :
    C.dayOf now ≤ C.dayOf t + 7 :=
  Days.dayOf_le_of_elapsed_lt (by norm_num) (dateFormat_eq_weekday_iff.1 h).2

/-- The text in that format names the weekday. -/
theorem convertTimestampToString_of_weekday (h : dateFormat C.dateFormatting now t = "EEEE") :
    convertTimestampToString C.dateFormatting now t = C.weekdaySymbols (weekday (C.dayOf t)) := by
  rw [convertTimestampToString_eq, h]
  rfl

/-! ## What a weekday says -/

/-- One of the seven days before today. -/
def InLastWeek (C : FixedOffset) (now t : TimeInterval) : Prop :=
  C.dayOf now - 7 ≤ C.dayOf t ∧ C.dayOf t < C.dayOf now

/-- Two timestamps with the same weekday are of the same day, and weekdays are written for the last
seven days only. -/
structure Unambiguous (C : FixedOffset) (now t t' : TimeInterval) : Prop where
  sameDay : dateFormat C.dateFormatting now t = "EEEE" →
    dateFormat C.dateFormatting now t' = "EEEE" →
    convertTimestampToString C.dateFormatting now t =
      convertTimestampToString C.dateFormatting now t' → C.dayOf t = C.dayOf t'
  recent : ∀ timestamp ∈ [t, t'], dateFormat C.dateFormatting now timestamp = "EEEE" →
    C.InLastWeek now timestamp

/-- A timestamp is written as a weekday within the last seven days only, exactly if it is of no
later day. -/
theorem recent_iff :
    (dateFormat C.dateFormatting now t = "EEEE" → C.InLastWeek now t) ↔
      C.dayOf t ≤ C.dayOf now := by
  constructor
  · intro hrecent
    by_contra hlater
    have hbefore := (hrecent (dateFormat_of_later (not_le.1 hlater))).2
    omega
  · intro hle hweekday
    have hne := (dateFormat_eq_weekday_iff.1 hweekday).1
    have hback := dayOf_le_of_weekday hweekday
    exact ⟨by omega, by omega⟩

/-- Weekdays are unambiguous for two timestamps exactly if neither lies on a day after today. -/
theorem unambiguous_iff :
    Unambiguous C now t t' ↔ C.dayOf t ≤ C.dayOf now ∧ C.dayOf t' ≤ C.dayOf now := by
  constructor
  · rintro ⟨_, hrecent⟩
    exact ⟨recent_iff.1 (hrecent t (by simp)), recent_iff.1 (hrecent t' (by simp))⟩
  · rintro ⟨ht, ht'⟩
    have hrecent := recent_iff.2 ht
    have hrecent' := recent_iff.2 ht'
    refine ⟨fun hweekday hweekday' heq => ?_, by simpa using ⟨hrecent, hrecent'⟩⟩
    rw [convertTimestampToString_of_weekday hweekday,
      convertTimestampToString_of_weekday hweekday'] at heq
    -- seven days in a row have seven names
    have hmod := weekday_eq_iff.1 (C.distinct heq)
    obtain ⟨hback, hbefore⟩ := hrecent hweekday
    obtain ⟨hback', hbefore'⟩ := hrecent' hweekday'
    omega

/-- Universal time, in English. -/
def english : FixedOffset where
  secondsFromGMT := 0
  weekdaySymbols :=
    !["Sunday", "Monday", "Tuesday", "Wednesday", "Thursday", "Friday", "Saturday"]
  distinct := by
    unfold Function.Injective
    decide
  string := fun _ _ => ""

/-- Tomorrow and the day six days ago are both called Friday. -/
theorem two_fridays : ¬ ∀ (C : FixedOffset) (now t t' : TimeInterval), Unambiguous C now t t' := by
  intro hall
  have htoday : english.dayOf 0 = 0 := by norm_num [dayOf, Days.dayOf, days, english]
  have htomorrow : english.dayOf 86400 = 1 := by norm_num [dayOf, Days.dayOf, days, english]
  have hago : english.dayOf (-518400) = -6 := by norm_num [dayOf, Days.dayOf, days, english]
  have hsix : english.days.elapsed (-518400) 0 < 7 :=
    (Days.elapsed_lt_iff (by norm_num)).2 (by norm_num [days])
  have hweekday : dateFormat english.dateFormatting 0 86400 = "EEEE" :=
    dateFormat_of_later (by omega)
  have hweekday' : dateFormat english.dateFormatting 0 (-518400) = "EEEE" :=
    dateFormat_eq_weekday_iff.2 ⟨by omega, hsix⟩
  have hsame := (hall english 0 86400 (-518400)).sameDay hweekday hweekday' (by
    rw [convertTimestampToString_of_weekday hweekday,
      convertTimestampToString_of_weekday hweekday', htomorrow, hago]
    rfl)
  omega

end FixedOffset

end ChatApp
end IosProjects
