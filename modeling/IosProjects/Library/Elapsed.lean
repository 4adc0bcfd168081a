import Mathlib.Algebra.Order.Floor.Ring
import Mathlib.Data.Rat.Floor
import Mathlib.Tactic.Linarith

/-!
# Elapsed — days of a calendar and days that have passed

With a fixed offset from the time scale, an instant lies in the `⌊(t + offset) / length⌋`-th day.
The whole days between two instants are counted towards zero, and the two counts differ: fewer than
`n` days can have passed since any instant of the `n` days before today, since part of the day
before those, and since every instant that is still to come.
-/

namespace IosProjects
namespace Library

section Truncate

variable {K : Type*} [Ring K] [LinearOrder K] [IsOrderedRing K] [FloorRing K]

/-- The integer part, rounded towards zero. -/
def truncate (q : K) : ℤ :=
  if 0 ≤ q then ⌊q⌋ else ⌈q⌉

/-- Below a positive bound, rounding makes no difference. -/
theorem truncate_lt_iff {q : K} {n : ℤ} (h : 0 < n) : truncate q < n ↔ q < n := by
  unfold truncate
  split
  · exact Int.floor_lt
  · rename_i hneg
    have hq : q ≤ ((0 : ℤ) : K) := by
      rw [Int.cast_zero]
      exact (not_le.1 hneg).le
    have hn : ((0 : ℤ) : K) ≤ n := Int.cast_le.2 h.le
    refine iff_of_true ((Int.ceil_le.2 hq).trans_lt h) ?_
    rw [Int.cast_zero] at hn
    exact (not_le.1 hneg).trans_le hn

end Truncate

/-- Days of one length, the first of which begins at `-offset`. -/
structure Days (K : Type*) [Zero K] [LT K] where
  length : K
  offset : K
  length_pos : 0 < length

namespace Days

variable {K : Type*} [Field K] [LinearOrder K] [IsStrictOrderedRing K] [FloorRing K]

/-- The day an instant lies in. -/
def dayOf (d : Days K) (t : K) : ℤ :=
  ⌊(t + d.offset) / d.length⌋

/-- The whole days from one instant to another. -/
def elapsed (d : Days K) (a b : K) : ℤ :=
  truncate ((b - a) / d.length)

section Elapsed

variable {d : Days K} {a b : K} {n : ℤ}

theorem dayOf_mono (h : a ≤ b) : d.dayOf a ≤ d.dayOf b :=
  Int.floor_mono (div_le_div_of_nonneg_right (by linarith) d.length_pos.le)

/-- On an earlier day is no later instant. -/
theorem lt_of_dayOf_lt (h : d.dayOf a < d.dayOf b) : a < b :=
  lt_of_not_ge fun hle => absurd (dayOf_mono hle) (not_le.2 h)

theorem elapsed_lt_iff (h : 0 < n) : d.elapsed a b < n ↔ (b - a) / d.length < n :=
  truncate_lt_iff h

/-- Less than any positive number of days has passed since a later day. -/
theorem elapsed_lt_of_dayOf_lt (h : 0 < n) (hday : d.dayOf b < d.dayOf a) : d.elapsed a b < n := by
  rw [elapsed_lt_iff h]
  have hneg : (b - a) / d.length < 0 :=
    div_neg_of_neg_of_pos (sub_neg.2 (lt_of_dayOf_lt hday)) d.length_pos
  have hn : (0 : K) < n := Int.cast_pos.2 h
  exact hneg.trans hn

/-- Where fewer than `n` days have passed, the day is at most `n` days back. -/
theorem dayOf_le_of_elapsed_lt (h : 0 < n) (hlt : d.elapsed a b < n) :
    d.dayOf b ≤ d.dayOf a + n := by
  have hdiff : (b + d.offset) / d.length < (a + d.offset) / d.length + n := by
    have heq : (b + d.offset) / d.length = (a + d.offset) / d.length + (b - a) / d.length := by
      rw [← add_div]
      congr 1
      ring
    rw [heq]
    exact add_lt_add_right ((elapsed_lt_iff h).1 hlt) _
  have hfloor : (b + d.offset) / d.length < ((d.dayOf a + n + 1 : ℤ) : K) := by
    have hnext := Int.lt_floor_add_one ((a + d.offset) / d.length)
    push_cast
    rw [dayOf]
    linarith
  exact Int.lt_add_one_iff.1 (Int.floor_lt.2 hfloor)

end Elapsed

end Days

end Library
end IosProjects
