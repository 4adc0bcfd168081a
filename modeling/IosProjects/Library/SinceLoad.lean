import Mathlib.Data.Set.Basic
import IosProjects.Library.Checklist

/-!
# SinceLoad — what a loaded list still says about the ticks

A list shows ticked elements of a store. After it is loaded its elements are tapped, which turns
their ticks, they leave it some time after a tap, or they are unticked or deleted and leave it at
once. A `SinceLoad` is the record of that, and `Describes` what the list and the ticks have become.
`shows_ticked_iff` says when the list shows exactly the ticked elements again.
-/

namespace IosProjects
namespace Library

universe u

/-- What has happened since a list was loaded. -/
structure SinceLoad (α : Type u) where
  listed : List α
  -- the ticked elements that were not loaded
  missed : Set α
  taps : α → ℕ
  -- elements that a delayed removal has been run for
  removed : List α
  -- elements that were unticked or deleted
  settled : List α

namespace SinceLoad

variable {α : Type u}

/-- Nothing has happened yet. An element is ticked, or not, or it does not exist. -/
def load (listed : List α) (tick : α → Option Bool) : SinceLoad α where
  listed := listed
  missed := {a | tick a = some true ∧ a ∉ listed}
  taps := fun _ => 0
  removed := []
  settled := []

def tap [DecidableEq α] (a : α) (g : SinceLoad α) : SinceLoad α :=
  { g with taps := Checklist.addTap a g.taps }

def remove (a : α) (g : SinceLoad α) : SinceLoad α :=
  { g with removed := a :: g.removed }

def settle (as : List α) (g : SinceLoad α) : SinceLoad α :=
  { g with settled := as ++ g.settled }

/-- What is shown, and the ticks, after all that. -/
structure Describes (g : SinceLoad α) (shown : List α) (tick : α → Option Bool) : Prop where
  nodup : shown.Nodup
  listed : ∀ a ∈ shown, a ∈ g.listed
  missed : ∀ a, a ∈ g.missed ↔ a ∉ g.listed ∧ tick a = some true
  settled : ∀ a ∈ g.settled, tick a ≠ some true ∧ (a ∈ shown → tick a = none)
  -- the others are where the removals and the taps have left them
  shown_iff : ∀ a ∈ g.listed, a ∉ g.settled → (a ∈ shown ↔ a ∉ g.removed)
  tick_eq : ∀ a ∈ g.listed, a ∉ g.settled → tick a = some (decide (¬ Odd (g.taps a)))

/-- All ticked elements were loaded, and a removal has been run for an element exactly if it has
been tapped an odd number of times. -/
structure Sound (g : SinceLoad α) : Prop where
  all : ∀ a, a ∉ g.missed
  taps : ∀ a ∈ g.listed, a ∉ g.settled → (Odd (g.taps a) ↔ a ∈ g.removed)

namespace Describes

variable {g : SinceLoad α} {shown : List α} {tick tick' : α → Option Bool} {a : α}

theorem load (hnodup : shown.Nodup) (hticked : ∀ a ∈ shown, tick a = some true) :
    Describes (SinceLoad.load shown tick) shown tick where
  nodup := hnodup
  listed := fun _ ha => ha
  missed := fun _ => and_comm
  settled := fun _ ha => absurd ha List.not_mem_nil
  shown_iff := fun _ ha _ => iff_of_true ha List.not_mem_nil
  tick_eq := by
    intro a ha _
    rw [hticked a ha]
    simp [SinceLoad.load]

/-- Nothing happens to the elements that were not loaded. -/
theorem missed_congr (h : Describes g shown tick) (htick : ∀ b ∉ g.listed, tick' b = tick b)
    (b : α) :
    b ∈ g.missed ↔ b ∉ g.listed ∧ tick' b = some true := by
  rw [h.missed b]
  exact and_congr_right fun hb => by rw [htick b hb]

theorem ne_of_notMem (h : Describes g shown tick) (ha : a ∈ shown) {b : α} (hb : b ∉ g.listed) :
    b ≠ a :=
  fun heq => hb (heq ▸ h.listed a ha)

variable [DecidableEq α]

/-- A tap turns the tick of an element that is shown. -/
theorem tap (h : Describes g shown tick) (ha : a ∈ shown)
    (htick : ∀ b, tick' b = if b = a then (tick b).map (!·) else tick b) :
    Describes (g.tap a) shown tick' where
  nodup := h.nodup
  listed := h.listed
  missed := h.missed_congr fun b hb => (htick b).trans (if_neg (h.ne_of_notMem ha hb))
  settled := by
    intro b hsettled
    by_cases hb : b = a
    · -- it is shown although it is settled, so it does not exist
      subst hb
      have hnone := (h.settled b hsettled).2 ha
      simp [htick, hnone]
    · rw [htick b, if_neg hb]
      exact h.settled b hsettled
  shown_iff := h.shown_iff
  tick_eq := by
    intro b hlisted hsettled
    rw [htick b, h.tick_eq b hlisted hsettled]
    by_cases hb : b = a
    · subst hb
      by_cases hodd : Odd (g.taps b) <;>
        simp [SinceLoad.tap, Checklist.addTap, Nat.odd_add_one, hodd]
    · simp [SinceLoad.tap, Checklist.addTap, hb]

theorem remove (h : Describes g shown tick) (a : α) :
    Describes (g.remove a) (shown.erase a) tick where
  nodup := h.nodup.erase a
  listed := fun b hb => h.listed b (List.mem_of_mem_erase hb)
  missed := h.missed
  settled := fun b hb =>
    ⟨(h.settled b hb).1, fun hshown => (h.settled b hb).2 (List.mem_of_mem_erase hshown)⟩
  shown_iff := by
    intro b hlisted hsettled
    rw [h.nodup.mem_erase_iff, h.shown_iff b hlisted hsettled, SinceLoad.remove,
      List.mem_cons, not_or]
  tick_eq := h.tick_eq

/-- An element that is unticked or deleted leaves the list. -/
theorem settle (h : Describes g shown tick) (ha : a ∈ shown) (hticked : tick' a ≠ some true)
    (htick : ∀ b, b ≠ a → tick' b = tick b) : Describes (g.settle [a]) (shown.erase a) tick' where
  nodup := h.nodup.erase a
  listed := fun b hb => h.listed b (List.mem_of_mem_erase hb)
  missed := h.missed_congr fun b hb => htick b (h.ne_of_notMem ha hb)
  settled := by
    intro b hsettled
    by_cases hb : b = a
    · subst hb
      exact ⟨hticked, fun hshown => absurd hshown h.nodup.not_mem_erase⟩
    · have hbefore := h.settled b ((List.mem_cons.1 hsettled).resolve_left hb)
      rw [htick b hb]
      exact ⟨hbefore.1, fun hshown => hbefore.2 (List.mem_of_mem_erase hshown)⟩
  shown_iff := by
    intro b hlisted hsettled
    rw [SinceLoad.settle, List.singleton_append, List.mem_cons, not_or] at hsettled
    rw [List.mem_erase_of_ne hsettled.1]
    exact h.shown_iff b hlisted hsettled.2
  tick_eq := by
    intro b hlisted hsettled
    rw [SinceLoad.settle, List.singleton_append, List.mem_cons, not_or] at hsettled
    rw [htick b hsettled.1]
    exact h.tick_eq b hlisted hsettled.2

/-- The elements that are shown are deleted, and shown all the same. -/
theorem clear (h : Describes g shown tick)
    (htick : ∀ b, tick' b = if b ∈ shown then none else tick b) :
    Describes (g.settle shown) shown tick' where
  nodup := h.nodup
  listed := h.listed
  missed := h.missed_congr fun b hb => (htick b).trans (if_neg fun hshown => hb (h.listed b hshown))
  settled := by
    intro b hsettled
    rw [htick b]
    by_cases hb : b ∈ shown
    · simp [hb]
    · rw [if_neg hb]
      exact h.settled b ((List.mem_append.1 hsettled).resolve_left hb)
  shown_iff := by
    intro b hlisted hsettled
    rw [SinceLoad.settle, List.mem_append, not_or] at hsettled
    exact h.shown_iff b hlisted hsettled.2
  tick_eq := by
    intro b hlisted hsettled
    rw [SinceLoad.settle, List.mem_append, not_or] at hsettled
    rw [htick b, if_neg hsettled.1]
    exact h.tick_eq b hlisted hsettled.2

/-- Every ticked element is shown, and no other that exists, exactly if the record is sound. -/
theorem shows_ticked_iff (h : Describes g shown tick) :
    ((∀ a, tick a = some true → a ∈ shown) ∧ ∀ a ∈ shown, tick a ≠ some false) ↔ g.Sound := by
  constructor
  · rintro ⟨hall, honly⟩
    refine ⟨fun a hmissed => ?_, fun a hlisted hsettled => ?_⟩
    · obtain ⟨hlisted, htick⟩ := (h.missed a).1 hmissed
      exact hlisted (h.listed a (hall a htick))
    · have htick := h.tick_eq a hlisted hsettled
      have hshown := h.shown_iff a hlisted hsettled
      by_cases hodd : Odd (g.taps a)
      · have hgone : a ∉ shown := fun hmem => honly a hmem (by simp [htick, hodd])
        exact iff_of_true hodd (not_not.1 fun hstays => hgone (hshown.2 hstays))
      · have hstays : a ∈ shown := hall a (by simp [htick, hodd])
        exact iff_of_false hodd (hshown.1 hstays)
  · rintro ⟨hmissed, htaps⟩
    refine ⟨fun a htick => ?_, fun a hshown htick => ?_⟩
    · have hlisted : a ∈ g.listed := by
        by_contra hlisted
        exact hmissed a ((h.missed a).2 ⟨hlisted, htick⟩)
      have hsettled : a ∉ g.settled := fun hmem => (h.settled a hmem).1 htick
      have heven : ¬ Odd (g.taps a) := by
        simpa [h.tick_eq a hlisted hsettled] using htick
      exact (h.shown_iff a hlisted hsettled).2 ((htaps a hlisted hsettled).not.1 heven)
    · have hlisted : a ∈ g.listed := h.listed a hshown
      have hsettled : a ∉ g.settled := fun hmem => by
        simp [(h.settled a hmem).2 hshown] at htick
      have hodd : Odd (g.taps a) := by simpa [h.tick_eq a hlisted hsettled] using htick
      exact (h.shown_iff a hlisted hsettled).1 hshown ((htaps a hlisted hsettled).1 hodd)

end Describes

end SinceLoad

end Library
end IosProjects
