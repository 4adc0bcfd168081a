import Mathlib.Algebra.Ring.Parity
import Mathlib.Data.List.Basic

/-!
# Checklist — rows that go away some time after they are ticked

A checklist shows some elements, each with a mark. Tapping an element flips its mark at once and
queues the removal of its row; the removals happen later, in the order of the taps, without looking
at the mark again.

`After start taps s` says what a list has become when each element has been tapped `taps` times:
the marks count the taps, and a row is gone as soon as one of its removals has happened. `settled`
is what is left to see once no removal is queued.
-/

namespace IosProjects
namespace Library

universe u

structure Checklist (α : Type u) where
  shown : List α
  mark : α → Bool
  pending : List α

namespace Checklist

variable {α : Type u} [DecidableEq α]

/-! ## Tapping and removing -/

def tap (a : α) (s : Checklist α) : Checklist α where
  shown := s.shown
  mark := fun b => if b = a then !s.mark b else s.mark b
  pending := s.pending ++ [a]

/-- The oldest queued removal. -/
def fire (s : Checklist α) : Checklist α :=
  match s.pending with
  | [] => s
  | a :: rest => { s with shown := s.shown.erase a, pending := rest }

/-- One more tap of `a`. -/
def addTap (a : α) (taps : α → ℕ) : α → ℕ :=
  fun b => if b = a then taps b + 1 else taps b

/-! ## What a checklist has become -/

/-- `s` is `start` after each element has been tapped `taps` times and some removals happened. -/
structure After (start : Checklist α) (taps : α → ℕ) (s : Checklist α) : Prop where
  mark : ∀ a, s.mark a = if Odd (taps a) then !start.mark a else start.mark a
  nodup : s.shown.Nodup
  -- a row stays while every one of its removals is still queued
  shown : ∀ a, a ∈ s.shown ↔ a ∈ start.shown ∧ taps a ≤ s.pending.count a
  pending : ∀ a, s.pending.count a ≤ taps a
  tapped : ∀ a, taps a ≠ 0 → a ∈ start.shown

namespace After

variable {start s : Checklist α} {taps : α → ℕ}

theorem refl (hnodup : start.shown.Nodup) (hpending : start.pending = []) :
    After start (fun _ => 0) start where
  mark := by simp
  nodup := hnodup
  shown := by simp
  pending := by simp [hpending]
  tapped := by simp

theorem tap (h : After start taps s) {a : α} (ha : a ∈ s.shown) :
    After start (addTap a taps) (s.tap a) where
  mark := by
    intro b
    by_cases hb : b = a
    · -- one tap more turns the parity
      subst hb
      by_cases hodd : Odd (taps b) <;>
        simp [Checklist.tap, addTap, h.mark b, hodd, Nat.odd_add_one]
    · simp [Checklist.tap, addTap, h.mark b, hb]
  nodup := h.nodup
  shown := by
    intro b
    by_cases hb : b = a
    · subst hb
      simpa [Checklist.tap, addTap] using h.shown b
    · simpa [Checklist.tap, addTap, hb, Ne.symm hb] using h.shown b
  pending := by
    intro b
    by_cases hb : b = a
    · subst hb
      simpa [Checklist.tap, addTap] using h.pending b
    · simpa [Checklist.tap, addTap, hb, Ne.symm hb] using h.pending b
  tapped := by
    intro b hne
    by_cases hb : b = a
    · subst hb
      exact ((h.shown b).1 ha).1
    · exact h.tapped b (by simpa [addTap, hb] using hne)

theorem fire (h : After start taps s) : After start taps s.fire := by
  cases hpending : s.pending with
  | nil =>
      have hsame : s.fire = s := by simp [Checklist.fire, hpending]
      rw [hsame]
      exact h
  | cons a rest =>
      have hfire : s.fire = { s with shown := s.shown.erase a, pending := rest } := by
        simp [Checklist.fire, hpending]
      -- the head of the queue accounts for one removal of `a`, which is why its row goes now
      have hcount : ∀ b, s.pending.count b = rest.count b + if b = a then 1 else 0 := by
        intro b
        by_cases hb : b = a
        · subst hb
          simp [hpending]
        · simp [hpending, hb, Ne.symm hb]
      rw [hfire]
      exact {
        mark := h.mark
        nodup := h.nodup.erase a
        shown := by
          intro b
          have hb' := h.pending b
          rw [hcount b] at hb'
          simp only [h.nodup.mem_erase_iff, h.shown b, hcount b]
          by_cases hb : b = a
          · simp only [hb, if_true] at hb' ⊢
            constructor
            · rintro ⟨hne, _⟩
              exact (hne rfl).elim
            · rintro ⟨_, hle⟩
              exact absurd hb' (by omega)
          · simp [hb]
        pending := by
          intro b
          have hb' := h.pending b
          rw [hcount b] at hb'
          exact le_trans (Nat.le_add_right _ _) hb'
        tapped := h.tapped }

/-- With no removal queued, exactly the elements never tapped are still shown. -/
theorem shown_iff (h : After start taps s) (hpending : s.pending = []) (a : α) :
    a ∈ s.shown ↔ a ∈ start.shown ∧ taps a = 0 := by
  rw [h.shown a, hpending, List.count_nil, Nat.le_zero]

/-- A list that showed exactly the elements with one mark still does so, once no removal is queued,
if and only if no element was tapped a positive even number of times. -/
theorem settled (h : After start taps s) (hpending : s.pending = []) {p : α → Prop}
    (hp : ∀ a ∈ start.shown, p a) {b : Bool}
    (hstart : ∀ a, p a → (a ∈ start.shown ↔ start.mark a = b)) :
    (∀ a, p a → (a ∈ s.shown ↔ s.mark a = b)) ↔ ∀ a, taps a = 0 ∨ Odd (taps a) := by
  constructor
  · intro hshown a
    by_cases hzero : taps a = 0
    · exact Or.inl hzero
    · refine Or.inr ?_
      by_contra heven
      -- tapped an even number of times, the element has its old mark, but its row is gone
      have hmem := h.tapped a hzero
      have hmark : s.mark a = b := by
        rw [h.mark a, if_neg heven]
        exact (hstart a (hp a hmem)).1 hmem
      have hstill := (hshown a (hp a hmem)).2 hmark
      exact hzero ((h.shown_iff hpending a).1 hstill).2
  · intro htaps a ha
    rw [h.shown_iff hpending, h.mark a]
    rcases htaps a with hzero | hodd
    · simp [hzero, hstart a ha]
    · have hne : taps a ≠ 0 := by
        intro hzero
        simp [hzero] at hodd
      have hmark := (hstart a ha).1 (h.tapped a hne)
      simp [hodd, hne, hmark]

end After

end Checklist

end Library
end IosProjects
