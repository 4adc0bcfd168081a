import Mathlib.Data.Multiset.ZeroCons
import Mathlib.Data.Set.Insert

/-!
# Saga — things that are created first and completed later

Something is created, and a job is started that completes it in several steps. The job may be
abandoned on the way, and nobody takes it up again. `Accounted` says that everything created is
complete or has its job in flight; the moves that abandon a job are the ones that lose it, and it
never comes back.
-/

namespace IosProjects
namespace Library

universe u

/-- A job is in flight once at most, for something that was created and is not complete. -/
structure Saga (ι : Type u) where
  created : Set ι
  complete : Set ι
  inFlight : Multiset ι
  inFlight_nodup : inFlight.Nodup
  inFlight_created : ∀ i ∈ inFlight, i ∈ created
  inFlight_incomplete : ∀ i ∈ inFlight, i ∉ complete

namespace Saga

variable {ι : Type u}

inductive Move (ι : Type u) where
  | idle
  | create (i : ι)
  | createOnly (i : ι)
  | complete (i : ι)
  | abandon (i : ι)

/-- What a move does; `createOnly` creates something and starts no job. -/
inductive Step : Saga ι → Move ι → Saga ι → Prop where
  | idle {g g' : Saga ι} :
      g'.created = g.created → g'.complete = g.complete → g'.inFlight = g.inFlight → Step g .idle g'
  | create {g g' : Saga ι} {i : ι} :
      i ∉ g.created → i ∉ g.complete → g'.created = insert i g.created → g'.complete = g.complete →
      g'.inFlight = i ::ₘ g.inFlight → Step g (.create i) g'
  | createOnly {g g' : Saga ι} {i : ι} :
      i ∉ g.created → i ∉ g.complete → g'.created = insert i g.created → g'.complete = g.complete →
      g'.inFlight = g.inFlight → Step g (.createOnly i) g'
  | complete {g g' : Saga ι} {i : ι} :
      g.inFlight = i ::ₘ g'.inFlight → g'.created = g.created →
      g'.complete = insert i g.complete → Step g (.complete i) g'
  | abandon {g g' : Saga ι} {i : ι} :
      g.inFlight = i ::ₘ g'.inFlight → g'.created = g.created → g'.complete = g.complete →
      Step g (.abandon i) g'

def Move.Abandons : Move ι → Prop
  | .createOnly _ | .abandon _ => True
  | _ => False

/-- Everything created is complete or on its way. -/
def Accounted (g : Saga ι) : Prop :=
  ∀ i ∈ g.created, i ∈ g.complete ∨ i ∈ g.inFlight

/-- With no job in flight, everything is accounted for exactly when everything is complete. -/
theorem accounted_iff_of_inFlight_eq_zero {g : Saga ι} (h : g.inFlight = 0) :
    g.Accounted ↔ g.created ⊆ g.complete := by
  simp [Accounted, h, Set.subset_def]

theorem accounted_createOnly {g g' : Saga ι} {i : ι} (hcreated : i ∉ g.created)
    (hcomplete : i ∉ g.complete) (hcreated' : g'.created = insert i g.created)
    (hcomplete' : g'.complete = g.complete) (hinFlight : g'.inFlight = g.inFlight) :
    ¬ g'.Accounted := by
  intro h
  rcases h i (by rw [hcreated']; exact Set.mem_insert _ _) with hmem | hmem
  · exact hcomplete (hcomplete' ▸ hmem)
  · exact hcreated (g.inFlight_created i (hinFlight ▸ hmem))

theorem accounted_abandon {g g' : Saga ι} {i : ι} (hinFlight : g.inFlight = i ::ₘ g'.inFlight)
    (hcreated : g'.created = g.created) (hcomplete : g'.complete = g.complete) :
    ¬ g'.Accounted := by
  intro h
  have hmem : i ∈ g.inFlight := hinFlight ▸ Multiset.mem_cons_self i _
  have hnodup := g.inFlight_nodup
  rw [hinFlight, Multiset.nodup_cons] at hnodup
  rcases h i (hcreated ▸ g.inFlight_created i hmem) with hdone | hrunning
  · exact g.inFlight_incomplete i hmem (hcomplete ▸ hdone)
  · exact hnodup.1 hrunning

/-- A move keeps everything accounted for unless it abandons a job, and no move makes up for one
that was abandoned. -/
theorem accounted_step_iff {g g' : Saga ι} {move : Move ι} (hstep : Step g move g') :
    g'.Accounted ↔ g.Accounted ∧ ¬ move.Abandons := by
  cases hstep with
  | idle hcreated hcomplete hinFlight =>
      simp [Accounted, Move.Abandons, hcreated, hcomplete, hinFlight]
  | @create _ i hcreated hcomplete hcreated' hcomplete' hinFlight =>
      refine Iff.trans ?_ (and_iff_left (by simp [Move.Abandons])).symm
      simp only [Accounted, hcreated', hcomplete', hinFlight, Set.mem_insert_iff, Multiset.mem_cons]
      constructor
      · intro h j hj
        -- the new one is none of those created before
        have hne : j ≠ i := fun hsame => hcreated (hsame ▸ hj)
        simpa [hne] using h j (Or.inr hj)
      · rintro h j (rfl | hj)
        · exact Or.inr (Or.inl rfl)
        · exact (h j hj).imp_right Or.inr
  | createOnly hcreated hcomplete hcreated' hcomplete' hinFlight =>
      refine iff_of_false ?_ (by simp [Move.Abandons])
      exact accounted_createOnly hcreated hcomplete hcreated' hcomplete' hinFlight
  | @complete _ i hinFlight hcreated hcomplete =>
      refine Iff.trans ?_ (and_iff_left (by simp [Move.Abandons])).symm
      simp only [Accounted, hinFlight, hcreated, hcomplete, Set.mem_insert_iff, Multiset.mem_cons]
      refine forall_congr' fun j => forall_congr' fun _ => ?_
      tauto
  | abandon hinFlight hcreated hcomplete =>
      exact iff_of_false (accounted_abandon hinFlight hcreated hcomplete) (by simp [Move.Abandons])

end Saga

end Library
end IosProjects
