import Mathlib.Data.Finset.Basic
import Mathlib.Data.Finset.SDiff

/-!
# UnitOfWork — changes held back until a save

A unit of work collects insertions and deletions in front of a store. A save that succeeds carries
all of them out; one that fails keeps them for the next.

* `UnitOfWork` — the store, the pending insertions and the pending deletions;
* `insert`, `delete`, `save`, `reset` — the operations, with what is stored after each followed by a
  save;
* the stored set is what the last operation alone would have made of it exactly when nothing else
  was pending.
-/

namespace IosProjects
namespace Library

universe u

variable {α : Type u} [DecidableEq α]

/-- Only what is not stored can be about to be inserted, and only what is stored to be deleted. -/
structure UnitOfWork (α : Type u) [DecidableEq α] where
  stored : Finset α
  inserted : Finset α
  deleted : Finset α
  inserted_new : ∀ a ∈ inserted, a ∉ stored
  deleted_stored : deleted ⊆ stored

namespace UnitOfWork

/-! ## Operations -/

/-- Nothing stored and nothing pending. -/
def empty : UnitOfWork α where
  stored := ∅
  inserted := ∅
  deleted := ∅
  inserted_new := by simp
  deleted_stored := Finset.Subset.refl _

variable (w : UnitOfWork α)

def insert (a : α) (h : a ∉ w.stored) : UnitOfWork α where
  stored := w.stored
  inserted := Insert.insert a w.inserted
  deleted := w.deleted
  inserted_new := by
    intro b hb
    rcases Finset.mem_insert.1 hb with rfl | hb
    · exact h
    · exact w.inserted_new b hb
  deleted_stored := w.deleted_stored

/-- Deleting what is about to be inserted takes back the insertion. -/
def delete (a : α) : UnitOfWork α where
  stored := w.stored
  inserted := w.inserted.erase a
  deleted := if a ∈ w.stored then Insert.insert a w.deleted else w.deleted
  inserted_new := fun b hb => w.inserted_new b (Finset.mem_of_mem_erase hb)
  deleted_stored := by
    split
    · rename_i ha
      exact Finset.insert_subset ha w.deleted_stored
    · exact w.deleted_stored

/-- All pending changes are carried out, or none is and they stay pending. -/
def save (succeeds : Bool) : UnitOfWork α :=
  if succeeds then
    { stored := w.stored \ w.deleted ∪ w.inserted
      inserted := ∅
      deleted := ∅
      inserted_new := by simp
      deleted_stored := Finset.empty_subset _ }
  else w

/-! ## What a save stores -/

/-- What is pending is lost. -/
def reset : UnitOfWork α where
  stored := w.stored
  inserted := ∅
  deleted := ∅
  inserted_new := by simp
  deleted_stored := Finset.empty_subset _

variable {w}

@[simp] theorem stored_insert {a : α} (h : a ∉ w.stored) : (w.insert a h).stored = w.stored := rfl

@[simp] theorem stored_delete (a : α) : (w.delete a).stored = w.stored := rfl

@[simp] theorem save_false : w.save false = w := rfl

theorem mem_stored_save {a : α} :
    a ∈ (w.save true).stored ↔ a ∈ w.stored ∧ a ∉ w.deleted ∨ a ∈ w.inserted := by
  simp [save]

/-- After a save that succeeds nothing is pending. -/
theorem pending_save : (w.save true).inserted = ∅ ∧ (w.save true).deleted = ∅ :=
  ⟨rfl, rfl⟩

/-- Nothing is pending but changes to members of `target`. -/
def PendingWithin (w : UnitOfWork α) (target : Finset α) : Prop :=
  w.inserted ⊆ target ∧ w.deleted ⊆ target

instance (w : UnitOfWork α) (target : Finset α) : Decidable (w.PendingWithin target) :=
  inferInstanceAs (Decidable (_ ∧ _))

/-- A save changes nothing exactly when nothing is pending. -/
theorem stored_save_iff :
    (∀ a, a ∈ (w.save true).stored ↔ a ∈ w.stored) ↔ w.PendingWithin ∅ := by
  simp only [mem_stored_save, PendingWithin, Finset.subset_empty, Finset.eq_empty_iff_forall_notMem]
  constructor
  · intro h
    refine ⟨fun a ha => ?_, fun a ha => ?_⟩
    · exact w.inserted_new a ha ((h a).1 (Or.inr ha))
    · -- it would be gone, and it cannot be pending for insertion as well
      rcases (h a).2 (w.deleted_stored ha) with ⟨_, hkept⟩ | hnew
      · exact hkept ha
      · exact w.inserted_new a hnew (w.deleted_stored ha)
  · rintro ⟨hinserted, hdeleted⟩ a
    simp [hinserted a, hdeleted a]

/-- Inserting and saving stores just one more exactly when nothing else was pending. -/
theorem stored_insert_save_iff {new : α} (h : new ∉ w.stored) (hnew : new ∉ w.inserted) :
    (∀ a, a ∈ ((w.insert new h).save true).stored ↔ a = new ∨ a ∈ w.stored) ↔
      w.PendingWithin ∅ := by
  rw [← stored_save_iff]
  simp only [mem_stored_save, insert, Finset.mem_insert]
  apply forall_congr'
  intro a
  by_cases hsame : a = new
  · subst hsame
    simp [h, hnew]
  · simp [hsame]

/-- Deleting and saving stores just one less exactly when nothing else was pending. -/
theorem stored_delete_save_iff {old : α} :
    (∀ a, a ∈ ((w.delete old).save true).stored ↔ a ≠ old ∧ a ∈ w.stored) ↔
      w.PendingWithin {old} := by
  -- deleting first is saving without it, also when it was still to be inserted
  have hmem : ∀ a, a ∈ ((w.delete old).save true).stored ↔
      a ≠ old ∧ a ∈ (w.save true).stored := by
    intro a
    by_cases hsame : a = old
    · subst hsame
      by_cases hstored : a ∈ w.stored <;> simp [mem_stored_save, delete, hstored]
    · by_cases hstored : old ∈ w.stored <;> simp [mem_stored_save, delete, hsame, hstored]
  simp only [hmem, mem_stored_save, PendingWithin, Finset.subset_iff, Finset.mem_singleton]
  constructor
  · intro h
    refine ⟨fun a ha => ?_, fun a ha => ?_⟩
    · by_contra hne
      exact w.inserted_new a ha ((h a).1 ⟨hne, Or.inr ha⟩).2
    · by_contra hne
      rcases ((h a).2 ⟨hne, w.deleted_stored ha⟩).2 with ⟨_, hkept⟩ | hnew
      · exact hkept ha
      · exact w.inserted_new a hnew (w.deleted_stored ha)
  · rintro ⟨hinserted, hdeleted⟩ a
    by_cases hsame : a = old
    · simp [hsame]
    · have hno : a ∉ w.inserted := fun ha => hsame (hinserted ha)
      have hkept : a ∉ w.deleted := fun ha => hsame (hdeleted ha)
      simp [hsame, hno, hkept]

end UnitOfWork

end Library
end IosProjects
