import Mathlib.Data.List.Basic

/-!
# Checkpoint — a live state in front of a stored one

Changes are made to a live state. A save that succeeds stores the live state as it is; one that
fails stores nothing. A restart throws the live state away and begins again from the stored one.

* `Checkpointed` — the two states, with `Op.apply` for what an operation does to them;
* `Changes` — the changes that are stored and the ones that a restart would undo, with
  `Changes.record` for what an operation does to these;
* `Changes.Tells` — both states are told by the changes alone, which every operation keeps.
-/

namespace IosProjects
namespace Library

universe u v

/-- What is worked on, and what a restart finds. -/
@[ext] structure Checkpointed (σ : Type u) where
  live : σ
  stored : σ

variable {σ : Type u} {κ : Type v}

/-! ## Operations -/

namespace Checkpointed

/-- Nothing is unsaved. -/
def fresh (s : σ) : Checkpointed σ :=
  ⟨s, s⟩

inductive Op (κ : Type v) where
  | change (c : κ)
  | save (succeeds : Bool)
  | restart
  deriving DecidableEq, Repr

/-- `change c` is what the change `c` makes of a state. -/
def Op.apply (change : κ → σ → σ) (s : Checkpointed σ) : Op κ → Checkpointed σ
  | .change c => { s with live := change c s.live }
  | .save true => { s with stored := s.live }
  | .save false => s
  | .restart => { s with live := s.stored }

/-- Some changes, and then perhaps a save. -/
def session (changes : List κ) (saves succeeds : Bool) : List (Op κ) :=
  changes.map .change ++ if saves then [.save succeeds] else []

end Checkpointed

open Checkpointed

/-! ## Changes -/

/-- The changes in the order in which they were made. -/
@[ext] structure Changes (κ : Type v) where
  kept : List κ
  unsaved : List κ
  deriving DecidableEq, Repr

namespace Changes

def none : Changes κ :=
  ⟨[], []⟩

/-- A save keeps what was unsaved, and a restart undoes it. -/
def record (g : Changes κ) : Op κ → Changes κ
  | .change c => { g with unsaved := g.unsaved ++ [c] }
  | .save true => ⟨g.kept ++ g.unsaved, []⟩
  | .save false => g
  | .restart => { g with unsaved := [] }

theorem foldl_record_change (g : Changes κ) (changes : List κ) :
    (changes.map Op.change).foldl record g = { g with unsaved := g.unsaved ++ changes } := by
  induction changes generalizing g with
  | nil => simp
  | cons c changes ih => simp [ih, record]

/-- What some changes followed by a save leave unsaved. -/
theorem foldl_record_session (g : Changes κ) (changes : List κ) (saves succeeds : Bool) :
    (session changes saves succeeds).foldl record g =
      if saves && succeeds then ⟨g.kept ++ (g.unsaved ++ changes), []⟩
      else { g with unsaved := g.unsaved ++ changes } := by
  cases saves <;> cases succeeds <;> simp [session, foldl_record_change, record]

/-- The changes, made one after the other. -/
def perform (change : κ → σ → σ) (changes : List κ) (s : σ) : σ :=
  changes.foldl (fun s c => change c s) s

section Perform

variable {change : κ → σ → σ}

@[simp] theorem perform_nil (s : σ) : perform change [] s = s := rfl

theorem perform_append (changes changes' : List κ) (s : σ) :
    perform change (changes ++ changes') s = perform change changes' (perform change changes s) :=
  List.foldl_append

@[simp] theorem perform_singleton (c : κ) (s : σ) : perform change [c] s = change c s := rfl

end Perform

/-! ## What is stored and what is lost -/

/-- The stored state has the kept changes, and what it lacks of the live one are the unsaved
ones. -/
structure Tells (change : κ → σ → σ) (start : σ) (g : Changes κ) (s : Checkpointed σ) : Prop where
  stored : s.stored = perform change g.kept start
  live : s.live = perform change g.unsaved s.stored

namespace Tells

variable {change : κ → σ → σ} {start : σ} {g : Changes κ} {s : Checkpointed σ}

theorem fresh (start : σ) : Tells change start .none (Checkpointed.fresh start) where
  stored := rfl
  live := rfl

theorem apply (h : Tells change start g s) (op : Op κ) :
    Tells change start (g.record op) (op.apply change s) := by
  cases op with
  | change c =>
      exact ⟨h.stored, by simp [Op.apply, record, perform_append, h.live]⟩
  | save succeeds =>
      cases succeeds with
      | false => exact h
      | true =>
          refine ⟨?_, rfl⟩
          simp [Op.apply, record, perform_append, h.live, h.stored]
  | restart => exact ⟨h.stored, rfl⟩

theorem foldl_apply (h : Tells change start g s) (ops : List (Op κ)) :
    Tells change start (ops.foldl record g) (ops.foldl (Op.apply change) s) := by
  induction ops generalizing g s with
  | nil => exact h
  | cons op ops ih => exact ih (h.apply op)

end Tells

end Changes

/-- What some changes followed by a save make of the two states. -/
theorem Checkpointed.foldl_apply_session (change : κ → σ → σ) (s : Checkpointed σ)
    (changes : List κ) (saves succeeds : Bool) :
    (session changes saves succeeds).foldl (Op.apply change) s =
      { live := Changes.perform change changes s.live
        stored :=
          if saves && succeeds then Changes.perform change changes s.live else s.stored } := by
  have hchanges : (changes.map Op.change).foldl (Op.apply change) s =
      { s with live := Changes.perform change changes s.live } := by
    induction changes generalizing s with
    | nil => rfl
    | cons c changes ih =>
        rw [List.map_cons, List.foldl_cons, ih]
        rfl
  cases saves <;> cases succeeds <;> simp [session, hchanges, Op.apply]

end Library
end IosProjects
