import Mathlib.Data.List.Induction
import Mathlib.Logic.Function.Basic
import IosProjects.Library.Run

/-!
# ViewPool — views that are used again

A list that is longer than the screen is shown through a few views. A view that leaves the screen
waits in a queue, and the next item that comes onto the screen is drawn into it, over what it held
before.

* `ViewPool ι γ` — the views made so far, the view that shows each item, and what the views hold;
* `usesOf view es` — the items that a view has been used for, oldest first;
* `Placed` — the item that a view shows is the last of them;
* `Tracks` — moreover a view holds what drawing these items one after the other leaves;
* `Tracks.eq_of_overwrites` — what every item draws anew shows no trace of the items before.
-/

namespace IosProjects
namespace Library

universe u v w

variable {ι : Type u} {γ : Type v}

/-! ## Using views -/

/-- Views are numbered in the order in which they are made. -/
structure ViewPool (ι : Type u) (γ : Type v) where
  made : ℕ
  shown : ι → Option ℕ
  content : ℕ → γ

inductive PoolEvent (ι : Type u) where
  | use (item : ι) (view : ℕ)
  | release (item : ι)
  deriving DecidableEq, Repr

namespace ViewPool

def empty (blank : γ) : ViewPool ι γ where
  made := 0
  shown := fun _ => none
  content := fun _ => blank

/-- The view waits in the queue, or it is the next to be made. -/
def Free (view : ℕ) (pool : ViewPool ι γ) : Prop :=
  view ≤ pool.made ∧ ∀ item, pool.shown item ≠ some view

variable [DecidableEq ι]

/-- An item is drawn into a view. -/
def use (configure : ι → γ → γ) (item : ι) (view : ℕ) (pool : ViewPool ι γ) : ViewPool ι γ where
  made := max pool.made (view + 1)
  shown := Function.update pool.shown item (some view)
  content := Function.update pool.content view (configure item (pool.content view))

/-- The view of an item leaves the screen. -/
def release (item : ι) (pool : ViewPool ι γ) : ViewPool ι γ :=
  { pool with shown := Function.update pool.shown item none }

section Shown

variable {configure : ι → γ → γ} {pool : ViewPool ι γ} {item item' : ι} {view view' : ℕ}

@[simp] theorem shown_use_self : (pool.use configure item view).shown item = some view :=
  Function.update_self _ _ _

/-- After a free view has been used, an item on the screen is the one it was used for, or was there
before in another view. -/
theorem Free.of_shown_use (hfree : pool.Free view)
    (h : (pool.use configure item view).shown item' = some view') :
    item' = item ∧ view' = view ∨ view' ≠ view ∧ pool.shown item' = some view' := by
  by_cases hsame : item' = item
  · subst hsame
    rw [shown_use_self] at h
    exact Or.inl ⟨rfl, (Option.some.inj h).symm⟩
  · have hbefore : pool.shown item' = some view' := by
      simpa [use, Function.update_of_ne hsame] using h
    exact Or.inr ⟨fun heq => hfree.2 item' (heq ▸ hbefore), hbefore⟩

theorem shown_of_release (h : (pool.release item).shown item' = some view) :
    pool.shown item' = some view := by
  by_cases hsame : item' = item
  · subst hsame
    simp [release] at h
  · simpa [release, Function.update_of_ne hsame] using h

end Shown

end ViewPool

inductive PoolStep [DecidableEq ι] (configure : ι → γ → γ) :
    ViewPool ι γ → PoolEvent ι → ViewPool ι γ → Prop where
  | use {pool : ViewPool ι γ} {item : ι} {view : ℕ} :
      pool.shown item = none → pool.Free view →
      PoolStep configure pool (.use item view) (pool.use configure item view)
  | release {pool : ViewPool ι γ} {item : ι} :
      PoolStep configure pool (.release item) (pool.release item)

/-! ## What a view has been used for -/

/-- The item, if the event draws it into the view. -/
def PoolEvent.usedFor (view : ℕ) : PoolEvent ι → Option ι
  | .use item view' => if view' = view then some item else none
  | .release _ => none

def usesOf (view : ℕ) (es : List (PoolEvent ι)) : List ι :=
  es.filterMap (PoolEvent.usedFor view)

section Uses

variable {view view' : ℕ} {item : ι} {es : List (PoolEvent ι)}

@[simp] theorem usesOf_use_self :
    usesOf view (es ++ [.use item view]) = usesOf view es ++ [item] := by
  simp [usesOf, PoolEvent.usedFor]

theorem usesOf_use_of_ne (h : view' ≠ view) :
    usesOf view (es ++ [.use item view']) = usesOf view es := by
  simp [usesOf, PoolEvent.usedFor, h]

@[simp] theorem usesOf_release : usesOf view (es ++ [.release item]) = usesOf view es := by
  simp [usesOf, PoolEvent.usedFor]

end Uses

/-- Where the pool has put the items of the events so far. -/
structure Placed (es : List (PoolEvent ι)) (pool : ViewPool ι γ) : Prop where
  made_iff : ∀ view, view < pool.made ↔ usesOf view es ≠ []
  last : ∀ item view, pool.shown item = some view → (usesOf view es).getLast? = some item

namespace Placed

variable {configure : ι → γ → γ} {es : List (PoolEvent ι)} {pool : ViewPool ι γ} {item : ι}
    {view : ℕ}

theorem nil (blank : γ) : Placed [] (.empty blank : ViewPool ι γ) where
  made_iff := by simp [ViewPool.empty, usesOf]
  last := by simp [ViewPool.empty]

section Steps

variable [DecidableEq ι]

theorem use (h : Placed es pool) (hfree : pool.Free view) :
    Placed (es ++ [.use item view]) (pool.use configure item view) where
  made_iff := by
    intro view'
    by_cases hview : view = view'
    · subst hview
      exact iff_of_true (Nat.lt_of_lt_of_le (Nat.lt_succ_self view) (Nat.le_max_right _ _))
        (by simp)
    · have hle := hfree.1
      rw [usesOf_use_of_ne hview, ← h.made_iff]
      simp only [ViewPool.use]
      omega
  last := by
    intro item' view' hshown
    rcases hfree.of_shown_use hshown with ⟨rfl, rfl⟩ | ⟨hview, hbefore⟩
    · simp
    · rw [usesOf_use_of_ne hview.symm]
      exact h.last item' view' hbefore

theorem release (h : Placed es pool) : Placed (es ++ [.release item]) (pool.release item) where
  made_iff := by simpa [ViewPool.release] using h.made_iff
  last := by
    intro item' view hshown
    rw [usesOf_release]
    exact h.last item' view (ViewPool.shown_of_release hshown)

end Steps

/-- The view of an item was drawn into for the items before it, and then for the item. -/
theorem exists_uses (h : Placed es pool) (hitem : pool.shown item = some view) :
    ∃ before, usesOf view es = before ++ [item] := by
  obtain ⟨before, huses⟩ := List.getLast?_eq_some_iff.1 (h.last item view hitem)
  exact ⟨before, huses⟩

end Placed

/-- What the views hold of the events so far. -/
structure Tracks (configure : ι → γ → γ) (blank : γ) (es : List (PoolEvent ι))
    (pool : ViewPool ι γ) :
    Prop extends Placed es pool where
  content :
    ∀ view, pool.content view = (usesOf view es).foldl (fun c item => configure item c) blank

namespace Tracks

variable {configure : ι → γ → γ} {blank : γ} {es : List (PoolEvent ι)} {pool pool' : ViewPool ι γ}
  {e : PoolEvent ι} {item : ι} {view : ℕ}

theorem nil : Tracks configure blank [] (.empty blank) where
  toPlaced := Placed.nil blank
  content := by simp [ViewPool.empty, usesOf]

section Steps

variable [DecidableEq ι]

theorem use (h : Tracks configure blank es pool) (hfree : pool.Free view) :
    Tracks configure blank (es ++ [.use item view]) (pool.use configure item view) where
  toPlaced := h.toPlaced.use hfree
  content := by
    intro view'
    by_cases hview : view = view'
    · subst hview
      simp [ViewPool.use, h.content]
    · rw [usesOf_use_of_ne hview, ← h.content]
      simp [ViewPool.use, Function.update_of_ne (Ne.symm hview)]

theorem step (h : Tracks configure blank es pool) (hstep : PoolStep configure pool e pool') :
    Tracks configure blank (es ++ [e]) pool' := by
  cases hstep with
  | use _ hfree => exact h.use hfree
  | release =>
      refine ⟨h.toPlaced.release, ?_⟩
      simpa [ViewPool.release] using h.content

theorem run (hrun : Run (PoolStep configure) (.empty blank) es pool) :
    Tracks configure blank es pool :=
  hrun.invariant_history nil fun _ _ _ _ _ h hstep => h.step hstep

end Steps

/-- Where all that is seen of a drawn view comes from the item, it is the item's. -/
theorem eq_of_overwrites {δ : Type w} (h : Tracks configure blank es pool) {see : γ → δ}
    (hsee : ∀ item c c', see (configure item c) = see (configure item c'))
    (hitem : pool.shown item = some view) :
    see (pool.content view) = see (configure item blank) := by
  obtain ⟨before, huses⟩ := h.exists_uses hitem
  rw [h.content, huses, List.foldl_append]
  exact hsee item _ _

end Tracks

end Library
end IosProjects
