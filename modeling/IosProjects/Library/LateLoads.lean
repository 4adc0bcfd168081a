import IosProjects.Library.ViewPool

/-!
# LateLoads — pictures that come after the text

A view that is used for an item is given its text at once and its picture later, when it has been
loaded. A load belongs to the view, not to the item: it is not cancelled when the view is used for
another item, and it comes when it comes.

* `Drawing` — how items are drawn, in these two stages;
* `LoadingPool` — a pool of views with the loads in flight;
* `Loads.text` — the text in a view is always that of the item it shows;
* `Loads.picture` — its picture is that of the load that came last, whatever it was for;
* `picture_of_inOrder` — so it is that of the item it shows when all loads have come, if those of
  each view came in the order in which they were started.
-/

namespace IosProjects
namespace Library

universe u v w x

variable {ι : Type u} {γ : Type v} {τ : Type w} {δ : Type x}

/-! ## Drawing in two stages -/

/-- What a view shows of an item is a text, set when the view is used, and a picture, set when the
load comes. -/
structure Drawing (ι : Type u) (γ : Type v) (τ : Type w) (δ : Type x) where
  configure : ι → γ → γ
  load : ι → γ → γ
  text : γ → τ
  picture : γ → δ
  textOf : ι → τ
  pictureOf : ι → δ
  text_configure : ∀ item c, text (configure item c) = textOf item
  text_load : ∀ item c, text (load item c) = text c
  picture_configure : ∀ item c, picture (configure item c) = picture c
  picture_load : ∀ item c, picture (load item c) = pictureOf item

/-- The loads in flight are for a view and the item it was used for, the oldest first. -/
structure LoadingPool (ι : Type u) (γ : Type v) where
  views : ViewPool ι γ
  inFlight : List (ℕ × ι)

inductive LoadEvent (ι : Type u) where
  | use (item : ι) (view : ℕ)
  | release (item : ι)
  | arrive (view : ℕ) (item : ι)
  | fail (view : ℕ) (item : ι)
  deriving DecidableEq, Repr

/-- The items that loads in a list are for, as far as they are for one view. -/
def forView (view : ℕ) (loads : List (ℕ × ι)) : List ι :=
  loads.filterMap fun load => if load.1 = view then some load.2 else none

namespace LoadingPool

def empty (blank : γ) : LoadingPool ι γ where
  views := .empty blank
  inFlight := []

def inFlightFor (view : ℕ) (s : LoadingPool ι γ) : List ι :=
  forView view s.inFlight

variable [DecidableEq ι]

def use (d : Drawing ι γ τ δ) (item : ι) (view : ℕ) (s : LoadingPool ι γ) : LoadingPool ι γ where
  views := s.views.use d.configure item view
  inFlight := s.inFlight ++ [(view, item)]

def release (item : ι) (s : LoadingPool ι γ) : LoadingPool ι γ :=
  { s with views := s.views.release item }

/-- A load comes: its picture is set in the view it was started for. -/
def arrive (d : Drawing ι γ τ δ) (view : ℕ) (item : ι) (s : LoadingPool ι γ) : LoadingPool ι γ where
  views :=
    { s.views with
      content := Function.update s.views.content view (d.load item (s.views.content view)) }
  inFlight := s.inFlight.erase (view, item)

def fail (view : ℕ) (item : ι) (s : LoadingPool ι γ) : LoadingPool ι γ :=
  { s with inFlight := s.inFlight.erase (view, item) }

end LoadingPool

inductive LoadStep [DecidableEq ι] (d : Drawing ι γ τ δ) :
    LoadingPool ι γ → LoadEvent ι → LoadingPool ι γ → Prop where
  | use {s : LoadingPool ι γ} {item : ι} {view : ℕ} :
      s.views.shown item = none → s.views.Free view →
        LoadStep d s (.use item view) (s.use d item view)
  | release {s : LoadingPool ι γ} {item : ι} : LoadStep d s (.release item) (s.release item)
  -- in any order
  | arrive {s : LoadingPool ι γ} {view : ℕ} {item : ι} :
      (view, item) ∈ s.inFlight → LoadStep d s (.arrive view item) (s.arrive d view item)
  | fail {s : LoadingPool ι γ} {view : ℕ} {item : ι} :
      (view, item) ∈ s.inFlight → LoadStep d s (.fail view item) (s.fail view item)

/-- What is on the screen has just been brought there or was there before. -/
theorem LoadStep.used_or_shown [DecidableEq ι] {d : Drawing ι γ τ δ} {s t : LoadingPool ι γ}
    {e : LoadEvent ι} (h : LoadStep d s e t) {item : ι} {view : ℕ}
    (hshown : t.views.shown item = some view) :
    (∃ view', e = .use item view') ∨ s.views.shown item = some view := by
  cases h with
  | @use used view' _ hfree =>
      rcases hfree.of_shown_use hshown with ⟨rfl, rfl⟩ | ⟨_, hbefore⟩
      · exact Or.inl ⟨_, rfl⟩
      · exact Or.inr hbefore
  | release => exact Or.inr (ViewPool.shown_of_release hshown)
  | arrive _ => exact Or.inr hshown
  | fail _ => exact Or.inr hshown

/-! ## What the events say -/

def LoadEvent.pool : LoadEvent ι → Option (PoolEvent ι)
  | .use item view => some (.use item view)
  | .release item => some (.release item)
  | .arrive _ _ => none
  | .fail _ _ => none

def LoadEvent.arrivedIn (view : ℕ) : LoadEvent ι → Option ι
  | .arrive view' item => if view' = view then some item else none
  | _ => none

/-- The items a view has been used for, oldest first. -/
def usesIn (view : ℕ) (es : List (LoadEvent ι)) : List ι :=
  usesOf view (es.filterMap LoadEvent.pool)

/-- The items whose loads have come to a view, in the order in which they came. -/
def arrivalsIn (view : ℕ) (es : List (LoadEvent ι)) : List ι :=
  es.filterMap (LoadEvent.arrivedIn view)

section Events

variable {view view' : ℕ} {item : ι} {es : List (LoadEvent ι)} {loads : List (ℕ × ι)}

theorem pool_snoc_of_none {e : LoadEvent ι} (h : e.pool = none) :
    (es ++ [e]).filterMap LoadEvent.pool = es.filterMap LoadEvent.pool := by
  simp [h]

theorem usesIn_use :
    usesIn view (es ++ [.use item view']) = usesIn view es ++ forView view [(view', item)] := by
  by_cases hview : view' = view
  · simp [usesIn, usesOf, LoadEvent.pool, PoolEvent.usedFor, forView, hview]
  · simp [usesIn, usesOf, LoadEvent.pool, PoolEvent.usedFor, forView, hview]

theorem usesIn_of_none {e : LoadEvent ι} (h : e.pool = none) :
    usesIn view (es ++ [e]) = usesIn view es := by
  rw [usesIn, pool_snoc_of_none h, usesIn]

theorem usesIn_release : usesIn view (es ++ [.release item]) = usesIn view es := by
  simp [usesIn, usesOf, LoadEvent.pool, PoolEvent.usedFor]

theorem arrivalsIn_arrive :
    arrivalsIn view (es ++ [.arrive view' item]) =
      arrivalsIn view es ++ forView view [(view', item)] := by
  by_cases hview : view' = view
  · simp [arrivalsIn, LoadEvent.arrivedIn, forView, hview]
  · simp [arrivalsIn, LoadEvent.arrivedIn, forView, hview]

theorem arrivalsIn_of_none {e : LoadEvent ι} (h : e.arrivedIn view = none) :
    arrivalsIn view (es ++ [e]) = arrivalsIn view es := by
  simp [arrivalsIn, h]

@[simp] theorem forView_append (loads' : List (ℕ × ι)) :
    forView view (loads ++ loads') = forView view loads ++ forView view loads' := by
  simp [forView]

@[simp] theorem forView_self : forView view [(view, item)] = [item] := by
  simp [forView]

theorem forView_of_ne (h : view' ≠ view) : forView view [(view', item)] = [] := by
  simp [forView, h]

theorem mem_forView : item ∈ forView view loads ↔ (view, item) ∈ loads := by
  simp only [forView, List.mem_filterMap]
  constructor
  · rintro ⟨⟨view', item'⟩, hmem, hitem⟩
    split at hitem
    · rename_i hview
      obtain rfl : view' = view := hview
      obtain rfl := Option.some.inj hitem
      exact hmem
    · cases hitem
  · exact fun hmem => ⟨(view, item), hmem, by simp⟩

theorem forView_erase_self [DecidableEq ι] :
    forView view (loads.erase (view, item)) = (forView view loads).erase item := by
  induction loads with
  | nil => rfl
  | cons load loads ih =>
      rcases load with ⟨view', item'⟩
      by_cases hview : view' = view
      · subst hview
        by_cases hitem : item' = item
        · subst hitem
          simp [forView]
        · have hne : (view', item') ≠ (view', item) := fun heq => hitem (Prod.mk.inj heq).2
          rw [List.erase_cons_tail (by simpa using hne)]
          simpa [forView, List.erase_cons_tail, hitem] using ih
      · have hne : (view', item') ≠ (view, item) := fun heq => hview (Prod.mk.inj heq).1
        rw [List.erase_cons_tail (by simpa using hne)]
        simpa [forView, hview] using ih

theorem forView_erase_of_ne [DecidableEq ι] (h : view' ≠ view) :
    forView view (loads.erase (view', item)) = forView view loads := by
  induction loads with
  | nil => rfl
  | cons load loads ih =>
      by_cases hload : load = (view', item)
      · subst hload
        simp [forView, h]
      · rw [List.erase_cons_tail (by simpa using hload)]
        simp only [forView, List.filterMap_cons] at ih ⊢
        rw [ih]

end Events

/-! ## What the views show -/

/-- Where the items are, and what their views show, after the events so far. -/
structure Loads (d : Drawing ι γ τ δ) (blank : γ) (es : List (LoadEvent ι)) (s : LoadingPool ι γ) :
    Prop where
  placed : Placed (es.filterMap LoadEvent.pool) s.views
  text : ∀ item view, s.views.shown item = some view →
    d.text (s.views.content view) = d.textOf item
  picture : ∀ view, d.picture (s.views.content view) =
    ((arrivalsIn view es).getLast?.map d.pictureOf).getD (d.picture blank)

namespace Loads

variable {d : Drawing ι γ τ δ} {blank : γ} {es : List (LoadEvent ι)} {s t : LoadingPool ι γ}
  {e : LoadEvent ι} {item : ι} {view : ℕ}

/-- The item that a view shows is the last that the view has been used for. -/
theorem getLast?_usesIn (h : Loads d blank es s) (hshown : s.views.shown item = some view) :
    (usesIn view es).getLast? = some item :=
  h.placed.last item view hshown

/-- A picture that a blank view does not have came with the last load. -/
theorem picture_iff_of_ne_blank (h : Loads d blank es s) (view : ℕ)
    (hblank : d.picture blank ≠ d.pictureOf item) :
    d.picture (s.views.content view) = d.pictureOf item ↔
      ∃ last, (arrivalsIn view es).getLast? = some last ∧ d.pictureOf last = d.pictureOf item := by
  rw [h.picture]
  cases hlast : (arrivalsIn view es).getLast? with
  | none => simpa using hblank
  | some last => simp

theorem nil : Loads d blank [] (.empty blank) where
  placed := Placed.nil blank
  text := by simp [LoadingPool.empty, ViewPool.empty]
  picture := by simp [LoadingPool.empty, ViewPool.empty, arrivalsIn]

variable [DecidableEq ι]

theorem use (h : Loads d blank es s) (hfree : s.views.Free view) :
    Loads d blank (es ++ [.use item view]) (s.use d item view) where
  placed := by
    rw [List.filterMap_append]
    exact h.placed.use hfree
  text := by
    intro item' view' hshown
    rcases hfree.of_shown_use hshown with ⟨rfl, rfl⟩ | ⟨hview, hbefore⟩
    · simp [LoadingPool.use, ViewPool.use, d.text_configure]
    · simp [LoadingPool.use, ViewPool.use, Function.update_of_ne hview, h.text item' view' hbefore]
  picture := by
    intro view'
    rw [arrivalsIn_of_none rfl, ← h.picture view']
    by_cases hview : view' = view
    · subst hview
      simp [LoadingPool.use, ViewPool.use, d.picture_configure]
    · simp [LoadingPool.use, ViewPool.use, Function.update_of_ne hview]

theorem release (h : Loads d blank es s) :
    Loads d blank (es ++ [.release item]) (s.release item) where
  placed := by
    rw [List.filterMap_append]
    exact h.placed.release
  text := by
    intro item' view hshown
    exact h.text item' view (ViewPool.shown_of_release hshown)
  picture := by
    intro view
    rw [arrivalsIn_of_none rfl]
    exact h.picture view

theorem arrive (h : Loads d blank es s) :
    Loads d blank (es ++ [.arrive view item]) (s.arrive d view item) where
  placed := by
    rw [pool_snoc_of_none rfl]
    exact ⟨h.placed.made_iff, h.placed.last⟩
  text := by
    intro item' view' hshown
    have hbefore := h.text item' view' hshown
    by_cases hview : view' = view
    · subst hview
      simpa [LoadingPool.arrive, d.text_load] using hbefore
    · simpa [LoadingPool.arrive, Function.update_of_ne hview] using hbefore
  picture := by
    intro view'
    rw [arrivalsIn_arrive]
    by_cases hview : view' = view
    · subst hview
      simp [LoadingPool.arrive, d.picture_load]
    · rw [forView_of_ne (Ne.symm hview), List.append_nil, ← h.picture view']
      simp [LoadingPool.arrive, Function.update_of_ne hview]

theorem step (h : Loads d blank es s) (hstep : LoadStep d s e t) : Loads d blank (es ++ [e]) t := by
  cases hstep with
  | use _ hfree => exact h.use hfree
  | release => exact h.release
  | arrive _ => exact h.arrive
  | fail _ =>
      refine ⟨?_, h.text, fun view => ?_⟩
      · rw [pool_snoc_of_none rfl]
        exact h.placed
      · rw [arrivalsIn_of_none rfl]
        exact h.picture view

theorem run (hrun : Run (LoadStep d) (.empty blank) es s) : Loads d blank es s :=
  hrun.invariant_history nil fun _ _ _ _ _ h hstep => h.step hstep

end Loads

/-! ## When every load has come -/

section Rest

variable [DecidableEq ι] {d : Drawing ι γ τ δ} {blank : γ} {es : List (LoadEvent ι)}
  {s t : LoadingPool ι γ} {e : LoadEvent ι} {item : ι} {view : ℕ}

/-- No load fails. -/
def LoadEvent.Succeeds (e : LoadEvent ι) : Prop :=
  ∀ view item, e ≠ .fail view item

/-- No load fails, and one that comes is the oldest of those in flight for its view. -/
def InOrder (s : LoadingPool ι γ) (e : LoadEvent ι) : Prop :=
  e.Succeeds ∧ ∀ view item, e = .arrive view item → (s.inFlightFor view).head? = some item

/-- Every use of a view has a load, in flight or come. -/
theorem loads_perm (hrun : Run (LoadStep d) (.empty blank) es s) (hsucceeds : ∀ e ∈ es, e.Succeeds)
    (view : ℕ) : (arrivalsIn view es ++ s.inFlightFor view).Perm (usesIn view es) := by
  refine hrun.invariant_history_along (Q := fun _ e _ => e.Succeeds)
    (P := fun es s => (arrivalsIn view es ++ s.inFlightFor view).Perm (usesIn view es))
    ?_ ?_ (Along.of_events hsucceeds)
  · simp [arrivalsIn, usesIn, usesOf, LoadingPool.inFlightFor, LoadingPool.empty, forView]
  · intro es s e t _ h hok hstep
    cases hstep with
    | use _ _ =>
        rw [usesIn_use, arrivalsIn_of_none rfl]
        simp only [LoadingPool.inFlightFor, LoadingPool.use, forView_append, ← List.append_assoc]
        exact h.append_right _
    | release =>
        rw [usesIn_release, arrivalsIn_of_none rfl]
        exact h
    | @arrive view' item hmem =>
        rw [usesIn_of_none rfl, arrivalsIn_arrive]
        by_cases hview : view' = view
        · subst hview
          have hin : item ∈ s.inFlightFor view' := mem_forView.2 hmem
          refine List.Perm.trans ?_ h
          simp only [LoadingPool.inFlightFor, LoadingPool.arrive, forView_erase_self, forView_self,
            List.append_assoc]
          exact (List.perm_cons_erase hin).symm.append_left _
        · simpa [LoadingPool.inFlightFor, LoadingPool.arrive, forView_erase_of_ne hview,
            forView_of_ne hview] using h
    | fail _ => exact absurd rfl (hok _ _)

/-- In order, the loads that have come are for the first uses of a view, and those in flight for the
others. -/
theorem loads_inOrder (hrun : Run (LoadStep d) (.empty blank) es s)
    (horder : Along (LoadStep d) (.empty blank) es fun s e _ => InOrder s e) (view : ℕ) :
    arrivalsIn view es ++ s.inFlightFor view = usesIn view es := by
  refine hrun.invariant_history_along
    (P := fun es s => arrivalsIn view es ++ s.inFlightFor view = usesIn view es) ?_ ?_ horder
  · simp [arrivalsIn, usesIn, usesOf, LoadingPool.inFlightFor, LoadingPool.empty, forView]
  · intro es s e t _ h hok hstep
    cases hstep with
    | use _ _ =>
        rw [usesIn_use, arrivalsIn_of_none rfl, ← h]
        simp [LoadingPool.inFlightFor, LoadingPool.use]
    | release =>
        rw [usesIn_release, arrivalsIn_of_none rfl]
        exact h
    | @arrive view' item _ =>
        rw [usesIn_of_none rfl, arrivalsIn_arrive, ← h]
        by_cases hview : view' = view
        · subst hview
          obtain ⟨rest, hrest⟩ := List.head?_eq_some_iff.1 (hok.2 _ _ rfl)
          have hflight : forView view' s.inFlight = item :: rest := hrest
          simp [LoadingPool.inFlightFor, LoadingPool.arrive, forView_erase_self, hflight]
        · simp [LoadingPool.inFlightFor, LoadingPool.arrive, forView_erase_of_ne hview,
            forView_of_ne hview]
    | fail _ => exact absurd rfl (hok.1 _ _)

/-- A view that no load is in flight for shows the picture of the load that came last. It is the
picture of its item exactly when that load was for an item with the same picture. -/
theorem picture_iff (hrun : Run (LoadStep d) (.empty blank) es s)
    (hsucceeds : ∀ e ∈ es, e.Succeeds) (hshown : s.views.shown item = some view)
    (hrest : s.inFlightFor view = []) :
    d.picture (s.views.content view) = d.pictureOf item ↔
      ∃ last, (arrivalsIn view es).getLast? = some last ∧ d.pictureOf last = d.pictureOf item := by
  have h : Loads d blank es s := Loads.run hrun
  have hperm := loads_perm hrun hsucceeds view
  rw [hrest, List.append_nil] at hperm
  -- the item has been loaded, so something has come
  have huses := List.mem_of_getLast? (h.getLast?_usesIn hshown)
  have hcame : item ∈ arrivalsIn view es := hperm.mem_iff.2 huses
  obtain ⟨last, hlast⟩ : ∃ last, (arrivalsIn view es).getLast? = some last :=
    ⟨_, List.getLast?_eq_some_getLast (List.ne_nil_of_mem hcame)⟩
  rw [h.picture, hlast]
  simp

/-- Where the loads of each view come in order, a view that none is in flight for shows the picture
of its item. -/
theorem picture_of_inOrder (hrun : Run (LoadStep d) (.empty blank) es s)
    (horder : Along (LoadStep d) (.empty blank) es fun s e _ => InOrder s e)
    (hshown : s.views.shown item = some view) (hrest : s.inFlightFor view = []) :
    d.picture (s.views.content view) = d.pictureOf item := by
  have h : Loads d blank es s := Loads.run hrun
  have huses := loads_inOrder hrun horder view
  rw [hrest, List.append_nil] at huses
  rw [h.picture, huses, h.getLast?_usesIn hshown]
  rfl

end Rest

end Library
end IosProjects
