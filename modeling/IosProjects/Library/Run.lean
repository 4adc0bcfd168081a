import Mathlib.Data.List.Induction

/-!
# Run — labelled runs of a step relation

A step relation `step : σ → ε → σ → Prop` says how one event moves a state. This module collects
the runs of such a relation and the ways of reasoning about them:

* `Run step s es t` — the events `es`, taken in order, lead from `s` to `t`;
* `Along step s es P` — every step of the run of `es` from `s` satisfies `P`;
* `Throughout step s es P` — so does every state it visits, and `ThroughoutHistory` looks at the
  events before it as well;
* `HeldSince P Q es` — an event of kind `Q` has happened, and only events of kind `P` since;
* `withHistory step record` — the same relation carrying an extra variable that only records
  what happened, with the two directions of the lift.

Nothing here mentions a particular program.
-/

namespace IosProjects
namespace Library

universe u v w x

variable {σ : Type u} {ε : Type v} {step : σ → ε → σ → Prop}

/-- An event of `es ++ [e]` is the last one, or it is one of `es`. -/
theorem snoc_eq_split {es before after : List ε} {e e' : ε}
    (h : es ++ [e] = before ++ e' :: after) :
    (before = es ∧ e' = e ∧ after = []) ∨
      ∃ rest, after = rest ++ [e] ∧ es = before ++ e' :: rest := by
  rcases List.eq_nil_or_concat after with rfl | ⟨rest, last, rfl⟩
  · obtain ⟨rfl, hlast⟩ := List.append_inj' h rfl
    exact Or.inl ⟨rfl, (List.singleton_inj.1 hlast).symm, rfl⟩
  · rw [List.concat_eq_append, ← List.cons_append, ← List.append_assoc] at h
    obtain ⟨hes, hlast⟩ := List.append_inj' h rfl
    obtain rfl := List.singleton_inj.1 hlast
    exact Or.inr ⟨rest, List.concat_eq_append, hes⟩

/-! ## Runs -/

/-- Runs grow at the end, so that an induction sees the history before each event. -/
inductive Run (step : σ → ε → σ → Prop) : σ → List ε → σ → Prop where
  | nil (s : σ) : Run step s [] s
  | snoc {s t u : σ} {es : List ε} {e : ε} :
      Run step s es t → step t e u → Run step s (es ++ [e]) u

namespace Run

theorem snoc_inv {s u : σ} {es : List ε} {e : ε} (h : Run step s (es ++ [e]) u) :
    ∃ t, Run step s es t ∧ step t e u := by
  generalize hfull : es ++ [e] = full at h
  cases h with
  | nil => simp at hfull
  | snoc hrun hlast =>
      obtain ⟨rfl, hlabel⟩ := List.append_inj' hfull rfl
      obtain rfl : e = _ := by simpa using hlabel
      exact ⟨_, hrun, hlast⟩

theorem nil_inv {s t : σ} (h : Run step s [] t) : t = s := by
  generalize hnone : ([] : List ε) = es at h
  cases h with
  | nil => rfl
  | snoc _ _ => simp at hnone

theorem single {s t : σ} {e : ε} (h : step s e t) : Run step s [e] t :=
  snoc (nil s) h

theorem split {s u : σ} {es es' : List ε} (h : Run step s (es ++ es') u) :
    ∃ t, Run step s es t ∧ Run step t es' u := by
  induction es' using List.reverseRecOn generalizing u with
  | nil => exact ⟨u, by simpa using h, nil u⟩
  | append_singleton es' e ih =>
      rw [← List.append_assoc] at h
      rcases snoc_inv h with ⟨v, hv, hlast⟩
      rcases ih hv with ⟨t, hst, htv⟩
      exact ⟨t, hst, snoc htv hlast⟩

theorem trans {s t u : σ} {es es' : List ε} (h : Run step s es t) (h' : Run step t es' u) :
    Run step s (es ++ es') u := by
  induction h' with
  | nil => simpa using h
  | snoc _ hlast ih =>
      rw [← List.append_assoc]
      exact snoc ih hlast

/-- A property kept by every step holds after every run. -/
theorem invariant {P : σ → Prop} (hstep : ∀ t e u, P t → step t e u → P u)
    {s t : σ} {es : List ε} (h : Run step s es t) (hs : P s) : P t := by
  induction h with
  | nil => exact hs
  | snoc _ hlast ih => exact hstep _ _ _ ih hlast

/-- The same for a property of the events so far together with the state they lead to. -/
theorem invariant_history {s : σ} {P : List ε → σ → Prop} (hnil : P [] s)
    (hstep : ∀ es t e u, Run step s es t → P es t → step t e u → P (es ++ [e]) u)
    {t : σ} {es : List ε} (h : Run step s es t) : P es t := by
  induction h with
  | nil => exact hnil
  | snoc hrun hlast ih => exact hstep _ _ _ _ hrun ih hlast

/-- Where every step is a step of another relation, seen through a map, or changes nothing seen,
every run is a run of that relation. -/
theorem filterMap {τ : Type w} {δ : Type x} {step' : τ → δ → τ → Prop} {f : σ → τ}
    {g : ε → Option δ} (hsome : ∀ s e t d, g e = some d → step s e t → step' (f s) d (f t))
    (hnone : ∀ s e t, g e = none → step s e t → f t = f s) {s t : σ} {es : List ε}
    (hrun : Run step s es t) : Run step' (f s) (es.filterMap g) (f t) := by
  induction hrun with
  | nil => exact nil _
  | @snoc t u es e _ hlast ih =>
      rw [List.filterMap_append]
      cases he : g e with
      | none => simpa [he, hnone t e u he hlast] using ih
      | some d => simpa [he] using snoc ih (hsome t e u d he hlast)

theorem map {τ : Type w} {δ : Type x} {step' : τ → δ → τ → Prop} {f : σ → τ} {g : ε → δ}
    (h : ∀ s e t, step s e t → step' (f s) (g e) (f t)) {s t : σ} {es : List ε}
    (hrun : Run step s es t) : Run step' (f s) (es.map g) (f t) := by
  have hseen := hrun.filterMap (f := f) (g := fun e => some (g e))
    (fun s e t d hd hstep => Option.some.inj hd ▸ h s e t hstep) nofun
  simpa [List.filterMap_eq_map] using hseen

end Run

/-! ## Properties of every step of a run -/

/-- Every step taken while the events `es` run from `s` satisfies `P`. -/
def Along (step : σ → ε → σ → Prop) (s : σ) (es : List ε) (P : σ → ε → σ → Prop) : Prop :=
  ∀ (before after : List ε) (e : ε) (t u : σ), es = before ++ e :: after →
    Run step s before t → step t e u → P t e u

namespace Along

variable {s : σ} {es : List ε} {P Q : σ → ε → σ → Prop}

/-- Two step properties that agree on the reachable states agree along every run. -/
theorem congr (h : ∀ before t e u, Run step s before t → e ∈ es → step t e u →
    (P t e u ↔ Q t e u)) : Along step s es P ↔ Along step s es Q := by
  constructor
  · intro hP before after e t u hes hrun hlast
    exact (h before t e u hrun (by simp [hes]) hlast).1 (hP before after e t u hes hrun hlast)
  · intro hQ before after e t u hes hrun hlast
    exact (h before t e u hrun (by simp [hes]) hlast).2 (hQ before after e t u hes hrun hlast)

theorem imp (h : ∀ t e u, step t e u → P t e u → Q t e u) (hP : Along step s es P) :
    Along step s es Q :=
  fun before after e t u hes hrun hlast => h t e u hlast (hP before after e t u hes hrun hlast)

/-- What holds along a run holds along what follows a part of it. -/
theorem suffix {t : σ} {es' : List ε} (hrun : Run step s es t) (h : Along step s (es ++ es') P) :
    Along step t es' P := by
  intro before after e u v hes hu hlast
  exact h (es ++ before) after e u v (by simp [hes]) (hrun.trans hu) hlast

end Along

theorem Along.of_events {s : σ} {es : List ε} {P : ε → Prop} (h : ∀ e ∈ es, P e) :
    Along step s es fun _ e _ => P e :=
  fun before after e _ _ hes _ _ => h e (by simp [hes])

/-- Along a run that happens, a property of the events alone holds of every event. -/
theorem Run.along_event_iff {s t : σ} {es : List ε} {P : ε → Prop} (hrun : Run step s es t) :
    Along step s es (fun _ e _ => P e) ↔ ∀ e ∈ es, P e := by
  constructor
  · intro h e he
    rcases List.append_of_mem he with ⟨before, after, rfl⟩
    rw [List.append_cons] at hrun
    rcases hrun.split with ⟨u, hu, _⟩
    rcases hu.snoc_inv with ⟨v, hv, hstep⟩
    exact h before after e v u rfl hv hstep
  · exact Along.of_events

/-- A property of the events so far and the state they lead to, kept by every step of a kind, holds
after a run of such steps. -/
theorem Run.invariant_history_along {s : σ} {P : List ε → σ → Prop} {Q : σ → ε → σ → Prop}
    (hnil : P [] s)
    (hstep : ∀ es t e u, Run step s es t → P es t → Q t e u → step t e u → P (es ++ [e]) u)
    {t : σ} {es : List ε} (hrun : Run step s es t) (halong : Along step s es Q) : P es t := by
  induction hrun with
  | nil => exact hnil
  | @snoc t u es e hrun hlast ih =>
      have hbefore : Along step s es Q := fun before after e' v w hes =>
        halong before (after ++ [e]) e' v w (by simp [hes])
      exact hstep _ _ _ _ hrun (ih hbefore) (halong es [] e t u rfl hrun hlast) hlast

/-- The same for a property of the states alone. -/
theorem Run.invariant_along {P : σ → Prop} {Q : σ → ε → σ → Prop}
    (hstep : ∀ t e u, P t → Q t e u → step t e u → P u) {s t : σ} {es : List ε}
    (hrun : Run step s es t) (halong : Along step s es Q) (hs : P s) : P t :=
  hrun.invariant_history_along (P := fun _ => P) hs (fun _ _ _ _ _ => hstep _ _ _) halong

/-! ## Deterministic relations -/

section Deterministic

variable {s t u : σ} {es : List ε} {e : ε}

/-- An event leads to one state only. -/
def Deterministic (step : σ → ε → σ → Prop) : Prop :=
  ∀ s e t u, step s e t → step s e u → t = u

theorem Run.eq_of_deterministic (hdet : Deterministic step) (ht : Run step s es t)
    (hu : Run step s es u) : t = u := by
  induction ht generalizing u with
  | nil => exact hu.nil_inv.symm
  | snoc _ hlast ih =>
      rcases hu.snoc_inv with ⟨v, hv, hlast'⟩
      rw [ih hv] at hlast
      exact hdet _ _ _ _ hlast hlast'

theorem Along.snoc_iff {P : σ → ε → σ → Prop} (hdet : Deterministic step) (hrun : Run step s es t)
    (hlast : step t e u) : Along step s (es ++ [e]) P ↔ Along step s es P ∧ P t e u := by
  constructor
  · intro h
    refine ⟨fun before after e' v w hes hv hw => ?_, h es [] e t u rfl hrun hlast⟩
    exact h before (after ++ [e]) e' v w (by simp [hes]) hv hw
  · rintro ⟨h, hPlast⟩ before after e' v w hes hv hw
    rcases snoc_eq_split hes with ⟨rfl, rfl, rfl⟩ | ⟨rest, rfl, hbefore⟩
    · -- the step is the last one of the run
      obtain rfl := hrun.eq_of_deterministic hdet hv
      obtain rfl := hdet _ _ _ _ hlast hw
      exact hPlast
    · exact h before rest e' v w hbefore hv hw

/-- A property that a step keeps exactly when it is of the kind `Q`, and that no step brings back,
holds after a run exactly when it held before and every step was of that kind. -/
theorem Run.iff_along {P : σ → Prop} {Q : σ → ε → σ → Prop} (hdet : Deterministic step)
    (hstep : ∀ before t e u, Run step s before t → step t e u → (P u ↔ P t ∧ Q t e u))
    (hrun : Run step s es t) : P t ↔ P s ∧ Along step s es Q := by
  induction hrun with
  | nil => exact ⟨fun hP => ⟨hP, fun _ _ _ _ _ hes => by simp at hes⟩, And.left⟩
  | @snoc _ _ _ _ hrun hlast ih =>
      rw [hstep _ _ _ _ hrun hlast, Along.snoc_iff hdet hrun hlast, ih, and_assoc]

end Deterministic

/-! ## Properties of every state of a run -/

/-- Every state visited while the events `es` run from `s` satisfies `P`. -/
def Throughout (step : σ → ε → σ → Prop) (s : σ) (es : List ε) (P : σ → Prop) : Prop :=
  ∀ (before after : List ε) (t : σ), es = before ++ after → Run step s before t → P t

/-- Every state visited while the events `es` run from `s` satisfies `P` together with the events
that led to it. -/
def ThroughoutHistory (step : σ → ε → σ → Prop) (s : σ) (es : List ε) (P : List ε → σ → Prop) :
    Prop :=
  ∀ (before after : List ε) (t : σ), es = before ++ after → Run step s before t → P before t

/-- A property that a step from a good state keeps exactly when the step is of the kind `Q` holds
throughout a run exactly when every step of the run is of that kind. -/
theorem ThroughoutHistory.iff_along {s : σ} {es : List ε} {P : List ε → σ → Prop}
    {Q : σ → ε → σ → Prop} (hs : P [] s)
    (hstep : ∀ before t e u, Run step s before t → P before t → step t e u →
      (P (before ++ [e]) u ↔ Q t e u)) :
    ThroughoutHistory step s es P ↔ Along step s es Q := by
  constructor
  · intro hP before after e t u hes hrun hlast
    have ht : P before t := hP before (e :: after) t hes hrun
    have hu : P (before ++ [e]) u := hP (before ++ [e]) after u (by simp [hes]) (hrun.snoc hlast)
    exact (hstep before t e u hrun ht hlast).1 hu
  · intro hQ before after t hes hrun
    induction hrun generalizing after with
    | nil => exact hs
    | @snoc t u before e hrun hlast ih =>
        have ht : P before t := ih (e :: after) (by simp [hes])
        have hgood : Q t e u := hQ before after e t u (by simp [hes]) hrun hlast
        exact (hstep before t e u hrun ht hlast).2 hgood

/-- The same for a property of the states alone. -/
theorem Throughout.iff_along {s : σ} {es : List ε} {P : σ → Prop} {Q : σ → ε → σ → Prop} (hs : P s)
    (hstep : ∀ before t e u, Run step s before t → P t → step t e u → (P u ↔ Q t e u)) :
    Throughout step s es P ↔ Along step s es Q :=
  ThroughoutHistory.iff_along (P := fun _ => P) hs hstep

/-! ## What has held since an event -/

/-- Some event was, given the ones before it, as `Q` says, and all events since are as `P` says. -/
def HeldSince (P : ε → Prop) (Q : List ε → ε → Prop) (es : List ε) : Prop :=
  ∃ before after e, es = before ++ e :: after ∧ Q before e ∧ ∀ later ∈ after, P later

namespace HeldSince

variable {P : ε → Prop} {Q : List ε → ε → Prop} {es : List ε} {e : ε}

theorem not_nil : ¬ HeldSince P Q [] := by
  rintro ⟨before, after, e, hes, _⟩
  simp at hes

/-- The event looked for is the last one, or an earlier one and the last is as `P` says. -/
theorem snoc_iff : HeldSince P Q (es ++ [e]) ↔ Q es e ∨ HeldSince P Q es ∧ P e := by
  constructor
  · rintro ⟨before, after, found, hes, hQ, hP⟩
    rcases snoc_eq_split hes with ⟨rfl, rfl, rfl⟩ | ⟨rest, rfl, rfl⟩
    · exact Or.inl hQ
    · refine Or.inr ⟨⟨before, rest, found, rfl, hQ, fun later hlater => ?_⟩, ?_⟩
      · exact hP later (by simp [hlater])
      · exact hP e (by simp)
  · rintro (hQ | ⟨⟨before, after, found, rfl, hQ, hP⟩, hlast⟩)
    · exact ⟨es, [], e, rfl, hQ, by simp⟩
    · refine ⟨before, after ++ [e], found, by simp, hQ, fun later hlater => ?_⟩
      rcases List.mem_append.1 hlater with hlater | hlater
      · exact hP later hlater
      · obtain rfl := List.mem_singleton.1 hlater
        exact hlast

end HeldSince

/-! ## History variables -/

/-- The step relation that also carries a history variable, updated by `record`. -/
def withHistory {γ : Type w} (step : σ → ε → σ → Prop) (record : σ → ε → σ → γ → γ) :
    σ × γ → ε → σ × γ → Prop :=
  fun s e t => step s.1 e t.1 ∧ t.2 = record s.1 e t.1 s.2

section History

variable {γ : Type w}

/-- Forgetting the history variable gives a run of the original relation. -/
theorem Run.forget_history {record : σ → ε → σ → γ → γ} {s t : σ × γ} {es : List ε}
    (h : Run (withHistory step record) s es t) : Run step s.1 es t.1 := by
  induction h with
  | nil => exact Run.nil _
  | snoc _ hlast ih => exact Run.snoc ih hlast.1

theorem Run.snoc_history {record : σ → ε → σ → γ → γ} {s : σ × γ} {t u : σ} {g : γ} {es : List ε}
    {e : ε} (h : Run (withHistory step record) s es (t, g)) (hlast : step t e u) :
    Run (withHistory step record) s (es ++ [e]) (u, record t e u g) :=
  Run.snoc h ⟨hlast, rfl⟩

/-- Every run of the original relation can be told with the history variable. -/
theorem Run.with_history {s t : σ} {es : List ε} (h : Run step s es t)
    (record : σ → ε → σ → γ → γ) (g : γ) :
    ∃ g', Run (withHistory step record) (s, g) es (t, g') := by
  induction h with
  | nil => exact ⟨g, Run.nil _⟩
  | snoc _ hlast ih =>
      rcases ih with ⟨g', hg'⟩
      exact ⟨record _ _ _ g', Run.snoc hg' ⟨hlast, rfl⟩⟩

end History

end Library
end IosProjects
