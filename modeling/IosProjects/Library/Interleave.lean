import Mathlib.Logic.Function.Basic
import IosProjects.Library.Run

/-!
# Interleave — machines that take turns, and systems that follow others

* `Simulates step step' Q R` — states related by `R` stay related when `step` takes a step of the
  kind `Q` and `step'` takes one or stays where it is;
* `Matched step step' R` — two runs told together, step for step; `step'` can follow every run of
  steps of the kind;
* `Interleaved step` — a family of machines over a shared state. An event belongs to one of them,
  and the others stay as they are;
* `Interleaved.simulates` — a family is followed by one system if each machine is, and if what
  relates a machine to that system is not disturbed by what the system does for the others.
-/

namespace IosProjects
namespace Library

universe u v w x y z

/-! ## Simulations -/

section Simulations

variable {σ : Type u} {ε : Type v} {τ : Type w} {δ : Type x} {step : σ → ε → σ → Prop}
  {step' : τ → δ → τ → Prop} {Q : σ → ε → σ → Prop} {R : σ → τ → Prop}

def Simulates (step : σ → ε → σ → Prop) (step' : τ → δ → τ → Prop) (Q : σ → ε → σ → Prop)
    (R : σ → τ → Prop) : Prop :=
  ∀ s e t a, R s a → Q s e t → step s e t → ∃ b, (b = a ∨ ∃ d, step' a d b) ∧ R t b

/-- A run from `s` and one from `a` that follows it, through related states. -/
inductive Matched (step : σ → ε → σ → Prop) (step' : τ → δ → τ → Prop) (R : σ → τ → Prop) (s : σ)
    (a : τ) : List ε → List δ → σ → τ → Prop where
  | nil : R s a → Matched step step' R s a [] [] s a
  | step {es : List ε} {ds : List δ} {t u : σ} {b c : τ} {e : ε} {d : δ} :
      Matched step step' R s a es ds t b → step t e u → step' b d c → R u c →
      Matched step step' R s a (es ++ [e]) (ds ++ [d]) u c
  | stutter {es : List ε} {ds : List δ} {t u : σ} {b : τ} {e : ε} :
      Matched step step' R s a es ds t b → step t e u → R u b →
      Matched step step' R s a (es ++ [e]) ds u b

namespace Matched

variable {s t : σ} {a b : τ} {es : List ε} {ds : List δ}

theorem follower (h : Matched step step' R s a es ds t b) : Run step' a ds b := by
  induction h with
  | nil _ => exact Run.nil a
  | step _ _ hstep _ ih => exact ih.snoc hstep
  | stutter _ _ _ ih => exact ih

theorem related (h : Matched step step' R s a es ds t b) : R t b := by
  cases h with
  | nil hr => exact hr
  | step _ _ _ hr => exact hr
  | stutter _ _ hr => exact hr

end Matched

theorem Simulates.matched (h : Simulates step step' Q R) {s t : σ} {es : List ε} {a : τ}
    (hrun : Run step s es t) (halong : Along step s es Q) (hs : R s a) :
    ∃ ds b, Matched step step' R s a es ds t b := by
  induction hrun with
  | nil => exact ⟨[], a, .nil hs⟩
  | @snoc t u es e hrun hlast ih =>
      have hbefore : Along step s es Q := fun before after e' v w hes =>
        halong before (after ++ [e]) e' v w (by simp [hes])
      obtain ⟨ds, b, hmatched⟩ := ih hbefore
      obtain ⟨c, hc, hr⟩ := h t e u b hmatched.related (halong es [] e t u rfl hrun hlast) hlast
      rcases hc with rfl | ⟨d, hstep⟩
      · exact ⟨ds, c, .stutter hmatched hlast hr⟩
      · exact ⟨ds ++ [d], c, .step hmatched hlast hstep hr⟩

end Simulations

/-! ## Machines over a shared state -/

section Machines

variable {ι : Type u} [DecidableEq ι] {σ : Type v} {γ : Type w} {ε : Type x}
  {step : ι → σ × γ → ε → σ × γ → Prop}

inductive Interleaved (step : ι → σ × γ → ε → σ × γ → Prop) :
    (ι → σ) × γ → ι × ε → (ι → σ) × γ → Prop where
  | step {s : ι → σ} {g : γ} {i : ι} {e : ε} {t : σ} {g' : γ} :
      step i (s i, g) e (t, g') → Interleaved step (s, g) (i, e) (Function.update s i t, g')

theorem Interleaved.own {s t : (ι → σ) × γ} {e : ι × ε} (h : Interleaved step s e t) :
    step e.1 (s.1 e.1, s.2) e.2 (t.1 e.1, t.2) := by
  rcases h with ⟨hstep⟩
  simpa using hstep

theorem Interleaved.others {s t : (ι → σ) × γ} {e : ι × ε} (h : Interleaved step s e t) {j : ι}
    (hj : j ≠ e.1) : t.1 j = s.1 j := by
  rcases h with ⟨_⟩
  exact Function.update_of_ne hj _ _

/-- A machine that takes all the steps. -/
theorem Interleaved.run_own {i : ι} {a b : σ × γ} {es : List ε} (hrun : Run (step i) a es b)
    (s : ι → σ) (hs : s i = a.1) :
    Run (Interleaved step) (s, a.2) (es.map (Prod.mk i)) (Function.update s i b.1, b.2) := by
  induction hrun with
  | nil =>
      rw [← hs, Function.update_eq_self]
      exact Run.nil _
  | @snoc t u es e _ hlast ih =>
      have hstep : Interleaved step (Function.update s i t.1, t.2) (i, e)
          (Function.update (Function.update s i t.1) i u.1, u.2) := by
        refine .step ?_
        simpa using hlast
      rw [Function.update_idem] at hstep
      rw [List.map_append]
      exact ih.snoc hstep

variable {τ : Type y} {δ : Type z} {step' : τ → δ → τ → Prop} {Q : ι → σ × γ → ε → σ × γ → Prop}
  {G : γ → τ → Prop} {R : ι → σ → τ → Prop}

/-- `G` relates the shared state to the system that follows, and `R i` the machine `i`. -/
theorem Interleaved.simulates
    (hown : ∀ i s g e t g' a, G g a → R i s a → Q i (s, g) e (t, g') → step i (s, g) e (t, g') →
      ∃ b, (b = a ∨ ∃ d, step' a d b) ∧ G g' b ∧ R i t b)
    (hothers : ∀ i s a d b, R i s a → step' a d b → R i s b) :
    Simulates (Interleaved step) step' (fun s e t => Q e.1 (s.1 e.1, s.2) e.2 (t.1 e.1, t.2))
      fun s a => G s.2 a ∧ ∀ i, R i (s.1 i) a := by
  rintro ⟨s, g⟩ ⟨i, e⟩ ⟨t, g'⟩ a ⟨hg, hr⟩ hq hstep
  obtain ⟨b, hb, hg', hri⟩ := hown i _ _ _ _ _ a hg (hr i) hq hstep.own
  refine ⟨b, hb, hg', fun j => ?_⟩
  by_cases hj : j = i
  · subst hj
    exact hri
  · rw [hstep.others hj]
    rcases hb with rfl | ⟨d, hd⟩
    · exact hr j
    · exact hothers j _ a d b (hr j) hd

end Machines

end Library
end IosProjects
