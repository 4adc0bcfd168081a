import Mathlib.Algebra.Order.Ring.Nat
import Mathlib.Data.List.Induction
import Mathlib.Data.List.TakeDrop
import Mathlib.Tactic.Ring

/-!
# Positional — numbers written with the digits of any alphabet

`positional v cs` is the number that the row `cs` denotes in base ten when the symbol `c` stands for
the digit `v c`. A row may mix scripts, and it may begin with zeros.

`significant v cs` is what is left without those zeros. A reader that keeps the first `k` of them
and puts zeros for the others gives the number back exactly when these were zeros; `keeps_iff` says
it without the row, in terms of the number alone.
-/

namespace IosProjects
namespace Library

universe u

variable {α : Type u} (v : α → ℕ)

def positional (cs : List α) : ℕ :=
  cs.foldl (fun n c => 10 * n + v c) 0

@[simp] theorem positional_nil : positional v [] = 0 := rfl

@[simp] theorem positional_append_singleton (cs : List α) (c : α) :
    positional v (cs ++ [c]) = 10 * positional v cs + v c := by
  simp [positional]

theorem positional_append (cs ds : List α) :
    positional v (cs ++ ds) = positional v cs * 10 ^ ds.length + positional v ds := by
  induction ds using List.reverseRecOn with
  | nil => simp
  | append_singleton ds d ih =>
      rw [← List.append_assoc, positional_append_singleton, ih, positional_append_singleton,
        List.length_append, List.length_singleton]
      ring

theorem positional_cons (c : α) (cs : List α) :
    positional v (c :: cs) = v c * 10 ^ cs.length + positional v cs := by
  have happend := positional_append v [c] cs
  simpa [positional] using happend

/-- Rows read alike when their symbols do. -/
theorem positional_congr {v w : α → ℕ} {cs : List α} (h : ∀ c ∈ cs, v c = w c) :
    positional v cs = positional w cs := by
  induction cs using List.reverseRecOn with
  | nil => rfl
  | append_singleton cs c ih =>
      have hcs := ih fun d hd => h d (List.mem_append_left _ hd)
      rw [positional_append_singleton, positional_append_singleton, hcs, h c (by simp)]

variable {v}

theorem positional_lt {cs : List α} (h : ∀ c ∈ cs, v c < 10) :
    positional v cs < 10 ^ cs.length := by
  induction cs using List.reverseRecOn with
  | nil => simp
  | append_singleton cs c ih =>
      have hcs := ih fun d hd => h d (List.mem_append_left _ hd)
      have hc := h c (by simp)
      rw [positional_append_singleton, List.length_append, List.length_singleton, pow_succ]
      omega

/-- A row that does not begin with a zero needs all its places. -/
theorem pow_le_positional_cons {c : α} (h : v c ≠ 0) (cs : List α) :
    10 ^ cs.length ≤ positional v (c :: cs) := by
  rw [positional_cons]
  calc 10 ^ cs.length
      ≤ v c * 10 ^ cs.length := Nat.le_mul_of_pos_left _ (Nat.pos_of_ne_zero h)
    _ ≤ v c * 10 ^ cs.length + positional v cs := Nat.le_add_right _ _

/-! ## Significant digits -/

variable (v) in
/-- The row without the zeros in front. -/
def significant (cs : List α) : List α :=
  cs.dropWhile fun c => v c = 0

theorem positional_significant (cs : List α) :
    positional v (significant v cs) = positional v cs := by
  induction cs with
  | nil => rfl
  | cons c cs ih =>
      by_cases hc : v c = 0
      · have hdrop : significant v (c :: cs) = significant v cs := by simp [significant, hc]
        rw [hdrop, ih, positional_cons, hc, Nat.zero_mul, Nat.zero_add]
      · have hkeep : significant v (c :: cs) = c :: cs := by simp [significant, hc]
        rw [hkeep]

theorem mem_of_mem_significant {cs : List α} {c : α} (h : c ∈ significant v cs) : c ∈ cs :=
  (List.dropWhile_sublist _).subset h

/-- The first significant digit is no zero. -/
theorem significant_cons {cs rest : List α} {c : α} (h : significant v cs = c :: rest) :
    v c ≠ 0 := by
  induction cs with
  | nil => simp [significant] at h
  | cons d cs ih =>
      by_cases hd : v d = 0
      · have hdrop : significant v (d :: cs) = significant v cs := by simp [significant, hd]
        exact ih (hdrop ▸ h)
      · have hkeep : significant v (d :: cs) = d :: cs := by simp [significant, hd]
        rw [hkeep, List.cons.injEq] at h
        exact h.1 ▸ hd

theorem pow_le_of_significant {cs : List α} {n : ℕ} (h : n < (significant v cs).length) :
    10 ^ n ≤ positional v cs := by
  rw [← positional_significant]
  cases hrow : significant v cs with
  | nil => simp [hrow] at h
  | cons c rest =>
      have hc : v c ≠ 0 := significant_cons hrow
      rw [hrow, List.length_cons] at h
      calc 10 ^ n
          ≤ 10 ^ rest.length := Nat.pow_le_pow_right (by norm_num) (Nat.le_of_lt_succ h)
        _ ≤ positional v (c :: rest) := pow_le_positional_cons hc rest

/-- The places of the significant digits after the first `k`. -/
def excess (v : α → ℕ) (k : ℕ) (cs : List α) : ℕ :=
  (significant v cs).length - k

/-- What is left of a number when zeros stand for its significant digits after the first `k`. -/
def truncated (v : α → ℕ) (k : ℕ) (cs : List α) : ℕ :=
  positional v ((significant v cs).take k) * 10 ^ excess v k cs

theorem positional_eq_truncated_add (k : ℕ) (cs : List α) :
    positional v cs = truncated v k cs + positional v ((significant v cs).drop k) := by
  have hlength : ((significant v cs).drop k).length = excess v k cs := by
    rw [List.length_drop, excess]
  calc positional v cs
      = positional v ((significant v cs).take k ++ (significant v cs).drop k) := by
        rw [List.take_append_drop, positional_significant]
    _ = truncated v k cs + positional v ((significant v cs).drop k) := by
        rw [positional_append, hlength, truncated]

theorem truncated_le (k : ℕ) (cs : List α) : truncated v k cs ≤ positional v cs := by
  rw [positional_eq_truncated_add k cs]
  exact Nat.le_add_right _ _

/-- Truncation keeps a number exactly when it ends in as many zeros as there are places cut off. -/
theorem truncated_eq_iff_dvd {cs : List α} (h : ∀ c ∈ cs, v c < 10) (k : ℕ) :
    truncated v k cs = positional v cs ↔ 10 ^ excess v k cs ∣ positional v cs := by
  constructor
  · intro heq
    rw [← heq]
    exact Nat.dvd_mul_left _ _
  · intro hdvd
    have hrest : positional v ((significant v cs).drop k) < 10 ^ excess v k cs := by
      have hlt :
          positional v ((significant v cs).drop k) < 10 ^ ((significant v cs).drop k).length :=
        positional_lt fun c hc => h c (mem_of_mem_significant (List.mem_of_mem_drop hc))
      rwa [List.length_drop] at hlt
    have hsplit := positional_eq_truncated_add (v := v) k cs
    rw [hsplit] at hdvd
    -- the rest is divisible as well, and too small for it
    have hdvdRest : 10 ^ excess v k cs ∣ positional v ((significant v cs).drop k) :=
      (Nat.dvd_add_right (Nat.dvd_mul_left _ _)).1 hdvd
    have hzero := Nat.eq_zero_of_dvd_of_lt hdvdRest hrest
    rw [hsplit, hzero, Nat.add_zero]

/-- A number is kept, with no more than `b` places cut off, exactly when it has at most `k`
significant digits and at most `b` zeros after them. -/
theorem keeps_iff {cs : List α} (h : ∀ c ∈ cs, v c < 10) (k b : ℕ) :
    (excess v k cs ≤ b ∧ truncated v k cs = positional v cs) ↔
      ∃ m < 10 ^ k, ∃ e ≤ b, positional v cs = m * 10 ^ e := by
  constructor
  · rintro ⟨hexcess, heq⟩
    refine ⟨positional v ((significant v cs).take k), ?_, excess v k cs, hexcess, heq.symm⟩
    have hlt : positional v ((significant v cs).take k) < 10 ^ ((significant v cs).take k).length :=
      positional_lt fun c hc => h c (mem_of_mem_significant (List.mem_of_mem_take hc))
    exact hlt.trans_le (Nat.pow_le_pow_right (by norm_num) (List.length_take_le _ _))
  · rintro ⟨m, hm, e, he, hvalue⟩
    -- the number is too small to have more than `k + e` places
    have hlength : (significant v cs).length ≤ k + e := by
      by_contra hlong
      have hlow : 10 ^ (k + e) ≤ positional v cs := pow_le_of_significant (Nat.lt_of_not_le hlong)
      have hhigh : m * 10 ^ e < 10 ^ k * 10 ^ e :=
        Nat.mul_lt_mul_of_pos_right hm (Nat.pow_pos (by norm_num))
      rw [hvalue, pow_add] at hlow
      omega
    have hexcess : excess v k cs ≤ e := by
      rw [excess]
      omega
    refine ⟨hexcess.trans he, (truncated_eq_iff_dvd h k).2 ?_⟩
    rw [hvalue]
    exact (Nat.pow_dvd_pow 10 hexcess).trans (Nat.dvd_mul_left _ _)

end Library
end IosProjects
