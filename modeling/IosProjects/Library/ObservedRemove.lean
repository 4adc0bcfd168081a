import Mathlib.Data.List.Nodup
import Mathlib.Data.List.Perm.Subperm

/-!
# ObservedRemove — collections whose elements are removed in two steps

An element is removed by observing it first and dropping it later: a query returns some of the
rows, and each returned row is deleted on its own. What is added after the observation is not
removed by it.

`ObservedRemove added observed rows doomed` relates the rows still held to everything that was ever
`added`, to what was `observed`, and to the elements that are `doomed`, observed and still to be
dropped. Once nothing is doomed, the rows are those never observed.
-/

namespace IosProjects
namespace Library

universe u

variable {α : Type u}

structure ObservedRemove (added observed rows : List α) (doomed : α → Prop) : Prop where
  added_nodup : added.Nodup
  rows_nodup : rows.Nodup
  added_of_mem : ∀ a ∈ rows, a ∈ added
  added_of_observed : ∀ a ∈ observed, a ∈ added
  mem_of_unobserved : ∀ a ∈ added, a ∉ observed → a ∈ rows
  doomed_iff : ∀ a ∈ rows, doomed a ↔ a ∈ observed

namespace ObservedRemove

variable {added observed rows : List α} {doomed doomed' : α → Prop}

theorem refl (hnodup : rows.Nodup) (hdoomed : ∀ a, ¬ doomed a) :
    ObservedRemove rows [] rows doomed where
  added_nodup := hnodup
  rows_nodup := hnodup
  added_of_mem := fun _ ha => ha
  added_of_observed := by simp
  mem_of_unobserved := fun _ ha _ => ha
  doomed_iff := by simp [hdoomed]

/-- Only what is doomed among the rows matters. -/
theorem congr (h : ObservedRemove added observed rows doomed)
    (hdoomed : ∀ a ∈ rows, doomed' a ↔ doomed a) : ObservedRemove added observed rows doomed' where
  added_nodup := h.added_nodup
  rows_nodup := h.rows_nodup
  added_of_mem := h.added_of_mem
  added_of_observed := h.added_of_observed
  mem_of_unobserved := h.mem_of_unobserved
  doomed_iff := fun a ha => (hdoomed a ha).trans (h.doomed_iff a ha)

theorem add (h : ObservedRemove added observed rows doomed) {a : α} (hadded : a ∉ added)
    (hdoomed : ¬ doomed a) :
    ObservedRemove (added ++ [a]) observed (rows ++ [a]) doomed where
  added_nodup := h.added_nodup.append (List.nodup_singleton a) (by simpa using hadded)
  rows_nodup := h.rows_nodup.append (List.nodup_singleton a)
    (by simpa using fun hmem => hadded (h.added_of_mem a hmem))
  added_of_mem := by
    intro b hb
    rcases List.mem_append.1 hb with hb | hb
    · exact List.mem_append_left _ (h.added_of_mem b hb)
    · exact List.mem_append_right _ hb
  added_of_observed := fun b hb => List.mem_append_left _ (h.added_of_observed b hb)
  mem_of_unobserved := by
    intro b hb hnot
    rcases List.mem_append.1 hb with hb | hb
    · exact List.mem_append_left _ (h.mem_of_unobserved b hb hnot)
    · exact List.mem_append_right _ hb
  doomed_iff := by
    intro b hb
    rcases List.mem_append.1 hb with hb | hb
    · exact h.doomed_iff b hb
    · -- the new element has not been observed, because only what is added can be
      obtain rfl := List.mem_singleton.1 hb
      exact iff_of_false hdoomed fun hobserved => hadded (h.added_of_observed b hobserved)

/-- Observing some elements dooms them. -/
theorem observe (h : ObservedRemove added observed rows doomed) {found : List α}
    (hfound : ∀ a ∈ found, a ∈ added) (hdoomed : ∀ a ∈ rows, doomed' a ↔ doomed a ∨ a ∈ found) :
    ObservedRemove added (observed ++ found) rows doomed' where
  added_nodup := h.added_nodup
  rows_nodup := h.rows_nodup
  added_of_mem := h.added_of_mem
  added_of_observed := by
    intro a ha
    rcases List.mem_append.1 ha with ha | ha
    · exact h.added_of_observed a ha
    · exact hfound a ha
  mem_of_unobserved := by
    intro a ha hnot
    exact h.mem_of_unobserved a ha fun hobserved => hnot (List.mem_append_left _ hobserved)
  doomed_iff := by
    intro a ha
    rw [hdoomed a ha, h.doomed_iff a ha, List.mem_append]

theorem drop [DecidableEq α] (h : ObservedRemove added observed rows doomed) {a : α} (ha : doomed a)
    (hdoomed : ∀ b ∈ rows.erase a, doomed' b ↔ doomed b) :
    ObservedRemove added observed (rows.erase a) doomed' where
  added_nodup := h.added_nodup
  rows_nodup := h.rows_nodup.erase a
  added_of_mem := fun b hb => h.added_of_mem b (List.mem_of_mem_erase hb)
  added_of_observed := h.added_of_observed
  mem_of_unobserved := by
    intro b hb hnot
    have hrow := h.mem_of_unobserved b hb hnot
    -- a doomed element was observed, so it is not the one that has to stay
    have hne : b ≠ a := by
      rintro rfl
      exact hnot ((h.doomed_iff b hrow).1 ha)
    exact (List.mem_erase_of_ne hne).2 hrow
  doomed_iff := fun b hb => (hdoomed b hb).trans (h.doomed_iff b (List.mem_of_mem_erase hb))

theorem length_le (h : ObservedRemove added observed rows doomed) : rows.length ≤ added.length :=
  (List.subperm_of_subset h.rows_nodup fun a ha => h.added_of_mem a ha).length_le

/-- With nothing doomed, the rows are the elements never observed. -/
theorem perm_unobserved [DecidableEq α] (h : ObservedRemove added observed rows doomed)
    (hdoomed : ∀ a, ¬ doomed a) : rows.Perm (added.filter (· ∉ observed)) := by
  apply (List.perm_ext_iff_of_nodup h.rows_nodup (h.added_nodup.filter _)).2
  intro a
  simp only [List.mem_filter, decide_eq_true_eq]
  constructor
  · intro ha
    exact ⟨h.added_of_mem a ha, fun hobserved => hdoomed a ((h.doomed_iff a ha).2 hobserved)⟩
  · rintro ⟨ha, hnot⟩
    exact h.mem_of_unobserved a ha hnot

end ObservedRemove

end Library
end IosProjects
