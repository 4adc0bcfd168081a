import Mathlib.Data.List.InsertIdx
import Mathlib.Data.List.Nodup
import IosProjects.Library.Lists

/-!
# WriteBack — a stored list and a copy that is written back

One writer appends to a stored list. Another reads a copy of it now and then, removes entries from
the copy and stores what is left of it. Appending between the read and the removal is undone by the
removal, without anybody having removed the entry.

A `Ledger` keeps every entry ever appended, numbered, the entries removed, and which of them the
stored list and the copy hold. `Ledger.expected` is what the stored list should contain; it does so
after a sequence of operations exactly when the operations are `Fresh`.
-/

namespace IosProjects
namespace Library
namespace WriteBack

universe u

variable {α : Type u}

/-! ## Operations -/

inductive Op (α : Type u) where
  | append (a : α)
  | read
  | removeAt (row : ℕ)

/-- Something has been appended since the copy was last read. -/
def unread (ops : List (Op α)) : Bool :=
  ops.foldl (fun stale op =>
    match op with
    | .append _ => true
    | .read => false
    | .removeAt _ => stale) false

/-- Every removal is made from a copy that misses nothing. -/
def Fresh (ops : List (Op α)) : Prop :=
  ∀ before row after, ops = before ++ .removeAt row :: after → unread before = false

section Fresh

variable {ops : List (Op α)}

@[simp] theorem unread_append_append (a : α) : unread (ops ++ [.append a]) = true := by
  simp [unread]

@[simp] theorem unread_append_read : unread (ops ++ [Op.read]) = false := by
  simp [unread]

@[simp] theorem unread_append_removeAt (row : ℕ) :
    unread (ops ++ [.removeAt row]) = unread ops := by
  simp [unread]

theorem Fresh.of_snoc {op : Op α} (h : Fresh (ops ++ [op])) : Fresh ops := by
  rintro before row after rfl
  exact h before row (after ++ [op]) (by simp)

theorem Fresh.unread_eq_false {row : ℕ} (h : Fresh (ops ++ [.removeAt row])) :
    unread ops = false :=
  h ops row [] rfl

end Fresh

/-! ## The ledger -/

theorem zipIdx_nodup (l : List α) : l.zipIdx.Nodup := by
  refine List.Nodup.of_map Prod.snd ?_
  rw [List.zipIdx_map_snd]
  exact List.nodup_range'

/-- A new entry has a new number. -/
theorem notMem_zipIdx (a : α) (l : List α) : (a, l.length) ∉ l.zipIdx := fun hmem =>
  lt_irrefl _ (List.snd_lt_of_mem_zipIdx hmem)

variable [DecidableEq α]

/-- The numbered entries that were not removed, in the order they were appended. -/
def kept (appended : List α) (removed : List (α × ℕ)) : List (α × ℕ) :=
  appended.zipIdx.filter (· ∉ removed)

theorem kept_nodup (appended : List α) (removed : List (α × ℕ)) :
    (kept appended removed).Nodup :=
  (zipIdx_nodup appended).filter _

theorem kept_append {appended : List α} {removed : List (α × ℕ)} (a : α)
    (hremoved : ∀ entry ∈ removed, entry ∈ appended.zipIdx) :
    kept (appended ++ [a]) removed = kept appended removed ++ [(a, appended.length)] := by
  have hnew : (a, appended.length) ∉ removed := fun hmem =>
    notMem_zipIdx a appended (hremoved _ hmem)
  simp [kept, List.zipIdx_append, hnew]

theorem kept_remove (appended : List α) (removed : List (α × ℕ)) (entry : α × ℕ) :
    kept appended (removed ++ [entry]) = (kept appended removed).filter (· ≠ entry) := by
  rw [kept, kept, List.filter_filter]
  apply List.filter_congr
  intro entry' _
  by_cases hsame : entry' = entry <;> simp [hsame]

/-- Neither list holds anything that was removed. -/
structure Ledger (α : Type u) [DecidableEq α] where
  appended : List α
  removed : List (α × ℕ)
  stored : List (α × ℕ)
  copy : List (α × ℕ)
  removed_appended : ∀ entry ∈ removed, entry ∈ appended.zipIdx
  stored_sublist : stored.Sublist (kept appended removed)
  copy_sublist : copy.Sublist (kept appended removed)

namespace Ledger

/-- What the stored list contains. -/
def contents (w : Ledger α) : List α :=
  w.stored.map Prod.fst

/-- What the copy contains. -/
def shown (w : Ledger α) : List α :=
  w.copy.map Prod.fst

/-- Everything appended and not removed. -/
def expected (w : Ledger α) : List α :=
  (kept w.appended w.removed).map Prod.fst

def start (l : List α) : Ledger α where
  appended := l
  removed := []
  stored := l.zipIdx
  copy := []
  removed_appended := by simp
  stored_sublist := by simp [kept]
  copy_sublist := List.nil_sublist _

def append (a : α) (w : Ledger α) : Ledger α where
  appended := w.appended ++ [a]
  removed := w.removed
  stored := w.stored ++ [(a, w.appended.length)]
  copy := w.copy
  removed_appended := by
    intro entry hentry
    rw [List.zipIdx_append]
    exact List.mem_append_left _ (w.removed_appended entry hentry)
  stored_sublist := by
    rw [kept_append a w.removed_appended]
    exact w.stored_sublist.append (List.Sublist.refl _)
  copy_sublist := by
    rw [kept_append a w.removed_appended]
    exact w.copy_sublist.trans (List.sublist_append_left _ _)

def read (w : Ledger α) : Ledger α :=
  { w with copy := w.stored, copy_sublist := w.stored_sublist }

/-- The entry is removed from the copy, and the copy is stored. -/
def removeAt (row : ℕ) (w : Ledger α) : Ledger α :=
  match hentry : w.copy[row]? with
  | none => w
  | some entry =>
      have hcopy : (w.copy.eraseIdx row).Sublist (kept w.appended (w.removed ++ [entry])) := by
        have hnodup := (kept_nodup w.appended w.removed).sublist w.copy_sublist
        rw [kept_remove, eraseIdx_eq_filter hnodup hentry]
        exact w.copy_sublist.filter _
      { appended := w.appended
        removed := w.removed ++ [entry]
        stored := w.copy.eraseIdx row
        copy := w.copy.eraseIdx row
        removed_appended := by
          intro entry' hentry'
          rcases List.mem_append.1 hentry' with hentry' | hentry'
          · exact w.removed_appended entry' hentry'
          · obtain rfl := List.mem_singleton.1 hentry'
            have hmem := w.copy_sublist.subset (List.mem_of_getElem? hentry)
            exact (List.mem_filter.1 hmem).1
        stored_sublist := hcopy
        copy_sublist := hcopy }

def apply (w : Ledger α) : Op α → Ledger α
  | .append a => w.append a
  | .read => w.read
  | .removeAt row => w.removeAt row

def after (w : Ledger α) (ops : List (Op α)) : Ledger α :=
  ops.foldl apply w

/-! ### What each operation does -/

section Operations

variable (w : Ledger α)

@[simp] theorem after_nil : w.after [] = w := rfl

theorem after_append (ops ops' : List (Op α)) : w.after (ops ++ ops') = (w.after ops).after ops' :=
  List.foldl_append

theorem after_snoc (ops : List (Op α)) (op : Op α) :
    w.after (ops ++ [op]) = (w.after ops).apply op := by
  simp [after]

@[simp] theorem contents_start (l : List α) : (start l).contents = l := by
  simp [start, contents]

@[simp] theorem contents_append (a : α) : (w.append a).contents = w.contents ++ [a] := by
  simp [append, contents]

variable {w} {row : ℕ} {entry : α × ℕ}

theorem removeAt_removed (h : w.copy[row]? = some entry) :
    (w.removeAt row).removed = w.removed ++ [entry] := by
  unfold removeAt
  split <;> simp_all

theorem removeAt_appended : (w.removeAt row).appended = w.appended := by
  unfold removeAt
  split <;> rfl

theorem removeAt_stored (h : w.copy[row]? = some entry) :
    (w.removeAt row).stored = w.copy.eraseIdx row := by
  unfold removeAt
  split <;> simp_all

theorem removeAt_copy : (w.removeAt row).copy = w.copy.eraseIdx row := by
  unfold removeAt
  split
  · rename_i hnone
    exact (List.eraseIdx_of_length_le (List.getElem?_eq_none_iff.1 hnone)).symm
  · rfl

theorem contents_removeAt (h : row < w.shown.length) :
    (w.removeAt row).contents = w.shown.eraseIdx row := by
  rw [shown, List.length_map] at h
  calc (w.removeAt row).contents
      = (w.copy.eraseIdx row).map Prod.fst := by
        rw [contents, removeAt_stored (List.getElem?_eq_getElem h)]
    _ = w.shown.eraseIdx row := (List.eraseIdx_map _ _ _).symm

theorem shown_removeAt : (w.removeAt row).shown = w.shown.eraseIdx row :=
  calc (w.removeAt row).shown
      = (w.copy.eraseIdx row).map Prod.fst := by rw [shown, removeAt_copy]
    _ = w.shown.eraseIdx row := (List.eraseIdx_map _ _ _).symm

/-- What is removed is no longer kept. -/
theorem kept_removeAt (h : w.copy[row]? = some entry) :
    kept (w.removeAt row).appended (w.removeAt row).removed =
      (kept w.appended w.removed).filter (· ≠ entry) := by
  rw [removeAt_appended, removeAt_removed h, kept_remove]

theorem kept_ledger_append (a : α) :
    kept (w.append a).appended (w.append a).removed =
      kept w.appended w.removed ++ [(a, w.appended.length)] :=
  kept_append a w.removed_appended

end Operations

/-! ### Lost entries -/

/-- An entry nobody removed is in neither list. -/
def Lost (w : Ledger α) : Prop :=
  ∃ entry ∈ kept w.appended w.removed, entry ∉ w.stored ∧ entry ∉ w.copy

/-- The copy misses an entry of the stored list. -/
def Stale (w : Ledger α) : Prop :=
  ∃ entry ∈ w.stored, entry ∉ w.copy

section Lost

variable {w : Ledger α}

theorem notMem_kept_of_new (a : α) :
    (a, w.appended.length) ∉ kept w.appended w.removed := fun hmem =>
  notMem_zipIdx a w.appended (List.mem_filter.1 hmem).1

theorem stale_append (a : α) : (w.append a).Stale :=
  ⟨(a, w.appended.length), List.mem_append_right _ (List.mem_singleton_self _),
    fun hmem => notMem_kept_of_new a (w.copy_sublist.subset hmem)⟩

theorem Lost.append (h : w.Lost) (a : α) : (w.append a).Lost := by
  rcases h with ⟨entry, hkept, hstored, hcopy⟩
  refine ⟨entry, ?_, ?_, hcopy⟩
  · rw [kept_ledger_append]
    exact List.mem_append_left _ hkept
  · intro hmem
    rcases List.mem_append.1 hmem with hmem | hmem
    · exact hstored hmem
    · exact notMem_kept_of_new a (List.mem_singleton.1 hmem ▸ hkept)

theorem Lost.read (h : w.Lost) : w.read.Lost := by
  rcases h with ⟨entry, hkept, hstored, _⟩
  exact ⟨entry, hkept, hstored, hstored⟩

/-- A removal writes the copy back, so what only the stored list held is lost. -/
theorem lost_removeAt {row : ℕ} {removed entry : α × ℕ} (hrow : w.copy[row]? = some removed)
    (hkept : entry ∈ kept w.appended w.removed) (hcopy : entry ∉ w.copy) :
    (w.removeAt row).Lost := by
  have hmissing : entry ∉ w.copy.eraseIdx row := fun hmem => hcopy (List.mem_of_mem_eraseIdx hmem)
  refine ⟨entry, ?_, ?_, ?_⟩
  · rw [kept_removeAt hrow, List.mem_filter]
    refine ⟨hkept, ?_⟩
    -- the entry removed was in the copy, and this one was not
    have hne : entry ≠ removed := by
      rintro rfl
      exact hcopy (List.mem_of_getElem? hrow)
    simpa using hne
  · rwa [removeAt_stored hrow]
  · rwa [removeAt_copy]

theorem removeAt_eq_self {row : ℕ} (h : w.copy[row]? = none) : w.removeAt row = w := by
  unfold removeAt
  split
  · rfl
  · simp_all

theorem Lost.removeAt (h : w.Lost) (row : ℕ) : (w.removeAt row).Lost := by
  cases hrow : w.copy[row]? with
  | none =>
      rw [removeAt_eq_self hrow]
      exact h
  | some removed =>
      rcases h with ⟨entry, hkept, _, hcopy⟩
      exact lost_removeAt hrow hkept hcopy

theorem Stale.removeAt (h : w.Stale) {row : ℕ} (hrow : row < w.copy.length) :
    (w.removeAt row).Lost := by
  rcases h with ⟨entry, hstored, hcopy⟩
  exact lost_removeAt (List.getElem?_eq_getElem hrow) (w.stored_sublist.subset hstored) hcopy

/-- What is lost stays lost. -/
theorem Lost.after (h : w.Lost) (ops : List (Op α)) : (w.after ops).Lost := by
  induction ops using List.reverseRecOn with
  | nil => exact h
  | append_singleton ops op ih =>
      rw [after_snoc]
      cases op with
      | append a => exact ih.append a
      | read => exact ih.read
      | removeAt row => exact ih.removeAt row

/-- The stored list contains what it should exactly when it holds every entry that was kept. -/
theorem contents_eq_expected_iff :
    w.contents = w.expected ↔ w.stored = kept w.appended w.removed := by
  constructor
  · intro h
    -- the stored list is a sublist of what was kept, so counting is enough
    refine w.stored_sublist.eq_of_length ?_
    simpa [contents, expected] using congrArg List.length h
  · intro h
    rw [contents, h, expected]

theorem Lost.contents_ne_expected (h : w.Lost) : w.contents ≠ w.expected := by
  intro hcontents
  rcases h with ⟨entry, hkept, hstored, _⟩
  rw [← contents_eq_expected_iff.1 hcontents] at hkept
  exact hstored hkept

end Lost

/-! ### Fresh removals -/

/-- After an append that has not been read, the copy misses something, or something is lost. -/
theorem stale_or_lost_of_unread (l : List α) {ops : List (Op α)} (h : unread ops = true) :
    ((start l).after ops).Stale ∨ ((start l).after ops).Lost := by
  induction ops using List.reverseRecOn with
  | nil => simp [unread] at h
  | append_singleton ops op ih =>
      rw [after_snoc]
      cases op with
      | append a => exact Or.inl (stale_append a)
      | read => simp at h
      | removeAt row =>
          rw [unread_append_removeAt] at h
          -- a removal of a missing row changes nothing; any other writes the stale copy back
          cases hrow : ((start l).after ops).copy[row]? with
          | none =>
              rw [apply, removeAt_eq_self hrow]
              exact ih h
          | some entry =>
              rcases ih h with hstale | hlost
              · exact Or.inr (hstale.removeAt (List.getElem?_eq_some_iff.1 hrow).1)
              · exact Or.inr (hlost.removeAt row)

/-- As long as every removal is fresh, the stored list holds every kept entry. The copy holds the
same, unless it misses an append or was never read. -/
theorem stored_eq_kept_of_fresh (l : List α) {ops : List (Op α)} (h : Fresh ops) :
    ((start l).after ops).stored =
        kept ((start l).after ops).appended ((start l).after ops).removed ∧
      (unread ops = false → ((start l).after ops).copy = ((start l).after ops).stored ∨
        ((start l).after ops).copy = []) := by
  induction ops using List.reverseRecOn with
  | nil => exact ⟨by simp [start, kept], fun _ => Or.inr rfl⟩
  | append_singleton ops op ih =>
      rcases ih h.of_snoc with ⟨hstored, hcopy⟩
      rw [after_snoc]
      generalize (start l).after ops = w at hstored hcopy
      cases op with
      | append a =>
          refine ⟨?_, fun hread => by simp at hread⟩
          rw [apply, kept_ledger_append, ← hstored]
          rfl
      | read => exact ⟨hstored, fun _ => Or.inl rfl⟩
      | removeAt row =>
          have hread := h.unread_eq_false
          rw [unread_append_removeAt]
          rw [apply]
          cases hrow : w.copy[row]? with
          | none =>
              rw [removeAt_eq_self hrow]
              exact ⟨hstored, hcopy⟩
          | some entry =>
              -- a row was removed, so the copy is not the empty one from before the first read
              have hsame : w.copy = w.stored := by
                rcases hcopy hread with hsame | hempty
                · exact hsame
                · simp [hempty] at hrow
              refine ⟨?_, fun _ => Or.inl ?_⟩
              · have hnodup : w.copy.Nodup := (kept_nodup _ _).sublist w.copy_sublist
                rw [removeAt_stored hrow, kept_removeAt hrow, eraseIdx_eq_filter hnodup hrow, hsame,
                  hstored]
              · rw [removeAt_copy, removeAt_stored hrow]

/-- Every row removed exists when it is removed. -/
def Performed (w : Ledger α) (ops : List (Op α)) : Prop :=
  ∀ before row after, ops = before ++ .removeAt row :: after → row < (w.after before).copy.length

/-- The stored list contains what it should exactly when every removal was fresh. -/
theorem contents_eq_expected_iff_fresh {l : List α} {ops : List (Op α)}
    (hperformed : (start l).Performed ops) :
    ((start l).after ops).contents = ((start l).after ops).expected ↔ Fresh ops := by
  constructor
  · rintro hcontents before row after rfl
    by_contra hunread
    rw [Bool.not_eq_false] at hunread
    -- the first removal that is not fresh loses an entry, and no later operation brings it back
    have hlost : ((start l).after (before ++ [.removeAt row])).Lost := by
      rw [after_snoc]
      rcases stale_or_lost_of_unread l hunread with hstale | hlost
      · exact hstale.removeAt (hperformed before row after rfl)
      · exact hlost.removeAt row
    rw [List.append_cons, after_append] at hcontents
    exact (hlost.after after).contents_ne_expected hcontents
  · intro hfresh
    exact contents_eq_expected_iff.2 (stored_eq_kept_of_fresh l hfresh).1

end Ledger

end WriteBack
end Library
end IosProjects
