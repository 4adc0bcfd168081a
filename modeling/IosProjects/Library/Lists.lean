import Mathlib.Data.List.Forall2
import Mathlib.Data.List.Induction
import Mathlib.Data.List.Sort
import Mathlib.Data.Set.Card

/-!
# Lists — separators and sorted lists

Small facts about lists that the developments share: cutting a list at a separator, reading and
comparing lists place by place, what deletions do to positions, the uniqueness of a sorted
arrangement, and ranks in a set.
-/

namespace IosProjects
namespace Library

universe u

variable {α : Type u}

/-! ## Separators -/

/-- A separator that occurs in neither front cuts both lists at the same place. -/
theorem append_sep_inj {sep : α} {as bs cs ds : List α} (ha : sep ∉ as) (hb : sep ∉ bs)
    (h : as ++ sep :: cs = bs ++ sep :: ds) : as = bs ∧ cs = ds := by
  induction as generalizing bs with
  | nil =>
      cases bs with
      | nil => simpa using h
      | cons b bs =>
          obtain ⟨rfl, _⟩ : sep = b ∧ cs = bs ++ sep :: ds := by simpa using h
          exact (hb List.mem_cons_self).elim
  | cons a as ih =>
      cases bs with
      | nil =>
          -- the separator would be in the front of the other list
          obtain ⟨rfl, _⟩ : a = sep ∧ as ++ sep :: cs = ds := by simpa using h
          exact (ha List.mem_cons_self).elim
      | cons b bs =>
          obtain ⟨rfl, htail⟩ : a = b ∧ as ++ sep :: cs = bs ++ sep :: ds := by simpa using h
          obtain ⟨rfl, rfl⟩ := ih (fun hm => ha (List.mem_cons_of_mem a hm))
            (fun hm => hb (List.mem_cons_of_mem a hm)) htail
          exact ⟨rfl, rfl⟩

/-! ## Reading a list index by index -/

/-- Reading off every index of a list gives the list. -/
theorem mapM_range_eq_some {l : List α} {f : ℕ → Option α}
    (h : ∀ i a, l[i]? = some a → f i = some a) : (List.range l.length).mapM f = some l := by
  induction l using List.reverseRecOn with
  | nil => rfl
  | append_singleton l a ih =>
      have hfront : (List.range l.length).mapM f = some l := by
        refine ih fun i b hb => h i b ?_
        rw [List.getElem?_append_left (List.getElem?_eq_some_iff.1 hb).1]
        exact hb
      have hlast : f l.length = some a := h _ _ List.getElem?_concat_length
      simp [List.range_succ, List.mapM_append, hfront, hlast]

/-! ## Comparing place by place -/

theorem countP_le_of_forall₂ {p : α → Bool} {l l' : List α}
    (h : List.Forall₂ (fun a b => p a = true → p b = true) l l') : l.countP p ≤ l'.countP p := by
  induction h with
  | nil => exact Nat.le_refl _
  | @cons a b l l' hhead _ ih =>
      rw [List.countP_cons, List.countP_cons]
      apply Nat.add_le_add ih
      by_cases ha : p a = true
      · simp [ha, hhead ha]
      · simp [ha]

/-- A property that is kept place by place, and has no more instances in the end, is reflected. -/
theorem iff_of_countP_eq {p : α → Bool} {l l' : List α}
    (h : List.Forall₂ (fun a b => p a = true → p b = true) l l')
    (hcount : l.countP p = l'.countP p) :
    List.Forall₂ (fun a b => p a = true ↔ p b = true) l l' := by
  induction h with
  | nil => exact .nil
  | @cons a b l l' hhead htail ih =>
      have hle := countP_le_of_forall₂ htail
      rw [List.countP_cons, List.countP_cons] at hcount
      by_cases ha : p a = true
      · have hrest : l.countP p = l'.countP p := by simpa [ha, hhead ha] using hcount
        exact .cons (iff_of_true ha (hhead ha)) (ih hrest)
      · by_cases hb : p b = true
        · -- one instance more here would have to be missing further on
          have hmore : l.countP p = l'.countP p + 1 := by simpa [ha, hb] using hcount
          omega
        · have hrest : l.countP p = l'.countP p := by simpa [ha, hb] using hcount
          exact .cons (iff_of_false ha hb) (ih hrest)

/-- A rearrangement of a list that lies above it place by place is the list. -/
theorem eq_of_forall₂_le_of_perm [PartialOrder α] {l l' : List α}
    (h : List.Forall₂ (· ≤ ·) l l') (hperm : l.Perm l') : l = l' := by
  classical
  -- a rearrangement has as many elements above any bound
  have habove : ∀ c, List.Forall₂ (fun a b => c ≤ a ↔ c ≤ b) l l' := by
    intro c
    have hkept : List.Forall₂ (fun a b => decide (c ≤ a) = true → decide (c ≤ b) = true) l l' :=
      h.imp fun a b hab ha => decide_eq_true ((of_decide_eq_true ha).trans hab)
    exact (iff_of_countP_eq hkept (hperm.countP_eq _)).imp fun a b hab => by simpa using hab
  apply List.ext_get h.length_eq
  intro i hi hi'
  have hiff := fun c => (List.forall₂_iff_get.1 (habove c)).2 i hi hi'
  exact le_antisymm ((hiff _).1 le_rfl) ((hiff _).2 le_rfl)

/-! ## Positions -/

section Positions

variable [DecidableEq α] {l : List α}

/-- What holds pairwise holds of any two elements in the order of their positions. -/
theorem of_idxOf_lt {r : α → α → Prop} (h : l.Pairwise r) {a b : α} (hb : b ∈ l)
    (hab : l.idxOf a < l.idxOf b) : r a b := by
  have hblt : l.idxOf b < l.length := List.idxOf_lt_length_iff.2 hb
  have halt : l.idxOf a < l.length := hab.trans hblt
  have hr := List.pairwise_iff_getElem.1 h _ _ halt hblt hab
  rwa [List.getElem_idxOf, List.getElem_idxOf] at hr

theorem pairwise_idxOf_lt (h : l.Nodup) : l.Pairwise fun a b => l.idxOf a < l.idxOf b := by
  apply List.pairwise_iff_getElem.2
  intro i j hi hj hij
  rw [h.idxOf_getElem i hi, h.idxOf_getElem j hj]
  exact hij

/-- Removing at the position of an element is removing the element. -/
theorem eraseIdx_eq_erase (h : l.Nodup) {i : ℕ} {a : α} (ha : l[i]? = some a) :
    l.eraseIdx i = l.erase a := by
  rcases List.getElem?_eq_some_iff.1 ha with ⟨hi, rfl⟩
  exact (h.erase_getElem i hi).symm

theorem eraseIdx_eq_filter (h : l.Nodup) {i : ℕ} {a : α} (ha : l[i]? = some a) :
    l.eraseIdx i = l.filter (· ≠ a) := by
  rw [eraseIdx_eq_erase h ha, h.erase_eq_filter]
  exact List.filter_congr fun b _ => by simp [bne, beq_eq_decide]

end Positions

/-! ## Replacing an entry by its key -/

/-- Where keys are not repeated, replacing the first entry with a key replaces the entry with it. -/
theorem set_findIdx?_eq_map {α κ : Type*} [DecidableEq κ] {key : α → κ} {l : List α}
    (hkeys : (l.map key).Nodup) (a : α) :
    (match l.findIdx? (fun b => key b = key a) with
      | some i => l.set i a
      | none => l) = l.map fun b => if key b = key a then a else b := by
  induction l with
  | nil => rfl
  | cons b l ih =>
      rw [List.map_cons, List.nodup_cons] at hkeys
      rw [List.findIdx?_cons, List.map_cons]
      by_cases hb : key b = key a
      · -- no later entry has the key
        have hrest : l.map (fun b => if key b = key a then a else b) = l := by
          refine (List.map_congr_left fun c hc => if_neg ?_).trans l.map_id'
          rintro hsame
          exact hkeys.1 (List.mem_map.2 ⟨c, hc, hsame.trans hb.symm⟩)
        simp [hb, hrest]
      · have htail := ih hkeys.2
        rw [if_neg hb, ← htail]
        cases l.findIdx? (fun b => key b = key a) <;> simp [hb]

/-! ## Values that are there together -/

theorem rel_some_left {α β : Type*} {r : α → β → Prop} {a : α} {y : Option β} :
    Option.Rel r (some a) y ↔ ∃ b, y = some b ∧ r a b := by
  constructor
  · rintro (⟨hab⟩ | _)
    exact ⟨_, rfl, hab⟩
  · rintro ⟨b, rfl, hab⟩
    exact .some hab

theorem rel_some_right {α β : Type*} {r : α → β → Prop} {b : β} {x : Option α} :
    Option.Rel r x (some b) ↔ ∃ a, x = some a ∧ r a b := by
  constructor
  · rintro (⟨hab⟩ | _)
    exact ⟨_, rfl, hab⟩
  · rintro ⟨a, rfl, hab⟩
    exact .some hab

/-! ## Reading a list through a partial function -/

/-- Where the function is defined on every entry, nothing is left out and positions stay. -/
theorem getElem?_filterMap_of_isSome {α β : Type*} {f : α → Option β} {l : List α}
    (h : ∀ a ∈ l, (f a).isSome) (i : ℕ) : (l.filterMap f)[i]? = l[i]?.bind f := by
  induction l generalizing i with
  | nil => rfl
  | cons a l ih =>
      obtain ⟨hhead, htail⟩ := List.forall_mem_cons.1 h
      obtain ⟨b, hb⟩ := Option.isSome_iff_exists.1 hhead
      rw [List.filterMap_cons_some hb]
      cases i with
      | zero => simp [hb]
      | succ i => simpa using ih htail i

/-- An entry is at as many positions as it occurs. -/
theorem countP_range_getElem? {α : Type*} [DecidableEq α] (l : List α) (a : α) :
    (List.range l.length).countP (fun i => l[i]? = some a) = l.count a := by
  induction l with
  | nil => rfl
  | cons b l ih =>
      have htail : (List.range l.length).countP
          ((fun i => decide ((b :: l)[i]? = some a)) ∘ Nat.succ) = l.count a := by
        rw [← ih]
        exact List.countP_congr fun i _ => by simp
      rw [List.length_cons, List.range_succ_eq_map, List.countP_cons, List.countP_map, htail,
        List.count_cons]
      simp

/-! ## One entry among others -/

/-- A list with one entry singled out gives exactly what that entry gives when the others give
nothing. -/
theorem flatMap_append_cons_eq_iff {α β : Type*} {f : α → List β} {before after : List α} {a : α} :
    (before ++ a :: after).flatMap f = f a ↔ ∀ b ∈ before ++ after, f b = [] := by
  constructor
  · intro h
    have hlength := congrArg List.length h
    rw [List.flatMap_append, List.flatMap_cons, List.length_append, List.length_append] at hlength
    have hbefore : before.flatMap f = [] := List.length_eq_zero_iff.1 (by omega)
    have hafter : after.flatMap f = [] := List.length_eq_zero_iff.1 (by omega)
    rw [← List.flatMap_eq_nil_iff, List.flatMap_append, hbefore, hafter]
    rfl
  · intro h
    rw [← List.flatMap_eq_nil_iff, List.flatMap_append, List.append_eq_nil_iff] at h
    calc (before ++ a :: after).flatMap f
        = before.flatMap f ++ (f a ++ after.flatMap f) := by
          rw [List.flatMap_append, List.flatMap_cons]
      _ = f a := by rw [h.1, h.2, List.nil_append, List.append_nil]

/-! ## Deleting by position -/

/-- Where the entry at position `i` stood before entries were deleted at the positions `is`, one
after the other. -/
def originalPosition : List ℕ → ℕ → ℕ
  | [], i => i
  | k :: is, i =>
      if originalPosition is i < k then originalPosition is i else originalPosition is i + 1

theorem getElem?_foldl_eraseIdx (l : List α) (is : List ℕ) (i : ℕ) :
    (is.foldl List.eraseIdx l)[i]? = l[originalPosition is i]? := by
  induction is generalizing l with
  | nil => rfl
  | cons k is ih =>
      calc ((k :: is).foldl List.eraseIdx l)[i]?
          = (l.eraseIdx k)[originalPosition is i]? := ih (l.eraseIdx k)
        _ = if originalPosition is i < k then l[originalPosition is i]?
              else l[originalPosition is i + 1]? := List.getElem?_eraseIdx
        _ = l[originalPosition (k :: is) i]? := by
            rw [originalPosition]
            split <;> rfl

/-- Deleting moves entries to the front only. -/
theorem le_originalPosition (is : List ℕ) (i : ℕ) : i ≤ originalPosition is i := by
  induction is with
  | nil => exact le_refl i
  | cons k is ih =>
      rw [originalPosition]
      split
      · exact ih
      · exact ih.trans (Nat.le_succ _)

/-- An entry has stayed in its place exactly when every deletion was behind it. -/
theorem originalPosition_eq_iff {is : List ℕ} {i : ℕ} :
    originalPosition is i = i ↔ ∀ k ∈ is, i < k := by
  induction is with
  | nil => simp [originalPosition]
  | cons k is ih =>
      have hle : i ≤ originalPosition is i := le_originalPosition is i
      rw [List.forall_mem_cons, ← ih, originalPosition]
      split
      · omega
      · omega

/-- So it is still the entry of the full list at that position, when no entry comes twice. -/
theorem getElem?_foldl_eraseIdx_eq_iff {l : List α} (hnodup : l.Nodup) {is : List ℕ} {i : ℕ} {a : α}
    (h : (is.foldl List.eraseIdx l)[i]? = some a) : l[i]? = some a ↔ ∀ k ∈ is, i < k := by
  rw [getElem?_foldl_eraseIdx] at h
  rw [← originalPosition_eq_iff]
  constructor
  · intro hi
    have hlt : originalPosition is i < l.length := (List.getElem?_eq_some_iff.1 h).1
    exact (List.getElem?_inj hlt hnodup).1 (h.trans hi.symm)
  · intro hsame
    rwa [hsame] at h

/-! ## Sorting by a key without repetitions -/

section SortByKey

variable {β : Type*} [LinearOrder β] {key : α → β}

/-- `l` in ascending order of `key`. -/
def sortAscending (key : α → β) (l : List α) : List α :=
  l.insertionSort fun a b => key a ≤ key b

/-- `l` in descending order of `key`. -/
def sortDescending (key : α → β) (l : List α) : List α :=
  l.insertionSort fun a b => key b ≤ key a

theorem sortAscending_perm (key : α → β) (l : List α) : (sortAscending key l).Perm l :=
  List.perm_insertionSort _ l

theorem sortDescending_perm (key : α → β) (l : List α) : (sortDescending key l).Perm l :=
  List.perm_insertionSort _ l

theorem sortAscending_pairwise (key : α → β) (l : List α) :
    (sortAscending key l).Pairwise fun a b => key a ≤ key b := by
  have htotal : Std.Total fun a b : α => key a ≤ key b := ⟨fun a b => le_total (key a) (key b)⟩
  have htrans : IsTrans α fun a b => key a ≤ key b := ⟨fun _ _ _ hab hbc => hab.trans hbc⟩
  exact List.pairwise_insertionSort _ l

theorem sortDescending_pairwise (key : α → β) (l : List α) :
    (sortDescending key l).Pairwise fun a b => key b ≤ key a := by
  have htotal : Std.Total fun a b : α => key b ≤ key a := ⟨fun a b => le_total (key b) (key a)⟩
  have htrans : IsTrans α fun a b => key b ≤ key a := ⟨fun _ _ _ hab hbc => hbc.trans hab⟩
  exact List.pairwise_insertionSort _ l

/-- In a list sorted by a key, of two entries with different keys the one with the smaller key comes
first. -/
theorem pair_sublist_iff {l : List α} (hsorted : l.Pairwise fun a b => key a ≤ key b) {a b : α}
    (ha : a ∈ l) (hb : b ∈ l) (hne : key a ≠ key b) : [a, b].Sublist l ↔ key a < key b := by
  constructor
  · intro hsub
    have hle : key a ≤ key b := by simpa using hsorted.sublist hsub
    exact lt_of_le_of_ne hle hne
  · intro hlt
    rcases List.append_of_mem ha with ⟨before, after, rfl⟩
    rcases List.mem_append.1 hb with hb | hb
    · have hle : key b ≤ key a := (List.pairwise_append.1 hsorted).2.2 b hb a List.mem_cons_self
      exact absurd hlt hle.not_gt
    · have hafter : b ∈ after := (List.mem_cons.1 hb).resolve_left fun hsame => hne (by rw [hsame])
      exact ((List.singleton_sublist.2 hafter).cons_cons a).trans (List.sublist_append_right _ _)

/-- A list without repeated keys has one ascending arrangement. -/
theorem eq_sortAscending {l l' : List α} (hkeys : (l.map key).Nodup) (hperm : l'.Perm l)
    (hsorted : l'.Pairwise fun a b => key a ≤ key b) : l' = sortAscending key l := by
  refine List.Perm.eq_of_pairwise ?_ hsorted (sortAscending_pairwise key l)
    (hperm.trans (sortAscending_perm key l).symm)
  intro a b ha hb hab hba
  have hb' := (sortAscending_perm key l).mem_iff.1 hb
  exact List.inj_on_of_nodup_map hkeys (hperm.mem_iff.1 ha) hb' (le_antisymm hab hba)

theorem sortDescending_eq_reverse {l : List α} (hkeys : (l.map key).Nodup) :
    sortDescending key l = (sortAscending key l).reverse := by
  have hreverse : (sortDescending key l).reverse = sortAscending key l :=
    eq_sortAscending hkeys ((List.reverse_perm _).trans (sortDescending_perm key l))
      (List.pairwise_reverse.2 (sortDescending_pairwise key l))
  rw [← hreverse, List.reverse_reverse]

theorem sortAscending_filter {l : List α} (hkeys : (l.map key).Nodup) (p : α → Bool) :
    sortAscending key (l.filter p) = (sortAscending key l).filter p := by
  have hsub : ((l.filter p).map key).Nodup := hkeys.sublist (List.filter_sublist.map key)
  exact (eq_sortAscending hsub ((sortAscending_perm key l).filter p)
    ((sortAscending_pairwise key l).filter p)).symm

end SortByKey

/-! ## Ranks -/

section Rank

variable {β γ δ : Type*} [LinearOrder β] [LinearOrder γ] {key : α → β} {key' : α → γ} {s : Set α}
  {l l' : List α}

/-- How many elements of `s` have a smaller key than `a`. -/
noncomputable def rank (key : α → β) (s : Set α) (a : α) : ℕ :=
  {b | b ∈ s ∧ key b < key a}.ncard

theorem nodup_of_pairwise_lt (hsorted : l.Pairwise fun a b => key a < key b) : l.Nodup :=
  hsorted.imp fun hlt heq => (heq ▸ hlt).false

/-- In an ascending list of the elements, the rank of an element is its position. -/
theorem rank_getElem (hs : ∀ a, a ∈ s ↔ a ∈ l) (hsorted : l.Pairwise fun a b => key a < key b)
    {i : ℕ} (hi : i < l.length) : rank key s l[i] = i := by
  classical
  have hnodup : (l.take i).Nodup := (nodup_of_pairwise_lt hsorted).sublist (List.take_sublist i l)
  have hbefore : {b | b ∈ s ∧ key b < key l[i]} = ((l.take i).toFinset : Set α) := by
    ext b
    rw [Set.mem_ofPred_eq, hs, List.coe_toFinset, Set.mem_ofPred_eq, List.mem_take_iff_getElem]
    constructor
    · rintro ⟨hb, hlt⟩
      obtain ⟨j, hj, rfl⟩ := List.getElem_of_mem hb
      refine ⟨j, lt_min (not_le.1 fun hij => ?_) hj, rfl⟩
      -- an element at `i` or further on is not smaller
      rcases hij.eq_or_lt with rfl | hij
      · exact hlt.false
      · exact (List.pairwise_iff_getElem.1 hsorted i j hi hj hij).asymm hlt
    · rintro ⟨j, hj, rfl⟩
      have hji : j < i := hj.trans_le (min_le_left _ _)
      exact ⟨List.getElem_mem _, List.pairwise_iff_getElem.1 hsorted j i (hji.trans hi) hi hji⟩
  rw [rank, hbefore, Set.ncard_coe_finset, List.toFinset_card_of_nodup hnodup, List.length_take,
    min_eq_left hi.le]

/-- An element with rank `i` is the one at position `i`. -/
theorem getElem?_eq_some_iff_rank (hs : ∀ a, a ∈ s ↔ a ∈ l)
    (hsorted : l.Pairwise fun a b => key a < key b) {i : ℕ} {a : α} :
    l[i]? = some a ↔ a ∈ s ∧ rank key s a = i := by
  rw [List.getElem?_eq_some_iff]
  constructor
  · rintro ⟨hi, rfl⟩
    exact ⟨(hs _).2 (List.getElem_mem hi), rank_getElem hs hsorted hi⟩
  · rintro ⟨ha, hrank⟩
    obtain ⟨j, hj, rfl⟩ := List.getElem_of_mem ((hs a).1 ha)
    rw [rank_getElem hs hsorted hj] at hrank
    exact ⟨hrank ▸ hj, by simp only [hrank]⟩

/-- Two ascending lists of the elements agree in the values of `f` place by place exactly when
elements of equal rank have equal values. -/
theorem map_eq_map_iff_rank (hs : ∀ a, a ∈ s ↔ a ∈ l) (hs' : ∀ a, a ∈ s ↔ a ∈ l')
    (hsorted : l.Pairwise fun a b => key a < key b)
    (hsorted' : l'.Pairwise fun a b => key' a < key' b) {f : α → δ} :
    l.map f = l'.map f ↔ ∀ a ∈ s, ∀ b ∈ s, rank key s a = rank key' s b → f a = f b := by
  have hperm : l.Perm l' := (List.perm_ext_iff_of_nodup (nodup_of_pairwise_lt hsorted)
    (nodup_of_pairwise_lt hsorted')).2 fun a => (hs a).symm.trans (hs' a)
  constructor
  · intro hmap a ha b hb hrank
    have hget := congrArg (·[rank key s a]?) hmap
    simpa only [List.getElem?_map, (getElem?_eq_some_iff_rank hs hsorted).2 ⟨ha, rfl⟩,
      (getElem?_eq_some_iff_rank hs' hsorted').2 ⟨hb, hrank.symm⟩, Option.map_some,
      Option.some.injEq] using hget
  · intro hvalues
    apply List.ext_getElem (by simp [hperm.length_eq])
    intro i hi hi'
    rw [List.length_map] at hi hi'
    rw [List.getElem_map, List.getElem_map]
    refine hvalues _ ((hs _).2 (List.getElem_mem hi)) _ ((hs' _).2 (List.getElem_mem hi')) ?_
    rw [rank_getElem hs hsorted, rank_getElem hs' hsorted']

end Rank

end Library
end IosProjects
