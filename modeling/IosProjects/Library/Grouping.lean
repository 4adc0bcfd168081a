import Mathlib.Algebra.BigOperators.Group.Finset.Basic
import Mathlib.Data.Finmap
import Mathlib.Data.List.Sort

/-!
# Grouping — dictionaries of lists built by create-or-append

A common loop files each element of a list under a key, creating the entry the first time the key
is met and appending to it afterwards. The dictionary is a `Finmap`, which has no order of its own.

* `fileUnder` is one turn of that loop and `group` the loop; elements without a key are skipped;
* `members key as k` is what the entry of `k` should hold, and `lookup_group` says that it does;
* `sum_length_group` counts the elements of all entries;
* `dropMember` takes one element out again, leaving no empty entry behind;
* `Thinned d d'` says that `d'` holds what is left of `d` after taking out any elements;
* `Iteration` is an order in which dictionaries are iterated, left open;
* `flatMap_filter_key` reads the entries back in key order.
-/

namespace IosProjects
namespace Library

universe u v

/-- Dictionaries whose values are lists. -/
abbrev Groups (κ : Type u) (α : Type v) : Type (max u v) :=
  Finmap fun _ : κ => List α

section Grouping

variable {κ : Type u} {α : Type v} [DecidableEq κ]

/-! ## Filing -/

/-- Append `a` to the entry of `k`, creating the entry when there is none. -/
def fileUnder (k : κ) (a : α) (d : Groups κ α) : Groups κ α :=
  match d.lookup k with
  | none => d.insert k [a]
  | some as => d.insert k (as ++ [a])

/-- File the elements of a list in order, skipping those without a key. -/
def group (key : α → Option κ) (as : List α) : Groups κ α :=
  as.foldl
    (fun d a =>
      match key a with
      | none => d
      | some k => fileUnder k a d) ∅

/-- The elements of `as` with key `k`, in order. -/
def members (key : α → Option κ) (as : List α) (k : κ) : List α :=
  as.filter fun a => key a = some k

/-- The entry that holds a list: there is none when the list is empty. -/
def occupied : List α → Option (List α)
  | [] => none
  | a :: as => some (a :: as)

@[simp] theorem occupied_eq_none {as : List α} : occupied as = none ↔ as = [] := by
  cases as <;> simp [occupied]

@[simp] theorem occupied_eq_some {as bs : List α} : occupied as = some bs ↔ as = bs ∧ bs ≠ [] := by
  cases as with
  | nil =>
      constructor
      · intro h
        simp [occupied] at h
      · rintro ⟨rfl, hne⟩
        exact (hne rfl).elim
  | cons a as =>
      constructor
      · intro h
        obtain rfl : a :: as = bs := by simpa [occupied] using h
        exact ⟨rfl, List.cons_ne_nil _ _⟩
      · rintro ⟨rfl, _⟩
        rfl

theorem occupied_append_singleton (as : List α) (a : α) :
    occupied (as ++ [a]) = some (as ++ [a]) := by
  simp

theorem lookup_fileUnder_self (k : κ) (a : α) (d : Groups κ α) :
    (fileUnder k a d).lookup k = some ((d.lookup k).getD [] ++ [a]) := by
  unfold fileUnder
  cases h : d.lookup k <;> simp

theorem lookup_fileUnder_of_ne {k k' : κ} (h : k' ≠ k) (a : α) (d : Groups κ α) :
    (fileUnder k a d).lookup k' = d.lookup k' := by
  unfold fileUnder
  cases d.lookup k <;> simp [Finmap.lookup_insert_of_ne _ h]

theorem members_append_singleton (key : α → Option κ) (as : List α) (a : α) (k : κ) :
    members key (as ++ [a]) k =
      if key a = some k then members key as k ++ [a] else members key as k := by
  by_cases h : key a = some k <;> simp [members, h]

theorem mem_members {key : α → Option κ} {as : List α} {k : κ} {a : α} :
    a ∈ members key as k ↔ a ∈ as ∧ key a = some k := by
  simp [members]

theorem group_append_singleton (key : α → Option κ) (as : List α) (a : α) :
    group key (as ++ [a]) =
      match key a with
      | none => group key as
      | some k => fileUnder k a (group key as) := by
  simp [group]

/-- Each entry of the grouping holds the elements with its key, in their original order. -/
theorem lookup_group (key : α → Option κ) (as : List α) (k : κ) :
    (group key as).lookup k = occupied (members key as k) := by
  induction as using List.reverseRecOn with
  | nil => simp [group, members, occupied]
  | append_singleton as a ih =>
      rw [group_append_singleton, members_append_singleton]
      cases hkey : key a with
      | none => simpa using ih
      | some k' =>
          by_cases hk : k = k'
          · subst hk
            -- an absent entry is an empty group, so `fileUnder` appends in both cases
            have hgot : ((group key as).lookup k).getD [] = members key as k := by
              rw [ih]
              cases members key as k <;> rfl
            simp [lookup_fileUnder_self, hgot, occupied_append_singleton]
          · have hk' : ¬ k' = k := fun h => hk h.symm
            simpa [lookup_fileUnder_of_ne hk, hk'] using ih

theorem mem_keys_group {key : α → Option κ} {as : List α} {k : κ} :
    k ∈ (group key as).keys ↔ ∃ a ∈ as, key a = some k := by
  have hlookup := lookup_group key as k
  rw [Finmap.mem_keys, ← not_iff_not, ← Finmap.lookup_eq_none, hlookup, occupied_eq_none]
  simp [members]

/-- A dictionary is the grouping of `as` as soon as its entries are. -/
theorem eq_group {key : α → Option κ} {as : List α} {d : Groups κ α}
    (h : ∀ k, d.lookup k = occupied (members key as k)) : d = group key as :=
  Finmap.ext_lookup fun k => by rw [h k, lookup_group]

theorem group_congr {key key' : α → Option κ} {as : List α} (h : ∀ a ∈ as, key a = key' a) :
    group key as = group key' as := by
  apply eq_group
  intro k
  rw [lookup_group]
  congr 1
  apply List.filter_congr
  intro a ha
  rw [h a ha]

theorem length_members (key : α → Option κ) (as : List α) (k : κ) :
    (members key as k).length = (as.filterMap key).count k := by
  induction as with
  | nil => rfl
  | cons a as ih =>
      cases hkey : key a with
      | none => simpa [members, hkey] using ih
      | some k' =>
          rw [List.filterMap_cons_some hkey, List.count_cons, ← ih]
          by_cases hk : k' = k <;> simp [members, hkey, hk]

/-- The groups have as many elements together as the list has elements with a key. -/
theorem sum_length_group (key : α → Option κ) (as : List α) :
    ∑ k ∈ (group key as).keys, (((group key as).lookup k).getD []).length =
      (as.filterMap key).length := by
  have hkeys : (group key as).keys = (as.filterMap key).toFinset := by
    ext k
    rw [mem_keys_group, List.mem_toFinset, List.mem_filterMap]
  calc ∑ k ∈ (group key as).keys, (((group key as).lookup k).getD []).length
      = ∑ k ∈ (group key as).keys, (as.filterMap key).count k := by
        apply Finset.sum_congr rfl
        intro k _
        rw [lookup_group, ← length_members]
        cases members key as k <;> rfl
    _ = ∑ k ∈ (as.filterMap key).toFinset, (as.filterMap key).count k := by rw [hkeys]
    _ = (as.filterMap key).length := List.sum_toFinset_count_eq_length _

/-! ## Taking one element out -/

section Drop

variable [DecidableEq α]

/-- Remove `a` from the entry of `k`, and the entry with its last element. -/
def dropMember (k : κ) (a : α) (d : Groups κ α) : Groups κ α :=
  match d.lookup k with
  | none => d
  | some as => if as.erase a = [] then d.erase k else d.insert k (as.erase a)

theorem lookup_dropMember_self {k : κ} {a : α} {as : List α} {d : Groups κ α}
    (hlookup : d.lookup k = some as) : ((dropMember k a d).lookup k).getD [] = as.erase a := by
  unfold dropMember
  rw [hlookup]
  by_cases hrest : as.erase a = [] <;> simp [hrest]

theorem members_erase (key : α → Option κ) (as : List α) (a : α) (k : κ) :
    members key (as.erase a) k = (members key as k).erase a := by
  simp [members, List.erase_filter]

/-- Dropping an element from its own entry gives the grouping of the list without it. -/
theorem dropMember_group {key : α → Option κ} {as : List α} {k : κ} {a : α}
    (ha : a ∈ as) (hkey : key a = some k) :
    dropMember k a (group key as) = group key (as.erase a) := by
  have hmem : a ∈ members key as k := mem_members.2 ⟨ha, hkey⟩
  have hne : members key as k ≠ [] := List.ne_nil_of_mem hmem
  have hlookup : (group key as).lookup k = some (members key as k) := by
    rw [lookup_group, occupied_eq_some]
    exact ⟨rfl, hne⟩
  apply eq_group
  intro k'
  rw [members_erase]
  by_cases hk : k' = k
  · subst hk
    cases hrest : (members key as k').erase a with
    | nil => simp [dropMember, hlookup, hrest, occupied]
    | cons b bs => simp [dropMember, hlookup, hrest, occupied]
  -- the element is not in any other entry, so its removal does not show there
  · have hnot : a ∉ members key as k' := by
      intro h
      have hk' := (mem_members.1 h).2
      rw [hkey] at hk'
      exact hk (Option.some.inj hk').symm
    rw [List.erase_of_not_mem hnot, ← lookup_group]
    unfold dropMember
    rw [hlookup]
    by_cases hrest : (members key as k).erase a = []
    · simp [hrest, Finmap.lookup_erase_ne hk]
    · simp [hrest, Finmap.lookup_insert_of_ne _ hk]

end Drop

/-! ## Taking any elements out -/

/-- Every entry of `d'` is what is left of an entry of `d`. -/
def Thinned (d d' : Groups κ α) : Prop :=
  ∀ k as', d'.lookup k = some as' → ∃ as, d.lookup k = some as ∧ as'.Sublist as

namespace Thinned

variable {d d' d'' : Groups κ α} {k : κ}

theorem refl (d : Groups κ α) : Thinned d d :=
  fun _ as hlookup => ⟨as, hlookup, List.Sublist.refl as⟩

theorem trans (h : Thinned d d') (h' : Thinned d' d'') : Thinned d d'' := by
  intro k as'' hlookup''
  rcases h' k as'' hlookup'' with ⟨as', hlookup', hsub'⟩
  rcases h k as' hlookup' with ⟨as, hlookup, hsub⟩
  exact ⟨as, hlookup, hsub'.trans hsub⟩

theorem erase (h : Thinned d d') (k : κ) : Thinned d (d'.erase k) := by
  intro k' as' hlookup'
  by_cases hk : k' = k
  · subst hk
    simp at hlookup'
  · rw [Finmap.lookup_erase_ne hk] at hlookup'
    exact h k' as' hlookup'

theorem insert (h : Thinned d d') {as as' : List α} (hlookup : d.lookup k = some as)
    (hsub : as'.Sublist as) : Thinned d (d'.insert k as') := by
  intro k' bs' hlookup'
  by_cases hk : k' = k
  · subst hk
    obtain rfl : as' = bs' := by simpa using hlookup'
    exact ⟨as, hlookup, hsub⟩
  · rw [Finmap.lookup_insert_of_ne _ hk] at hlookup'
    exact h k' bs' hlookup'

theorem mem_keys (h : Thinned d d') (hk : k ∈ d'.keys) : k ∈ d.keys := by
  rcases Finmap.mem_iff.1 (Finmap.mem_keys.1 hk) with ⟨as', hlookup'⟩
  rcases h k as' hlookup' with ⟨as, hlookup, _⟩
  exact Finmap.mem_keys.2 (Finmap.mem_of_lookup_eq_some hlookup)

/-- What is listed after thinning out a grouping is listed under its own key. -/
theorem members_of_group {key : α → Option κ} {as as' : List α} (h : Thinned (group key as) d')
    (hlookup : d'.lookup k = some as') : as'.Sublist (members key as k) := by
  rcases h k as' hlookup with ⟨bs, hbs, hsub⟩
  rw [lookup_group, occupied_eq_some] at hbs
  exact hbs.1 ▸ hsub

end Thinned

end Grouping

/-! ## Iterating in an arbitrary order -/

/-- A way of iterating over dictionaries: each is listed entry by entry, in some order. -/
structure Iteration (κ : Type u) (α : Type v) where
  entries : Groups κ α → List (Σ _ : κ, List α)
  complete : ∀ d, (entries d : Multiset (Σ _ : κ, List α)) = d.entries

noncomputable instance (κ : Type u) (α : Type v) : Inhabited (Iteration κ α) :=
  ⟨{ entries := fun d => d.entries.toList
     complete := fun d => d.entries.coe_toList }⟩

namespace Iteration

variable {κ : Type u} {α : Type v} (it : Iteration κ α)

theorem mem_entries [DecidableEq κ] {d : Groups κ α} {e : Σ _ : κ, List α} :
    e ∈ it.entries d ↔ d.lookup e.1 = some e.2 := by
  rw [Finmap.lookup_eq_some_iff, ← it.complete d]
  exact Multiset.mem_coe.symm

/-- No key comes twice. -/
theorem pairwise_keys (d : Groups κ α) :
    (it.entries d).Pairwise fun e e' => e.1 ≠ e'.1 := by
  have hnodup : (it.entries d).NodupKeys := by
    rw [← Multiset.coe_nodupKeys, it.complete d]
    exact d.nodupKeys
  exact List.nodupKeys_iff_pairwise.1 hnodup

/-- Two iterations over one dictionary list the same entries. -/
theorem entries_perm (it' : Iteration κ α) (d : Groups κ α) :
    (it.entries d).Perm (it'.entries d) := by
  rw [← Multiset.coe_eq_coe, it.complete d, it'.complete d]

end Iteration

/-! ## Reading the entries back in key order -/

section Sorted

variable {κ : Type u} {α : Type v} [LinearOrder κ] {key : α → κ}

/-- In a list sorted by key, the elements with the least key come first. -/
theorem filter_least_append {k : κ} {as : List α} (hsorted : as.Pairwise fun a b => key a ≤ key b)
    (hleast : ∀ a ∈ as, k ≤ key a) :
    as.filter (fun a => key a = k) ++ as.filter (fun a => key a ≠ k) = as := by
  induction as with
  | nil => rfl
  | cons a as ih =>
      obtain ⟨hhead, htail⟩ := List.pairwise_cons.1 hsorted
      have hleast' : ∀ b ∈ as, k ≤ key b := fun b hb => hleast b (List.mem_cons_of_mem a hb)
      by_cases ha : key a = k
      · simpa [ha] using ih htail hleast'
      -- once a key is greater, no later element has the least one
      · have hgt : ∀ b ∈ as, key b ≠ k := by
          intro b hb hbk
          have hak : key a ≤ k := hbk ▸ hhead b hb
          exact ha (le_antisymm hak (hleast a List.mem_cons_self))
        have hnone : as.filter (fun a => decide (key a = k)) = [] := by
          simpa [List.filter_eq_nil_iff] using hgt
        have hall : as.filter (fun a => decide (key a ≠ k)) = as := by
          simpa [List.filter_eq_self] using hgt
        simp [ha, hnone]
        simpa using hall

/-- Concatenating the groups of a list sorted by key, in key order, gives the list back. -/
theorem flatMap_filter_key {ks : List κ} {as : List α} (hks : ks.Pairwise (· < ·))
    (hsorted : as.Pairwise fun a b => key a ≤ key b) (hmem : ∀ a ∈ as, key a ∈ ks) :
    ks.flatMap (fun k => as.filter fun a => key a = k) = as := by
  induction ks generalizing as with
  | nil =>
      have hnil : as = [] := List.eq_nil_iff_forall_not_mem.2 fun a ha => by simpa using hmem a ha
      simp [hnil]
  | cons k ks ih =>
      obtain ⟨hhead, htail⟩ := List.pairwise_cons.1 hks
      have hleast : ∀ a ∈ as, k ≤ key a := by
        intro a ha
        rcases List.mem_cons.1 (hmem a ha) with h | h
        · exact h.ge
        · exact (hhead _ h).le
      have hrest : ks.flatMap (fun k' => as.filter fun a => key a = k') =
          as.filter (fun a => key a ≠ k) := by
        -- the induction hypothesis is for the list without the elements of the least key
        have hmem' : ∀ a ∈ as.filter (fun a => key a ≠ k), key a ∈ ks := by
          intro a ha
          obtain ⟨ha, hne⟩ := List.mem_filter.1 ha
          rcases List.mem_cons.1 (hmem a ha) with h | h
          · simp [h] at hne
          · exact h
        have hih := ih htail (hsorted.filter _) hmem'
        refine Eq.trans ?_ hih
        apply List.flatMap_congr
        intro k' hk'
        have hne : k' ≠ k := (hhead k' hk').ne'
        rw [List.filter_filter]
        apply List.filter_congr
        intro a _
        by_cases ha : key a = k' <;> simp [ha, hne]
      rw [List.flatMap_cons, hrest]
      exact filter_least_append hsorted hleast

end Sorted

end Library
end IosProjects
