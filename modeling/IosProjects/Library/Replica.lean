import Mathlib.Data.List.Infix
import Mathlib.Logic.Function.Basic
import IosProjects.Library.Run

/-!
# Replica — a shared log and the devices that write to it

Every device keeps the entries it has sent and uploads them one after the other; the log holds what
has been uploaded, in the order in which it arrived. A device shows a part of the log, from its
beginning, together with a part of its own entries, uploaded or not, and what it shows only grows.

So whatever a device showed when it sent an entry is shown wherever that entry is, by
`Replicas.causal`.
-/

namespace IosProjects
namespace Library

universe u v

variable {δ : Type u} {α : Type v} [DecidableEq δ]

/-- The entries of a device in a log. -/
def entriesOf (d : δ) (log : List (δ × α)) : List α :=
  (log.filter fun entry => entry.1 = d).map Prod.snd

theorem entriesOf_append (d : δ) (log log' : List (δ × α)) :
    entriesOf d (log ++ log') = entriesOf d log ++ entriesOf d log' := by
  simp [entriesOf]

theorem mem_log_of_mem_entriesOf {d : δ} {log : List (δ × α)} {a : α} (h : a ∈ entriesOf d log) :
    a ∈ log.map Prod.snd := by
  rcases List.mem_map.1 h with ⟨entry, hentry, rfl⟩
  exact List.mem_map_of_mem (List.mem_of_mem_filter hentry)

/-- `seen d` entries of the log and `shown d` entries of its own have reached the screen of the
device `d`. A device uploads its entries in the order in which it sent them. -/
structure Replicas (δ : Type u) (α : Type v) [DecidableEq δ] where
  log : List (δ × α)
  sent : δ → List α
  seen : δ → ℕ
  shown : δ → ℕ
  uploaded : ∀ d, entriesOf d log <+: sent d

namespace Replicas

def empty : Replicas δ α where
  log := []
  sent := fun _ => []
  seen := fun _ => 0
  shown := fun _ => 0
  uploaded := fun _ => List.nil_prefix

/-- What a device shows: the entries of the log it has seen, and those of its own that are not among
them. -/
def view (d : δ) (r : Replicas δ α) : List α :=
  (r.log.take (r.seen d)).map Prod.snd ++
    ((r.sent d).take (r.shown d)).drop (entriesOf d (r.log.take (r.seen d))).length

/-! ## Operations -/

def send (d : δ) (a : α) (r : Replicas δ α) : Replicas δ α where
  log := r.log
  sent := Function.update r.sent d (r.sent d ++ [a])
  seen := r.seen
  shown := r.shown
  uploaded := by
    intro e
    by_cases he : e = d
    · subst he
      rw [Function.update_self]
      exact (r.uploaded e).trans (List.prefix_append _ _)
    · rw [Function.update_of_ne he]
      exact r.uploaded e

/-- The oldest entry of a device that has not been uploaded. -/
def nextUpload (d : δ) (r : Replicas δ α) : Option α :=
  (r.sent d)[(entriesOf d r.log).length]?

theorem sent_eq_of_nextUpload {d : δ} {r : Replicas δ α} {a : α} (h : r.nextUpload d = some a) :
    ∃ rest, r.sent d = entriesOf d r.log ++ a :: rest := by
  rcases r.uploaded d with ⟨rest, hrest⟩
  rw [nextUpload, ← hrest, List.getElem?_append_right le_rfl, Nat.sub_self] at h
  cases rest with
  | nil => cases h
  | cons b rest =>
      obtain rfl : b = a := by simpa using h
      exact ⟨rest, hrest.symm⟩

def upload (d : δ) (a : α) (r : Replicas δ α) (h : r.nextUpload d = some a) : Replicas δ α where
  log := r.log ++ [(d, a)]
  sent := r.sent
  seen := r.seen
  shown := r.shown
  uploaded := by
    intro e
    rw [entriesOf_append]
    by_cases he : d = e
    · subst he
      rcases sent_eq_of_nextUpload h with ⟨rest, hrest⟩
      refine ⟨rest, ?_⟩
      simp [hrest, entriesOf]
    · simpa [entriesOf, he] using r.uploaded e

def receive (d : δ) (seen shown : ℕ) (r : Replicas δ α) : Replicas δ α where
  log := r.log
  sent := r.sent
  seen := Function.update r.seen d seen
  shown := Function.update r.shown d shown
  uploaded := r.uploaded

@[simp] theorem sent_send_self (d : δ) (a : α) (r : Replicas δ α) :
    (r.send d a).sent d = r.sent d ++ [a] := by
  simp [send]

theorem sent_send_of_ne {d e : δ} (h : e ≠ d) (a : α) (r : Replicas δ α) :
    (r.send d a).sent e = r.sent e := by
  simp [send, Function.update_of_ne h]

@[simp] theorem seen_receive_self (d : δ) (seen shown : ℕ) (r : Replicas δ α) :
    (r.receive d seen shown).seen d = seen := by
  simp [receive]

@[simp] theorem shown_receive_self (d : δ) (seen shown : ℕ) (r : Replicas δ α) :
    (r.receive d seen shown).shown d = shown := by
  simp [receive]

theorem receive_of_ne {d e : δ} (h : e ≠ d) (seen shown : ℕ) (r : Replicas δ α) :
    (r.receive d seen shown).seen e = r.seen e ∧ (r.receive d seen shown).shown e = r.shown e := by
  simp [receive, Function.update_of_ne h]

inductive Event (δ : Type u) (α : Type v) where
  | send (d : δ) (a : α)
  | upload (d : δ)
  | receive (d : δ) (seen shown : ℕ)

/-- Nothing is sent twice, and what a device shows does not shrink. -/
inductive Step : Replicas δ α → Event δ α → Replicas δ α → Prop where
  | send {r : Replicas δ α} {d : δ} {a : α} :
      (∀ e, a ∉ r.sent e) → Step r (.send d a) (r.send d a)
  | upload {r : Replicas δ α} {d : δ} {a : α} (h : r.nextUpload d = some a) :
      Step r (.upload d) (r.upload d a h)
  | receive {r : Replicas δ α} {d : δ} {seen shown : ℕ} :
      r.seen d ≤ seen → seen ≤ r.log.length → r.shown d ≤ shown → shown ≤ (r.sent d).length →
      Step r (.receive d seen shown) (r.receive d seen shown)

/-! ## What a device shows -/

theorem mem_view {d : δ} {r : Replicas δ α} {a : α} :
    a ∈ r.view d ↔
      a ∈ (r.log.take (r.seen d)).map Prod.snd ∨ a ∈ (r.sent d).take (r.shown d) := by
  rw [view, List.mem_append]
  refine ⟨Or.imp_right fun h => List.mem_of_mem_drop h, ?_⟩
  rintro (h | h)
  · exact Or.inl h
  · -- an entry of its own that is dropped has been seen in the log
    have hseen : entriesOf d (r.log.take (r.seen d)) <+: r.sent d := by
      refine List.IsPrefix.trans ?_ (r.uploaded d)
      rw [← List.take_append_drop (r.seen d) r.log, entriesOf_append, List.take_append_drop]
      exact List.prefix_append _ _
    rw [← List.take_append_drop (entriesOf d (r.log.take (r.seen d))).length
      ((r.sent d).take (r.shown d)), List.mem_append] at h
    rcases h with h | h
    · rw [List.take_take, Nat.min_comm, ← List.take_take] at h
      have hentry : a ∈ entriesOf d (r.log.take (r.seen d)) := by
        rw [List.prefix_iff_eq_take.1 hseen]
        exact List.mem_of_mem_take h
      exact Or.inl (mem_log_of_mem_entriesOf hentry)
    · exact Or.inr h

theorem mem_sent_of_mem_log {r : Replicas δ α} {a : α} (h : a ∈ r.log.map Prod.snd) :
    ∃ d, a ∈ r.sent d := by
  rcases List.mem_map.1 h with ⟨⟨d, b⟩, hentry, rfl⟩
  refine ⟨d, (r.uploaded d).subset ?_⟩
  exact List.mem_map.2 ⟨(d, b), List.mem_filter.2 ⟨hentry, by simp⟩, rfl⟩

theorem mem_sent_of_mem_view {d : δ} {r : Replicas δ α} {a : α} (h : a ∈ r.view d) :
    ∃ e, a ∈ r.sent e := by
  rcases mem_view.1 h with h | h
  · refine mem_sent_of_mem_log (List.map_subset _ (List.take_subset _ _) h)
  · exact ⟨d, List.mem_of_mem_take h⟩

theorem take_subset_take {β : Type*} {l l' : List β} {m n : ℕ} (hfront : l <+: l') (hle : m ≤ n) :
    l.take m ⊆ l'.take n := by
  rcases hfront with ⟨rest, rfl⟩
  intro a ha
  have hshort : a ∈ (l ++ rest).take m := by
    rw [List.take_append]
    exact List.mem_append_left _ ha
  exact (List.take_sublist_take_left hle).subset hshort

/-- What a device shows, it goes on showing. -/
theorem view_subset_of_step {d : δ} {r r' : Replicas δ α} {e : Event δ α} (hstep : Step r e r') :
    r.view d ⊆ r'.view d := by
  intro a ha
  -- every part of what it shows only grows
  have hgrows : r.log <+: r'.log ∧ r.sent d <+: r'.sent d ∧ r.seen d ≤ r'.seen d ∧
      r.shown d ≤ r'.shown d := by
    cases hstep with
    | @send d' b _ =>
        refine ⟨List.prefix_rfl, ?_, le_rfl, le_rfl⟩
        by_cases hd : d = d'
        · subst hd
          rw [sent_send_self]
          exact List.prefix_append _ _
        · rw [sent_send_of_ne hd]
    | upload _ => exact ⟨List.prefix_append _ _, List.prefix_rfl, le_rfl, le_rfl⟩
    | @receive d' seen shown hseen _ hshown _ =>
        by_cases hd : d = d'
        · subst hd
          exact ⟨List.prefix_rfl, List.prefix_rfl, by simpa using hseen, by simpa using hshown⟩
        · rcases receive_of_ne hd seen shown r with ⟨hsame, hsame'⟩
          exact ⟨List.prefix_rfl, List.prefix_rfl, hsame.ge, hsame'.ge⟩
  rcases hgrows with ⟨hlog, hsent, hseen, hshown⟩
  rcases mem_view.1 ha with ha | ha
  · exact mem_view.2 (Or.inl (List.map_subset _ (take_subset_take hlog hseen) ha))
  · exact mem_view.2 (Or.inr (take_subset_take hsent hshown ha))

/-! ## Causality -/

/-- The entry `b` was sent by the device `d` when it showed `a`: `a` is in the log that the device
has seen or among its earlier entries, and every copy of `b` in the log comes after one of `a`. -/
structure Follows (a b : α) (d : δ) (r : Replicas δ α) : Prop where
  own : ∃ before after, r.sent d = before ++ b :: after ∧ b ∉ before ∧
    (a ∈ (r.log.take (r.seen d)).map Prod.snd ∨ a ∈ before)
  only : ∀ e, b ∈ r.sent e → e = d
  log : ∀ before e after, r.log = before ++ (e, b) :: after → a ∈ before.map Prod.snd

theorem Follows.of_send {a b : α} {d : δ} {r : Replicas δ α} (ha : a ∈ r.view d)
    (hfresh : ∀ e, b ∉ r.sent e) : Follows a b d (r.send d b) where
  own := by
    refine ⟨r.sent d, [], sent_send_self d b r, hfresh d, ?_⟩
    exact (mem_view.1 ha).imp_right List.mem_of_mem_take
  only := by
    intro e hmem
    by_contra he
    rw [sent_send_of_ne he] at hmem
    exact hfresh e hmem
  log := by
    intro before e after heq
    -- nothing in the log is `b`, which is sent only now
    have hmem : b ∈ r.log.map Prod.snd := by
      rw [show r.log = before ++ (e, b) :: after from heq]
      simp
    rcases mem_sent_of_mem_log hmem with ⟨e', hsent⟩
    exact absurd hsent (hfresh e')

theorem Follows.step {a b : α} {d : δ} {r r' : Replicas δ α} {e : Event δ α} (h : Follows a b d r)
    (hstep : Step r e r') : Follows a b d r' := by
  rcases h.own with ⟨before, after, hsent, hbefore, ha⟩
  have hb : b ∈ r.sent d := by simp [hsent]
  cases hstep with
  | @send d' c hfresh =>
      have hne : c ≠ b := fun hsame => hfresh d (hsame ▸ hb)
      refine ⟨?_, ?_, h.log⟩
      · by_cases hd : d = d'
        · subst hd
          exact ⟨before, after ++ [c], by simp [hsent], hbefore, ha⟩
        · exact ⟨before, after, by rw [sent_send_of_ne hd, hsent], hbefore, ha⟩
      · intro e' hmem
        by_cases he : e' = d'
        · subst he
          rw [sent_send_self, List.mem_append, List.mem_singleton] at hmem
          exact h.only e' (hmem.resolve_right hne.symm)
        · rw [sent_send_of_ne he] at hmem
          exact h.only e' hmem
  | @upload d' c hnext =>
      have hlog : a ∈ (r.log.take (r.seen d)).map Prod.snd → a ∈ r.log.map Prod.snd := fun hmem =>
        List.map_subset _ (List.take_subset _ _) hmem
      refine ⟨⟨before, after, hsent, hbefore, ?_⟩, h.only, ?_⟩
      · exact ha.imp_left fun hmem =>
          List.map_subset _ (take_subset_take (List.prefix_append _ _) le_rfl) hmem
      · intro before' e' after' heq
        rcases snoc_eq_split (show r.log ++ [(d', c)] = before' ++ (e', b) :: after' from heq) with
          ⟨rfl, hentry, rfl⟩ | ⟨rest, rfl, hearlier⟩
        · -- `b` is uploaded now, and so its device has uploaded all that it sent before
          obtain ⟨rfl, rfl⟩ := Prod.mk.inj hentry.symm
          rcases sent_eq_of_nextUpload hnext with ⟨rest, hrest⟩
          obtain rfl : d' = d := h.only d' (by simp [hrest])
          apply ha.elim hlog
          intro hmem
          have hle : before.length ≤ (entriesOf d' r.log).length := by
            by_contra hlt
            have hnext : (r.sent d')[(entriesOf d' r.log).length]? = some c := hnext
            rw [hsent, List.getElem?_append_left (by omega)] at hnext
            exact hbefore (List.mem_of_getElem? hnext)
          have hfront : before <+: entriesOf d' r.log :=
            List.prefix_of_prefix_length_le ⟨c :: after, hsent.symm⟩ (r.uploaded d') hle
          exact mem_log_of_mem_entriesOf (hfront.subset hmem)
        · exact h.log before' e' rest hearlier
  | @receive d' seen shown hseen _ _ _ =>
      refine ⟨⟨before, after, hsent, hbefore, ha.imp_left fun hmem => ?_⟩, h.only, h.log⟩
      have hle : r.seen d ≤ (r.receive d' seen shown).seen d := by
        by_cases hd : d = d'
        · subst hd
          simpa using hseen
        · exact (receive_of_ne hd seen shown r).1.ge
      exact List.map_subset _ (take_subset_take List.prefix_rfl hle) hmem

/-- Whoever shows `b` shows `a`. -/
theorem Follows.mem_view {a b : α} {d e : δ} {r : Replicas δ α} (h : Follows a b d r)
    (hb : b ∈ r.view e) : a ∈ r.view e := by
  rw [Replicas.mem_view] at hb ⊢
  rcases hb with hb | hb
  · rcases List.mem_map.1 hb with ⟨⟨e', b'⟩, hentry, hsame⟩
    obtain rfl : b' = b := hsame
    rcases List.append_of_mem hentry with ⟨before, after, heq⟩
    have hlog : r.log = before ++ (e', b') :: (after ++ r.log.drop (r.seen e)) := by
      calc
        r.log = r.log.take (r.seen e) ++ r.log.drop (r.seen e) :=
            (List.take_append_drop _ _).symm
        _ = before ++ (e', b') :: (after ++ r.log.drop (r.seen e)) := by simp [heq]
    refine Or.inl ?_
    rw [heq, List.map_append]
    exact List.mem_append_left _ (h.log _ _ _ hlog)
  · obtain rfl : e = d := h.only e (List.mem_of_mem_take hb)
    rcases h.own with ⟨before, after, hsent, hbefore, ha⟩
    apply ha.imp_right
    intro hmem
    -- `b` is shown only after the entries before it
    rw [hsent, List.take_append, List.mem_append] at hb ⊢
    rcases hb with hb | hb
    · exact absurd (List.mem_of_mem_take hb) hbefore
    · have hlong : r.shown e - before.length ≠ 0 := by
        intro hzero
        simp [hzero] at hb
      rw [List.take_of_length_le (show before.length ≤ r.shown e by omega)]
      exact Or.inl hmem

/-- What a device showed when it sent `b` is shown later wherever `b` is. -/
theorem causal {a b : α} {d e : δ} {r r' r'' : Replicas δ α} {es : List (Event δ α)}
    (ha : a ∈ r.view d) (hsend : Step r (.send d b) r') (hrun : Run Step r' es r'')
    (hb : b ∈ r''.view e) : a ∈ r''.view e := by
  cases hsend with
  | send hfresh =>
      have hfollows : Follows a b d r'' :=
        hrun.invariant (P := Follows a b d) (fun _ _ _ h hstep => h.step hstep)
          (.of_send ha hfresh)
      exact hfollows.mem_view hb

theorem view_subset_of_run {d : δ} {r r' : Replicas δ α} {es : List (Event δ α)}
    (hrun : Run Step r es r') : r.view d ⊆ r'.view d := by
  induction hrun with
  | nil => exact List.Subset.refl _
  | snoc _ hlast ih => exact List.Subset.trans ih (view_subset_of_step hlast)

end Replicas

end Library
end IosProjects
