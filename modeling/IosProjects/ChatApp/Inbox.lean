import Mathlib.Data.String.Basic
import IosProjects.Library.Grouping
import IosProjects.Library.Lists
import IosProjects.ChatApp.Message

/-!
# Inbox — `MessagesViewController`

The inbox listens to all messages, newest first, groups those of the logged-in user by
conversation, and shows the first message of each group.

A group is found under the string `"sender-receiver"` or its mirror image, whichever was met first.
`GroupedAs` is the invariant of that loop: for each partner exactly the conversation is filed, under
one of the two keys and not under both. The rest of the listener flattens the dictionary in an
arbitrary order and sorts, so that `IsInbox` no longer mentions keys or orders.
-/

namespace IosProjects
namespace ChatApp

open IosProjects.Library

/-! ## The controller -/

/-- What a snapshot listener receives. -/
inductive SnapshotResult where
  | error
  | documents (docs : List Document)

structure MessagesViewController where
  loggedInUserId : Option String
  messages : List Message
  groupedMessages : Groups String Message

/-- `"\(a)-\(b)"`. -/
def conversationKey (a b : String) : String :=
  a ++ "-" ++ b

/-- File a message with its conversation, under the key already in use for it if there is one. -/
def addToGroup (newMessage : Message) (grouped : Groups String Message) : Groups String Message :=
  let id1 := conversationKey newMessage.senderId newMessage.receiverId
  let id2 := conversationKey newMessage.receiverId newMessage.senderId
  match grouped.lookup id1 with
  | some existingMessages => grouped.insert id1 (existingMessages ++ [newMessage])
  | none =>
      match grouped.lookup id2 with
      | some existingMessages => grouped.insert id2 (existingMessages ++ [newMessage])
      | none => grouped.insert id1 [newMessage]

/-- One turn of the loop over the documents of a snapshot. -/
def groupDocument (loggedInUserId : Option String) (grouped : Groups String Message)
    (doc : Document) : Groups String Message :=
  match messageOf doc with
  | none => grouped
  | some m =>
      if some m.senderId = loggedInUserId ∨ some m.receiverId = loggedInUserId then
        addToGroup m grouped
      else
        grouped

def groupDocuments (loggedInUserId : Option String) (docs : List Document) :
    Groups String Message :=
  docs.foldl (groupDocument loggedInUserId) ∅

/-- `sorted { $0.timestamp > $1.timestamp }`. -/
def sortedByTimestamp (ms : List Message) : List Message :=
  sortDescending Message.timestamp ms

/-- The first message of each group, in the order of the iteration. -/
def firstMessages (entries : List (Σ _ : String, List Message)) : List Message :=
  entries.filterMap fun e => e.2.head?

/-- The snapshot listener of `MessagesViewController.loadMessages`. -/
def MessagesViewController.loadMessages (it : Iteration String Message) (result : SnapshotResult)
    (vc : MessagesViewController) : MessagesViewController :=
  match result with
  | .error => vc
  | .documents docs =>
      let grouped := groupDocuments vc.loggedInUserId docs
      { vc with
        groupedMessages := grouped
        messages := sortedByTimestamp (firstMessages (it.entries grouped)) }

/-! ## Conversation keys -/

/-- A key determines the two identifiers it was made of. -/
theorem conversationKey_inj {a b c d : String} (ha : DashFree a) (hc : DashFree c)
    (h : conversationKey a b = conversationKey c d) : a = c ∧ b = d := by
  have hlist : a.toList ++ '-' :: b.toList = c.toList ++ '-' :: d.toList := by
    simpa [conversationKey] using congrArg String.toList h
  obtain ⟨hfront, hback⟩ := append_sep_inj ha hc hlist
  exact ⟨String.toList_inj.1 hfront, String.toList_inj.1 hback⟩

/-- `k` is one of the two keys of the conversation of `u` and `p`. -/
def IsKeyOf (u p k : String) : Prop :=
  k = conversationKey u p ∨ k = conversationKey p u

theorem IsKeyOf.partner_unique {u p q k : String} (hu : DashFree u) (hp : DashFree p)
    (hq : DashFree q) (h : IsKeyOf u p k) (h' : IsKeyOf u q k) : p = q := by
  rcases h with rfl | rfl <;> rcases h' with h' | h'
  · exact (conversationKey_inj hu hu h').2
  · obtain ⟨huq, hpu⟩ := conversationKey_inj hu hq h'
    rw [hpu, huq]
  · obtain ⟨hpu, huq⟩ := conversationKey_inj hp hu h'
    rw [hpu, huq]
  · exact (conversationKey_inj hp hq h').1

theorem conversationKey_ne_swap {u p : String} (hu : DashFree u) (hp : DashFree p) (h : p ≠ u) :
    conversationKey u p ≠ conversationKey p u := fun heq =>
  h (conversationKey_inj hu hp heq).1.symm

/-- The two keys `addToGroup` tries for a message are those of the conversation it belongs to. -/
theorem isKeyOf_partner_iff {u k : String} {m : Message} (hm : m.Involves u) :
    IsKeyOf u (m.partner u) k ↔
      k = conversationKey m.senderId m.receiverId ∨
        k = conversationKey m.receiverId m.senderId := by
  rcases Message.between_partner hm with ⟨hs, hr⟩ | ⟨hs, hr⟩
  · rw [IsKeyOf, hs, hr]
  · rw [IsKeyOf, hs, hr, or_comm]

/-! ## The grouping loop -/

/-- The dictionary files the conversation of each partner, under one of its two keys. -/
structure GroupedAs (u : String) (ms : List Message) (d : Groups String Message) : Prop where
  entry : ∀ {k items}, d.lookup k = some items →
    ∃ p, DashFree p ∧ IsKeyOf u p k ∧ items = conversation u p ms ∧ items ≠ []
  present : ∀ {p}, conversation u p ms ≠ [] → ∃ k, IsKeyOf u p k ∧ k ∈ d
  single : ∀ {p}, DashFree p → p ≠ u →
    conversationKey u p ∈ d → conversationKey p u ∈ d → False

namespace GroupedAs

variable {u : String} {ms : List Message} {d : Groups String Message}

theorem nil (u : String) : GroupedAs u [] (∅ : Groups String Message) where
  entry := by
    intro k items h
    simp at h
  present := by
    intro p h
    simp [conversation] at h
  single := by
    intro p _ _ h
    exact (Finmap.notMem_empty h).elim

/-- A message that does not concern `u` belongs to no conversation of `u`. -/
theorem skip (h : GroupedAs u ms d) {m : Message} (hm : ¬ m.Involves u) :
    GroupedAs u (ms ++ [m]) d := by
  have hsame : ∀ p, conversation u p (ms ++ [m]) = conversation u p ms := by
    intro p
    rw [conversation_append_singleton, if_neg fun hb => hm hb.involves]
  refine { entry := ?_, present := ?_, single := h.single }
  · intro k items hlookup
    simpa only [hsame] using h.entry hlookup
  · intro p hne
    rw [hsame] at hne
    exact h.present hne

/-- Extending the entry of one conversation, when its other key is not in use. -/
theorem extend (h : GroupedAs u ms d) (hu : DashFree u) {m : Message} (hm : m.Involves u)
    (hp : DashFree (m.partner u)) {k : String} (hk : IsKeyOf u (m.partner u) k)
    (hother : ∀ k', IsKeyOf u (m.partner u) k' → k' ≠ k → k' ∉ d) :
    GroupedAs u (ms ++ [m]) (d.insert k (conversation u (m.partner u) (ms ++ [m]))) := by
  have hown : conversation u (m.partner u) (ms ++ [m]) =
      conversation u (m.partner u) ms ++ [m] := by
    rw [conversation_append_singleton, if_pos (Message.between_partner hm)]
  have hsame : ∀ q, q ≠ m.partner u → conversation u q (ms ++ [m]) = conversation u q ms := by
    intro q hq
    rw [conversation_append_singleton, if_neg fun hb => hq hb.partner_eq.symm]
  refine { entry := ?_, present := ?_, single := ?_ }
  · -- The new entry holds the extended conversation; the others belong to other partners,
    -- because `k` is the only key of this one.
    intro k' items hlookup
    by_cases hk' : k' = k
    · subst hk'
      rw [Finmap.lookup_insert] at hlookup
      obtain rfl := Option.some.inj hlookup
      exact ⟨m.partner u, hp, hk, rfl, by simp [hown]⟩
    · rw [Finmap.lookup_insert_of_ne _ hk'] at hlookup
      rcases h.entry hlookup with ⟨q, hq, hkey, hitems, hne⟩
      have hqp : q ≠ m.partner u := by
        rintro rfl
        exact hother k' hkey hk' (Finmap.mem_of_lookup_eq_some hlookup)
      exact ⟨q, hq, hkey, by rw [hsame q hqp, hitems], hne⟩
  · intro q hne
    by_cases hqp : q = m.partner u
    · subst hqp
      exact ⟨k, hk, by simp⟩
    · rw [hsame q hqp] at hne
      rcases h.present hne with ⟨k', hkey, hmem⟩
      exact ⟨k', hkey, by simp [hmem]⟩
  · -- For the partner itself `hother` excludes the second key; no other partner has the key `k`.
    intro q hq hqu h1 h2
    have hne := conversationKey_ne_swap hu hq hqu
    by_cases hqp : q = m.partner u
    · subst hqp
      rcases hk with hk | hk
      · have hnot := hother _ (Or.inr rfl) fun heq => hne (hk.symm.trans heq.symm)
        have h2' := (Finmap.mem_insert.1 h2).resolve_left fun heq => hne (hk.symm.trans heq.symm)
        exact hnot h2'
      · have hnot := hother _ (Or.inl rfl) fun heq => hne (heq.trans hk)
        have h1' := (Finmap.mem_insert.1 h1).resolve_left fun heq => hne (heq.trans hk)
        exact hnot h1'
    · have hk1 : conversationKey u q ≠ k := fun heq =>
        hqp (IsKeyOf.partner_unique hu hq hp (Or.inl heq.symm) hk)
      have hk2 : conversationKey q u ≠ k := fun heq =>
        hqp (IsKeyOf.partner_unique hu hq hp (Or.inr heq.symm) hk)
      exact h.single hq hqu ((Finmap.mem_insert.1 h1).resolve_left hk1)
        ((Finmap.mem_insert.1 h2).resolve_left hk2)

/-- What is filed under a key of the conversation of `u` and `p` is that conversation. -/
theorem lookup_eq (h : GroupedAs u ms d) (hu : DashFree u) {p k : String} (hp : DashFree p)
    (hk : IsKeyOf u p k) {items : List Message} (hlookup : d.lookup k = some items) :
    items = conversation u p ms := by
  rcases h.entry hlookup with ⟨q, hq, hkey, hitems, _⟩
  rw [hitems, IsKeyOf.partner_unique hu hq hp hkey hk]

/-- Only one of the two keys of a conversation is in use. -/
theorem key_unique (h : GroupedAs u ms d) {p k k' : String} (hp : DashFree p)
    (hk : IsKeyOf u p k) (hk' : IsKeyOf u p k') (hin : k ∈ d) (hin' : k' ∈ d) : k = k' := by
  by_cases hpu : p = u
  · -- The two keys of a conversation with oneself are the same string.
    subst hpu
    rcases hk with rfl | rfl <;> rcases hk' with rfl | rfl <;> rfl
  · rcases hk with rfl | rfl <;> rcases hk' with rfl | rfl
    · rfl
    · exact (h.single hp hpu hin hin').elim
    · exact (h.single hp hpu hin' hin).elim
    · rfl

/-- One turn of the loop keeps the invariant: in each of its three branches the entry written is
the extended conversation, and the mirrored key stays unused. -/
theorem add (h : GroupedAs u ms d) (hu : DashFree u) {m : Message} (hm : m.Involves u)
    (hs : DashFree m.senderId) (hr : DashFree m.receiverId) :
    GroupedAs u (ms ++ [m]) (addToGroup m d) := by
  have hp : DashFree (m.partner u) := Message.dashFree_partner hs hr u
  have hown : conversation u (m.partner u) (ms ++ [m]) =
      conversation u (m.partner u) ms ++ [m] := by
    rw [conversation_append_singleton, if_pos (Message.between_partner hm)]
  have hk1 : IsKeyOf u (m.partner u) (conversationKey m.senderId m.receiverId) :=
    (isKeyOf_partner_iff hm).2 (Or.inl rfl)
  have hk2 : IsKeyOf u (m.partner u) (conversationKey m.receiverId m.senderId) :=
    (isKeyOf_partner_iff hm).2 (Or.inr rfl)
  cases h1 : d.lookup (conversationKey m.senderId m.receiverId) with
  | some existing =>
      -- The first key is in use, so by uniqueness no other key of the conversation is.
      have hin := Finmap.mem_of_lookup_eq_some h1
      have hexisting := h.lookup_eq hu hp hk1 h1
      have hext := h.extend hu hm hp hk1 fun k' hk' hne hin' =>
        hne (h.key_unique hp hk' hk1 hin' hin)
      simpa [addToGroup, h1, hown, hexisting] using hext
  | none =>
      have hnot1 : conversationKey m.senderId m.receiverId ∉ d := Finmap.lookup_eq_none.1 h1
      cases h2 : d.lookup (conversationKey m.receiverId m.senderId) with
      | some existing =>
          have hexisting := h.lookup_eq hu hp hk2 h2
          have hext := h.extend hu hm hp hk2 (by
            intro k' hk' hne
            obtain rfl := ((isKeyOf_partner_iff hm).1 hk').resolve_right hne
            exact hnot1)
          simpa [addToGroup, h1, h2, hown, hexisting] using hext
      | none =>
          -- Neither key is in use: this is the first message of its conversation.
          have hnot2 : conversationKey m.receiverId m.senderId ∉ d := Finmap.lookup_eq_none.1 h2
          have hempty : conversation u (m.partner u) ms = [] := by
            by_contra hne
            rcases h.present hne with ⟨k, hk, hmem⟩
            rcases (isKeyOf_partner_iff hm).1 hk with rfl | rfl
            · exact hnot1 hmem
            · exact hnot2 hmem
          have hext := h.extend hu hm hp hk1 (by
            intro k' hk' hne
            obtain rfl := ((isKeyOf_partner_iff hm).1 hk').resolve_left hne
            exact hnot2)
          simpa [addToGroup, h1, h2, hown, hempty] using hext

end GroupedAs

/-- Senders and receivers are user identifiers. -/
def UserIds (ms : List Message) : Prop :=
  ∀ m ∈ ms, DashFree m.senderId ∧ DashFree m.receiverId

theorem UserIds.dashFree_partner {ms : List Message} (h : UserIds ms) {m : Message} (hm : m ∈ ms)
    (u : String) : DashFree (m.partner u) :=
  Message.dashFree_partner (h m hm).1 (h m hm).2 u

/-- The loop over a snapshot files every conversation of `u`. -/
theorem groupedAs_groupDocuments {u : String} (hu : DashFree u) {docs : List Document}
    (hids : UserIds (received docs)) :
    GroupedAs u (received docs) (groupDocuments (some u) docs) := by
  induction docs using List.reverseRecOn with
  | nil => exact GroupedAs.nil u
  | append_singleton docs doc ih =>
      have hfold : groupDocuments (some u) (docs ++ [doc]) =
          groupDocument (some u) (groupDocuments (some u) docs) doc := by
        simp [groupDocuments]
      have hdocs := ih fun m hm => hids m (by simp [received] at hm ⊢; exact Or.inl hm)
      cases hmsg : messageOf doc with
      | none =>
          -- the guard of the loop skips what is no message
          have hreceived : received (docs ++ [doc]) = received docs := by
            simp [received, hmsg]
          simpa [hfold, groupDocument, hmsg, hreceived] using hdocs
      | some m =>
          have hreceived : received (docs ++ [doc]) = received docs ++ [m] := by
            simp [received, hmsg]
          have hm := hids m (by simp [hreceived])
          by_cases hinv : m.Involves u
          · have hcond : some m.senderId = some u ∨ some m.receiverId = some u := by
              simpa [Message.Involves] using hinv
            simpa only [hfold, groupDocument, hmsg, hreceived, if_pos hcond] using
              hdocs.add hu hinv hm.1 hm.2
          · -- a conversation of two others
            have hcond : ¬ (some m.senderId = some u ∨ some m.receiverId = some u) := by
              simpa [Message.Involves] using hinv
            simpa only [hfold, groupDocument, hmsg, hreceived, if_neg hcond] using
              hdocs.skip hinv

/-! ## The inbox -/

/-- `m` is the first message of the snapshot among those exchanged with its partner. -/
def IsNewest (u : String) (docs : List Document) (m : Message) : Prop :=
  (conversation u (m.partner u) (received docs)).head? = some m

/-- What an inbox should show of a snapshot: one message for each partner, the newest of the
conversation, the most recent conversations first. -/
structure IsInbox (u : String) (docs : List Document) (messages : List Message) : Prop where
  newest : ∀ m, m ∈ messages ↔ IsNewest u docs m
  one_per_partner : (messages.map (Message.partner u)).Nodup
  every_partner : ∀ p, (∃ m ∈ messages, m.partner u = p) ↔ ∃ m ∈ received docs, m.Between u p
  latest : ∀ m ∈ messages, ∀ m' ∈ conversation u (m.partner u) (received docs),
    m'.timestamp ≤ m.timestamp
  ordered : messages.Pairwise fun a b => b.timestamp ≤ a.timestamp

/-- The snapshot lists messages in descending timestamp order. -/
def Descending (docs : List Document) : Prop :=
  (received docs).Pairwise fun a b => b.timestamp ≤ a.timestamp

/-- No two partners have newest messages of the same time. -/
def NewestDistinct (u : String) (docs : List Document) : Prop :=
  ∀ m m', IsNewest u docs m → IsNewest u docs m' → m.timestamp = m'.timestamp → m = m'

theorem IsNewest.mem_conversation {u : String} {docs : List Document} {m : Message}
    (h : IsNewest u docs m) : m ∈ conversation u (m.partner u) (received docs) :=
  List.mem_of_mem_head? h

theorem head_conversation_iff {u p : String} {docs : List Document} {m : Message} :
    (conversation u p (received docs)).head? = some m ↔ IsNewest u docs m ∧ m.partner u = p := by
  constructor
  · intro h
    have hmem := ChatApp.mem_conversation.1 (List.mem_of_mem_head? h)
    have hp := hmem.2.partner_eq
    exact ⟨by rw [IsNewest, hp, h], hp⟩
  · rintro ⟨h, rfl⟩
    exact h

section Flatten

variable {u : String} {docs : List Document} {d : Groups String Message}

/-- The heads of the groups are the newest messages of the conversations. -/
theorem mem_firstMessages (h : GroupedAs u (received docs) d) (hu : DashFree u)
    (hids : UserIds (received docs)) (it : Iteration String Message) {m : Message} :
    m ∈ firstMessages (it.entries d) ↔ IsNewest u docs m := by
  constructor
  · intro hm
    rcases List.mem_filterMap.1 hm with ⟨⟨k, items⟩, he, hhead⟩
    rcases h.entry (it.mem_entries.1 he) with ⟨p, _, _, rfl, _⟩
    exact (head_conversation_iff.1 hhead).1
  · intro hm
    have hmem := mem_conversation.1 hm.mem_conversation
    have hp := hids.dashFree_partner hmem.1 u
    rcases h.present (List.ne_nil_of_mem hm.mem_conversation) with ⟨k, hk, hin⟩
    rcases Finmap.mem_iff.1 hin with ⟨items, hlookup⟩
    have hitems := h.lookup_eq hu hp hk hlookup
    refine List.mem_filterMap.2 ⟨⟨k, items⟩, it.mem_entries.2 hlookup, ?_⟩
    rw [hitems]
    exact hm

/-- Different groups belong to different partners. -/
theorem partners_nodup (h : GroupedAs u (received docs) d) (it : Iteration String Message) :
    ((firstMessages (it.entries d)).map (Message.partner u)).Nodup := by
  have hpair : (it.entries d).Pairwise fun e e' =>
      ∀ m ∈ e.2.head?, ∀ m' ∈ e'.2.head?, m.partner u ≠ m'.partner u := by
    refine (it.pairwise_keys d).imp_of_mem ?_
    rintro ⟨k, items⟩ ⟨k', items'⟩ he he' hne m hm m' hm' heq
    have hk := it.mem_entries.1 he
    have hk' := it.mem_entries.1 he'
    rcases h.entry hk with ⟨p, hp, hkey, rfl, _⟩
    rcases h.entry hk' with ⟨q, _, hkey', rfl, _⟩
    have hpm : m.partner u = p := (head_conversation_iff.1 hm).2
    have hqm : m'.partner u = q := (head_conversation_iff.1 hm').2
    obtain rfl : p = q := by rw [← hpm, ← hqm, heq]
    exact hne (h.key_unique hp hkey hkey' (Finmap.mem_of_lookup_eq_some hk)
      (Finmap.mem_of_lookup_eq_some hk'))
  rw [List.Nodup, List.pairwise_map, firstMessages, List.pairwise_filterMap]
  exact hpair

end Flatten

section LoadMessages

variable {u : String} {docs : List Document} {vc : MessagesViewController}

/-- The listener turns a descending snapshot into an inbox, whatever order the dictionary is
iterated in. -/
theorem isInbox_loadMessages (hlogin : vc.loggedInUserId = some u) (hu : DashFree u)
    (hids : UserIds (received docs)) (hdesc : Descending docs) (it : Iteration String Message) :
    IsInbox u docs (vc.loadMessages it (.documents docs)).messages := by
  have hgrouped := groupedAs_groupDocuments hu hids
  have hmessages : (vc.loadMessages it (.documents docs)).messages =
      sortedByTimestamp (firstMessages (it.entries (groupDocuments (some u) docs))) := by
    simp [MessagesViewController.loadMessages, hlogin]
  rw [hmessages]
  have hperm : (sortedByTimestamp (firstMessages (it.entries (groupDocuments (some u) docs)))).Perm
      (firstMessages (it.entries (groupDocuments (some u) docs))) := sortDescending_perm _ _
  have hnewest : ∀ m, m ∈ sortedByTimestamp
      (firstMessages (it.entries (groupDocuments (some u) docs))) ↔ IsNewest u docs m := by
    intro m
    rw [hperm.mem_iff, mem_firstMessages hgrouped hu hids it]
  refine
    { newest := hnewest
      one_per_partner := (hperm.map _).nodup_iff.2 (partners_nodup hgrouped it)
      every_partner := ?_
      latest := ?_
      ordered := sortDescending_pairwise _ _ }
  · intro p
    constructor
    · rintro ⟨m, hm, rfl⟩
      exact ⟨m, mem_conversation.1 ((hnewest m).1 hm).mem_conversation⟩
    · rintro ⟨m, hm, hbetween⟩
      -- the row of `p` shows the first message of the conversation
      cases hhead : (conversation u p (received docs)).head? with
      | none =>
          have hnil := List.head?_eq_none_iff.1 hhead
          have hin : m ∈ conversation u p (received docs) := mem_conversation.2 ⟨hm, hbetween⟩
          simp [hnil] at hin
      | some first =>
          have hfirst := head_conversation_iff.1 hhead
          exact ⟨first, (hnewest first).2 hfirst.1, hfirst.2⟩
  · intro m hm m' hm'
    have hhead := (hnewest m).1 hm
    -- the snapshot is descending, so the first message is the latest
    have hsorted : (conversation u (m.partner u) (received docs)).Pairwise
        fun a b => b.timestamp ≤ a.timestamp := hdesc.filter _
    rw [IsNewest] at hhead
    cases hconv : conversation u (m.partner u) (received docs) with
    | nil => simp [hconv] at hhead
    | cons first rest =>
        rw [hconv] at hhead hm' hsorted
        obtain rfl : first = m := by simpa using hhead
        rcases List.mem_cons.1 hm' with rfl | hrest
        · exact le_rfl
        · exact (List.pairwise_cons.1 hsorted).1 m' hrest

/-- When the newest messages have different times, the iteration order does not show. -/
theorem loadMessages_iteration_irrelevant (hlogin : vc.loggedInUserId = some u) (hu : DashFree u)
    (hids : UserIds (received docs)) (hdistinct : NewestDistinct u docs)
    (it it' : Iteration String Message) :
    (vc.loadMessages it (.documents docs)).messages =
      (vc.loadMessages it' (.documents docs)).messages := by
  have hgrouped := groupedAs_groupDocuments hu hids
  simp only [MessagesViewController.loadMessages, hlogin]
  have hperm : (sortedByTimestamp (firstMessages (it.entries (groupDocuments (some u) docs)))).Perm
      (sortedByTimestamp (firstMessages (it'.entries (groupDocuments (some u) docs)))) :=
    (sortDescending_perm _ _).trans
      (((it.entries_perm it' _).filterMap _).trans (sortDescending_perm _ _).symm)
  refine List.Perm.eq_of_pairwise ?_ (sortDescending_pairwise _ _) (sortDescending_pairwise _ _)
    hperm
  intro a b ha hb hba hab
  have ha' := (sortDescending_perm _ _).mem_iff.1 ha
  have hb' := (sortDescending_perm _ _).mem_iff.1 hb
  exact hdistinct a b ((mem_firstMessages hgrouped hu hids it).1 ha')
    ((mem_firstMessages hgrouped hu hids it').1 hb') (le_antisymm hab hba)

/-- The inbox of a logged-in user after any snapshot. -/
theorem loadMessages_newest_per_partner (hlogin : vc.loggedInUserId = some u)
    (hu : DashFree u) (hids : UserIds (received docs)) (hdesc : Descending docs) :
    (∀ it, IsInbox u docs (vc.loadMessages it (.documents docs)).messages) ∧
      (NewestDistinct u docs → ∀ it it',
        (vc.loadMessages it (.documents docs)).messages =
          (vc.loadMessages it' (.documents docs)).messages) :=
  ⟨fun it => isInbox_loadMessages hlogin hu hids hdesc it,
    fun hdistinct it it' => loadMessages_iteration_irrelevant hlogin hu hids hdistinct it it'⟩

end LoadMessages

/-- A snapshot in which `ann` writes to `bob` in both directions and hears from `cat`; the second
document has no body. -/
def mixedSnapshot : List Document :=
  [ Message.document ⟨"4", "bob", "ann", "later", 4⟩,
    ⟨"3", fun field => if field = "senderId" then some (.string "ann") else none⟩,
    Message.document ⟨"2", "cat", "ann", "hello", 2⟩,
    Message.document ⟨"1", "ann", "bob", "hi", 1⟩ ]

theorem mixedSnapshot_inbox :
    (∀ it, IsInbox "ann" mixedSnapshot
      (MessagesViewController.loadMessages it (.documents mixedSnapshot)
        ⟨some "ann", [], ∅⟩).messages) ∧
      (NewestDistinct "ann" mixedSnapshot → ∀ it it',
        (MessagesViewController.loadMessages it (.documents mixedSnapshot)
          ⟨some "ann", [], ∅⟩).messages =
          (MessagesViewController.loadMessages it' (.documents mixedSnapshot)
            ⟨some "ann", [], ∅⟩).messages) :=
  loadMessages_newest_per_partner rfl (by decide +kernel)
    (by unfold UserIds; decide +kernel) (by unfold Descending; decide +kernel)

end ChatApp
end IosProjects
