import IosProjects.ChatApp.Chat

/-!
# Agreement — the inbox and the chat screen show the same conversations

`ChatStep` is what any number of users can do: open a chat from the list of users or from a row of
their inbox, and send messages from open chats. `StoreOk` is the invariant of the store this leads
to. Its essential part is that nobody writes to itself: the two `in` filters of the chat query also
match such messages, and the inbox would file them elsewhere.

With it both screens can be computed from the conversation in query order: the chat shows it
ascending, and the inbox shows the first message of the descending order, which is the last of the
ascending one because the identifiers of documents break ties.
-/

namespace IosProjects
namespace ChatApp

open IosProjects.Library

/-! ## What users can do -/

/-- An open chat screen: who is signed in and whom the chat is with. -/
structure OpenChat where
  uid : String
  chat : ChatViewController

structure ChatState where
  store : List Document
  chats : List OpenChat

inductive ChatEvent where
  | openFromUsers (uid : String) (userDocs : List Document) (row : ℕ)
  | openFromInbox (uid : String) (it : Iteration String Message) (snapshot : List Document)
      (row : ℕ)
  | sendMessageClick (chat : OpenChat) (text : String) (timestamp : TimeInterval)
      (documentID : String)

/-- The inbox of `uid` after a snapshot. -/
def inbox (uid : String) (it : Iteration String Message) (snapshot : List Document) :
    MessagesViewController :=
  MessagesViewController.loadMessages it (.documents snapshot)
    { loggedInUserId := some uid, messages := [], groupedMessages := ∅ }

/-- The steps. Accounts have identifiers without `'-'`; the inbox may show an older state of the
store; a new document gets an unused identifier. -/
inductive ChatStep : ChatState → ChatEvent → ChatState → Prop where
  | openFromUsers {s : ChatState} {uid : String} {userDocs : List Document} {row : ℕ}
      {chat : ChatViewController} :
      DashFree uid → (∀ user ∈ userDocs.filterMap userOf, DashFree user.id) →
      UsersViewController.didSelectRowAt row (fetchUsers (some uid) userDocs) = some chat →
      ChatStep s (.openFromUsers uid userDocs row)
        { s with chats := ⟨uid, chat.viewDidLoad uid⟩ :: s.chats }
  | openFromInbox {s : ChatState} {uid : String} {it : Iteration String Message}
      {snapshot : List Document} {row : ℕ} {chat : ChatViewController} :
      DashFree uid → snapshot ⊆ s.store →
      (inbox uid it snapshot).didSelectRowAt row = some chat →
      ChatStep s (.openFromInbox uid it snapshot row)
        { s with chats := ⟨uid, chat.viewDidLoad uid⟩ :: s.chats }
  | sendMessageClick {s : ChatState} {chat : OpenChat} {text : String} {timestamp : TimeInterval}
      {documentID : String} {doc : Document} :
      chat ∈ s.chats → documentID ∉ s.store.map Document.documentID →
      chat.chat.sendMessageClick chat.uid text timestamp documentID = some doc →
      ChatStep s (.sendMessageClick chat text timestamp documentID)
        { s with store := s.store ++ [doc] }

/-- Nothing has been sent and no chat is open. -/
def ChatState.empty : ChatState where
  store := []
  chats := []

/-! ## The reachable stores -/

/-- A document a chat screen writes: its sender and receiver are two different users. -/
def Sent (doc : Document) : Prop :=
  ∃ m : Message, doc = m.document ∧ m.senderId ≠ m.receiverId ∧
    DashFree m.senderId ∧ DashFree m.receiverId

/-- Every document was sent from one user to another, under an identifier of its own. -/
structure StoreOk (store : List Document) : Prop where
  sent : ∀ doc ∈ store, Sent doc
  ids_nodup : (store.map Document.documentID).Nodup

/-- An open chat is with somebody else. -/
def OpenChat.Ok (c : OpenChat) : Prop :=
  DashFree c.uid ∧ ∃ p, c.chat.receiverId = some p ∧ p ≠ c.uid ∧ DashFree p

structure ChatState.Ok (s : ChatState) : Prop where
  store : StoreOk s.store
  chats : ∀ c ∈ s.chats, c.Ok

theorem ChatState.empty_ok : ChatState.empty.Ok where
  store := ⟨by simp [ChatState.empty], by simp [ChatState.empty]⟩
  chats := by simp [ChatState.empty]

namespace StoreOk

variable {store : List Document}

theorem mem_received (h : StoreOk store) {m : Message} (hm : m ∈ received store) :
    m.document ∈ store ∧ m.senderId ≠ m.receiverId ∧ DashFree m.senderId ∧
      DashFree m.receiverId := by
  rcases List.mem_filterMap.1 hm with ⟨doc, hdoc, hmsg⟩
  rcases h.sent doc hdoc with ⟨m', rfl, hne, hs, hr⟩
  rw [messageOf_document] at hmsg
  obtain rfl := Option.some.inj hmsg
  exact ⟨hdoc, hne, hs, hr⟩

theorem userIds (h : StoreOk store) : UserIds (received store) := fun _ hm =>
  (h.mem_received hm).2.2

end StoreOk

/-- The partner in a message between two users is another user. -/
theorem partner_ne {u : String} {m : Message} (hm : m.Involves u)
    (hne : m.senderId ≠ m.receiverId) : m.partner u ≠ u := by
  rcases Message.between_partner hm with ⟨hs, hr⟩ | ⟨hs, hr⟩
  · exact fun heq => hne (by rw [hs, hr, heq])
  · exact fun heq => hne (by rw [hs, hr, heq])

/-- Opening a row gives the chat with the partner of the message in the row. -/
theorem didSelectRowAt_eq {uid : String} {vc : MessagesViewController} {row : ℕ}
    {chat : ChatViewController} (hlogin : vc.loggedInUserId = some uid)
    (h : vc.didSelectRowAt row = some chat) :
    ∃ m, vc.messages[row]? = some m ∧
      chat = { loggedInUserId := none, receiverId := some (m.partner uid), messages := [] } := by
  unfold MessagesViewController.didSelectRowAt at h
  cases hrow : vc.messages[row]? with
  | none => simp [hrow] at h
  | some m =>
      refine ⟨m, rfl, ?_⟩
      simp only [hrow, Option.some.injEq, hlogin] at h
      rw [← h]
      rfl

/-- A row of the list of users opens a chat with that user. -/
theorem users_didSelectRowAt_eq {users : List User} {row : ℕ} {chat : ChatViewController}
    (h : UsersViewController.didSelectRowAt row users = some chat) :
    ∃ user ∈ users,
      chat = { loggedInUserId := none, receiverId := some user.id, messages := [] } := by
  unfold UsersViewController.didSelectRowAt at h
  cases hrow : users[row]? with
  | none => simp [hrow] at h
  | some user =>
      refine ⟨user, List.mem_of_getElem? hrow, ?_⟩
      simp only [hrow, Option.some.injEq] at h
      rw [← h]

/-- The list of users leaves oneself out, so a chat opened from it is with somebody else. -/
theorem openFromUsers_ok {uid : String} {userDocs : List Document} {row : ℕ}
    {chat : ChatViewController} (huid : DashFree uid)
    (hids : ∀ user ∈ userDocs.filterMap userOf, DashFree user.id)
    (hopen : UsersViewController.didSelectRowAt row (fetchUsers (some uid) userDocs) = some chat) :
    OpenChat.Ok ⟨uid, chat.viewDidLoad uid⟩ := by
  rcases users_didSelectRowAt_eq hopen with ⟨user, hmem, rfl⟩
  have hlisted : user ∈ userDocs.filterMap userOf := by
    rw [fetchUsers_eq] at hmem
    exact (List.mem_filter.1 hmem).1
  exact ⟨huid, user.id, rfl, id_ne_of_mem_fetchUsers hmem, hids user hlisted⟩

/-- What a row of the inbox shows is the newest message of a conversation. -/
theorem isNewest_of_inbox_row {uid : String} (huid : DashFree uid) {snapshot : List Document}
    (hids : UserIds (received snapshot)) {it : Iteration String Message} {row : ℕ} {m : Message}
    (hrow : (inbox uid it snapshot).messages[row]? = some m) : IsNewest uid snapshot m := by
  have hgrouped := groupedAs_groupDocuments huid hids
  have hin : m ∈ firstMessages (it.entries (groupDocuments (some uid) snapshot)) :=
    (sortDescending_perm _ _).mem_iff.1 (List.mem_of_getElem? hrow)
  exact (mem_firstMessages hgrouped huid hids it).1 hin

/-- In an inbox made of messages between different users, a row leads to somebody else. -/
theorem openFromInbox_ok {store snapshot : List Document} (hstore : StoreOk store)
    (hsub : snapshot ⊆ store) {uid : String} (huid : DashFree uid)
    {it : Iteration String Message} {row : ℕ} {chat : ChatViewController}
    (hopen : (inbox uid it snapshot).didSelectRowAt row = some chat) :
    OpenChat.Ok ⟨uid, chat.viewDidLoad uid⟩ := by
  have hall : ∀ m ∈ received snapshot, m ∈ received store := by
    intro m hm
    rcases List.mem_filterMap.1 hm with ⟨doc, hdoc, hmsg⟩
    exact List.mem_filterMap.2 ⟨doc, hsub hdoc, hmsg⟩
  have hids : UserIds (received snapshot) := fun m hm => hstore.userIds m (hall m hm)
  have hlogin : (inbox uid it snapshot).loggedInUserId = some uid := rfl
  rcases didSelectRowAt_eq hlogin hopen with ⟨m, hrow, rfl⟩
  have hmem := mem_conversation.1 (isNewest_of_inbox_row huid hids hrow).mem_conversation
  have hne := (hstore.mem_received (hall m hmem.1)).2.1
  exact ⟨huid, m.partner uid, rfl, partner_ne hmem.2.involves hne,
    hids.dashFree_partner hmem.1 uid⟩

/-- What an open chat sends is a message to somebody else, under the identifier given. -/
theorem sendMessageClick_sent {c : OpenChat} (hc : c.Ok) {text : String}
    {timestamp : TimeInterval} {documentID : String} {doc : Document}
    (hsend : c.chat.sendMessageClick c.uid text timestamp documentID = some doc) :
    Sent doc ∧ doc.documentID = documentID := by
  rcases hc with ⟨huid, p, hp, hne, hpd⟩
  simp only [ChatViewController.sendMessageClick, hp, Option.some.injEq] at hsend
  subst hsend
  exact ⟨⟨_, rfl, hne.symm, huid, hpd⟩, rfl⟩

theorem StoreOk.snoc {store : List Document} (h : StoreOk store) {doc : Document}
    (hsent : Sent doc) (hfresh : doc.documentID ∉ store.map Document.documentID) :
    StoreOk (store ++ [doc]) where
  sent := by
    intro doc' hdoc'
    rcases List.mem_append.1 hdoc' with hdoc' | hdoc'
    · exact h.sent doc' hdoc'
    · obtain rfl := List.mem_singleton.1 hdoc'
      exact hsent
  ids_nodup := by
    rw [List.map_append, List.map_singleton, ← List.concat_eq_append, List.nodup_concat]
    exact ⟨hfresh, h.ids_nodup⟩

theorem ChatState.Ok.openChat {s : ChatState} (hs : s.Ok) {c : OpenChat} (hc : c.Ok) :
    ChatState.Ok { s with chats := c :: s.chats } :=
  ⟨hs.store, List.forall_mem_cons.2 ⟨hc, hs.chats⟩⟩

/-- Every step keeps the state in order: neither way of opening a chat leads to oneself. -/
theorem ChatStep.ok {s s' : ChatState} {e : ChatEvent} (hs : s.Ok) (h : ChatStep s e s') :
    s'.Ok := by
  cases h with
  | openFromUsers huid hids hopen => exact hs.openChat (openFromUsers_ok huid hids hopen)
  | openFromInbox huid hsub hopen => exact hs.openChat (openFromInbox_ok hs.store hsub huid hopen)
  | sendMessageClick hchat hfresh hsend =>
      have hsent := sendMessageClick_sent (hs.chats _ hchat) hsend
      exact ⟨hs.store.snoc hsent.1 (by rw [hsent.2]; exact hfresh), hs.chats⟩

theorem reachable_ok {es : List ChatEvent} {s : ChatState}
    (h : Run ChatStep ChatState.empty es s) : s.Ok :=
  h.invariant (fun _ _ _ hs hstep => hstep.ok hs) ChatState.empty_ok

/-! ## Both queries in one order -/

theorem orderKey_document (m : Message) :
    orderKey m.document = toLex (toLex (2, toLex (m.timestamp, "")), m.id) := by
  simp [orderKey, Message.document, FieldValue.sortKey]

/-- Messages are sorted by their stamps, and by their identifiers where these are the same. -/
theorem orderKey_document_lt_iff {m m' : Message} : orderKey m.document < orderKey m'.document ↔
    m.timestamp < m'.timestamp ∨ m.timestamp = m'.timestamp ∧ m.id < m'.id := by
  simp [orderKey_document, Prod.Lex.toLex_lt_toLex]

theorem snd_orderKey (doc : Document) : (ofLex (orderKey doc)).2 = doc.documentID :=
  rfl

/-- The store in query order. -/
def queryOrder (store : List Document) : List Document :=
  sortAscending orderKey store

namespace StoreOk

variable {store : List Document}

theorem orderKeys_nodup (h : StoreOk store) : (store.map orderKey).Nodup := by
  have hids : ((store.map orderKey).map fun k => (ofLex k).2).Nodup := by
    simpa [List.map_map, Function.comp_def, snd_orderKey] using h.ids_nodup
  exact hids.of_map _

theorem filter_timestamp (h : StoreOk store) {docs : List Document} (hsub : docs ⊆ store) :
    docs.filter (fun doc => (doc.data "timestamp").isSome) = docs := by
  apply List.filter_eq_self.2
  intro doc hdoc
  rcases h.sent doc (hsub hdoc) with ⟨m, rfl, _⟩
  simp [Message.document]

/-- The inbox lists the store in query order, backwards. -/
theorem inboxQuery_eq (h : StoreOk store) : inboxQuery store = (queryOrder store).reverse := by
  calc inboxQuery store
      = sortDescending orderKey store := by
        rw [inboxQuery, orderByTimestampDescending, h.filter_timestamp (List.Subset.refl store)]
    _ = (queryOrder store).reverse := sortDescending_eq_reverse h.orderKeys_nodup

/-- The two `in` filters select what was sent between two different users. -/
theorem whereFieldIn_eq (h : StoreOk store) {u p : String} {docs : List Document}
    (hsub : docs ⊆ store) :
    whereFieldIn "receiverId" [some u, some p] (whereFieldIn "senderId" [some u, some p] docs) =
      docs.filter fun doc => (messageOf doc).any fun m => m.Between u p := by
  rw [whereFieldIn, whereFieldIn, List.filter_filter]
  apply List.filter_congr
  intro doc hdoc
  rcases h.sent doc (hsub hdoc) with ⟨m, rfl, hsr, _⟩
  have hsender : m.document.data "senderId" = some (.string m.senderId) := by
    simp [Message.document]
  have hreceiver : m.document.data "receiverId" = some (.string m.receiverId) := by
    simp [Message.document]
  rw [messageOf_document, Option.any_some, hsender, hreceiver, Bool.eq_iff_iff, Bool.and_eq_true]
  simp only [decide_eq_true_eq, fieldValueOf, List.map_cons, List.map_nil, List.mem_cons,
    FieldValue.string.injEq, List.not_mem_nil, or_false]
  constructor
  · rintro ⟨hr, hs⟩
    rcases hs with hs | hs <;> rcases hr with hr | hr
    -- nobody writes to themselves
    · exact (hsr (hs.trans hr.symm)).elim
    · exact Or.inl ⟨hs, hr⟩
    · exact Or.inr ⟨hs, hr⟩
    · exact (hsr (hs.trans hr.symm)).elim
  · rintro (⟨hs, hr⟩ | ⟨hs, hr⟩)
    · exact ⟨Or.inr hr, Or.inl hs⟩
    · exact ⟨Or.inl hr, Or.inr hs⟩

/-- The chat lists the conversation in query order. -/
theorem chat_messages (h : StoreOk store) {u p : String} {vc : ChatViewController}
    (hu : vc.loggedInUserId = some u) (hp : vc.receiverId = some p) :
    (vc.loadMessages (.documents (vc.query store))).messages =
      conversation u p (received (queryOrder store)) := by
  have hquery : vc.query store =
      (queryOrder store).filter fun doc => (messageOf doc).any fun m => m.Between u p :=
    calc vc.query store
        = orderByTimestamp
          (store.filter fun doc => (messageOf doc).any fun m => m.Between u p) := by
          rw [ChatViewController.query, hu, hp, h.whereFieldIn_eq (List.Subset.refl store)]
      _ = sortAscending orderKey
            (store.filter fun doc => (messageOf doc).any fun m => m.Between u p) := by
          rw [orderByTimestamp, h.filter_timestamp List.filter_sublist.subset]
      _ = (queryOrder store).filter fun doc => (messageOf doc).any fun m => m.Between u p :=
          sortAscending_filter h.orderKeys_nodup _
  rw [ChatViewController.loadMessages_documents, hquery, received, conversation, received,
    List.filterMap_filter, List.filter_filterMap]
  apply List.filterMap_congr
  intro doc _
  cases hmsg : messageOf doc with
  | none => simp
  | some m => by_cases hb : m.Between u p <;> simp [Option.filter, hb]

theorem received_reverse (docs : List Document) : received docs.reverse = (received docs).reverse :=
  List.filterMap_reverse

/-- The newest message of a conversation is its last one in query order. -/
theorem isNewest_inboxQuery (h : StoreOk store) {u : String} {m : Message} :
    IsNewest u (inboxQuery store) m ↔
      (conversation u (m.partner u) (received (queryOrder store))).getLast? = some m := by
  have hreversed : conversation u (m.partner u) (received (inboxQuery store)) =
      (conversation u (m.partner u) (received (queryOrder store))).reverse :=
    calc conversation u (m.partner u) (received (inboxQuery store))
        = conversation u (m.partner u) (received (queryOrder store)).reverse := by
          rw [h.inboxQuery_eq, received_reverse]
      _ = (conversation u (m.partner u) (received (queryOrder store))).reverse :=
          List.filter_reverse
  rw [IsNewest, hreversed, List.head?_reverse]

theorem received_queryOrder_perm (store : List Document) :
    (received (queryOrder store)).Perm (received store) :=
  (sortAscending_perm _ _).filterMap _

theorem received_queryOrder_ascending (h : StoreOk store) :
    (received (queryOrder store)).Pairwise fun a b => a.timestamp ≤ b.timestamp := by
  rw [received, List.pairwise_filterMap]
  refine (sortAscending_pairwise orderKey store).imp_of_mem ?_
  intro a b ha hb hab m hm m' hm'
  have ha' := (sortAscending_perm _ _).mem_iff.1 ha
  have hb' := (sortAscending_perm _ _).mem_iff.1 hb
  rcases h.sent a ha' with ⟨ma, rfl, _⟩
  rcases h.sent b hb' with ⟨mb, rfl, _⟩
  rw [messageOf_document] at hm hm'
  obtain rfl := Option.some.inj hm
  obtain rfl := Option.some.inj hm'
  rcases hab.lt_or_eq with hlt | heq
  · rcases orderKey_document_lt_iff.1 hlt with hlt | ⟨heq, _⟩
    · exact hlt.le
    · exact heq.le
  · rw [orderKey_document, orderKey_document] at heq
    simp only [toLex_inj, Prod.mk.injEq, and_true, true_and] at heq
    exact heq.1.le

end StoreOk

/-! ## The agreement -/

/-- In every reachable store, opening a row of the inbox leads to a chat with exactly the messages
exchanged with the partner in that row, and the chat ends in the message the row shows. -/
theorem chat_of_inbox_row {es : List ChatEvent} {s : ChatState}
    (h : Run ChatStep ChatState.empty es s) {u : String} (hu : DashFree u)
    (it : Iteration String Message) {row : ℕ} {m : Message}
    (hrow : (inbox u it (inboxQuery s.store)).messages[row]? = some m) :
    ∃ chat, (inbox u it (inboxQuery s.store)).didSelectRowAt row = some chat ∧
      let vc := chat.viewDidLoad u
      let shown := (vc.loadMessages (.documents (vc.query s.store))).messages
      shown.Perm (conversation u (m.partner u) (received s.store)) ∧
        shown.Pairwise (fun a b => a.timestamp ≤ b.timestamp) ∧
        shown.getLast? = some m := by
  have hok := (reachable_ok h).store
  have hperm : (received (inboxQuery s.store)).Perm (received s.store) := by
    rw [hok.inboxQuery_eq, StoreOk.received_reverse]
    exact (List.reverse_perm _).trans (StoreOk.received_queryOrder_perm _)
  -- the inbox and the chat query one store, in opposite orders
  have hids : UserIds (received (inboxQuery s.store)) := fun m hm =>
    hok.userIds m (hperm.mem_iff.1 hm)
  have hnewest := isNewest_of_inbox_row hu hids hrow
  have hopen : (inbox u it (inboxQuery s.store)).didSelectRowAt row =
      some { loggedInUserId := none, receiverId := some (m.partner u), messages := [] } := by
    have hlogin : (inbox u it (inboxQuery s.store)).loggedInUserId = some u := rfl
    simp only [MessagesViewController.didSelectRowAt, hrow, hlogin, Message.partner,
      Option.some.injEq]
  refine ⟨_, hopen, ?_⟩
  intro vc shown
  have hshown : shown = conversation u (m.partner u) (received (queryOrder s.store)) :=
    hok.chat_messages rfl rfl
  rw [hshown]
  exact ⟨(StoreOk.received_queryOrder_perm _).filter _,
    hok.received_queryOrder_ascending.filter _, hok.isNewest_inboxQuery.1 hnewest⟩

/-- The entry of `bob` in the `users` collection. -/
def bobDocument : Document where
  documentID := "bob"
  data := fun field =>
    if field ∈ ["id", "firstName", "lastName", "email", "profileImageUrl"] then some (.string "bob")
    else none

/-- The chat `ann` opens with `bob`. -/
def chatWithBob : ChatViewController where
  loggedInUserId := none
  receiverId := some "bob"
  messages := []

def greeting : Message where
  id := "1"
  senderId := "ann"
  receiverId := "bob"
  body := "hi"
  timestamp := 1

/-- The state after `ann` has greeted `bob`. -/
def greeted : ChatState where
  store := [greeting.document]
  chats := [⟨"ann", chatWithBob.viewDidLoad "ann"⟩]

theorem greeted_run :
    Run ChatStep ChatState.empty
      [.openFromUsers "ann" [bobDocument] 0,
        .sendMessageClick ⟨"ann", chatWithBob.viewDidLoad "ann"⟩ "hi" 1 "1"] greeted := by
  refine Run.snoc (Run.single (t := ⟨[], [⟨"ann", chatWithBob.viewDidLoad "ann"⟩]⟩) ?_) ?_
  · exact @ChatStep.openFromUsers ChatState.empty _ _ _ chatWithBob (by decide)
      (by decide +kernel) (by decide +kernel)
  · exact ChatStep.sendMessageClick (s := ⟨[], [⟨"ann", chatWithBob.viewDidLoad "ann"⟩]⟩)
      (by simp) (by simp) rfl

theorem chat_of_greeted_row :
    ∃ row, (inbox "ann" default (inboxQuery greeted.store)).messages[row]? = some greeting ∧
      ∃ chat, (inbox "ann" default (inboxQuery greeted.store)).didSelectRowAt row = some chat ∧
        let vc := chat.viewDidLoad "ann"
        let shown := (vc.loadMessages (.documents (vc.query greeted.store))).messages
        shown.Perm (conversation "ann" (greeting.partner "ann") (received greeted.store)) ∧
          shown.Pairwise (fun a b => a.timestamp ≤ b.timestamp) ∧
          shown.getLast? = some greeting := by
  have hquery : inboxQuery greeted.store = [greeting.document] := by rfl
  have hinbox : IsInbox "ann" (inboxQuery greeted.store)
      (inbox "ann" default (inboxQuery greeted.store)).messages := by
    refine isInbox_loadMessages rfl (by decide) ?_ ?_ _ <;> rw [hquery]
    · unfold UserIds; decide +kernel
    · unfold Descending; decide +kernel
  have hmem : greeting ∈ (inbox "ann" default (inboxQuery greeted.store)).messages := by
    rw [hinbox.newest, hquery]
    unfold IsNewest; decide +kernel
  rcases List.mem_iff_getElem?.1 hmem with ⟨row, hrow⟩
  exact ⟨row, hrow, chat_of_inbox_row greeted_run (by decide) default hrow⟩

end ChatApp
end IosProjects
