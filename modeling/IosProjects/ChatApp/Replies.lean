import IosProjects.Library.Lists
import IosProjects.Library.Replica
import IosProjects.ChatApp.Agreement

/-!
# Replies — several devices, each with its own clock

Devices send messages stamped by their own clocks and receive snapshots of what they know of the
store: the part of it they have seen, and messages of their own that may not have arrived there yet.
A message that was on the screen when another was sent is on every screen that shows the other.
Which of the two comes first is decided by the stamps alone.
-/

namespace IosProjects
namespace ChatApp

open IosProjects.Library

/-! ## Devices and chats -/

/-- The chat screens `κ`, the devices `δ` they are on, who is signed in there, and the other
participant of each chat. -/
structure ChatSetup (δ κ : Type) where
  device : κ → δ
  user : δ → String
  receiver : κ → String

variable {δ κ : Type} [DecidableEq δ]

structure ChatSystem (δ κ : Type) [DecidableEq δ] where
  replicas : Replicas δ Message
  clock : δ → TimeInterval
  screen : κ → ChatViewController

namespace ChatSystem

/-- Nothing has been sent; every chat has been opened. -/
def start (setup : ChatSetup δ κ) (clock : δ → TimeInterval) : ChatSystem δ κ where
  replicas := .empty
  clock := clock
  screen := fun k =>
    ChatViewController.viewDidLoad (setup.user (setup.device k))
      { loggedInUserId := none, receiverId := some (setup.receiver k), messages := [] }

/-- A snapshot of what a device knows is delivered to a chat on it. -/
def deliver [DecidableEq κ] (setup : ChatSetup δ κ) (k : κ) (seen shown : ℕ) (s : ChatSystem δ κ) :
    ChatSystem δ κ :=
  let replicas := s.replicas.receive (setup.device k) seen shown
  let store := (replicas.view (setup.device k)).map Message.document
  { s with
    replicas := replicas
    -- the listener fills the list anew
    screen := Function.update s.screen k
      ((s.screen k).loadMessages (.documents ((s.screen k).query store))) }

end ChatSystem

inductive ChatSystemEvent (δ κ : Type) where
  | tick (d : δ) (time : TimeInterval)
  | send (k : κ) (text id : String)
  | upload (d : δ)
  | deliver (k : κ) (seen shown : ℕ)
  | deliverError (k : κ)

/-- Clocks do not run backwards, and a new document has a new identifier. -/
inductive ChatSystemStep [DecidableEq κ] (setup : ChatSetup δ κ) :
    ChatSystem δ κ → ChatSystemEvent δ κ → ChatSystem δ κ → Prop where
  | tick {s : ChatSystem δ κ} {d : δ} {time : TimeInterval} :
      s.clock d ≤ time →
      ChatSystemStep setup s (.tick d time) { s with clock := Function.update s.clock d time }
  | send {s : ChatSystem δ κ} {k : κ} {text id : String} {m : Message} :
      (∀ d, ∀ other ∈ s.replicas.sent d, other.id ≠ id) →
      (s.screen k).sendMessageClick (setup.user (setup.device k)) text
          (s.clock (setup.device k)) id =
        some m.document →
      ChatSystemStep setup s (.send k text id)
        { s with replicas := s.replicas.send (setup.device k) m }
  | upload {s : ChatSystem δ κ} {d : δ} {m : Message} (h : s.replicas.nextUpload d = some m) :
      ChatSystemStep setup s (.upload d) { s with replicas := s.replicas.upload d m h }
  | deliver {s : ChatSystem δ κ} {k : κ} {seen shown : ℕ} :
      s.replicas.seen (setup.device k) ≤ seen → seen ≤ s.replicas.log.length →
      s.replicas.shown (setup.device k) ≤ shown →
      shown ≤ (s.replicas.sent (setup.device k)).length →
      ChatSystemStep setup s (.deliver k seen shown) (s.deliver setup k seen shown)
  | deliverError {s : ChatSystem δ κ} {k : κ} :
      ChatSystemStep setup s (.deliverError k)
        { s with screen := Function.update s.screen k ((s.screen k).loadMessages .error) }

/-! ## What a chat shows -/

/-- The message is between the two users of a chat, or from one of them to themselves. -/
def ChatSetup.Covers (setup : ChatSetup δ κ) (k : κ) (m : Message) : Prop :=
  (m.senderId = setup.user (setup.device k) ∨ m.senderId = setup.receiver k) ∧
    (m.receiverId = setup.user (setup.device k) ∨ m.receiverId = setup.receiver k)

theorem received_map_document (ms : List Message) : received (ms.map Message.document) = ms := by
  rw [received, List.filterMap_map]
  exact (List.filterMap_congr fun m _ => messageOf_document m).trans List.filterMap_some

/-- Among documents of messages, a query of a chat finds those of the chat, sorted by their
stamps. -/
theorem received_query {vc : ChatViewController} {user receiver : String}
    (huser : vc.loggedInUserId = some user) (hreceiver : vc.receiverId = some receiver)
    (ms : List Message) :
    received (vc.query (ms.map Message.document)) =
      sortAscending (fun m => orderKey m.document) (ms.filter fun m =>
        (m.senderId = user ∨ m.senderId = receiver) ∧
          (m.receiverId = user ∨ m.receiverId = receiver)) := by
  have hfilter : whereFieldIn "receiverId" [vc.loggedInUserId, vc.receiverId]
      (whereFieldIn "senderId" [vc.loggedInUserId, vc.receiverId] (ms.map Message.document)) =
        (ms.filter fun m =>
          (m.senderId = user ∨ m.senderId = receiver) ∧
            (m.receiverId = user ∨ m.receiverId = receiver)).map Message.document := by
    rw [whereFieldIn, whereFieldIn, List.filter_map, List.filter_map, List.filter_filter]
    refine congrArg (List.map Message.document) (List.filter_congr fun m _ => ?_)
    simp only [Function.comp_apply, Message.document, huser, hreceiver, fieldValueOf, List.map_cons,
      List.map_nil, List.mem_cons, List.not_mem_nil, or_false]
    simp [Bool.and_comm]
  have hstamped : ∀ l : List Message,
      (l.map Message.document).filter (fun doc => (doc.data "timestamp").isSome) =
        l.map Message.document := fun l =>
    List.filter_eq_self.2 fun doc hdoc => by
      rcases List.mem_map.1 hdoc with ⟨m, _, rfl⟩
      simp [Message.document]
  -- sorting documents is sorting messages by the keys of their documents
  have hsort : ∀ l : List Message, sortAscending orderKey (l.map Message.document) =
      (sortAscending (fun m => orderKey m.document) l).map Message.document := fun l =>
    (List.map_insertionSort _ _ Message.document l fun _ _ _ _ => Iff.rfl).symm
  rw [ChatViewController.query, hfilter, orderByTimestamp, hstamped, hsort, received_map_document]

/-- The message a press of the button sends. -/
theorem eq_of_sendMessageClick {vc : ChatViewController} {uid text id receiver : String}
    {timestamp : TimeInterval} {m : Message} (hreceiver : vc.receiverId = some receiver)
    (h : vc.sendMessageClick uid text timestamp id = some m.document) :
    m = ⟨id, uid, receiver, text, timestamp⟩ := by
  rw [ChatViewController.sendMessageClick, hreceiver] at h
  have hmessage := congrArg messageOf (Option.some.inj h)
  rw [messageOf_document, messageOf_document] at hmessage
  exact (Option.some.inj hmessage).symm

/-! ## Runs -/

section Runs

variable {setup : ChatSetup δ κ} {s t : ChatSystem δ κ}

/-- A chat screen keeps its two users, and shows messages of theirs that its device knows. -/
structure ScreenOk (setup : ChatSetup δ κ) (s : ChatSystem δ κ) (k : κ) : Prop where
  loggedInUserId : (s.screen k).loggedInUserId = some (setup.user (setup.device k))
  receiverId : (s.screen k).receiverId = some (setup.receiver k)
  known : ∀ m ∈ (s.screen k).messages, m ∈ s.replicas.view (setup.device k)
  covers : ∀ m ∈ (s.screen k).messages, setup.Covers k m

theorem ScreenOk.start (clock : δ → TimeInterval) (k : κ) :
    ScreenOk setup (ChatSystem.start setup clock) k where
  loggedInUserId := rfl
  receiverId := rfl
  known := by simp [ChatSystem.start, ChatViewController.viewDidLoad]
  covers := by simp [ChatSystem.start, ChatViewController.viewDidLoad]

theorem ScreenOk.of_screen_eq {k : κ} (h : ScreenOk setup s k) (hscreen : t.screen k = s.screen k)
    (hview : s.replicas.view (setup.device k) ⊆ t.replicas.view (setup.device k)) :
    ScreenOk setup t k := by
  constructor <;> rw [hscreen]
  · exact h.loggedInUserId
  · exact h.receiverId
  · exact fun m hm => hview (h.known m hm)
  · exact h.covers

variable [DecidableEq κ]

theorem screen_deliver_self (k : κ) (seen shown : ℕ) :
    (s.deliver setup k seen shown).screen k =
      (s.screen k).loadMessages (.documents ((s.screen k).query
        (((s.deliver setup k seen shown).replicas.view (setup.device k)).map
          Message.document))) := by
  simp [ChatSystem.deliver]

/-- What a chat shows after a snapshot is what its device knows of its two users. -/
theorem messages_deliver {k : κ} (h : ScreenOk setup s k) (seen shown : ℕ) :
    ((s.deliver setup k seen shown).screen k).messages =
      sortAscending (fun m => orderKey m.document)
        (((s.deliver setup k seen shown).replicas.view (setup.device k)).filter fun m =>
          (m.senderId = setup.user (setup.device k) ∨ m.senderId = setup.receiver k) ∧
            (m.receiverId = setup.user (setup.device k) ∨ m.receiverId = setup.receiver k)) := by
  rw [screen_deliver_self, ChatViewController.loadMessages_documents]
  exact received_query h.loggedInUserId h.receiverId _

theorem mem_messages_deliver {k : κ} (h : ScreenOk setup s k) {seen shown : ℕ} {m : Message} :
    m ∈ ((s.deliver setup k seen shown).screen k).messages ↔
      m ∈ (s.deliver setup k seen shown).replicas.view (setup.device k) ∧ setup.Covers k m := by
  rw [messages_deliver h, (sortAscending_perm _ _).mem_iff, List.mem_filter, decide_eq_true_iff,
    ChatSetup.Covers]

/-- A step either leaves the store alone or is a step of the store. -/
theorem ChatSystemStep.replicas (hscreens : ∀ k, ScreenOk setup s k) {e : ChatSystemEvent δ κ}
    (hstep : ChatSystemStep setup s e t) :
    t.replicas = s.replicas ∨ ∃ e', Replicas.Step s.replicas e' t.replicas := by
  cases hstep with
  | tick _ => exact Or.inl rfl
  | @send k text id m hfresh hsend =>
      refine Or.inr ⟨_, .send fun d hmem => hfresh d m hmem ?_⟩
      rw [eq_of_sendMessageClick (hscreens k).receiverId hsend]
  | upload h => exact Or.inr ⟨_, .upload h⟩
  | deliver hseen hseen' hshown hshown' => exact Or.inr ⟨_, .receive hseen hseen' hshown hshown'⟩
  | deliverError => exact Or.inl rfl

theorem ScreenOk.step (h : ∀ k, ScreenOk setup s k) {e : ChatSystemEvent δ κ}
    (hstep : ChatSystemStep setup s e t) : ∀ k, ScreenOk setup t k := by
  -- no device forgets what it has shown
  have hview : ∀ d, s.replicas.view d ⊆ t.replicas.view d := by
    intro d
    rcases hstep.replicas h with hsame | ⟨_, hreplicas⟩
    · rw [hsame]
      exact List.Subset.refl _
    · exact Replicas.view_subset_of_step hreplicas
  intro k
  cases hstep with
  | tick _ => exact (h k).of_screen_eq rfl (hview _)
  | send _ _ => exact (h k).of_screen_eq rfl (hview _)
  | upload _ => exact (h k).of_screen_eq rfl (hview _)
  | @deliver k' seen shown _ _ _ _ =>
      by_cases hk : k = k'
      · subst hk
        refine ⟨?_, ?_, fun m hm => ((mem_messages_deliver (h k)).1 hm).1,
          fun m hm => ((mem_messages_deliver (h k)).1 hm).2⟩
        · rw [screen_deliver_self]
          exact (h k).loggedInUserId
        · rw [screen_deliver_self]
          exact (h k).receiverId
      · exact (h k).of_screen_eq (Function.update_of_ne hk _ _) (hview _)
  | @deliverError k' =>
      -- an error empties the list of that screen
      by_cases hk : k = k'
      · subst hk
        have hscreen : Function.update s.screen k ((s.screen k).loadMessages .error) k =
            (s.screen k).loadMessages .error := Function.update_self _ _ _
        have hmessages : ((s.screen k).loadMessages .error).messages = [] := rfl
        constructor <;> simp only [hscreen]
        · exact (h k).loggedInUserId
        · exact (h k).receiverId
        · simp [hmessages]
        · simp [hmessages]
      · exact (h k).of_screen_eq (Function.update_of_ne hk _ _) (hview _)

theorem ScreenOk.run {es : List (ChatSystemEvent δ κ)} (h : ∀ k, ScreenOk setup s k)
    (hrun : Run (ChatSystemStep setup) s es t) : ∀ k, ScreenOk setup t k :=
  hrun.invariant (P := fun s => ∀ k, ScreenOk setup s k)
    (fun _ _ _ h hstep => ScreenOk.step h hstep) h

/-- A run of the chats is a run of the store. -/
theorem replicas_run {es : List (ChatSystemEvent δ κ)} (h : ∀ k, ScreenOk setup s k)
    (hrun : Run (ChatSystemStep setup) s es t) :
    ∃ es', Run Replicas.Step s.replicas es' t.replicas := by
  induction hrun with
  | nil => exact ⟨[], Run.nil _⟩
  | snoc hrun hlast ih =>
      rcases ih with ⟨es', hes'⟩
      rcases hlast.replicas (ScreenOk.run h hrun) with hsame | ⟨e', hstep⟩
      · exact ⟨es', hsame ▸ hes'⟩
      · exact ⟨es' ++ [e'], hes'.snoc hstep⟩

/-! ## Replies -/

/-- The message sent with a text from a chat on a device whose clock reads `timestamp`. -/
def ChatSetup.message (setup : ChatSetup δ κ) (k : κ) (text id : String)
    (timestamp : TimeInterval) :
    Message where
  id := id
  senderId := setup.user (setup.device k)
  receiverId := setup.receiver k
  body := text
  timestamp := timestamp

omit [DecidableEq δ] [DecidableEq κ] in
/-- A chat that shows a message sent from another chat shows what that chat shows. -/
theorem ChatSetup.covers_of_covers_message {k k' : κ} {text id : String} {timestamp : TimeInterval}
    {m : Message} (h : setup.Covers k' (setup.message k text id timestamp))
    (hm : setup.Covers k m) :
    setup.Covers k' m := by
  rcases hm with ⟨hsender, hreceiver⟩
  constructor
  · rcases hsender with hsender | hsender
    · rw [hsender]
      exact h.1
    · rw [hsender]
      exact h.2
  · rcases hreceiver with hreceiver | hreceiver
    · rw [hreceiver]
      exact h.1
    · rw [hreceiver]
      exact h.2

/-- Let a chat show `m₁` after a snapshot, and let its user reply some time later. Then every later
snapshot that brings the reply to a chat brings `m₁` too, and `m₁` is placed before the reply if and
only if the clock of the device read later than the stamp of `m₁` when the reply was sent, or the
same and `m₁` has the smaller identifier. -/
theorem reply_placed_iff {clock : δ → TimeInterval} {es₁ es₂ es₃ : List (ChatSystemEvent δ κ)}
    {s₁ s₂ s₃ s₄ s₅ : ChatSystem δ κ} {k k' : κ} {text id : String} {seen shown : ℕ} {m₁ : Message}
    (hrun₁ : Run (ChatSystemStep setup) (.start setup clock) es₁ s₁)
    (hm₁ : m₁ ∈ (s₁.screen k).messages) (hrun₂ : Run (ChatSystemStep setup) s₁ es₂ s₂)
    (hsend : ChatSystemStep setup s₂ (.send k text id) s₃)
    (hrun₃ : Run (ChatSystemStep setup) s₃ es₃ s₄)
    (hdeliver : ChatSystemStep setup s₄ (.deliver k' seen shown) s₅)
    (hm₂ : setup.message k text id (s₂.clock (setup.device k)) ∈ (s₅.screen k').messages) :
    m₁ ∈ (s₅.screen k').messages ∧
      ([m₁, setup.message k text id (s₂.clock (setup.device k))].Sublist (s₅.screen k').messages ↔
        m₁.timestamp < s₂.clock (setup.device k) ∨
          m₁.timestamp = s₂.clock (setup.device k) ∧ m₁.id < id) := by
  have hok₁ := ScreenOk.run (ScreenOk.start clock) hrun₁
  have hok₂ := ScreenOk.run hok₁ hrun₂
  have hok₃ := ScreenOk.step hok₂ hsend
  have hok₄ := ScreenOk.run hok₃ hrun₃
  have hok₅ := ScreenOk.step hok₄ hdeliver
  -- the device still shows `m₁` when the reply is sent
  rcases replicas_run hok₁ hrun₂ with ⟨_, hreplicas₂⟩
  have hshown : m₁ ∈ s₂.replicas.view (setup.device k) :=
    Replicas.view_subset_of_run hreplicas₂ ((hok₁ k).known m₁ hm₁)
  rcases replicas_run hok₃ (hrun₃.snoc hdeliver) with ⟨_, hreplicas₅⟩
  have hid : m₁.id ≠ id := by
    rcases Replicas.mem_sent_of_mem_view hshown with ⟨d, hsent⟩
    cases hsend with
    | send hfresh _ => exact hfresh d m₁ hsent
  have hknown : m₁ ∈ s₅.replicas.view (setup.device k') := by
    refine Replicas.causal hshown ?_ hreplicas₅ ((hok₅ k').known _ hm₂)
    cases hsend with
    | send hfresh hmessage =>
        obtain rfl := eq_of_sendMessageClick (hok₂ k).receiverId hmessage
        exact .send fun d hmem => hfresh d _ hmem rfl
  cases hdeliver with
  | deliver _ _ _ _ =>
      have hcovers :=
        setup.covers_of_covers_message ((hok₅ k').covers _ hm₂) ((hok₁ k).covers m₁ hm₁)
      have hmem := (mem_messages_deliver (hok₄ k')).2 ⟨hknown, hcovers⟩
      refine ⟨hmem, ?_⟩
      rw [messages_deliver (hok₄ k')] at hmem hm₂ ⊢
      have hne : orderKey m₁.document ≠
          orderKey (setup.message k text id (s₂.clock (setup.device k))).document := by
        intro hsame
        rw [orderKey_document, orderKey_document] at hsame
        exact hid (congrArg (fun key => (ofLex key).2) hsame)
      rw [pair_sublist_iff (sortAscending_pairwise _ _) hmem hm₂ hne, orderKey_document_lt_iff]
      rfl

/-- A reply is placed below what it replies to in every later snapshot that brings it. -/
def RepliesPlacedBelow (setup : ChatSetup δ κ) (clock : δ → TimeInterval) : Prop :=
  ∀ (es₁ es₂ es₃ : List (ChatSystemEvent δ κ)) (s₁ s₂ s₃ s₄ s₅ : ChatSystem δ κ) (k k' : κ)
    (text id : String) (seen shown : ℕ) (m₁ : Message),
    Run (ChatSystemStep setup) (.start setup clock) es₁ s₁ → m₁ ∈ (s₁.screen k).messages →
    Run (ChatSystemStep setup) s₁ es₂ s₂ → ChatSystemStep setup s₂ (.send k text id) s₃ →
    Run (ChatSystemStep setup) s₃ es₃ s₄ → ChatSystemStep setup s₄ (.deliver k' seen shown) s₅ →
    setup.message k text id (s₂.clock (setup.device k)) ∈ (s₅.screen k').messages →
    [m₁, setup.message k text id (s₂.clock (setup.device k))].Sublist (s₅.screen k').messages

end Runs

/-! ## Two phones -/

inductive Phone where
  | alices
  | bobs
  deriving DecidableEq

/-- Alice and Bob, each with the chat with the other open. -/
def twoPhones : ChatSetup Phone Phone where
  device := fun phone => phone
  user := fun phone => match phone with
    | .alices => "alice"
    | .bobs => "bob"
  receiver := fun phone => match phone with
    | .alices => "bob"
    | .bobs => "alice"

/-- The clocks read the same time on Alice's phone, and `bobs` on Bob's. -/
def clocks (bobs : TimeInterval) : Phone → TimeInterval
  | .alices => 100
  | .bobs => bobs

/-- Alice says hello. -/
def hello : Message := twoPhones.message .alices "hello" "m1" 100

/-- Alice's message has been uploaded. -/
def helloUploaded (bobs : TimeInterval) : ChatSystem Phone Phone :=
  { ChatSystem.start twoPhones (clocks bobs) with
    replicas := (Replicas.empty.send .alices hello).upload .alices hello rfl }

theorem run_helloUploaded (bobs : TimeInterval) :
    Run (ChatSystemStep twoPhones) (.start twoPhones (clocks bobs))
      [.send .alices "hello" "m1", .upload .alices] (helloUploaded bobs) :=
  (Run.single
    (ChatSystemStep.send (m := hello) (by simp [ChatSystem.start, Replicas.empty]) rfl)).snoc
    (ChatSystemStep.upload rfl)

/-- Bob's phone has received it. -/
def helloReceived (bobs : TimeInterval) : ChatSystem Phone Phone :=
  (helloUploaded bobs).deliver twoPhones .bobs 1 0

theorem deliver_hello (bobs : TimeInterval) :
    ChatSystemStep twoPhones (helloUploaded bobs) (.deliver .bobs 1 0) (helloReceived bobs) :=
  ChatSystemStep.deliver (Nat.zero_le _) (Nat.le_refl _) (Nat.le_refl _) (Nat.zero_le _)

/-- Bob has replied. -/
def replySent (bobs : TimeInterval) : ChatSystem Phone Phone :=
  { helloReceived bobs with
    replicas := (helloReceived bobs).replicas.send .bobs (twoPhones.message .bobs "hi" "m2" bobs) }

theorem send_reply (bobs : TimeInterval) :
    ChatSystemStep twoPhones (helloReceived bobs) (.send .bobs "hi" "m2") (replySent bobs) := by
  refine ChatSystemStep.send (m := twoPhones.message .bobs "hi" "m2" bobs) ?_ ?_
  · intro phone other hother
    have halices : (helloReceived bobs).replicas.sent .alices = [hello] := rfl
    have hbobs : (helloReceived bobs).replicas.sent .bobs = [] := rfl
    cases phone with
    | alices =>
        rw [halices, List.mem_singleton] at hother
        rw [hother]
        decide
    | bobs =>
        rw [hbobs] at hother
        cases hother
  · rfl

/-- Bob sees both messages. -/
def replyShown (bobs : TimeInterval) : ChatSystem Phone Phone :=
  (replySent bobs).deliver twoPhones .bobs 1 1

theorem deliver_reply (bobs : TimeInterval) :
    ChatSystemStep twoPhones (replySent bobs) (.deliver .bobs 1 1) (replyShown bobs) :=
  ChatSystemStep.deliver (Nat.le_refl _) (Nat.le_refl _) (Nat.zero_le _) (Nat.le_refl _)

/-- Where Bob's clock reads later, his reply is below what it replies to. -/
theorem reply_placed_on_time :
    hello ∈ ((replyShown 150).screen .bobs).messages ∧
      ([hello, twoPhones.message .bobs "hi" "m2" 150].Sublist
          ((replyShown 150).screen .bobs).messages ↔
        (100 : TimeInterval) < 150 ∨ (100 : TimeInterval) = 150 ∧ "m1" < "m2") :=
  reply_placed_iff ((run_helloUploaded 150).snoc (deliver_hello 150)) (by decide +kernel)
    (Run.nil _) (send_reply 150) (Run.nil _) (deliver_reply 150) (by decide +kernel)

/-- Bob's clock is slow, and his reply is shown above what it replies to. -/
theorem slow_clock_places_reply_above : ¬ RepliesPlacedBelow twoPhones (clocks 50) := by
  intro h
  have hplaced := h _ _ _ _ _ _ _ _ .bobs .bobs "hi" "m2" 1 1 hello
    ((run_helloUploaded 50).snoc (deliver_hello 50)) (by decide +kernel)
    (Run.nil _) (send_reply 50) (Run.nil _) (deliver_reply 50) (by decide +kernel)
  revert hplaced
  decide +kernel

end ChatApp
end IosProjects
