import Mathlib.Data.List.Count
import Mathlib.Data.List.Nodup
import Mathlib.Data.List.Perm.Subperm
import IosProjects.Library.Run

/-!
# Listeners — the snapshot listeners of a session

`MessagesViewController` and `ChatViewController` register a listener whenever they load messages:
when their view loads, and the chat again after each message it sends. The registration is not kept,
so nothing ever ends a listener. A session is told by its navigation stack and the listeners that
are active.

What the listeners deliver is the matter of other modules.
-/

namespace IosProjects
namespace ChatApp

open IosProjects.Library

/-! ## The navigation stack -/

inductive Screen where
  | welcome
  | login
  | register
  | messages
  | users
  | chat (receiverId : Option String)
  deriving DecidableEq, Repr

namespace Screen

def isInbox : Screen → Bool
  | messages => true
  | _ => false

def isChat : Screen → Bool
  | chat _ => true
  | _ => false

/-- `viewDidLoad()` of the screen calls `loadMessages()`. -/
def loads (screen : Screen) : Bool :=
  screen.isInbox || screen.isChat

end Screen

/-- A view controller on the stack; no two have the same `id`. -/
structure StackedController where
  id : ℕ
  screen : Screen
  deriving DecidableEq, Repr

/-- The stack has its top first. `listeners` are the active ones, each by the view controller that
it rebuilds. -/
structure Session where
  currentUser : Option String
  stack : List StackedController
  listeners : List ℕ
  nextID : ℕ

namespace Session

def launch (currentUser : Option String) : Session where
  currentUser := currentUser
  stack := [⟨0, .welcome⟩]
  listeners := []
  nextID := 1

def shows (screen : Screen) (s : Session) : Bool :=
  s.stack.any fun vc => vc.screen = screen

def hasInbox (s : Session) : Bool :=
  s.stack.any fun vc => vc.screen.isInbox

def hasChat (s : Session) : Bool :=
  s.stack.any fun vc => vc.screen.isChat

/-- `loadMessages()` of a view controller. -/
def loadMessages (vc : StackedController) (s : Session) : Session :=
  -- the registration that `addSnapshotListener` returns is dropped
  { s with listeners := s.listeners ++ [vc.id] }

/-- `pushViewController(_:animated:)` with a new view controller, whose view loads. -/
def pushViewController (screen : Screen) (s : Session) : Session :=
  let vc : StackedController := ⟨s.nextID, screen⟩
  let pushed := { s with stack := vc :: s.stack, nextID := s.nextID + 1 }
  if screen.loads then pushed.loadMessages vc else pushed

/-- A sign-in or a registration succeeds; its view controller pushes the inbox if it is still on the
stack. -/
def signedIn (pusher : Screen) (uid : String) (s : Session) : Session :=
  let s := { s with currentUser := some uid }
  if s.shows pusher then s.pushViewController .messages else s

/-- The look-ups before a chat are answered; the list that was tapped pushes the chat if it is still
on the stack. -/
def chatOpened (pusher : Screen) (receiverId : String) (s : Session) : Session :=
  if s.shows pusher then s.pushViewController (.chat (some receiverId)) else s

/-- `ChatViewController.sendMessageClick()` with the text of the field. -/
def sendMessageClick (messageText : Option String) (vc : StackedController)
    (receiverId : Option String) (s : Session) : Session :=
  match messageText, receiverId, s.currentUser with
  | some _, some _, some _ => s.loadMessages vc
  | _, _, _ => s

/-- Leaving the topmost screens. -/
def back (screens : ℕ) (s : Session) : Session :=
  { s with stack := s.stack.drop screens }

/-- `MessagesViewController.logoutButtonClick()`; signing out may fail. -/
def logoutButtonClick (succeeds : Bool) (s : Session) : Session :=
  if succeeds then
    { s with currentUser := none, stack := s.stack.drop (s.stack.length - 1) }
  else s

end Session

/-! ## Steps -/

inductive SessionEvent where
  | loginTapped
  | registerTapped
  | signedIn (uid : String)
  | registered (uid : String)
  | usersTapped
  | chatOpenedFromInbox (receiverId : String)
  | chatOpenedFromUsers (receiverId : String)
  | sendMessageClick (messageText : Option String)
  | back (screens : ℕ)
  | logoutButtonClick (succeeds : Bool)
  deriving DecidableEq, Repr

/-- The buttons are those of the screen on top. Answers come at any time. -/
inductive SessionStep : Session → SessionEvent → Session → Prop where
  | loginTapped {s : Session} {vc : StackedController} {below : List StackedController} :
      s.stack = vc :: below → vc.screen = .welcome →
      SessionStep s .loginTapped (s.pushViewController .login)
  | registerTapped {s : Session} {vc : StackedController} {below : List StackedController} :
      s.stack = vc :: below → vc.screen = .welcome →
      SessionStep s .registerTapped (s.pushViewController .register)
  | signedIn {s : Session} {uid : String} : SessionStep s (.signedIn uid) (s.signedIn .login uid)
  | registered {s : Session} {uid : String} :
      SessionStep s (.registered uid) (s.signedIn .register uid)
  | usersTapped {s : Session} {vc : StackedController} {below : List StackedController} :
      s.stack = vc :: below → vc.screen = .messages →
      SessionStep s .usersTapped (s.pushViewController .users)
  | chatOpenedFromInbox {s : Session} {receiverId : String} :
      SessionStep s (.chatOpenedFromInbox receiverId) (s.chatOpened .messages receiverId)
  | chatOpenedFromUsers {s : Session} {receiverId : String} :
      SessionStep s (.chatOpenedFromUsers receiverId) (s.chatOpened .users receiverId)
  | sendMessageClick {s : Session} {vc : StackedController} {below : List StackedController}
      {receiverId messageText : Option String} :
      s.stack = vc :: below → vc.screen = .chat receiverId →
      SessionStep s (.sendMessageClick messageText) (s.sendMessageClick messageText vc receiverId)
  | back {s : Session} {screens : ℕ} :
      screens < s.stack.length → SessionStep s (.back screens) (s.back screens)
  | logoutButtonClick {s : Session} {vc : StackedController} {below : List StackedController}
      {succeeds : Bool} :
      s.stack = vc :: below → vc.screen = .messages →
      SessionStep s (.logoutButtonClick succeeds) (s.logoutButtonClick succeeds)

/-! ## What an event does to the stack and the listeners -/

/-- A new screen on top, a listener for a screen that is there, or screens left. -/
inductive SessionEffect where
  | push (screen : Screen)
  | load (id : ℕ)
  | leave (screens : ℕ)

/-- The effect of an event in the state before it; nothing is done by leaving no screen. -/
def SessionEvent.effect (s : Session) : SessionEvent → SessionEffect
  | loginTapped => .push .login
  | registerTapped => .push .register
  | signedIn _ => if s.shows .login then .push .messages else .leave 0
  | registered _ => if s.shows .register then .push .messages else .leave 0
  | usersTapped => .push .users
  | chatOpenedFromInbox receiverId =>
      if s.shows .messages then .push (.chat (some receiverId)) else .leave 0
  | chatOpenedFromUsers receiverId =>
      if s.shows .users then .push (.chat (some receiverId)) else .leave 0
  | sendMessageClick messageText =>
      match s.stack, messageText, s.currentUser with
      | ⟨id, .chat (some _)⟩ :: _, some _, some _ => .load id
      | _, _, _ => .leave 0
  | back screens => .leave screens
  | logoutButtonClick succeeds => if succeeds then .leave (s.stack.length - 1) else .leave 0

/-- The effect leads from one state to the other. -/
def SessionEffect.Performs (s t : Session) : SessionEffect → Prop
  | push screen =>
      t.stack = ⟨s.nextID, screen⟩ :: s.stack ∧
        t.listeners = (if screen.loads then s.listeners ++ [s.nextID] else s.listeners) ∧
          t.nextID = s.nextID + 1
  | load id => t.stack = s.stack ∧ t.listeners = s.listeners ++ [id] ∧ t.nextID = s.nextID
  | leave screens =>
      t.stack = s.stack.drop screens ∧ t.listeners = s.listeners ∧ t.nextID = s.nextID

theorem performs_push (screen : Screen) (s : Session) :
    (SessionEffect.push screen).Performs s (s.pushViewController screen) := by
  unfold Session.pushViewController
  cases hloads : screen.loads <;>
    simp [SessionEffect.Performs, Session.loadMessages, hloads]

theorem performs_signedIn (pusher : Screen) (uid : String) (s : Session) :
    (if s.shows pusher then SessionEffect.push .messages else .leave 0).Performs s
      (s.signedIn pusher uid) := by
  cases hshows : s.shows pusher with
  | true =>
      have hpushed : s.signedIn pusher uid =
          Session.pushViewController .messages { s with currentUser := some uid } :=
        if_pos hshows
      rw [hpushed]
      exact performs_push .messages { s with currentUser := some uid }
  | false =>
      have hsame : s.signedIn pusher uid = { s with currentUser := some uid } :=
        if_neg (by simpa [Session.shows] using hshows)
      rw [hsame]
      exact ⟨rfl, rfl, rfl⟩

theorem performs_chatOpened (pusher : Screen) (receiverId : String) (s : Session) :
    (if s.shows pusher then SessionEffect.push (.chat (some receiverId)) else .leave 0).Performs s
      (s.chatOpened pusher receiverId) := by
  unfold Session.chatOpened
  split
  · exact performs_push _ s
  · exact ⟨rfl, rfl, rfl⟩

/-- Every step does what its event stands for. -/
theorem SessionStep.performs {s t : Session} {e : SessionEvent} (h : SessionStep s e t) :
    (e.effect s).Performs s t := by
  cases h with
  | loginTapped _ _ => exact performs_push _ s
  | registerTapped _ _ => exact performs_push _ s
  | signedIn => exact performs_signedIn _ _ s
  | registered => exact performs_signedIn _ _ s
  | usersTapped _ _ => exact performs_push _ s
  | chatOpenedFromInbox => exact performs_chatOpened _ _ s
  | chatOpenedFromUsers => exact performs_chatOpened _ _ s
  | @sendMessageClick vc below receiverId messageText hstack hscreen =>
      obtain ⟨id, screen⟩ := vc
      obtain rfl : screen = .chat receiverId := hscreen
      -- three guards stand before the message is stored and loaded
      cases messageText <;> cases receiverId <;> cases huser : s.currentUser <;>
        simp [SessionEvent.effect, SessionEffect.Performs, Session.sendMessageClick,
          Session.loadMessages, hstack, huser]
  | back _ => exact ⟨rfl, rfl, rfl⟩
  | @logoutButtonClick vc below succeeds _ _ =>
      cases succeeds <;> exact ⟨rfl, rfl, rfl⟩

/-! ## Listeners of the screens on the stack -/

/-- Every inbox and every chat on the stack has a listener, each its own. -/
structure Registered (s : Session) : Prop where
  ids : (s.stack.map StackedController.id).Nodup
  lt : ∀ vc ∈ s.stack, vc.id < s.nextID
  owns : ∀ vc ∈ s.stack, vc.screen.loads = true → vc.id ∈ s.listeners

theorem Registered.performs {s t : Session} {effect : SessionEffect} (h : Registered s)
    (hperforms : effect.Performs s t) : Registered t := by
  cases effect with
  | push screen =>
      obtain ⟨hstack, hlisteners, hnext⟩ := hperforms
      exact {
        ids := by
          -- the new screen gets an id that no screen on the stack has
          rw [hstack, List.map_cons, List.nodup_cons]
          refine ⟨fun hmem => ?_, h.ids⟩
          rcases List.mem_map.1 hmem with ⟨vc, hvc, hid⟩
          exact Nat.ne_of_lt (h.lt vc hvc) hid
        lt := by
          rw [hstack, hnext, List.forall_mem_cons]
          exact ⟨Nat.lt_succ_self _, fun vc hvc => Nat.lt_succ_of_lt (h.lt vc hvc)⟩
        owns := by
          rw [hstack, hlisteners, List.forall_mem_cons]
          refine ⟨fun hloads => ?_, fun vc hvc hloads => ?_⟩
          · rw [if_pos hloads]
            exact List.mem_append_right _ List.mem_cons_self
          · have hold := h.owns vc hvc hloads
            split
            · exact List.mem_append_left _ hold
            · exact hold }
  | load id =>
      obtain ⟨hstack, hlisteners, hnext⟩ := hperforms
      exact {
        ids := hstack ▸ h.ids
        lt := by
          rw [hstack, hnext]
          exact h.lt
        owns := by
          rw [hstack, hlisteners]
          exact fun vc hvc hloads => List.mem_append_left _ (h.owns vc hvc hloads) }
  | leave screens =>
      obtain ⟨hstack, hlisteners, hnext⟩ := hperforms
      -- a screen that leaves takes no listener with it
      have hsub : s.stack.drop screens ⊆ s.stack := List.drop_subset _ _
      exact {
        ids := by
          rw [hstack, List.map_drop]
          exact h.ids.sublist (List.drop_sublist _ _)
        lt := by
          rw [hstack, hnext]
          exact fun vc hvc => h.lt vc (hsub hvc)
        owns := by
          rw [hstack, hlisteners]
          exact fun vc hvc => h.owns vc (hsub hvc) }

theorem registered_of_run {currentUser : Option String} {es : List SessionEvent} {s : Session}
    (hrun : Run SessionStep (.launch currentUser) es s) : Registered s := by
  refine hrun.invariant (fun s e t h hstep => h.performs hstep.performs) ?_
  exact {
    ids := List.nodup_singleton _
    lt := by simp [Session.launch]
    owns := by simp [Session.launch, Screen.loads, Screen.isInbox, Screen.isChat] }

/-! ## One listener for each screen -/

/-- One for the inbox if it is on the stack, and one for the open chat if there is one. -/
def Session.liveScreens (s : Session) : ℕ :=
  s.hasInbox.toNat + s.hasChat.toNat

/-- As many listeners are active as there are live screens, so a change of the data rebuilds a
screen at most once. -/
structure OneListenerEach (s : Session) : Prop where
  length : s.listeners.length = s.liveScreens
  rebuilds : ∀ vc ∈ s.stack, s.listeners.count vc.id ≤ 1

/-- How many inboxes are on a stack, and how many chats. -/
def inboxes (stack : List StackedController) : ℕ :=
  stack.countP fun vc => vc.screen.isInbox

def chats (stack : List StackedController) : ℕ :=
  stack.countP fun vc => vc.screen.isChat

theorem toNat_any (p : StackedController → Bool) (stack : List StackedController) :
    (stack.any p).toNat = min 1 (stack.countP p) := by
  cases hany : stack.any p with
  | true =>
      have hpos : 0 < stack.countP p := List.countP_pos_iff.2 (List.any_eq_true.1 hany)
      rw [Bool.toNat_true]
      omega
  | false =>
      have hzero : stack.countP p = 0 := List.countP_eq_zero.2 (by simpa using hany)
      rw [hzero]
      rfl

theorem Session.liveScreens_eq (s : Session) :
    s.liveScreens = min 1 (inboxes s.stack) + min 1 (chats s.stack) := by
  have hinbox : s.hasInbox.toNat = min 1 (inboxes s.stack) := toNat_any _ _
  have hchat : s.hasChat.toNat = min 1 (chats s.stack) := toNat_any _ _
  rw [liveScreens, hinbox, hchat]

/-- No screen is both. -/
theorem countP_loads (stack : List StackedController) :
    stack.countP (fun vc => vc.screen.loads) = inboxes stack + chats stack := by
  induction stack with
  | nil => rfl
  | cons vc stack ih =>
      rw [inboxes, chats, List.countP_cons, List.countP_cons, List.countP_cons, ih, inboxes, chats]
      cases vc.screen <;> simp [Screen.loads, Screen.isInbox, Screen.isChat] <;> omega

/-- The screens on the stack that load messages. -/
def Session.loading (s : Session) : List ℕ :=
  (s.stack.filter fun vc => vc.screen.loads).map StackedController.id

theorem Session.length_loading (s : Session) :
    s.loading.length = inboxes s.stack + chats s.stack :=
  calc s.loading.length
      = (s.stack.filter fun vc => vc.screen.loads).length := List.length_map _
    _ = s.stack.countP fun vc => vc.screen.loads := List.countP_eq_length_filter.symm
    _ = inboxes s.stack + chats s.stack := countP_loads s.stack

namespace Registered

variable {s : Session}

theorem loading_subperm (h : Registered s) : s.loading.Subperm s.listeners := by
  refine List.Nodup.subperm ?_ ?_
  · exact h.ids.sublist (List.filter_sublist.map _)
  · intro id hid
    rcases List.mem_map.1 hid with ⟨vc, hvc, rfl⟩
    obtain ⟨hmem, hloads⟩ := List.mem_filter.1 hvc
    exact h.owns vc hmem hloads

/-- There are at least as many listeners as inboxes and chats. -/
theorem le_length_listeners (h : Registered s) :
    inboxes s.stack + chats s.stack ≤ s.listeners.length := by
  rw [← s.length_loading]
  exact h.loading_subperm.length_le

/-- With no more listeners than live screens, every listener belongs to a screen of its own. -/
theorem oneListenerEach_iff (h : Registered s) :
    OneListenerEach s ↔ s.listeners.length = s.liveScreens := by
  constructor
  · exact OneListenerEach.length
  · intro hlength
    refine ⟨hlength, fun vc _ => ?_⟩
    -- the listeners are then those of the loading screens, in some order
    have hle : s.listeners.length ≤ s.loading.length := by
      rw [hlength, s.liveScreens_eq, s.length_loading]
      omega
    have hperm := h.loading_subperm.perm_of_length_le hle
    have hnodup : s.listeners.Nodup :=
      hperm.nodup_iff.1 (h.ids.sublist (List.filter_sublist.map _))
    exact List.nodup_iff_count_le_one.1 hnodup vc.id

end Registered

/-! ## Steps that keep it -/

/-- The effect adds no listener to a screen that has one, leaves no inbox and no chat, and pushes
none over another of its kind. -/
def SessionEffect.KeepsListeners (s : Session) : SessionEffect → Prop
  | push screen =>
      (screen.isInbox = true → s.hasInbox = false) ∧ (screen.isChat = true → s.hasChat = false)
  | load _ => False
  | leave screens => ∀ vc ∈ s.stack.take screens, vc.screen.loads = false

theorem any_eq_false_iff (p : StackedController → Bool) (stack : List StackedController) :
    stack.any p = false ↔ stack.countP p = 0 := by
  rw [List.countP_eq_zero, List.any_eq_false]

theorem countP_push (p : StackedController → Bool) (vc : StackedController)
    (stack : List StackedController) :
    (vc :: stack).countP p = stack.countP p + (p vc).toNat := by
  rw [List.countP_cons]
  cases p vc <;> rfl

theorem countP_take_drop (p : StackedController → Bool) (n : ℕ) (stack : List StackedController) :
    stack.countP p = (stack.take n).countP p + (stack.drop n).countP p := by
  rw [← List.countP_append, List.take_append_drop]

/-- One step keeps the number of listeners right exactly under its own condition. -/
theorem listeners_step_iff {s t : Session} {effect : SessionEffect} (h : Registered s)
    (hlength : s.listeners.length = s.liveScreens) (hperforms : effect.Performs s t) :
    t.listeners.length = t.liveScreens ↔ effect.KeepsListeners s := by
  have hle := h.le_length_listeners
  rw [s.liveScreens_eq] at hlength
  rw [t.liveScreens_eq]
  cases effect with
  | push screen =>
      -- a second screen of a kind adds a listener but no live screen
      obtain ⟨hstack, hlisteners, _⟩ := hperforms
      have hinbox : s.hasInbox = false ↔ inboxes s.stack = 0 := any_eq_false_iff _ _
      have hchat : s.hasChat = false ↔ chats s.stack = 0 := any_eq_false_iff _ _
      have hinboxes : inboxes t.stack = inboxes s.stack + screen.isInbox.toNat := by
        rw [hstack]
        exact countP_push _ _ _
      have hchats : chats t.stack = chats s.stack + screen.isChat.toNat := by
        rw [hstack]
        exact countP_push _ _ _
      rw [SessionEffect.KeepsListeners, hinbox, hchat, hinboxes, hchats, hlisteners]
      cases screen <;> simp [Screen.loads, Screen.isInbox, Screen.isChat] <;> omega
  | load owner =>
      obtain ⟨hstack, hlisteners, _⟩ := hperforms
      -- the screen that sends has its listener already
      refine iff_of_false ?_ id
      rw [hstack, hlisteners, List.length_append, List.length_singleton]
      omega
  | leave screens =>
      obtain ⟨hstack, hlisteners, _⟩ := hperforms
      -- what is left and what stays make up the stack
      have hinboxes : inboxes s.stack =
          inboxes (s.stack.take screens) + inboxes (s.stack.drop screens) :=
        countP_take_drop _ _ _
      have hchats : chats s.stack =
          chats (s.stack.take screens) + chats (s.stack.drop screens) :=
        countP_take_drop _ _ _
      have hnone : (SessionEffect.leave screens).KeepsListeners s ↔
          inboxes (s.stack.take screens) + chats (s.stack.take screens) = 0 := by
        rw [← countP_loads, List.countP_eq_zero]
        simp [SessionEffect.KeepsListeners]
      rw [hnone, hstack, hlisteners]
      omega

/-- In every state of a session there is one listener for each live screen, if and only if no step
sends a message from a chat, leaves an inbox or a chat, or pushes one over another. -/
theorem oneListenerEach_throughout_iff (currentUser : Option String) (es : List SessionEvent) :
    Throughout SessionStep (.launch currentUser) es OneListenerEach ↔
      Along SessionStep (.launch currentUser) es fun s e _ => (e.effect s).KeepsListeners s := by
  apply Throughout.iff_along
  · exact ⟨rfl, fun vc _ => Nat.zero_le _⟩
  · intro before s e t hrun h hstep
    have hregistered := registered_of_run hrun
    have hregistered' := registered_of_run (hrun.snoc hstep)
    rw [hregistered'.oneListenerEach_iff]
    exact listeners_step_iff hregistered h.length hstep.performs

/-- The first message sent gives the open chat a second listener. -/
theorem sent_message_adds_listener :
    ¬ ∀ (currentUser : Option String) (es : List SessionEvent) (s : Session),
      Run SessionStep (.launch currentUser) es s → OneListenerEach s := by
  intro h
  have hinbox : Run SessionStep (.launch none) [.loginTapped, .signedIn "alice"] _ :=
    (Run.single (.loginTapped rfl rfl)).snoc .signedIn
  have hchat := hinbox.snoc (e := .chatOpenedFromInbox "bob") .chatOpenedFromInbox
  have hrun := hchat.snoc (e := .sendMessageClick (some "hello")) (.sendMessageClick rfl rfl)
  have hlength := (h _ _ _ hrun).length
  revert hlength
  decide

end ChatApp
end IosProjects
