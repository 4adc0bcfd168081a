import IosProjects.ChatApp.Agreement
import IosProjects.Library.Interleave

/-!
# Devices — whose screens are on the navigation stack

An inbox and a chat remember the user who was signed in when their views loaded. A message that is
sent takes its sender from whoever is signed in then. `Auth` answers a sign-in at any time, so that
the two can differ: a second answer signs another user in over the screens of the first.

Here any number of devices with their navigation stacks work on one store. As long as nobody is
signed in over the screens of another user, all they do is what `ChatStep` lets users do.
-/

namespace IosProjects
namespace ChatApp

open IosProjects.Library

/-! ## Navigation stacks -/

/-- A view controller with what it keeps. -/
inductive Controller where
  | welcome
  | login
  | register
  | messages
  | users (users : List User)
  | chat (chat : ChatViewController)
  deriving DecidableEq

namespace Controller

/-- It shows data of the user it was loaded for. -/
def isPersonal : Controller → Bool
  | messages | users _ | chat _ => true
  | _ => false

def signsIn : Controller → Bool
  | login | register => true
  | _ => false

end Controller

/-- `loadedFor` is who was signed in when the view loaded, the `loggedInUserId` of an inbox or a
chat. -/
structure LoadedController where
  id : ℕ
  loadedFor : Option String
  controller : Controller
  deriving DecidableEq

/-- `lookups` are the chats that wait for the look-ups made before they are pushed, each with the
view controller that pushes it. -/
structure Device where
  currentUser : Option String
  stack : List LoadedController
  lookups : List (ℕ × ChatViewController)
  nextID : ℕ

namespace Device

/-- `Auth` remembers a user from one launch to the next. -/
def launch (currentUser : Option String) : Device where
  currentUser := currentUser
  stack := [⟨0, currentUser, .welcome⟩]
  lookups := []
  nextID := 1

def pushViewController (controller : Controller) (d : Device) : Device :=
  { d with stack := ⟨d.nextID, d.currentUser, controller⟩ :: d.stack, nextID := d.nextID + 1 }

/-- The answer to a sign-in or a registration made from the view controller `id`, which has a
`navigationController` only while it is on the stack. -/
def signedIn (id : ℕ) (uid : String) (d : Device) : Device :=
  let d := { d with currentUser := some uid }
  if d.stack.any fun vc => vc.id = id && vc.controller.signsIn then
    d.pushViewController .messages
  else
    d

/-- The answer to `fetchUsers()` of the view controller `id`. -/
def usersFetched (id : ℕ) (docs : List Document) (d : Device) : Device :=
  { d with
    stack := d.stack.map fun vc =>
      match vc.controller with
      | .users users =>
          if vc.id = id then
            { vc with controller := .users (users ++ fetchUsers d.currentUser docs) }
          else vc
      | _ => vc }

/-- All look-ups for the chat are answered; its view loads when it is pushed. -/
def lookupsAnswered (id : ℕ) (chat : ChatViewController) (d : Device) : Device :=
  let d := { d with lookups := d.lookups.erase (id, chat) }
  if d.stack.any fun vc => vc.id = id then
    d.pushViewController (.chat { chat with loggedInUserId := d.currentUser })
  else d

def back (screens : ℕ) (d : Device) : Device :=
  { d with stack := d.stack.drop screens }

def logoutButtonClick (succeeds : Bool) (d : Device) : Device :=
  if succeeds then { d with currentUser := none, stack := d.stack.drop (d.stack.length - 1) } else d

end Device

/-! ## Steps -/

inductive DeviceEvent where
  | loginTapped
  | registerTapped
  | signedIn (id : ℕ) (uid : String)
  | usersTapped
  | usersFetched (id : ℕ) (docs : List Document)
  | inboxRowTapped (it : Iteration String Message) (snapshot : List Document) (row : ℕ)
  | usersRowTapped (row : ℕ)
  | lookupsAnswered (id : ℕ) (chat : ChatViewController)
  | sendMessageClick (text : String) (timestamp : TimeInterval) (documentID : String)
  | back (screens : ℕ)
  | logoutButtonClick (succeeds : Bool)

/-- A device over the store of all messages. Touches go to the screen on top; answers come at any
time. Accounts have identifiers without `'-'`, and a new document gets an unused one. -/
inductive DeviceStep : Device × List Document → DeviceEvent → Device × List Document → Prop where
  | loginTapped {d : Device} {store : List Document} {vc : LoadedController}
      {below : List LoadedController} :
      d.stack = vc :: below → vc.controller = .welcome →
      DeviceStep (d, store) .loginTapped (d.pushViewController .login, store)
  | registerTapped {d : Device} {store : List Document} {vc : LoadedController}
      {below : List LoadedController} :
      d.stack = vc :: below → vc.controller = .welcome →
      DeviceStep (d, store) .registerTapped (d.pushViewController .register, store)
  | signedIn {d : Device} {store : List Document} {id : ℕ} {uid : String} :
      DashFree uid → DeviceStep (d, store) (.signedIn id uid) (d.signedIn id uid, store)
  | usersTapped {d : Device} {store : List Document} {vc : LoadedController}
      {below : List LoadedController} :
      d.stack = vc :: below → vc.controller = .messages →
      DeviceStep (d, store) .usersTapped (d.pushViewController (.users []), store)
  | usersFetched {d : Device} {store : List Document} {id : ℕ} {docs : List Document} :
      (∀ user ∈ docs.filterMap userOf, DashFree user.id) →
      DeviceStep (d, store) (.usersFetched id docs) (d.usersFetched id docs, store)
  -- the inbox may show an older state of the store
  | inboxRowTapped {d : Device} {store : List Document} {vc : LoadedController}
      {below : List LoadedController} {uid : String} {it : Iteration String Message}
      {snapshot : List Document} {row : ℕ} {chat : ChatViewController} :
      d.stack = vc :: below → vc.controller = .messages → vc.loadedFor = some uid →
      snapshot ⊆ store → (inbox uid it snapshot).didSelectRowAt row = some chat →
      DeviceStep (d, store) (.inboxRowTapped it snapshot row)
        ({ d with lookups := d.lookups ++ [(vc.id, chat)] }, store)
  | usersRowTapped {d : Device} {store : List Document} {vc : LoadedController}
      {below : List LoadedController} {users : List User} {row : ℕ} {chat : ChatViewController} :
      d.stack = vc :: below → vc.controller = .users users →
      UsersViewController.didSelectRowAt row users = some chat →
      DeviceStep (d, store) (.usersRowTapped row)
        ({ d with lookups := d.lookups ++ [(vc.id, chat)] }, store)
  | lookupsAnswered {d : Device} {store : List Document} {id : ℕ} {chat : ChatViewController} :
      (id, chat) ∈ d.lookups →
      DeviceStep (d, store) (.lookupsAnswered id chat) (d.lookupsAnswered id chat, store)
  | sendMessageClick {d : Device} {store : List Document} {vc : LoadedController}
      {below : List LoadedController} {chat : ChatViewController} {senderId text : String}
      {timestamp : TimeInterval} {documentID : String} {doc : Document} :
      d.stack = vc :: below → vc.controller = .chat chat → d.currentUser = some senderId →
      documentID ∉ store.map Document.documentID →
      chat.sendMessageClick senderId text timestamp documentID = some doc →
      DeviceStep (d, store) (.sendMessageClick text timestamp documentID) (d, store ++ [doc])
  | back {d : Device} {store : List Document} {screens : ℕ} :
      screens < d.stack.length → DeviceStep (d, store) (.back screens) (d.back screens, store)
  | logoutButtonClick {d : Device} {store : List Document} {vc : LoadedController}
      {below : List LoadedController} {succeeds : Bool} :
      d.stack = vc :: below → vc.controller = .messages →
      DeviceStep (d, store) (.logoutButtonClick succeeds) (d.logoutButtonClick succeeds, store)

/-- The devices, and the store of the messages. -/
abbrev Network := (ℕ → Device) × List Document

def NetworkStep : Network → ℕ × DeviceEvent → Network → Prop :=
  Interleaved fun _ => DeviceStep

/-- Nothing has been sent, and the devices are launched. -/
def Network.launch (currentUser : ℕ → Option String) : Network :=
  (fun i => .launch (currentUser i), [])

/-- Nobody is signed in over the screens of another user. -/
def DeviceEvent.KeepsUser (d : Device) : DeviceEvent → Prop
  | .signedIn _ uid => d.currentUser = some uid ∨ ∀ vc ∈ d.stack, vc.controller.isPersonal = false
  | _ => True

/-! ## Whose screens they are -/

/-- Whatever of the users is on the stack was loaded for the one who is signed in. -/
def Device.Personal (d : Device) : Prop :=
  ∀ vc ∈ d.stack, vc.controller.isPersonal = true → vc.loadedFor = d.currentUser

/-- Below everything is the screen of the launch. -/
def Device.Rooted (d : Device) : Prop :=
  d.stack.getLast?.map LoadedController.controller = some .welcome

section Rooted

variable {d : Device}

theorem Device.Rooted.push (h : d.Rooted) (controller : Controller) :
    (d.pushViewController controller).Rooted := by
  unfold Device.Rooted at h ⊢
  obtain ⟨root, hroot, hwelcome⟩ := Option.map_eq_some_iff.1 h
  rw [Device.pushViewController, List.getLast?_cons, hroot]
  exact congrArg some hwelcome

theorem Device.Rooted.drop (h : d.Rooted) {screens : ℕ} (hlt : screens < d.stack.length) :
    (d.stack.drop screens).getLast?.map LoadedController.controller = some .welcome := by
  rw [List.getLast?_drop, if_neg (by omega)]
  exact h

/-- What logging out leaves is the screen of the launch. -/
theorem Device.Rooted.root (h : d.Rooted) :
    ∀ vc ∈ d.stack.drop (d.stack.length - 1), vc.controller = .welcome := by
  obtain ⟨root, hroot, hwelcome⟩ := Option.map_eq_some_iff.1 h
  have hne : d.stack ≠ [] := by
    rintro hnil
    simp [hnil] at hroot
  intro vc hvc
  rw [List.drop_length_sub_one hne, List.mem_singleton] at hvc
  rw [List.getLast?_eq_some_getLast hne] at hroot
  rw [hvc, Option.some.inj hroot]
  exact hwelcome

theorem controller_usersFetched {id : ℕ} {docs : List Document} {vc : LoadedController}
    (h : vc ∈ (d.usersFetched id docs).stack) : ∃ before ∈ d.stack, vc.id = before.id ∧
      vc.loadedFor = before.loadedFor ∧
        (vc.controller = before.controller ∨ ∃ users, before.controller = .users users ∧
          vc.controller = .users (users ++ fetchUsers d.currentUser docs)) := by
  rcases List.mem_map.1 h with ⟨before, hbefore, rfl⟩
  refine ⟨before, hbefore, ?_⟩
  split
  · rename_i users husers
    split
    · exact ⟨rfl, rfl, Or.inr ⟨users, husers, rfl⟩⟩
    · exact ⟨rfl, rfl, Or.inl rfl⟩
  · exact ⟨rfl, rfl, Or.inl rfl⟩

end Rooted

section Steps

variable {d d' : Device} {store store' : List Document} {e : DeviceEvent}

theorem DeviceStep.rooted (h : d.Rooted) (hstep : DeviceStep (d, store) e (d', store')) :
    d'.Rooted := by
  cases hstep with
  | loginTapped _ _ => exact h.push _
  | registerTapped _ _ => exact h.push _
  | usersTapped _ _ => exact h.push _
  | @signedIn _ _ id uid _ =>
      have hsame : Device.Rooted { d with currentUser := some uid } := h
      unfold Device.signedIn
      dsimp only
      split
      · exact hsame.push _
      · exact hsame
  | usersFetched _ =>
      obtain ⟨root, hroot, hwelcome⟩ := Option.map_eq_some_iff.1 h
      unfold Device.Rooted Device.usersFetched
      rw [List.getLast?_map, hroot]
      simp [hwelcome]
  | @lookupsAnswered _ _ id chat _ =>
      have hsame : Device.Rooted { d with lookups := d.lookups.erase (id, chat) } := h
      unfold Device.lookupsAnswered
      dsimp only
      split
      · exact hsame.push _
      · exact hsame
  | inboxRowTapped _ _ _ _ _ => exact h
  | usersRowTapped _ _ _ => exact h
  | sendMessageClick _ _ _ _ _ => exact h
  | back hlt => exact h.drop hlt
  | @logoutButtonClick _ _ vc below succeeds hstack _ =>
      cases succeeds with
      | false => exact h
      | true => exact h.drop (by simp [hstack])

theorem personal_push_iff (controller : Controller) :
    (d.pushViewController controller).Personal ↔ d.Personal := by
  unfold Device.Personal Device.pushViewController
  rw [List.forall_mem_cons]
  exact and_iff_right fun _ => rfl

/-- Signing in is the only step that can leave the screens of another user on the stack. -/
theorem personal_step_iff (hroot : d.Rooted) (h : d.Personal)
    (hstep : DeviceStep (d, store) e (d', store')) : d'.Personal ↔ e.KeepsUser d := by
  cases hstep with
  | loginTapped _ _ => exact iff_of_true ((personal_push_iff _).2 h) trivial
  | registerTapped _ _ => exact iff_of_true ((personal_push_iff _).2 h) trivial
  | usersTapped _ _ => exact iff_of_true ((personal_push_iff _).2 h) trivial
  | @signedIn _ _ id uid _ =>
      have hsame : (d.signedIn id uid).Personal ↔
          Device.Personal { d with currentUser := some uid } := by
        unfold Device.signedIn
        dsimp only
        split
        · exact personal_push_iff _
        · exact Iff.rfl
      rw [hsame]
      constructor
      · intro hnew
        by_cases hpersonal : ∃ vc ∈ d.stack, vc.controller.isPersonal = true
        · -- the screen was loaded for both
          obtain ⟨vc, hvc, hp⟩ := hpersonal
          exact Or.inl ((h vc hvc hp).symm.trans (hnew vc hvc hp))
        · exact Or.inr fun vc hvc => by
            simpa using fun hp => hpersonal ⟨vc, hvc, hp⟩
      · rintro (hsame | hnone) vc hvc hp
        · exact (h vc hvc hp).trans hsame
        · simp [hnone vc hvc] at hp
  | usersFetched _ =>
      refine iff_of_true (fun vc hvc hp => ?_) trivial
      obtain ⟨before, hbefore, _, hloaded, hcontroller⟩ := controller_usersFetched hvc
      rw [hloaded]
      rcases hcontroller with hsame | ⟨users, husers, _⟩
      · exact h before hbefore (hsame ▸ hp)
      · exact h before hbefore (by rw [husers]; rfl)
  | @lookupsAnswered _ _ id chat _ =>
      have hsame : Device.Personal { d with lookups := d.lookups.erase (id, chat) } := h
      refine iff_of_true ?_ trivial
      unfold Device.lookupsAnswered
      dsimp only
      split
      · exact (personal_push_iff _).2 hsame
      · exact hsame
  | inboxRowTapped _ _ _ _ _ => exact iff_of_true h trivial
  | usersRowTapped _ _ _ => exact iff_of_true h trivial
  | sendMessageClick _ _ _ _ _ => exact iff_of_true h trivial
  | back _ => exact iff_of_true (fun vc hvc => h vc (List.mem_of_mem_drop hvc)) trivial
  | @logoutButtonClick _ _ vc below succeeds _ _ =>
      refine iff_of_true ?_ trivial
      cases succeeds with
      | false => exact h
      | true =>
          intro vc hvc hp
          rw [hroot.root vc hvc] at hp
          cases hp

end Steps

section Networks

variable {currentUser : ℕ → Option String} {es : List (ℕ × DeviceEvent)} {n : Network}

theorem rooted_of_run (hrun : Run NetworkStep (.launch currentUser) es n) (i : ℕ) :
    (n.1 i).Rooted := by
  refine hrun.invariant (P := fun n => ∀ i, (n.1 i).Rooted) ?_ (fun i => rfl) i
  intro n e t h hstep j
  by_cases hj : j = e.1
  · subst hj
    exact hstep.own.rooted (h e.1)
  · rw [hstep.others hj]
    exact h j

/-- In every state that any number of devices reach, whatever of the users is on their stacks was
loaded for the one who is signed in there, if and only if no answer to a sign-in came over the
screens of another user. -/
theorem personal_throughout_iff (currentUser : ℕ → Option String) (es : List (ℕ × DeviceEvent)) :
    Throughout NetworkStep (.launch currentUser) es (fun n => ∀ i, (n.1 i).Personal) ↔
      Along NetworkStep (.launch currentUser) es fun n e _ => e.2.KeepsUser (n.1 e.1) := by
  apply Throughout.iff_along
  · intro i vc hvc hp
    obtain rfl := List.mem_singleton.1 hvc
    cases hp
  · intro before n e t hrun h hstep
    rw [← personal_step_iff (rooted_of_run hrun e.1) (h e.1) hstep.own]
    refine ⟨fun ht => ht e.1, fun ht j => ?_⟩
    by_cases hj : j = e.1
    · exact hj ▸ ht
    · rw [hstep.others hj]
      exact h j

end Networks

end ChatApp
end IosProjects
