import IosProjects.ChatApp.Devices

/-!
# DeviceChats — devices do what `ChatStep` lets users do

`ChatStep` opens chats for a user and sends from chats that are open. A device does the same in more
steps: a tap on a row prepares a chat, its answers push it, and it sends while it is on top of the
stack in the name of whoever is signed in.

`Device.Follows` relates a device to the open chats. It holds along every run in which nobody is
signed in over the screens of another user, so that such devices are followed by `ChatStep`.
-/

namespace IosProjects
namespace ChatApp

open IosProjects.Library

/-! ## How a device is related to the open chats -/

/-- The chat is open for the user who is signed in. -/
def OpenFor (currentUser : Option String) (a : ChatState) (chat : ChatViewController) : Prop :=
  ∃ uid, currentUser = some uid ∧ ⟨uid, chat.viewDidLoad uid⟩ ∈ a.chats

/-- The rows of a list of users, fetched for the user who is signed in. -/
def ListedFor (currentUser : Option String) (users : List User) : Prop :=
  ∃ docs, (∀ user ∈ docs.filterMap userOf, DashFree user.id) ∧ users = fetchUsers currentUser docs

/-- A screen on the stack: a list is one of the user who is signed in, and a chat that is shown or
awaits its look-ups is open. -/
structure LoadedController.Follows (d : Device) (a : ChatState) (vc : LoadedController) : Prop where
  lt : vc.id < d.nextID
  loadedFor : vc.controller.isPersonal = true → vc.loadedFor = d.currentUser ∧ d.currentUser.isSome
  listed : ∀ users, vc.controller = .users users → ListedFor d.currentUser users
  shown : ∀ chat, vc.controller = .chat chat → OpenFor d.currentUser a chat
  awaited : ∀ chat, (vc.id, chat) ∈ d.lookups →
    vc.controller.isPersonal = true ∧ OpenFor d.currentUser a chat

structure Device.Follows (d : Device) (a : ChatState) : Prop where
  rooted : d.Rooted
  ids : (d.stack.map LoadedController.id).Nodup
  dashFree : ∀ uid, d.currentUser = some uid → DashFree uid
  lookups_lt : ∀ lookup ∈ d.lookups, lookup.1 < d.nextID
  screens : ∀ vc ∈ d.stack, vc.Follows d a

section Follows

variable {d d' : Device} {a b : ChatState} {vc : LoadedController}

theorem OpenFor.mono {currentUser : Option String} {chat : ChatViewController}
    (h : OpenFor currentUser a chat) (hchats : a.chats ⊆ b.chats) : OpenFor currentUser b chat := by
  obtain ⟨uid, huser, hmem⟩ := h
  exact ⟨uid, huser, hchats hmem⟩

theorem ListedFor.append {currentUser : Option String} {users : List User} {docs : List Document}
    (h : ListedFor currentUser users) (hdocs : ∀ user ∈ docs.filterMap userOf, DashFree user.id) :
    ListedFor currentUser (users ++ fetchUsers currentUser docs) := by
  obtain ⟨docs', hdocs', rfl⟩ := h
  refine ⟨docs' ++ docs, fun user huser => ?_, ?_⟩
  · rw [List.filterMap_append] at huser
    exact (List.mem_append.1 huser).elim (hdocs' user) (hdocs user)
  · rw [fetchUsers_eq, fetchUsers_eq, fetchUsers_eq, List.filterMap_append, List.filter_append]

/-- Chats that are opened and look-ups that are dropped disturb nothing. -/
theorem LoadedController.Follows.mono (h : vc.Follows d a) (huser : d'.currentUser = d.currentUser)
    (hlookups : d'.lookups ⊆ d.lookups) (hnext : d.nextID ≤ d'.nextID)
    (hchats : a.chats ⊆ b.chats) : vc.Follows d' b where
  lt := h.lt.trans_le hnext
  loadedFor := huser ▸ h.loadedFor
  listed := huser ▸ h.listed
  shown := fun chat hchat => huser ▸ (h.shown chat hchat).mono hchats
  awaited := fun chat hmem => by
    obtain ⟨hpersonal, hopen⟩ := h.awaited chat (hlookups hmem)
    exact ⟨hpersonal, huser ▸ hopen.mono hchats⟩

/-- A screen that shows nothing personal follows whoever is signed in. -/
theorem LoadedController.Follows.of_not_personal (h : vc.Follows d a)
    (hvc : vc.controller.isPersonal = false) (hlookups : d'.lookups = d.lookups)
    (hnext : d'.nextID = d.nextID) : vc.Follows d' a where
  lt := hnext ▸ h.lt
  loadedFor := fun hp => by simp [hvc] at hp
  listed := fun users husers => by simp [husers, Controller.isPersonal] at hvc
  shown := fun chat hchat => by simp [hchat, Controller.isPersonal] at hvc
  awaited := fun chat hmem => by
    have hp := (h.awaited chat (hlookups ▸ hmem)).1
    simp [hvc] at hp

theorem Device.Follows.mono (h : d.Follows a) (hchats : a.chats ⊆ b.chats) : d.Follows b :=
  { h with screens := fun vc hvc =>
      (h.screens vc hvc).mono rfl (List.Subset.refl _) le_rfl hchats }

/-- Pushing a screen that follows. Nothing awaits its look-ups yet. -/
theorem Device.Follows.push (h : d.Follows a) {controller : Controller}
    (hloaded : controller.isPersonal = true → d.currentUser.isSome)
    (hlisted : ∀ users, controller = .users users → ListedFor d.currentUser users)
    (hshown : ∀ chat, controller = .chat chat → OpenFor d.currentUser a chat) :
    (d.pushViewController controller).Follows a where
  rooted := h.rooted.push controller
  ids := by
    rw [Device.pushViewController, List.map_cons, List.nodup_cons]
    refine ⟨fun hmem => ?_, h.ids⟩
    rcases List.mem_map.1 hmem with ⟨vc, hvc, hid⟩
    exact (h.screens vc hvc).lt.ne hid
  dashFree := h.dashFree
  lookups_lt := fun lookup hlookup => Nat.lt_succ_of_lt (h.lookups_lt lookup hlookup)
  screens := by
    rw [Device.pushViewController, List.forall_mem_cons]
    constructor
    · exact {
        lt := Nat.lt_succ_self _
        loadedFor := fun hp => ⟨rfl, hloaded hp⟩
        listed := hlisted
        shown := hshown
        awaited := fun chat hmem => absurd (h.lookups_lt _ hmem) (lt_irrefl _) }
    · intro vc hvc
      exact (h.screens vc hvc).mono rfl (List.Subset.refl _) (Nat.le_succ _) (List.Subset.refl _)

/-- Leaving screens. -/
theorem Device.Follows.drop (h : d.Follows a) {screens : ℕ} (hlt : screens < d.stack.length) :
    (d.back screens).Follows a where
  rooted := h.rooted.drop hlt
  ids := h.ids.sublist ((List.drop_sublist screens d.stack).map _)
  dashFree := h.dashFree
  lookups_lt := h.lookups_lt
  screens := fun vc hvc =>
    (h.screens vc (List.mem_of_mem_drop hvc)).mono rfl (List.Subset.refl _) le_rfl
    (List.Subset.refl _)

theorem Device.Follows.signedIn (h : d.Follows a) {id : ℕ} {uid : String} (huid : DashFree uid)
    (hkeeps : DeviceEvent.KeepsUser d (.signedIn id uid)) : (d.signedIn id uid).Follows a := by
  have hsame : Device.Follows { d with currentUser := some uid } a := {
    rooted := h.rooted
    ids := h.ids
    dashFree := fun uid' huid' => Option.some.inj huid' ▸ huid
    lookups_lt := h.lookups_lt
    screens := fun vc hvc => by
      rcases hkeeps with hsame | hnone
      · exact (h.screens vc hvc).mono hsame.symm (List.Subset.refl _) le_rfl (List.Subset.refl _)
      · exact (h.screens vc hvc).of_not_personal (hnone vc hvc) rfl rfl }
  unfold Device.signedIn
  dsimp only
  split
  · exact hsame.push (fun _ => rfl) nofun nofun
  · exact hsame

theorem Device.Follows.logout (h : d.Follows a) (hne : d.stack ≠ []) (succeeds : Bool) :
    (d.logoutButtonClick succeeds).Follows a := by
  cases succeeds with
  | false => exact h
  | true =>
      have hlt : d.stack.length - 1 < d.stack.length :=
        Nat.sub_lt (List.length_pos_iff.2 hne) Nat.one_pos
      have hback := h.drop hlt
      exact {
        rooted := hback.rooted
        ids := hback.ids
        dashFree := nofun
        lookups_lt := h.lookups_lt
        screens := fun vc hvc => by
          have hroot := h.rooted.root vc hvc
          exact (hback.screens vc hvc).of_not_personal (by rw [hroot]; rfl) rfl rfl }

theorem Device.Follows.usersFetched (h : d.Follows a) {id : ℕ} {docs : List Document}
    (hdocs : ∀ user ∈ docs.filterMap userOf, DashFree user.id) :
    (d.usersFetched id docs).Follows a where
  rooted := @DeviceStep.rooted d _ [] [] _ h.rooted (.usersFetched hdocs)
  ids := by
    have hids : (d.usersFetched id docs).stack.map LoadedController.id =
        d.stack.map LoadedController.id := by
      rw [Device.usersFetched, List.map_map]
      refine List.map_congr_left fun vc _ => ?_
      dsimp only [Function.comp_apply]
      split
      · split <;> rfl
      · rfl
    rw [hids]
    exact h.ids
  dashFree := h.dashFree
  lookups_lt := h.lookups_lt
  screens := fun vc hvc => by
    obtain ⟨before, hbefore, hid, hloaded, hcontroller⟩ := controller_usersFetched hvc
    have hold := h.screens before hbefore
    rcases hcontroller with hsame | ⟨users, husers, hnew⟩
    · exact {
        lt := hid ▸ hold.lt
        loadedFor := fun hp => hloaded ▸ hold.loadedFor (hsame ▸ hp)
        listed := fun users husers => hold.listed users (hsame ▸ husers)
        shown := fun chat hchat => hold.shown chat (hsame ▸ hchat)
        awaited := fun chat hmem => hsame ▸ hold.awaited chat (hid ▸ hmem) }
    · have hp : before.controller.isPersonal = true := by rw [husers]; rfl
      exact {
        lt := hid ▸ hold.lt
        loadedFor := fun _ => hloaded ▸ hold.loadedFor hp
        listed := fun users' husers' => by
          rw [hnew] at husers'
          obtain rfl := Controller.users.inj husers'
          exact (hold.listed users husers).append hdocs
        shown := fun chat hchat => by simp [hnew] at hchat
        awaited := fun chat hmem => ⟨by rw [hnew]; rfl, (hold.awaited chat (hid ▸ hmem)).2⟩ }

/-- A tap on a row prepares a chat that has just been opened. -/
theorem Device.Follows.tapped (h : d.Follows a) {below : List LoadedController} {uid : String}
    {chat : ChatViewController} (hstack : d.stack = vc :: below)
    (hpersonal : vc.controller.isPersonal = true) (huser : d.currentUser = some uid) :
    Device.Follows { d with lookups := d.lookups ++ [(vc.id, chat)] }
      { a with chats := ⟨uid, chat.viewDidLoad uid⟩ :: a.chats } where
  rooted := h.rooted
  ids := h.ids
  dashFree := h.dashFree
  lookups_lt := fun lookup hlookup => by
    rcases List.mem_append.1 hlookup with hlookup | hlookup
    · exact h.lookups_lt lookup hlookup
    · obtain rfl := List.mem_singleton.1 hlookup
      exact (h.screens vc (hstack ▸ List.mem_cons_self)).lt
  screens := fun other hother => by
    have hold := h.screens other hother
    exact {
      lt := hold.lt
      loadedFor := hold.loadedFor
      listed := hold.listed
      shown := fun chat' hchat' => (hold.shown chat' hchat').mono (List.subset_cons_self _ _)
      awaited := fun chat' hmem => by
        rcases List.mem_append.1 hmem with hmem | hmem
        · obtain ⟨hp, hopen⟩ := hold.awaited chat' hmem
          exact ⟨hp, hopen.mono (List.subset_cons_self _ _)⟩
        · -- no other screen has the id of the one on top
          obtain ⟨hid, rfl⟩ := Prod.mk.inj (List.mem_singleton.1 hmem)
          have hsame : other = vc :=
            List.inj_on_of_nodup_map h.ids hother (hstack ▸ List.mem_cons_self) hid
          exact ⟨hsame ▸ hpersonal, uid, huser, List.mem_cons_self⟩ }

theorem Device.Follows.lookupsAnswered (h : d.Follows a) {id : ℕ} {chat : ChatViewController}
    (hmem : (id, chat) ∈ d.lookups) : (d.lookupsAnswered id chat).Follows a := by
  have hsame : Device.Follows { d with lookups := d.lookups.erase (id, chat) } a := {
    h with
    lookups_lt := fun lookup hlookup => h.lookups_lt lookup (List.mem_of_mem_erase hlookup)
    screens := fun vc hvc => (h.screens vc hvc).mono rfl (List.erase_subset) le_rfl
      (List.Subset.refl _) }
  unfold Device.lookupsAnswered
  dsimp only
  split
  · rename_i hany
    obtain ⟨vc, hvc, hid⟩ := List.any_eq_true.1 hany
    obtain rfl : vc.id = id := of_decide_eq_true hid
    obtain ⟨uid, huser, hchat⟩ := ((h.screens vc hvc).awaited chat hmem).2
    refine hsame.push (fun _ => by simp [huser]) nofun ?_
    rintro _ ⟨⟩
    refine ⟨uid, huser, ?_⟩
    simpa [ChatViewController.viewDidLoad] using hchat
  · exact hsame

end Follows

/-! ## The simulation -/

/-- Each step of a device is a step of a user, or none. -/
theorem DeviceStep.follows {d d' : Device} {store store' : List Document} {e : DeviceEvent}
    {a : ChatState} (hstore : a.store = store) (h : d.Follows a) (hkeeps : e.KeepsUser d)
    (hstep : DeviceStep (d, store) e (d', store')) :
    ∃ b, (b = a ∨ ∃ chatEvent, ChatStep a chatEvent b) ∧ b.store = store' ∧ d'.Follows b := by
  cases hstep with
  | loginTapped _ _ => exact ⟨a, Or.inl rfl, hstore, h.push nofun nofun nofun⟩
  | registerTapped _ _ => exact ⟨a, Or.inl rfl, hstore, h.push nofun nofun nofun⟩
  | signedIn huid => exact ⟨a, Or.inl rfl, hstore, h.signedIn huid hkeeps⟩
  | @usersTapped _ _ vc below hstack hcontroller =>
      have hvc := h.screens vc (hstack ▸ List.mem_cons_self)
      have huser := (hvc.loadedFor (by rw [hcontroller]; rfl)).2
      refine ⟨a, Or.inl rfl, hstore, h.push (fun _ => huser) ?_ nofun⟩
      rintro _ ⟨⟩
      exact ⟨[], by simp, rfl⟩
  | usersFetched hdocs => exact ⟨a, Or.inl rfl, hstore, h.usersFetched hdocs⟩
  | @inboxRowTapped _ _ vc below uid it snapshot row chat hstack hcontroller hloaded hsub hrow =>
      have hpersonal : vc.controller.isPersonal = true := by rw [hcontroller]; rfl
      have hvc := h.screens vc (hstack ▸ List.mem_cons_self)
      have huser : d.currentUser = some uid := (hvc.loadedFor hpersonal).1.symm.trans hloaded
      exact ⟨_, Or.inr ⟨_, .openFromInbox (h.dashFree uid huser) (hstore ▸ hsub) hrow⟩, hstore,
        h.tapped hstack hpersonal huser⟩
  | @usersRowTapped _ _ vc below users row chat hstack hcontroller hrow =>
      have hpersonal : vc.controller.isPersonal = true := by rw [hcontroller]; rfl
      have hvc := h.screens vc (hstack ▸ List.mem_cons_self)
      obtain ⟨uid, huser⟩ := Option.isSome_iff_exists.1 (hvc.loadedFor hpersonal).2
      obtain ⟨docs, hdocs, rfl⟩ := hvc.listed users hcontroller
      rw [huser] at hrow
      exact ⟨_, Or.inr ⟨_, .openFromUsers (h.dashFree uid huser) hdocs hrow⟩, hstore,
        h.tapped hstack hpersonal huser⟩
  | lookupsAnswered hmem => exact ⟨a, Or.inl rfl, hstore, h.lookupsAnswered hmem⟩
  | @sendMessageClick _ _ vc below chat senderId text timestamp documentID doc hstack
      hcontroller huser
      hfresh hsend =>
      have hvc := h.screens vc (hstack ▸ List.mem_cons_self)
      obtain ⟨uid, huid, hchat⟩ := hvc.shown chat hcontroller
      obtain rfl : senderId = uid := Option.some.inj (huser.symm.trans huid)
      refine ⟨_, Or.inr ⟨_, .sendMessageClick hchat (hstore ▸ hfresh) hsend⟩, ?_, h.mono ?_⟩
      · rw [← hstore]
      · exact List.Subset.refl _
  | back hlt => exact ⟨a, Or.inl rfl, hstore, h.drop hlt⟩
  | logoutButtonClick hstack _ =>
      exact ⟨a, Or.inl rfl, hstore, h.logout (by simp [hstack]) _⟩

theorem ChatStep.chats_subset {a b : ChatState} {e : ChatEvent} (hstep : ChatStep a e b) :
    a.chats ⊆ b.chats := by
  cases hstep with
  | openFromUsers _ _ _ => exact List.subset_cons_self _ _
  | openFromInbox _ _ _ => exact List.subset_cons_self _ _
  | sendMessageClick _ _ _ => exact List.Subset.refl _

/-- The devices are related to the chats that are open over the same store. -/
def NetworkFollows (n : Network) (a : ChatState) : Prop :=
  a.store = n.2 ∧ ∀ i, (n.1 i).Follows a

/-- `ChatStep` follows devices on which nobody is signed in over the screens of another user. -/
theorem network_simulates :
    Simulates NetworkStep ChatStep (fun n e _ => e.2.KeepsUser (n.1 e.1)) NetworkFollows :=
  Interleaved.simulates (Q := fun _ s (e : DeviceEvent) _ => e.KeepsUser s.1)
    (G := fun store (a : ChatState) => a.store = store) (R := fun _ d a => Device.Follows d a)
    (fun _ _ _ _ _ _ _ hstore h hkeeps hstep => hstep.follows hstore h hkeeps)
    fun _ _ _ _ _ h hstep => h.mono hstep.chats_subset

/-- Any number of devices, in any order of touches and answers in which nobody is signed in over the
screens of another user, are followed step for step by what users can do by `ChatStep`. They store
the same, and every chat on a stack is one that is open for the user signed in there. So every
message goes from one user to another. -/
theorem network_refines {currentUser : ℕ → Option String} {es : List (ℕ × DeviceEvent)}
    {n : Network} (huids : ∀ i uid, currentUser i = some uid → DashFree uid)
    (hrun : Run NetworkStep (.launch currentUser) es n)
    (hkeeps : Along NetworkStep (.launch currentUser) es fun n e _ => e.2.KeepsUser (n.1 e.1)) :
    StoreOk n.2 ∧ ∃ ds a,
      Matched NetworkStep ChatStep NetworkFollows (.launch currentUser) .empty es ds n a ∧
      Run ChatStep .empty ds a ∧ a.store = n.2 ∧
      ∀ i, ∀ vc ∈ (n.1 i).stack, ∀ chat, vc.controller = .chat chat →
        OpenFor (n.1 i).currentUser a chat := by
  have hlaunch : ∀ i, ((Network.launch currentUser).1 i).Follows .empty := fun i => {
    rooted := rfl
    ids := List.nodup_singleton _
    dashFree := huids i
    lookups_lt := nofun
    screens := fun vc hvc => by
      obtain rfl := List.mem_singleton.1 hvc
      exact ⟨Nat.one_pos, nofun, nofun, nofun, nofun⟩ }
  obtain ⟨ds, a, hmatched⟩ := network_simulates.matched hrun hkeeps ⟨rfl, hlaunch⟩
  have ha := hmatched.follower
  obtain ⟨hstore, hfollows⟩ := hmatched.related
  refine ⟨hstore ▸ (reachable_ok ha).store, ds, a, hmatched, ha, hstore,
    fun i vc hvc chat hchat => ?_⟩
  exact ((hfollows i).screens vc hvc).shown chat hchat

/-! ## Two answers to a sign-in -/

/-- `ann` has signed in from the screen for it. -/
def annSignedIn : Device :=
  ((Device.launch none).pushViewController .login).signedIn 1 "ann"

/-- She has opened the list of users, which has been fetched. -/
def annListing : Device :=
  (annSignedIn.pushViewController (.users [])).usersFetched 3 [bobDocument]

/-- And from it the chat with `bob`. -/
def annChatting : Device :=
  Device.lookupsAnswered 3 chatWithBob { annListing with lookups := [(3, chatWithBob)] }

def chattingEvents : List DeviceEvent :=
  [.loginTapped, .signedIn 1 "ann", .usersTapped, .usersFetched 3 [bobDocument], .usersRowTapped 0,
    .lookupsAnswered 3 chatWithBob]

theorem annChatting_run : Run DeviceStep (.launch none, []) chattingEvents (annChatting, []) := by
  have hlogin : DeviceStep (.launch none, []) .loginTapped
      ((Device.launch none).pushViewController .login, []) := .loginTapped rfl rfl
  have hsigned : DeviceStep ((Device.launch none).pushViewController .login, [])
      (.signedIn 1 "ann") (annSignedIn, []) := .signedIn (by decide)
  have husers : DeviceStep (annSignedIn, []) .usersTapped
      (annSignedIn.pushViewController (.users []), []) := .usersTapped rfl rfl
  have hfetched : DeviceStep (annSignedIn.pushViewController (.users []), [])
      (.usersFetched 3 [bobDocument]) (annListing, []) := .usersFetched (by decide +kernel)
  have htapped : DeviceStep (annListing, []) (.usersRowTapped 0)
      ({ annListing with lookups := [(3, chatWithBob)] }, []) :=
    @DeviceStep.usersRowTapped annListing [] _ _ _ 0 chatWithBob rfl rfl (by decide +kernel)
  have hpushed : DeviceStep ({ annListing with lookups := [(3, chatWithBob)] }, [])
      (.lookupsAnswered 3 chatWithBob) (annChatting, []) := .lookupsAnswered List.mem_cons_self
  exact (((((Run.single hlogin).snoc hsigned).snoc husers).snoc hfetched).snoc htapped).snoc hpushed

/-- The device works alone. -/
theorem network_run {d : Device} {store : List Document} {es : List DeviceEvent}
    (hrun : Run DeviceStep (.launch none, []) es (d, store)) :
    Run NetworkStep (.launch fun _ => none) (es.map (Prod.mk 0))
      (Function.update (fun _ => .launch none) 0 d, store) :=
  @Interleaved.run_own ℕ _ _ _ _ (fun _ => DeviceStep) 0 _ _ _ hrun (fun _ => .launch none) rfl

/-- The answer comes while there is nothing personal on the stack, and no other follows. -/
theorem chatting_keepsUser {rest : List DeviceEvent} (hrest : ∀ id uid, .signedIn id uid ∉ rest) :
    Along NetworkStep (.launch fun _ => none) ((chattingEvents ++ rest).map (Prod.mk 0))
      fun n e _ => e.2.KeepsUser (n.1 e.1) := by
  rintro before after ⟨i, e⟩ ⟨devices, store⟩ u hes hrun hlast
  cases e with
  | signedIn id uid =>
      rcases before with _ | ⟨first, _ | ⟨second, before⟩⟩
      · simp [chattingEvents] at hes
      · simp only [chattingEvents, List.map_cons, List.cons_append, List.nil_append,
          List.cons.injEq, Prod.mk.injEq] at hes
        obtain ⟨rfl, ⟨rfl, _⟩, _⟩ := hes
        have hfirst : Run NetworkStep (.launch fun _ => none) ([] ++ [(0, .loginTapped)])
            (devices, store) := hrun
        obtain ⟨s, hs, hlogin⟩ := hfirst.snoc_inv
        obtain rfl := hs.nil_inv
        have hown := hlogin.own
        refine Or.inr ?_
        dsimp only at hown ⊢
        generalize devices 0 = d at hown ⊢
        cases hown with
        | loginTapped _ _ => decide
      · have hmem : (i, DeviceEvent.signedIn id uid) ∈
            before ++ (i, DeviceEvent.signedIn id uid) :: after := by simp
        simp only [chattingEvents, List.map_cons, List.cons_append, List.cons.injEq] at hes
        rw [← hes.2.2] at hmem
        simp [hrest] at hmem
  | _ => trivial

/-- What `ann` sends goes to somebody else. -/
theorem greeting_stored : StoreOk [greeting.document] := by
  have hsent : DeviceStep (annChatting, []) (.sendMessageClick "hi" 1 "1")
      (annChatting, [greeting.document]) :=
    @DeviceStep.sendMessageClick annChatting [] _ _ (chatWithBob.viewDidLoad "ann") "ann"
      "hi" 1 "1" _
      rfl rfl rfl (by simp) rfl
  have hkeeps := @chatting_keepsUser [.sendMessageClick "hi" 1 "1"] (by simp)
  refine (network_refines ?_ (network_run (annChatting_run.snoc hsent)) hkeeps).1
  rintro _ _ ⟨⟩

/-- A second answer signs `bob` in over the chat with `bob`, and what he sends there goes to
himself. -/
theorem message_to_oneself :
    ¬ ∀ (currentUser : ℕ → Option String) (es : List (ℕ × DeviceEvent)) (n : Network),
      (∀ i uid, currentUser i = some uid → DashFree uid) →
        Run NetworkStep (.launch currentUser) es n → StoreOk n.2 := by
  intro h
  have hsigned :
      DeviceStep (annChatting, []) (.signedIn 1 "bob") (annChatting.signedIn 1 "bob", []) :=
    .signedIn (by decide)
  have hback : DeviceStep (annChatting.signedIn 1 "bob", []) (.back 1)
      ((annChatting.signedIn 1 "bob").back 1, []) := .back (by decide +kernel)
  have hsent : DeviceStep ((annChatting.signedIn 1 "bob").back 1, []) (.sendMessageClick "hi" 1 "1")
      ((annChatting.signedIn 1 "bob").back 1, [{ greeting with senderId := "bob" }.document]) :=
    @DeviceStep.sendMessageClick _ [] _ _ (chatWithBob.viewDidLoad "ann") "bob" "hi" 1 "1" _
      rfl rfl rfl (by simp) rfl
  have hrun := network_run (((annChatting_run.snoc hsigned).snoc hback).snoc hsent)
  have hstore := h _ _ _ (by rintro _ _ ⟨⟩) hrun
  obtain ⟨m, hm, hne, _⟩ := hstore.sent _ List.mem_cons_self
  have hmessage := congrArg messageOf hm
  rw [messageOf_document, messageOf_document] at hmessage
  obtain rfl := Option.some.inj hmessage
  exact hne rfl

end ChatApp
end IosProjects
