import IosProjects.ChatApp.ChatTable
import IosProjects.ChatApp.InboxCells

/-!
# ProfileImages — the pictures a chat is opened with

Before a chat is pushed its two picture addresses are looked up: the partner's by the inbox, or
taken from the row of the users list, and the user's own by both. A lookup that finds nothing leaves
the address as it was and the chat is pushed all the same. Its cells force-unwrap the one or the
other address, by who sent the message.
-/

namespace IosProjects
namespace ChatApp

open IosProjects.Library

/-! ## Opening a chat -/

/-- The variables of `ChatViewController` that are set before it is pushed. -/
structure ChatPictures where
  receiverFirstName : Option String
  receiverProfileImageUrl : Option String
  currentUserProfileImageUrl : Option String
  deriving DecidableEq, Repr

/-- Those of a new `ChatViewController`. -/
def ChatPictures.new : ChatPictures where
  receiverFirstName := none
  receiverProfileImageUrl := none
  currentUserProfileImageUrl := none

/-- What has been done to open a chat: a lookup is in flight, or the push is on the main queue, or
the chat has been pushed. `loggedInUserId` is what the inbox knows. -/
inductive ChatOpening where
  | partnerLookup (loggedInUserId : Option String) (chat : ChatViewController)
  | ownLookup (chat : ChatViewController) (pictures : ChatPictures)
  | notify (chat : ChatViewController) (pictures : ChatPictures)
  | pushed (screen : ChatScreen) (pictures : ChatPictures)

/-- The completion of `getDocument` in `getProfileImageUrl(for:completion:)`, of both controllers;
there is no document when it does not exist or when there was an error. -/
def getProfileImageUrl (document : Option Document) : Option String :=
  match document with
  | some document => asString (document.data "profileImageUrl")
  | none => none

namespace ChatOpening

/-- The group is entered only for a user who is signed in. -/
def enterGroup (loggedInUserId : Option String) (chat : ChatViewController)
    (pictures : ChatPictures) : ChatOpening :=
  match loggedInUserId with
  | some _ => .ownLookup chat pictures
  | none => .notify chat pictures

/-- The completion of `getUserData` in `MessagesViewController.tableView(_:didSelectRowAt:)`. -/
def partnerAnswered (loggedInUserId : Option String) (chat : ChatViewController)
    (answer : UserAnswer) : ChatOpening :=
  enterGroup loggedInUserId chat <|
    match answer.firstName with
    -- without a first name the picture is not set either
    | some firstName =>
        { ChatPictures.new with
          receiverFirstName := some firstName
          receiverProfileImageUrl := answer.profileImageUrl }
    | none => .new

/-- The completion of `getProfileImageUrl` in both `tableView(_:didSelectRowAt:)`. -/
def ownAnswered (chat : ChatViewController) (pictures : ChatPictures)
    (profileImageUrl : Option String) : ChatOpening :=
  .notify chat <|
    match profileImageUrl with
    | some profileImageUrl => { pictures with currentUserProfileImageUrl := some profileImageUrl }
    | none => pictures

/-- The variables as they are set so far. -/
def pictures : ChatOpening → ChatPictures
  | partnerLookup _ _ => .new
  | ownLookup _ pictures => pictures
  | notify _ pictures => pictures
  | pushed _ pictures => pictures

@[simp] theorem pictures_enterGroup (loggedInUserId : Option String) (chat : ChatViewController)
    (set : ChatPictures) : (enterGroup loggedInUserId chat set).pictures = set := by
  cases loggedInUserId <;> rfl

/-- The message in a row, once the chat has been pushed. -/
def message (row : ℕ) : ChatOpening → Option Message
  | pushed screen _ => screen.message row
  | _ => none

/-- The message was sent by the user who is signed in. -/
def IsOwn (message : Message) : ChatOpening → Prop
  | pushed screen _ => some message.senderId = screen.viewController.loggedInUserId
  | _ => False

instance (message : Message) : (s : ChatOpening) → Decidable (s.IsOwn message)
  | pushed _ _ => inferInstanceAs (Decidable (_ = _))
  | partnerLookup _ _ | ownLookup _ _ | notify _ _ => inferInstanceAs (Decidable False)

/-- The address `ChatViewController.tableView(_:cellForRowAt:)` loads the picture from; unwrapping
`nil` traps. -/
def cellForRowAt (row : ℕ) (s : ChatOpening) : Option String :=
  match s.message row with
  | none => none
  | some message =>
      if s.IsOwn message then s.pictures.currentUserProfileImageUrl
      else s.pictures.receiverProfileImageUrl

end ChatOpening

/-- The row that is tapped, in the inbox or in the list of users fetched from `docs`. -/
inductive ChatRoute where
  | inbox (vc : MessagesViewController) (row : ℕ)
  | users (uid : Option String) (docs : List Document) (row : ℕ)

/-- `tableView(_:didSelectRowAt:)` of `MessagesViewController` and of `UsersViewController`. -/
def ChatRoute.open : ChatRoute → Option ChatOpening
  | inbox vc row => do
      let chat ← vc.didSelectRowAt row
      return .partnerLookup vc.loggedInUserId chat
  | users uid docs row => do
      let user ← (fetchUsers uid docs)[row]?
      let chat ← UsersViewController.didSelectRowAt row (fetchUsers uid docs)
      return .enterGroup uid chat
        { ChatPictures.new with
          receiverFirstName := some user.firstName
          receiverProfileImageUrl := user.profileImageUrl }

/-! ## Steps -/

inductive ChatOpeningEvent where
  | partnerAnswered (document : Option Document)
  | ownAnswered (document : Option Document)
  | push (uid : String)
  | screen (e : ChatScreenEvent)

/-- The lookups are answered one after the other; `uid` is the user signed in when the view
loads. -/
inductive ChatOpeningStep : ChatOpening → ChatOpeningEvent → ChatOpening → Prop where
  | partnerAnswered {loggedInUserId : Option String} {chat : ChatViewController}
      {document : Option Document} :
      ChatOpeningStep (.partnerLookup loggedInUserId chat) (.partnerAnswered document)
        (.partnerAnswered loggedInUserId chat (getUserData document))
  | ownAnswered {chat : ChatViewController} {pictures : ChatPictures} {document : Option Document} :
      ChatOpeningStep (.ownLookup chat pictures) (.ownAnswered document)
        (.ownAnswered chat pictures (getProfileImageUrl document))
  | push {chat : ChatViewController} {pictures : ChatPictures} {uid : String} :
      ChatOpeningStep (.notify chat pictures) (.push uid) (.pushed (.viewDidLoad uid chat) pictures)
  | screen {s t : ChatScreen} {pictures : ChatPictures} {e : ChatScreenEvent} :
      ChatScreenStep s e t → ChatOpeningStep (.pushed s pictures) (.screen e) (.pushed t pictures)

/-! ## What the lookups found -/

/-- The user's own document was found, with a picture. -/
def OwnFound (es : List ChatOpeningEvent) : Prop :=
  ∃ document, .ownAnswered (some document) ∈ es ∧
    (asString (document.data "profileImageUrl")).isSome

/-- The partner's document was found, with a first name and a picture, or the row was one of the
users list. -/
def PartnerFound (route : ChatRoute) (es : List ChatOpeningEvent) : Prop :=
  match route with
  | .users _ _ _ => True
  | .inbox _ _ =>
      ∃ document, .partnerAnswered (some document) ∈ es ∧
        (asString (document.data "firstName")).isSome ∧
          (asString (document.data "profileImageUrl")).isSome

/-- The addresses are set exactly if the lookups found them. -/
structure SetAsFound (route : ChatRoute) (es : List ChatOpeningEvent) (s : ChatOpening) : Prop where
  own : s.pictures.currentUserProfileImageUrl.isSome ↔ OwnFound es
  partner : s.pictures.receiverProfileImageUrl.isSome ↔ PartnerFound route es
  -- the own lookup is made once
  pending : (∃ chat pictures, s = .ownLookup chat pictures) →
    s.pictures.currentUserProfileImageUrl = none

section Found

variable {route : ChatRoute} {es : List ChatOpeningEvent} {s t : ChatOpening} {e : ChatOpeningEvent}

theorem ownFound_append_iff (document : Option Document) :
    OwnFound (es ++ [.ownAnswered document]) ↔
      OwnFound es ∨ (getProfileImageUrl document).isSome := by
  constructor
  · rintro ⟨found, hmem, hpicture⟩
    rcases List.mem_append.1 hmem with hmem | hmem
    · exact Or.inl ⟨found, hmem, hpicture⟩
    · obtain rfl : some found = document := by simpa using hmem
      exact Or.inr hpicture
  · rintro (⟨found, hmem, hpicture⟩ | hpicture)
    · exact ⟨found, List.mem_append_left _ hmem, hpicture⟩
    · cases document with
      | none => cases hpicture
      | some found => exact ⟨found, by simp, hpicture⟩

/-- Only the answer of the own lookup matters. -/
theorem ownFound_append_of_ne (h : ∀ document, e ≠ .ownAnswered document) :
    OwnFound (es ++ [e]) ↔ OwnFound es := by
  refine exists_congr fun document => and_congr_left fun _ => ?_
  rw [List.mem_append, List.mem_singleton]
  exact or_iff_left fun heq => h _ heq.symm

theorem partnerFound_append_of_ne (h : ∀ document, e ≠ .partnerAnswered document) :
    PartnerFound route (es ++ [e]) ↔ PartnerFound route es := by
  cases route with
  | users uid docs row => exact Iff.rfl
  | inbox vc row =>
      refine exists_congr fun document => and_congr_left fun _ => ?_
      rw [List.mem_append, List.mem_singleton]
      exact or_iff_left fun heq => h _ heq.symm

/-- The picture of the partner is set when the answer has a first name too. -/
theorem receiver_partnerAnswered (loggedInUserId : Option String) (chat : ChatViewController)
    (answer : UserAnswer) :
    (ChatOpening.partnerAnswered loggedInUserId chat answer).pictures.currentUserProfileImageUrl =
        none ∧
      ((ChatOpening.partnerAnswered loggedInUserId chat
        answer).pictures.receiverProfileImageUrl.isSome ↔
          answer.firstName.isSome ∧ answer.profileImageUrl.isSome) := by
  cases hname : answer.firstName <;>
    simp [ChatOpening.partnerAnswered, ChatPictures.new, hname]

theorem SetAsFound.partnerAnswered {loggedInUserId : Option String} {chat : ChatViewController}
    (h : SetAsFound route es (.partnerLookup loggedInUserId chat)) (document : Option Document) :
    SetAsFound route (es ++ [.partnerAnswered document])
      (.partnerAnswered loggedInUserId chat (getUserData document)) := by
  obtain ⟨hown, hreceiver⟩ := receiver_partnerAnswered loggedInUserId chat (getUserData document)
  have hnone : ¬ OwnFound es := h.own.not.1 (by simp [ChatOpening.pictures, ChatPictures.new])
  have hnotyet : ¬ PartnerFound route es :=
    h.partner.not.1 (by simp [ChatOpening.pictures, ChatPictures.new])
  refine ⟨?_, ?_, fun _ => hown⟩
  · rw [ownFound_append_of_ne (fun _ heq => by cases heq), hown]
    exact iff_of_false (by simp) hnone
  · rw [hreceiver]
    cases route with
    | users uid docs row => exact absurd trivial hnotyet
    | inbox vc row =>
        constructor
        · intro hanswer
          cases document with
          | none => cases hanswer.1
          | some found => exact ⟨found, by simp, hanswer⟩
        · rintro ⟨found, hmem, hfound⟩
          rcases List.mem_append.1 hmem with hmem | hmem
          · exact absurd ⟨found, hmem, hfound⟩ hnotyet
          · obtain rfl : some found = document := by simpa using hmem
            exact hfound

theorem SetAsFound.ownAnswered {chat : ChatViewController} {pictures : ChatPictures}
    (h : SetAsFound route es (.ownLookup chat pictures)) (document : Option Document) :
    SetAsFound route (es ++ [.ownAnswered document])
      (.ownAnswered chat pictures (getProfileImageUrl document)) := by
  have hpending : pictures.currentUserProfileImageUrl = none := h.pending ⟨chat, pictures, rfl⟩
  have hnone : ¬ OwnFound es := h.own.not.1 (by simp [ChatOpening.pictures, hpending])
  refine ⟨?_, ?_, fun ⟨_, _, heq⟩ => by cases heq⟩
  · rw [ownFound_append_iff, or_iff_right hnone]
    cases hurl : getProfileImageUrl document <;>
      simp [ChatOpening.ownAnswered, ChatOpening.pictures, hpending]
  · rw [partnerFound_append_of_ne (fun _ heq => by cases heq), ← h.partner]
    cases hurl : getProfileImageUrl document <;>
      simp [ChatOpening.ownAnswered, ChatOpening.pictures]

theorem SetAsFound.step (h : SetAsFound route es s) (hstep : ChatOpeningStep s e t) :
    SetAsFound route (es ++ [e]) t := by
  -- the push and the events of the chat leave the pictures as they are
  have hkept : (∀ document, e ≠ .partnerAnswered document) →
      (∀ document, e ≠ .ownAnswered document) →
      t.pictures = s.pictures → (¬ ∃ chat pictures, t = .ownLookup chat pictures) →
        SetAsFound route (es ++ [e]) t := by
    intro hpartner hown hpictures hphase
    refine ⟨?_, ?_, fun hpending => absurd hpending hphase⟩
    · rw [hpictures, ownFound_append_of_ne hown]
      exact h.own
    · rw [hpictures, partnerFound_append_of_ne hpartner]
      exact h.partner
  cases hstep with
  | partnerAnswered => exact h.partnerAnswered _
  | ownAnswered => exact h.ownAnswered _
  | push =>
      exact hkept (fun _ heq => by cases heq) (fun _ heq => by cases heq) rfl
        fun ⟨_, _, heq⟩ => by cases heq
  | screen _ =>
      exact hkept (fun _ heq => by cases heq) (fun _ heq => by cases heq) rfl
        fun ⟨_, _, heq⟩ => by cases heq

/-- Every user of the list has a picture. -/
theorem profileImageUrl_of_mem_fetchUsers {uid : Option String} {docs : List Document} {user : User}
    (h : user ∈ fetchUsers uid docs) : user.profileImageUrl.isSome := by
  rw [fetchUsers_eq] at h
  rcases List.mem_filterMap.1 (List.mem_filter.1 h).1 with ⟨doc, _, hdoc⟩
  simp only [userOf, Option.bind_eq_bind, Option.bind_eq_some_iff, Option.pure_def,
    Option.some.injEq] at hdoc
  obtain ⟨_, _, _, _, _, _, _, _, _, _, rfl⟩ := hdoc
  rfl

/-- A row has been tapped and nothing has been answered. -/
theorem setAsFound_open (hopen : route.open = some s) : SetAsFound route [] s := by
  have hown : ¬ OwnFound [] := fun ⟨_, hmem, _⟩ => by cases hmem
  cases route with
  | inbox vc row =>
      rcases Option.bind_eq_some_iff.1 hopen with ⟨chat, _, hchat⟩
      obtain rfl := Option.some.inj hchat
      have hpartner : ¬ PartnerFound (.inbox vc row) [] := fun ⟨_, hmem, _⟩ => by cases hmem
      exact ⟨iff_of_false (by simp [ChatOpening.pictures, ChatPictures.new]) hown,
        iff_of_false (by simp [ChatOpening.pictures, ChatPictures.new]) hpartner, fun _ => rfl⟩
  | users uid docs row =>
      rcases Option.bind_eq_some_iff.1 hopen with ⟨user, huser, hchat⟩
      rcases Option.bind_eq_some_iff.1 hchat with ⟨chat, _, hchat⟩
      obtain rfl := Option.some.inj hchat
      have hpicture := profileImageUrl_of_mem_fetchUsers (List.mem_of_getElem? huser)
      refine ⟨iff_of_false (by simp [ChatPictures.new]) hown, iff_of_true ?_ trivial, fun _ => ?_⟩
      · rw [ChatOpening.pictures_enterGroup]
        exact hpicture
      · simp [ChatPictures.new]

theorem run_setAsFound {s₀ : ChatOpening} (hopen : route.open = some s₀)
    (hrun : Run ChatOpeningStep s₀ es s) : SetAsFound route es s :=
  Run.invariant_history (setAsFound_open hopen) (fun _ _ _ _ _ h hstep => h.step hstep) hrun

/-! ## Cells -/

/-- However a chat was opened, whatever was answered, delivered and done since: the cell of a
message has a picture to unwrap if and only if it is the user's own message and their document was
found with a picture, or it is not and the partner's was found with a first name and a picture, or
the chat was opened from the users list. -/
theorem cell_unwraps_iff {s₀ : ChatOpening} (hopen : route.open = some s₀)
    (hrun : Run ChatOpeningStep s₀ es s) {row : ℕ} {message : Message}
    (hmessage : s.message row = some message) :
    (s.cellForRowAt row).isSome ↔
      (s.IsOwn message → OwnFound es) ∧ (¬ s.IsOwn message → PartnerFound route es) := by
  have hset := run_setAsFound hopen hrun
  rw [ChatOpening.cellForRowAt, hmessage]
  by_cases hown : s.IsOwn message
  · simp [hown, hset.own]
  · simp [hown, hset.partner]

end Found

/-- The user documents of alice and bob. -/
def aliceData : Document :=
  userData "alice" ⟨"Alice", "Hill", "alice@example.com", ""⟩ "https://example.com/alice.png"

def bobData : Document :=
  userData "bob" ⟨"Bob", "Marsh", "bob@example.com", ""⟩ "https://example.com/bob.png"

/-- The chat with bob that alice has opened from the users list, with her message to him. -/
def aliceAtBob (currentUserProfileImageUrl : Option String) : ChatOpening :=
  .pushed (ChatScreen.deliver (.documents [aliceToBob.document])
      (.viewDidLoad "alice" ⟨none, some "bob", []⟩))
    ⟨some "Bob", some "https://example.com/bob.png", currentUserProfileImageUrl⟩

/-- It is the same however her own lookup is answered, but for the one address. -/
theorem run_aliceAtBob (document : Option Document) :
    Run ChatOpeningStep
      (.ownLookup ⟨none, some "bob", []⟩ ⟨some "Bob", some "https://example.com/bob.png", none⟩)
      [.ownAnswered document, .push "alice",
        .screen (.deliver 0 (.documents [aliceToBob.document]))]
      (aliceAtBob (getProfileImageUrl document)) := by
  have hnotify : ChatOpening.ownAnswered ⟨none, some "bob", []⟩
      ⟨some "Bob", some "https://example.com/bob.png", none⟩ (getProfileImageUrl document) =
        .notify ⟨none, some "bob", []⟩
          ⟨some "Bob", some "https://example.com/bob.png", getProfileImageUrl document⟩ := by
    cases hurl : getProfileImageUrl document <;> rfl
  have hanswered := Run.single (@ChatOpeningStep.ownAnswered ⟨none, some "bob", []⟩
    ⟨some "Bob", some "https://example.com/bob.png", none⟩ document)
  rw [hnotify] at hanswered
  exact (hanswered.snoc ChatOpeningStep.push).snoc
    (ChatOpeningStep.screen (ChatScreenStep.deliver (by decide)))

theorem open_aliceAtBob : ChatRoute.open (.users (some "alice") [bobData] 0) =
    some (.ownLookup ⟨none, some "bob", []⟩
      ⟨some "Bob", some "https://example.com/bob.png", none⟩) := by
  rfl

theorem message_aliceAtBob (currentUserProfileImageUrl : Option String) :
    (aliceAtBob currentUserProfileImageUrl).message 0 = some aliceToBob := by
  rfl

theorem alice_sees_herself :
    ((aliceAtBob (getProfileImageUrl (some aliceData))).cellForRowAt 0).isSome := by
  refine (cell_unwraps_iff open_aliceAtBob (run_aliceAtBob (some aliceData))
    (message_aliceAtBob _)).2 ⟨fun _ => ⟨aliceData, List.mem_cons_self, rfl⟩, fun hnot => ?_⟩
  exact absurd rfl hnot

/-- An account that was left without a document cannot show its own message. -/
theorem missing_own_document_traps :
    ¬ ∀ (route : ChatRoute) (s₀ s : ChatOpening) (es : List ChatOpeningEvent) (row : ℕ)
      (message : Message), route.open = some s₀ → Run ChatOpeningStep s₀ es s →
        s.message row = some message → (s.cellForRowAt row).isSome := by
  intro hunwraps
  have hcell := hunwraps _ _ _ _ 0 aliceToBob open_aliceAtBob (run_aliceAtBob none)
    (message_aliceAtBob _)
  revert hcell
  decide

end ChatApp
end IosProjects
