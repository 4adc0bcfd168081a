import IosProjects.ChatApp.Register

/-!
# UsersList — the list of users shows who has registered

`UsersViewController` lists the documents of the collection that `RegisterViewController` writes,
one at the end of each registration. So its rows go back to presses of the Register button: each row
is a user whose account, picture and document have been stored in turn, with the names that were
typed.
-/

namespace IosProjects
namespace ChatApp

open IosProjects.Library

/-! ## The history of a registration -/

/-- The button was pressed with the form, and an account was created for it. -/
def AccountCreated (es : List RegisterEvent) (form : RegisterForm) (userId : String) : Prop :=
  pressWith form ∈ es ∧ .answer (.createUser form) (.succeeded userId) ∈ es

/-- The picture of the account was stored under the address. -/
def PictureStored (es : List RegisterEvent) (userId : String) (form : RegisterForm) (url : String) :
    Prop :=
  .answer (.downloadURL userId form) (.succeeded url) ∈ es

/-- The document of the account was written. -/
def DocumentWritten (es : List RegisterEvent) (userId : String) (form : RegisterForm)
    (url : String) : Prop :=
  .answer (.setData userId form url) .nothing ∈ es

/-- All that registering takes has happened. -/
structure RegisteredAs (es : List RegisterEvent) (userId : String) (form : RegisterForm)
    (url : String) : Prop where
  created : AccountCreated es form userId
  stored : PictureStored es userId form url
  written : DocumentWritten es userId form url

/-- What has happened before a request is made. -/
def RegisterRequest.CameFrom (es : List RegisterEvent) : RegisterRequest → Prop
  | .createUser form => pressWith form ∈ es
  | .putData userId form _ => AccountCreated es form userId
  | .downloadURL userId form => AccountCreated es form userId
  | .setData userId form url => AccountCreated es form userId ∧ PictureStored es userId form url

section History

variable {es es' : List RegisterEvent} {e : RegisterEvent} {s t : RegisterState} {userId : String}
  {form : RegisterForm} {url : String}

theorem AccountCreated.mono (h : AccountCreated es form userId) (hsub : es ⊆ es') :
    AccountCreated es' form userId :=
  ⟨hsub h.1, hsub h.2⟩

theorem RegisteredAs.mono (h : RegisteredAs es userId form url) (hsub : es ⊆ es') :
    RegisteredAs es' userId form url :=
  ⟨h.created.mono hsub, hsub h.stored, hsub h.written⟩

theorem RegisterRequest.CameFrom.mono {request : RegisterRequest} (h : request.CameFrom es)
    (hsub : es ⊆ es') : request.CameFrom es' := by
  cases request with
  | createUser form => exact hsub h
  | putData userId form imageData => exact AccountCreated.mono h hsub
  | downloadURL userId form => exact AccountCreated.mono h hsub
  | setData userId form url => exact ⟨h.1.mono hsub, hsub h.2⟩

/-- A request that an answer makes came from the request that is answered. -/
theorem cameFrom_answer {request : RegisterRequest} {response : RegisterResponse}
    (h : ∀ request ∈ s.requests, request.CameFrom es) (hmem : request ∈ s.requests) :
    ∀ next ∈ (s.answer request response).requests,
      next.CameFrom (es ++ [.answer request response]) := by
  have hsub : es ⊆ es ++ [.answer request response] := List.subset_append_left _ _
  have hlast : .answer request response ∈ es ++ [.answer request response] :=
    List.mem_append_right _ (List.mem_singleton_self _)
  have hrest :
      ∀ next ∈ s.requests.erase request, next.CameFrom (es ++ [.answer request response]) :=
    fun next hnext => (h next (List.mem_of_mem_erase hnext)).mono hsub
  have hbefore := (h request hmem).mono hsub
  cases response with
  | failed error => cases request <;> exact hrest
  | nothing => cases request <;> exact hrest
  | succeeded result =>
      intro next hnext
      cases request with
      | createUser form =>
          rcases List.mem_append.1 hnext with hnext | hnext
          · exact hrest next hnext
          · -- the upload, if there is one
            unfold RegisterState.upload at hnext
            split at hnext
            · obtain rfl := List.mem_singleton.1 hnext
              exact ⟨hbefore, hlast⟩
            · cases hnext
      | putData userId form imageData =>
          rcases List.mem_append.1 hnext with hnext | hnext
          · exact hrest next hnext
          · obtain rfl := List.mem_singleton.1 hnext
            exact hbefore
      | downloadURL userId form =>
          rcases List.mem_append.1 hnext with hnext | hnext
          · exact hrest next hnext
          · obtain rfl := List.mem_singleton.1 hnext
            exact ⟨hbefore, hlast⟩
      | setData userId form url => exact hrest next hnext

/-- An answer leaves the collection alone, or writes the document of an account. -/
theorem users_answer (request : RegisterRequest) (response : RegisterResponse) :
    (s.answer request response).users = s.users ∨
      ∃ userId form url, request = .setData userId form url ∧ response = .nothing ∧
        (s.answer request response).users =
          fun id => if id = userId then some (userData userId form url) else s.users id := by
  cases request with
  | createUser form => cases response <;> exact Or.inl rfl
  | putData userId form imageData => cases response <;> exact Or.inl rfl
  | downloadURL userId form => cases response <;> exact Or.inl rfl
  | setData userId form url =>
      cases response with
      | failed error => exact Or.inl rfl
      | succeeded result => exact Or.inl rfl
      | nothing => exact Or.inr ⟨userId, form, url, rfl, rfl, rfl⟩

/-- The requests came from the events, and the documents are the ones that have been written. -/
structure UsersRecorded (es : List RegisterEvent) (s : RegisterState) : Prop where
  requests : ∀ request ∈ s.requests, request.CameFrom es
  registered : ∀ userId doc, s.users userId = some doc →
    ∃ form url, RegisteredAs es userId form url ∧ doc = userData userId form url
  written : ∀ userId form url, DocumentWritten es userId form url →
    s.users userId = some (userData userId form url)

/-- Events that write no document. -/
theorem UsersRecorded.of_users_eq (h : UsersRecorded es s) (husers : t.users = s.users)
    (hrequests : ∀ request ∈ t.requests, request.CameFrom (es ++ [e]))
    (he : ∀ userId form url, e ≠ .answer (.setData userId form url) .nothing) :
    UsersRecorded (es ++ [e]) t where
  requests := hrequests
  registered := by
    rw [husers]
    intro userId doc hdoc
    obtain ⟨form, url, hregistered, rfl⟩ := h.registered userId doc hdoc
    exact ⟨form, url, hregistered.mono (List.subset_append_left _ _), rfl⟩
  written := by
    rw [husers]
    intro userId form url hmem
    rcases List.mem_append.1 hmem with hmem | hmem
    · exact h.written userId form url hmem
    · exact absurd (List.mem_singleton.1 hmem).symm (he userId form url)

theorem UsersRecorded.step (h : UsersRecorded es s) (hsound : s.Sound)
    (hstep : RegisterStep s e t) :
    UsersRecorded (es ++ [e]) t := by
  have hsub : es ⊆ es ++ [e] := List.subset_append_left _ _
  cases hstep with
  | selectImage =>
      exact h.of_users_eq rfl (fun request hmem => (h.requests request hmem).mono hsub) (by simp)
  | @registerButtonClick firstName lastName email password =>
      refine h.of_users_eq ?_ (fun request hmem => ?_) (by simp)
      · unfold RegisterState.registerButtonClick
        split <;> rfl
      · unfold RegisterState.registerButtonClick at hmem
        split at hmem
        · rcases List.mem_append.1 hmem with hmem | hmem
          · exact (h.requests request hmem).mono hsub
          · obtain rfl := List.mem_singleton.1 hmem
            exact List.mem_append_right _ (List.mem_singleton_self _)
        · exact (h.requests request hmem).mono hsub
  | @answer request response hmem _ _ =>
      have hrequests : ∀ next ∈ (s.answer request response).requests,
          next.CameFrom (es ++ [.answer request response]) := cameFrom_answer h.requests hmem
      by_cases hwrites : ∃ userId form url, request = .setData userId form url ∧ response = .nothing
      · obtain ⟨userId, form, url, rfl, rfl⟩ := hwrites
        have hfrom := h.requests _ hmem
        have hnone : s.users userId = none := by
          refine hsound.undocumented userId (Multiset.mem_coe.2 ?_)
          exact List.mem_filterMap.2 ⟨_, hmem, rfl⟩
        refine ⟨hrequests, fun id doc hdoc => ?_, fun id form' url' hwritten => ?_⟩
        · by_cases hid : id = userId
          · subst hid
            obtain rfl : userData id form url = doc := by simpa [RegisterState.answer] using hdoc
            exact ⟨form, url, ⟨hfrom.1.mono hsub, hsub hfrom.2,
              List.mem_append_right _ (List.mem_singleton_self _)⟩, rfl⟩
          · have hold : s.users id = some doc := by simpa [RegisterState.answer, hid] using hdoc
            obtain ⟨form', url', hregistered, rfl⟩ := h.registered id doc hold
            exact ⟨form', url', hregistered.mono hsub, rfl⟩
        · rcases List.mem_append.1 hwritten with hmem' | hmem'
          · -- a document that is there is not written again
            have hold := h.written id form' url' hmem'
            have hid : id ≠ userId := by
              rintro rfl
              rw [hnone] at hold
              cases hold
            simpa [RegisterState.answer, hid] using hold
          · obtain ⟨hrequest, _⟩ := RegisterEvent.answer.inj (List.mem_singleton.1 hmem')
            obtain ⟨rfl, rfl, rfl⟩ := RegisterRequest.setData.inj hrequest
            simp [RegisterState.answer]
      · refine h.of_users_eq ?_ hrequests ?_
        · rcases users_answer (s := s) request response with
            hsame | ⟨userId, form, url, rfl, rfl, _⟩
          · exact hsame
          · exact absurd ⟨userId, form, url, rfl, rfl⟩ hwrites
        · intro userId form url heq
          obtain ⟨rfl, rfl⟩ := RegisterEvent.answer.inj heq
          exact hwrites ⟨userId, form, url, rfl, rfl⟩

end History

/-! ## The rows -/

/-- Nobody has registered yet. -/
def RegisterState.empty (image : Option UIImage) : RegisterState where
  image := image
  accounts := []
  users := fun _ => none
  requests := []

/-- What a cell shows: the name, and the picture of the address it has been loaded from. -/
structure UserCell where
  nameLabel : Option String
  profileImageView : Option String
  deriving DecidableEq, Repr

namespace UsersViewController

/-- `tableView(_:numberOfRowsInSection:)`. -/
def numberOfRowsInSection (users : List User) : ℕ :=
  users.length

/-- `tableView(_:cellForRowAt:)` with the cell it dequeues; an index out of range traps. -/
def cellForRowAt (row : ℕ) (cell : UserCell) (users : List User) : Option UserCell :=
  match users[row]? with
  | none => none
  | some user =>
      let cell := { cell with nameLabel := some user.firstName }
      match user.profileImageUrl with
      | some profileImageUrl => some { cell with profileImageView := some profileImageUrl }
      | none => some cell

end UsersViewController

/-- What `getDocuments()` finds: each document of the collection once, in any order. -/
structure IsListing (users : String → Option Document) (docs : List Document) : Prop where
  mem_iff : ∀ doc, doc ∈ docs ↔ ∃ userId, users userId = some doc
  nodup : (docs.map Document.documentID).Nodup

section Rows

variable {image : Option UIImage} {es : List RegisterEvent} {s : RegisterState}
    {docs : List Document}

theorem usersRecorded_of_run (hrun : Run RegisterStep (.empty image) es s) :
    UsersRecorded es s := by
  refine hrun.invariant_history ?_ ?_
  · exact ⟨by simp [RegisterState.empty], by simp [RegisterState.empty], by simp [DocumentWritten]⟩
  · intro es s e t hrun h hstep
    exact h.step ((RegisterState.sound_of_requests_eq_nil rfl).run hrun) hstep

/-- The rows of a list as their documents are told apart. -/
theorem nodup_fetchUsers (hnodup : (docs.map Document.documentID).Nodup)
    (hids : ∀ doc ∈ docs, ∀ user, userOf doc = some user → user.id = doc.documentID)
    (uid : Option String) : ((fetchUsers uid docs).map User.id).Nodup := by
  rw [fetchUsers_eq]
  refine List.Nodup.sublist (List.filter_sublist.map _) ?_
  have hpairwise := List.pairwise_map.1 hnodup
  refine List.pairwise_map.2 (List.pairwise_filterMap.2 ?_)
  refine hpairwise.imp_of_mem fun {doc doc'} hdoc hdoc' hne user huser user' huser' hsame => ?_
  exact hne ((hids doc hdoc user huser).symm.trans (hsame.trans (hids doc' hdoc' user' huser')))

/-- The users of the list are the other users who have registered. -/
theorem mem_fetchUsers_iff (hrun : Run RegisterStep (.empty image) es s)
    (hdocs : IsListing s.users docs) (uid : Option String) :
    ((fetchUsers uid docs).map User.id).Nodup ∧
      ∀ user, user ∈ fetchUsers uid docs ↔ some user.id ≠ uid ∧ ∃ form url,
        RegisteredAs es user.id form url ∧
          user = ⟨user.id, form.firstName, form.lastName, form.email, some url⟩ := by
  have hrecorded := usersRecorded_of_run hrun
  have hdocuments : ∀ doc ∈ docs, ∃ userId form url, RegisteredAs es userId form url ∧
      doc = userData userId form url := by
    intro doc hdoc
    obtain ⟨userId, huser⟩ := (hdocs.mem_iff doc).1 hdoc
    exact ⟨userId, hrecorded.registered userId doc huser⟩
  constructor
  · refine nodup_fetchUsers hdocs.nodup (fun doc hdoc user huser => ?_) uid
    obtain ⟨userId, form, url, _, rfl⟩ := hdocuments doc hdoc
    rw [userOf_userData] at huser
    exact (congrArg User.id (Option.some.inj huser)).symm
  · intro user
    rw [fetchUsers_eq, List.mem_filter, List.mem_filterMap, decide_eq_true_iff, and_comm]
    refine and_congr_right fun _ => ⟨?_, ?_⟩
    · rintro ⟨doc, hdoc, huser⟩
      obtain ⟨userId, form, url, hregistered, rfl⟩ := hdocuments doc hdoc
      rw [userOf_userData] at huser
      obtain rfl := Option.some.inj huser
      exact ⟨form, url, hregistered, rfl⟩
    · rintro ⟨form, url, hregistered, hsame⟩
      have hwritten := hrecorded.written user.id form url hregistered.written
      refine ⟨_, (hdocs.mem_iff _).2 ⟨user.id, hwritten⟩, ?_⟩
      rw [userOf_userData, ← hsame]

/-- Whatever registrations run at once, fail or are tried again: the list of users that somebody
fetches has a row, and only one, for each of the other users who have registered, with the names of
the form that the account was created with and the address of the picture that was stored for it;
and the cell of every row the table announces shows them, whatever it showed before. -/
theorem users_list_shows_registered (hrun : Run RegisterStep (.empty image) es s)
    (hdocs : IsListing s.users docs) (uid : Option String) :
    (((fetchUsers uid docs).map User.id).Nodup ∧
      ∀ user, user ∈ fetchUsers uid docs ↔ some user.id ≠ uid ∧ ∃ form url,
        RegisteredAs es user.id form url ∧
          user = ⟨user.id, form.firstName, form.lastName, form.email, some url⟩) ∧
      (∀ row < UsersViewController.numberOfRowsInSection (fetchUsers uid docs), ∃ userId form url,
        some userId ≠ uid ∧ RegisteredAs es userId form url ∧
          (fetchUsers uid docs)[row]? =
            some ⟨userId, form.firstName, form.lastName, form.email, some url⟩ ∧
          ∀ cell, UsersViewController.cellForRowAt row cell (fetchUsers uid docs) =
            some ⟨some form.firstName, some url⟩) ∧
      ∀ userId form url, some userId ≠ uid → RegisteredAs es userId form url →
        ∃! row, row < UsersViewController.numberOfRowsInSection (fetchUsers uid docs) ∧
          ((fetchUsers uid docs)[row]?).map User.id = some userId := by
  obtain ⟨hnodup, hmem⟩ := mem_fetchUsers_iff hrun hdocs uid
  refine ⟨⟨hnodup, hmem⟩, fun row hrow => ?_, fun userId form url hother hregistered => ?_⟩
  · have huser := List.getElem?_eq_getElem hrow
    obtain ⟨hother, form, url, hregistered, hsame⟩ := (hmem _).1 (List.getElem_mem hrow)
    rw [hsame] at huser
    refine ⟨_, form, url, hother, hregistered, huser, fun cell => ?_⟩
    simp only [UsersViewController.cellForRowAt, huser]
  · let user : User := ⟨userId, form.firstName, form.lastName, form.email, some url⟩
    have huser : user ∈ fetchUsers uid docs := (hmem user).2 ⟨hother, form, url, hregistered, rfl⟩
    obtain ⟨row, hrow, hget⟩ := List.getElem_of_mem huser
    have hid : ((fetchUsers uid docs)[row]?).map User.id = some userId := by
      rw [List.getElem?_eq_getElem hrow, hget, Option.map_some]
    refine ⟨row, ⟨hrow, hid⟩, fun row' hrow' => ?_⟩
    -- two rows of one user would repeat its identifier
    rw [← List.getElem?_map] at hid
    rw [← List.getElem?_map] at hrow'
    have hlt : row' < ((fetchUsers uid docs).map User.id).length := by
      rw [List.length_map]
      exact hrow'.1
    exact (List.getElem?_inj hlt hnodup).1 (hrow'.2.trans hid.symm)

end Rows

/-- Alice is listed, and her row shows her name and loads the picture that was stored for her. -/
theorem alice_listed :
    ⟨"alice", "Alice", "Smith", "alice@mail", some "alice.jpg"⟩ ∈
        fetchUsers (some "bob") [userData "alice" aliceForm "alice.jpg"] ∧
      UsersViewController.numberOfRowsInSection
        (fetchUsers (some "bob") [userData "alice" aliceForm "alice.jpg"]) = 1 ∧
      UsersViewController.cellForRowAt 0 ⟨some "Carol", some "carol.jpg"⟩
          (fetchUsers (some "bob") [userData "alice" aliceForm "alice.jpg"]) =
        some ⟨some "Alice", some "alice.jpg"⟩ := by
  have hrun : Run RegisterStep (.empty RegisterState.fresh.image) _ _ :=
    ((run_createUser_alice.snoc
      (.answer_of_userId (.succeeded "metadata") (List.mem_singleton_self _)
      trivial rfl)).snoc (.answer_of_userId (.succeeded "alice.jpg")
        (List.mem_singleton_self _) trivial rfl)).snoc
      (.answer_of_userId .nothing (List.mem_singleton_self _) trivial rfl)
  have hdocs :
      IsListing (fun id => if id = "alice" then some (userData "alice" aliceForm "alice.jpg")
      else none) [userData "alice" aliceForm "alice.jpg"] := by
    refine ⟨fun doc => ?_, List.nodup_singleton _⟩
    simp only [List.mem_singleton, Option.ite_none_right_eq_some, Option.some.injEq]
    exact ⟨fun h => ⟨"alice", rfl, h.symm⟩, fun ⟨_, _, h⟩ => h.symm⟩
  obtain ⟨⟨_, hmem⟩, hrows, _⟩ := users_list_shows_registered hrun hdocs (some "bob")
  have halice : ⟨"alice", "Alice", "Smith", "alice@mail", some "alice.jpg"⟩ ∈
      fetchUsers (some "bob") [userData "alice" aliceForm "alice.jpg"] := by
    refine (hmem _).2 ⟨by decide, aliceForm, "alice.jpg", ⟨⟨?_, ?_⟩, ?_, ?_⟩, rfl⟩ <;>
      simp [PictureStored, DocumentWritten]
  have hone : UsersViewController.numberOfRowsInSection
      (fetchUsers (some "bob") [userData "alice" aliceForm "alice.jpg"]) = 1 := by decide +kernel
  obtain ⟨userId, form, url, _, _, huser, hcell⟩ := hrows 0 (hone ▸ Nat.one_pos)
  refine ⟨halice, hone, (hcell _).trans ?_⟩
  -- the only row is hers
  obtain ⟨row, hrow, hget⟩ := List.getElem_of_mem halice
  obtain rfl : row = 0 := Nat.lt_one_iff.1 (hone ▸ hrow)
  rw [List.getElem?_eq_getElem hrow, hget] at huser
  simp only [Option.some.injEq, User.mk.injEq] at huser
  rw [← huser.2.1, ← huser.2.2.2.2]

end ChatApp
end IosProjects
