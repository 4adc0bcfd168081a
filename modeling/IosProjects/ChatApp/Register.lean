import Mathlib.Data.Multiset.Filter
import IosProjects.Library.Run
import IosProjects.Library.Saga
import IosProjects.ChatApp.Chat

/-!
# Register — an account, a picture and a document, one after the other

`RegisterViewController` creates an account, uploads the picture, asks for its address and writes
the document of the user, each step in the completion of the one before. A step that fails ends the
attempt, and what has been done so far stays.

The alert shown when no account is created is left out, as is the screen that opens at the end.
-/

namespace IosProjects
namespace ChatApp

open IosProjects.Library

/-! ## Requests -/

abbrev Data := List UInt8

structure UIImage where
  pngData : Option Data
  deriving DecidableEq, Repr

/-- The texts of the four fields. -/
structure RegisterForm where
  firstName : String
  lastName : String
  email : String
  password : String
  deriving DecidableEq, Repr

/-- The remote steps, with what their completions know. -/
inductive RegisterRequest where
  | createUser (form : RegisterForm)
  | putData (userId : String) (form : RegisterForm) (imageData : Data)
  | downloadURL (userId : String) (form : RegisterForm)
  | setData (userId : String) (form : RegisterForm) (profileImageUrl : String)
  deriving DecidableEq, Repr

/-- The user an account has been created for. -/
def RegisterRequest.userId : RegisterRequest → Option String
  | .createUser _ => none
  | .putData userId _ _ => some userId
  | .downloadURL userId _ => some userId
  | .setData userId _ _ => some userId

/-- What a completion is called with: an error, neither a result nor an error, or a result, which is
the identifier of the new user or the address of the picture where it is used. -/
inductive RegisterResponse where
  | failed (error : String)
  | nothing
  | succeeded (result : String)
  deriving DecidableEq, Repr

/-- The completion has what it asks for. The one of `setData(_:)` knows of nothing but an error. -/
def RegisterRequest.succeeds : RegisterRequest → RegisterResponse → Bool
  | .setData _ _ _, .nothing => true
  | .setData _ _ _, _ => false
  | _, .succeeded _ => true
  | _, _ => false

/-- The response is one of those the completion may be called with. -/
def RegisterRequest.CanGet : RegisterRequest → RegisterResponse → Prop
  | .setData _ _ _, .succeeded _ => False
  | _, _ => True

/-- The fields written for a user. -/
def userData (userId : String) (form : RegisterForm) (profileImageUrl : String) : Document where
  documentID := userId
  data := fun field =>
    if field = "id" then some (.string userId)
    else if field = "firstName" then some (.string form.firstName)
    else if field = "lastName" then some (.string form.lastName)
    else if field = "email" then some (.string form.email)
    else if field = "profileImageUrl" then some (.string profileImageUrl)
    else none

/-- The list of users can read them back. -/
theorem userOf_userData (userId : String) (form : RegisterForm) (profileImageUrl : String) :
    userOf (userData userId form profileImageUrl) =
      some ⟨userId, form.firstName, form.lastName, form.email, some profileImageUrl⟩ := by
  simp [userOf, userData, asString]

/-! ## The screen, the accounts and the documents -/

/-- `image` is the picture on the screen, `accounts` are the e-mails of the auth service with their
user identifiers, and `users` is the collection of that name. -/
structure RegisterState where
  image : Option UIImage
  accounts : List (String × String)
  users : String → Option Document
  requests : List RegisterRequest

namespace RegisterState

/-- `imagePickerController(_:didFinishPickingMediaWithInfo:)`. -/
def selectImage (image : UIImage) (s : RegisterState) : RegisterState :=
  { s with image := some image }

/-- `registerButtonClick()`, with the texts of the fields. -/
def registerButtonClick (firstName lastName email password : Option String) (s : RegisterState) :
    RegisterState :=
  match firstName, lastName, email, password with
  | some firstName, some lastName, some email, some password =>
      { s with requests := s.requests ++ [.createUser ⟨firstName, lastName, email, password⟩] }
  | _, _, _, _ => s

/-- The picture is read when the account has been created. -/
def imageData (s : RegisterState) : Option Data :=
  s.image.bind UIImage.pngData

/-- The upload, if the picture has data. -/
def upload (userId : String) (form : RegisterForm) (s : RegisterState) : List RegisterRequest :=
  match s.imageData with
  | some imageData => [.putData userId form imageData]
  | none => []

/-- A request is answered, and its completion runs. -/
def answer (request : RegisterRequest) (response : RegisterResponse) (s : RegisterState) :
    RegisterState :=
  let rest := s.requests.erase request
  match request, response with
  | .createUser form, .succeeded userId =>
      { s with
        accounts := s.accounts ++ [(form.email, userId)]
        requests := rest ++ s.upload userId form }
  | .putData userId form _, .succeeded _ =>
      { s with requests := rest ++ [.downloadURL userId form] }
  | .downloadURL userId form, .succeeded url =>
      { s with requests := rest ++ [.setData userId form url] }
  | .setData userId form url, .nothing =>
      { s with
        users := fun id => if id = userId then some (userData userId form url) else s.users id
        requests := rest }
  -- an error or an empty answer: the completion returns, and the account stays as it is
  | _, _ => { s with requests := rest }

/-- The auth service creates no second account for an e-mail, and gives every user an identifier
that has not been used. -/
def CanCreate (form : RegisterForm) (userId : String) (s : RegisterState) : Prop :=
  (∀ account ∈ s.accounts, account.1 ≠ form.email ∧ account.2 ≠ userId) ∧ s.users userId = none

end RegisterState

inductive RegisterEvent where
  | selectImage (image : UIImage)
  | registerButtonClick (firstName lastName email password : Option String)
  | answer (request : RegisterRequest) (response : RegisterResponse)
  deriving DecidableEq, Repr

inductive RegisterStep : RegisterState → RegisterEvent → RegisterState → Prop where
  | selectImage {s : RegisterState} {image : UIImage} :
      RegisterStep s (.selectImage image) (s.selectImage image)
  | registerButtonClick {s : RegisterState} {firstName lastName email password : Option String} :
      RegisterStep s (.registerButtonClick firstName lastName email password)
        (s.registerButtonClick firstName lastName email password)
  -- in any order, and with any response the service can give
  | answer {s : RegisterState} {request : RegisterRequest} {response : RegisterResponse} :
      request ∈ s.requests → request.CanGet response →
      (∀ form userId, request = .createUser form → response = .succeeded userId →
        s.CanCreate form userId) →
      RegisterStep s (.answer request response) (s.answer request response)

theorem registerStep_deterministic : Deterministic RegisterStep := by
  intro s e t u ht hu
  cases ht <;> cases hu <;> rfl

/-! ## What registration promises -/

namespace RegisterState

/-- The users whose document has the fields that `fetchUsers` asks for. -/
def documented (s : RegisterState) : Set String :=
  { userId | ∃ doc, s.users userId = some doc ∧ (userOf doc).isSome }

/-- Every account has such a document. -/
def Complete (s : RegisterState) : Prop :=
  ∀ account ∈ s.accounts, account.2 ∈ s.documented

end RegisterState

/-- The answer is no failure, unless it tells that the e-mail already has an account. -/
def Flawless (s : RegisterState) (e : RegisterEvent) (_ : RegisterState) : Prop :=
  ∀ request response, e = .answer request response →
    (request.succeeds response = true ∧ ∀ form, request = .createUser form → s.imageData.isSome) ∨
      ∃ form, request = .createUser form ∧ ∃ account ∈ s.accounts, account.1 = form.email

/-- The press of the button with the texts of a form. -/
def pressWith (form : RegisterForm) : RegisterEvent :=
  .registerButtonClick (some form.firstName) (some form.lastName) (some form.email)
    (some form.password)

/-- Pressing the button, with nothing failing from then on, ends with an account for the e-mail and
its document. -/
def Retryable (s : RegisterState) : Prop :=
  ∀ form es t, Run RegisterStep s (pressWith form :: es) t →
    Along RegisterStep s (pressWith form :: es) Flawless → t.requests = [] →
      ∃ userId, (form.email, userId) ∈ t.accounts ∧ userId ∈ t.documented

/-- The step leaves an account behind without a document and without a request that would write it:
an account is created while the picture has no data, or one of the later requests does not
succeed. -/
def Abandons (s : RegisterState) : RegisterEvent → Prop
  | .answer (.createUser _) (.succeeded _) => s.imageData = none
  | .answer (.createUser _) _ => False
  | .answer request response => request.succeeds response = false
  | _ => False

/-! ## Registration as a saga -/

namespace RegisterState

/-- The users that requests are about. -/
def usersOf (requests : List RegisterRequest) : Multiset String :=
  (requests.filterMap RegisterRequest.userId : List String)

theorem usersOf_concat {requests : List RegisterRequest} {request : RegisterRequest}
    {userId : String} (h : request.userId = some userId) :
    usersOf (requests ++ [request]) = userId ::ₘ usersOf requests := by
  refine Multiset.coe_eq_coe.2 ?_
  rw [List.filterMap_append, List.filterMap_cons_some h, List.filterMap_nil]
  exact List.perm_append_singleton _ _

theorem usersOf_concat_none {requests : List RegisterRequest} {request : RegisterRequest}
    (h : request.userId = none) : usersOf (requests ++ [request]) = usersOf requests := by
  refine congrArg (fun users : List String => (users : Multiset String)) ?_
  rw [List.filterMap_append, List.filterMap_cons_none h, List.filterMap_nil, List.append_nil]

theorem usersOf_of_mem {requests : List RegisterRequest} {request : RegisterRequest}
    {userId : String} (hmem : request ∈ requests) (h : request.userId = some userId) :
    usersOf requests = userId ::ₘ usersOf (requests.erase request) :=
  calc
    usersOf requests = usersOf (request :: requests.erase request) :=
        Multiset.coe_eq_coe.2 ((List.perm_cons_erase hmem).filterMap _)
    _ = userId ::ₘ usersOf (requests.erase request) := by
        rw [usersOf, List.filterMap_cons_some h]
        rfl

theorem usersOf_of_mem_none {requests : List RegisterRequest} {request : RegisterRequest}
    (hmem : request ∈ requests) (h : request.userId = none) :
    usersOf requests = usersOf (requests.erase request) :=
  calc
    usersOf requests = usersOf (request :: requests.erase request) :=
        Multiset.coe_eq_coe.2 ((List.perm_cons_erase hmem).filterMap _)
    _ = usersOf (requests.erase request) := by
        rw [usersOf, List.filterMap_cons_none h, ← usersOf]

def inFlight (s : RegisterState) : Multiset String :=
  usersOf s.requests

/-- An account has a request in flight once at most, and only while it has no document. -/
structure Sound (s : RegisterState) : Prop where
  nodup : s.inFlight.Nodup
  created : ∀ userId ∈ s.inFlight, userId ∈ s.accounts.map Prod.snd
  undocumented : ∀ userId ∈ s.inFlight, s.users userId = none

theorem sound_of_requests_eq_nil {s : RegisterState} (h : s.requests = []) : Sound s := by
  constructor <;> simp [inFlight, usersOf, h]

def saga (s : RegisterState) (h : Sound s) : Saga String where
  created := { userId | userId ∈ s.accounts.map Prod.snd }
  complete := s.documented
  inFlight := s.inFlight
  inFlight_nodup := h.nodup
  inFlight_created := h.created
  inFlight_incomplete := by
    rintro userId hmem ⟨doc, hdoc, _⟩
    simp [h.undocumented userId hmem] at hdoc

/-- With no request in flight, the accounts are accounted for exactly when they are complete. -/
theorem accounted_iff_complete {s : RegisterState} (h : Sound s) (hrequests : s.requests = []) :
    (s.saga h).Accounted ↔ s.Complete := by
  have hinFlight : (s.saga h).inFlight = 0 := by simp [saga, inFlight, usersOf, hrequests]
  rw [Saga.accounted_iff_of_inFlight_eq_zero hinFlight]
  constructor
  · intro hsubset account haccount
    exact hsubset (List.mem_map_of_mem haccount)
  · rintro hcomplete userId huserId
    rcases List.mem_map.1 huserId with ⟨account, haccount, rfl⟩
    exact hcomplete account haccount

end RegisterState

/-- What an event does to the accounts. -/
def RegisterState.move (s : RegisterState) : RegisterEvent → Saga.Move String
  | .answer (.createUser _) (.succeeded userId) =>
      match s.imageData with
      | some _ => .create userId
      | none => .createOnly userId
  | .answer (.setData userId _ _) .nothing => .complete userId
  | .answer (.putData _ _ _) (.succeeded _) => .idle
  | .answer (.downloadURL _ _) (.succeeded _) => .idle
  | .answer request _ => request.userId.elim .idle .abandon
  | _ => .idle

theorem abandons_move_iff (s : RegisterState) (e : RegisterEvent) :
    (s.move e).Abandons ↔ Abandons s e := by
  cases e with
  | selectImage _ => rfl
  | registerButtonClick _ _ _ _ => rfl
  | answer request response =>
      cases request with
      | createUser form =>
          cases response with
          | succeeded userId =>
              cases himage : s.imageData <;>
                simp [RegisterState.move, Abandons, Saga.Move.Abandons, himage]
          | failed error => exact Iff.rfl
          | nothing => exact Iff.rfl
      | putData _ _ _ =>
          cases response <;>
            simp [RegisterState.move, Abandons, RegisterRequest.succeeds, RegisterRequest.userId,
              Saga.Move.Abandons]
      | downloadURL _ _ =>
          cases response <;>
            simp [RegisterState.move, Abandons, RegisterRequest.succeeds, RegisterRequest.userId,
              Saga.Move.Abandons]
      | setData _ _ _ =>
          cases response <;>
            simp [RegisterState.move, Abandons, RegisterRequest.succeeds, RegisterRequest.userId,
              Saga.Move.Abandons]

section Refinement

variable {s t : RegisterState}

namespace RegisterState

theorem documented_congr (husers : t.users = s.users) : t.documented = s.documented := by
  rw [documented, documented, husers]

/-- Nothing changes for any account. -/
theorem saga_idle (hs : Sound s) (haccounts : t.accounts = s.accounts) (husers : t.users = s.users)
    (hinFlight : t.inFlight = s.inFlight) :
    ∃ ht : Sound t, Saga.Step (s.saga hs) .idle (t.saga ht) := by
  have ht : Sound t := by
    refine ⟨?_, ?_, ?_⟩ <;> rw [hinFlight]
    · exact hs.nodup
    · rw [haccounts]
      exact hs.created
    · rw [husers]
      exact hs.undocumented
  exact ⟨ht, .idle (by simp only [saga, haccounts]) (documented_congr husers) hinFlight⟩

/-- A new account is none of those there were, and has no document. -/
theorem CanCreate.fresh {form : RegisterForm} {userId : String} (hcan : s.CanCreate form userId) :
    userId ∉ s.accounts.map Prod.snd ∧ userId ∉ s.documented := by
  constructor
  · intro hmem
    rcases List.mem_map.1 hmem with ⟨account, haccount, hid⟩
    exact (hcan.1 account haccount).2 hid
  · rintro ⟨doc, hdoc, _⟩
    simp [hcan.2] at hdoc

theorem created_concat {email userId : String}
    (haccounts : t.accounts = s.accounts ++ [(email, userId)]) :
    { id | id ∈ t.accounts.map Prod.snd } =
      insert userId { id | id ∈ s.accounts.map Prod.snd } := by
  ext id
  simp [haccounts, or_comm]

/-- A new account, with an upload in flight. -/
theorem saga_create {form : RegisterForm} {userId : String} (hs : Sound s)
    (hcan : s.CanCreate form userId) (haccounts : t.accounts = s.accounts ++ [(form.email, userId)])
    (husers : t.users = s.users) (hinFlight : t.inFlight = userId ::ₘ s.inFlight) :
    ∃ ht : Sound t, Saga.Step (s.saga hs) (.create userId) (t.saga ht) := by
  rcases hcan.fresh with ⟨hnew, hnone⟩
  have hcreated := created_concat haccounts
  have ht : Sound t := {
    nodup := by
      -- a new account has no request yet
      rw [hinFlight]
      exact Multiset.nodup_cons.2 ⟨fun hmem => hnew (hs.created userId hmem), hs.nodup⟩
    created := by
      rw [hinFlight]
      intro id hid
      apply hcreated.ge
      exact (Multiset.mem_cons.1 hid).imp_right (hs.created id)
    undocumented := by
      rw [hinFlight, husers]
      intro id hid
      rcases Multiset.mem_cons.1 hid with rfl | hid
      · exact hcan.2
      · exact hs.undocumented id hid }
  exact ⟨ht, .create hnew hnone hcreated (documented_congr husers) hinFlight⟩

/-- A new account, without an upload. -/
theorem saga_createOnly {form : RegisterForm} {userId : String} (hs : Sound s)
    (hcan : s.CanCreate form userId) (haccounts : t.accounts = s.accounts ++ [(form.email, userId)])
    (husers : t.users = s.users) (hinFlight : t.inFlight = s.inFlight) :
    ∃ ht : Sound t, Saga.Step (s.saga hs) (.createOnly userId) (t.saga ht) := by
  rcases hcan.fresh with ⟨hnew, hnone⟩
  have hcreated := created_concat haccounts
  have ht : Sound t := {
    nodup := by
      rw [hinFlight]
      exact hs.nodup
    created := by
      rw [hinFlight]
      intro id hid
      apply hcreated.ge
      exact Or.inr (hs.created id hid)
    undocumented := by
      rw [hinFlight, husers]
      exact hs.undocumented }
  exact ⟨ht, .createOnly hnew hnone hcreated (documented_congr husers) hinFlight⟩

/-- The last request for an account brings no result. -/
theorem saga_abandon {userId : String} (hs : Sound s) (haccounts : t.accounts = s.accounts)
    (husers : t.users = s.users) (hinFlight : s.inFlight = userId ::ₘ t.inFlight) :
    ∃ ht : Sound t, Saga.Step (s.saga hs) (.abandon userId) (t.saga ht) := by
  have hmem : ∀ id ∈ t.inFlight, id ∈ s.inFlight := fun id hid => by
    rw [hinFlight]
    exact Multiset.mem_cons_of_mem hid
  have ht : Sound t := {
    nodup := (Multiset.nodup_cons.1 (hinFlight ▸ hs.nodup)).2
    created := by
      intro id hid
      rw [haccounts]
      exact hs.created id (hmem id hid)
    undocumented := by
      intro id hid
      rw [husers]
      exact hs.undocumented id (hmem id hid) }
  exact ⟨ht, .abandon hinFlight (by simp only [saga, haccounts]) (documented_congr husers)⟩

/-- The document of an account is written. -/
theorem saga_complete {userId : String} {doc : Document} (hs : Sound s)
    (haccounts : t.accounts = s.accounts)
    (husers : t.users = fun id => if id = userId then some doc else s.users id)
    (hdoc : (userOf doc).isSome) (hinFlight : s.inFlight = userId ::ₘ t.inFlight) :
    ∃ ht : Sound t, Saga.Step (s.saga hs) (.complete userId) (t.saga ht) := by
  have hnodup := Multiset.nodup_cons.1 (hinFlight ▸ hs.nodup)
  have hmem : ∀ id ∈ t.inFlight, id ∈ s.inFlight := fun id hid => by
    rw [hinFlight]
    exact Multiset.mem_cons_of_mem hid
  have ht : Sound t := {
    nodup := hnodup.2
    created := by
      intro id hid
      rw [haccounts]
      exact hs.created id (hmem id hid)
    undocumented := by
      intro id hid
      -- the account with the new document has no other request
      have hne : id ≠ userId := fun hsame => hnodup.1 (hsame ▸ hid)
      rw [husers]
      simpa [hne] using hs.undocumented id (hmem id hid) }
  refine ⟨ht, .complete hinFlight (by simp only [saga, haccounts]) ?_⟩
  ext id
  by_cases hid : id = userId <;> simp [saga, documented, husers, hid, hdoc]

end RegisterState

open RegisterState in
/-- A step of the registration is a move of the saga. -/
theorem RegisterStep.saga {e : RegisterEvent} (hs : Sound s) (hstep : RegisterStep s e t) :
    ∃ ht : Sound t, Saga.Step (s.saga hs) (s.move e) (t.saga ht) := by
  cases hstep with
  | selectImage => exact saga_idle hs rfl rfl rfl
  | registerButtonClick =>
      unfold RegisterState.registerButtonClick
      split
      · exact saga_idle hs rfl rfl (usersOf_concat_none rfl)
      · exact saga_idle hs rfl rfl rfl
  | @answer request response hrequest hget hcan =>
      cases request with
      | createUser form =>
          have hrest := usersOf_of_mem_none hrequest rfl
          cases response with
          | succeeded userId =>
              have hcan := hcan form userId rfl rfl
              -- without a picture the account is made and nothing follows
              cases himage : s.imageData with
              | some imageData =>
                  simp only [RegisterState.move, himage]
                  refine saga_create hs hcan rfl rfl ?_
                  simp only [inFlight, RegisterState.answer, upload, himage]
                  rw [usersOf_concat rfl, hrest]
              | none =>
                  simp only [RegisterState.move, himage]
                  refine saga_createOnly hs hcan rfl rfl ?_
                  simp only [inFlight, RegisterState.answer, upload, himage, List.append_nil, hrest]
          | failed error => exact saga_idle hs rfl rfl hrest.symm
          | nothing => exact saga_idle hs rfl rfl hrest.symm
      | putData userId form imageData =>
          -- the next request of the account takes the place of this one
          have hrest := usersOf_of_mem hrequest rfl
          cases response with
          | succeeded result => exact saga_idle hs rfl rfl ((usersOf_concat rfl).trans hrest.symm)
          | failed error => exact saga_abandon hs rfl rfl hrest
          | nothing => exact saga_abandon hs rfl rfl hrest
      | downloadURL userId form =>
          have hrest := usersOf_of_mem hrequest rfl
          cases response with
          | succeeded url => exact saga_idle hs rfl rfl ((usersOf_concat rfl).trans hrest.symm)
          | failed error => exact saga_abandon hs rfl rfl hrest
          | nothing => exact saga_abandon hs rfl rfl hrest
      | setData userId form url =>
          have hrest := usersOf_of_mem hrequest rfl
          cases response with
          | nothing =>
              have hdoc : (userOf (userData userId form url)).isSome := by simp [userOf_userData]
              exact saga_complete hs rfl rfl hdoc hrest
          | failed error => exact saga_abandon hs rfl rfl hrest
          | succeeded result => exact hget.elim

end Refinement

/-! ## Runs -/

namespace RegisterState

/-- Every account has its document or a request in flight. -/
def Accounted (s : RegisterState) : Prop :=
  ∀ userId ∈ s.accounts.map Prod.snd, userId ∈ s.documented ∨ userId ∈ s.inFlight

end RegisterState

theorem RegisterState.Sound.run {s t : RegisterState} {es : List RegisterEvent} (hs : s.Sound)
    (hrun : Run RegisterStep s es t) : t.Sound :=
  hrun.invariant (P := RegisterState.Sound) (fun _ _ _ h hstep => (hstep.saga h).1) hs

/-- The accounts are accounted for after a run if and only if they were before it and no step has
abandoned one. -/
theorem accounted_iff {s t : RegisterState} {es : List RegisterEvent} (hs : s.Sound)
    (hrun : Run RegisterStep s es t) :
    t.Accounted ↔ s.Accounted ∧ Along RegisterStep s es fun u e _ => ¬ Abandons u e := by
  apply hrun.iff_along registerStep_deterministic
  intro before u e v hu hstep
  rcases hstep.saga (hs.run hu) with ⟨_, hmove⟩
  rw [← abandons_move_iff]
  exact Saga.accounted_step_iff hmove

/-- Between two quiet states, the accounts stay complete if and only if none is abandoned. -/
theorem complete_iff {s t : RegisterState} {es : List RegisterEvent} (hs : s.requests = [])
    (hcomplete : s.Complete) (hrun : Run RegisterStep s es t) (ht : t.requests = []) :
    t.Complete ↔ Along RegisterStep s es fun u e _ => ¬ Abandons u e := by
  have hsound := RegisterState.sound_of_requests_eq_nil hs
  have hbefore := (RegisterState.accounted_iff_complete hsound hs).2 hcomplete
  rw [← RegisterState.accounted_iff_complete (hsound.run hrun) ht]
  exact (accounted_iff hsound hrun).trans (and_iff_right hbefore)

/-! ## Trying again -/

theorem Flawless.not_abandons {s t : RegisterState} {e : RegisterEvent}
    (hstep : RegisterStep s e t) (h : Flawless s e t) : ¬ Abandons s e := by
  intro habandons
  cases hstep with
  | selectImage => exact habandons
  | registerButtonClick => exact habandons
  | @answer request response _ _ hcan =>
      rcases h request response rfl with
        ⟨hsucceeds, himage⟩ | ⟨form, rfl, account, haccount, hemail⟩
      · cases request with
        | createUser form =>
            cases response with
            | succeeded userId =>
                have hnone : s.imageData = none := habandons
                simpa [hnone] using himage form rfl
            | failed _ => exact habandons
            | nothing => exact habandons
        | putData _ _ _ => exact absurd (hsucceeds.symm.trans habandons) (by decide)
        | downloadURL _ _ => exact absurd (hsucceeds.symm.trans habandons) (by decide)
        | setData _ _ _ => exact absurd (hsucceeds.symm.trans habandons) (by decide)
      · cases response with
        | succeeded userId =>
            -- the e-mail has an account, so no other is created for it
            exact ((hcan form userId rfl rfl).1 account haccount).1 hemail
        | failed _ => exact habandons
        | nothing => exact habandons

/-- The e-mail of the form has an account, or one is being created. -/
def Requested (form : RegisterForm) (s : RegisterState) : Prop :=
  .createUser form ∈ s.requests ∨ ∃ account ∈ s.accounts, account.1 = form.email

theorem accounts_subset_answer (request : RegisterRequest) (response : RegisterResponse)
    (s : RegisterState) : s.accounts ⊆ (s.answer request response).accounts := by
  cases request <;> cases response <;> simp [RegisterState.answer]

theorem erase_subset_answer (request : RegisterRequest) (response : RegisterResponse)
    (s : RegisterState) : s.requests.erase request ⊆ (s.answer request response).requests := by
  cases request <;> cases response <;> simp [RegisterState.answer]

theorem Requested.step {form : RegisterForm} {s t : RegisterState} {e : RegisterEvent}
    (h : Requested form s) (hflawless : Flawless s e t) (hstep : RegisterStep s e t) :
    Requested form t := by
  cases hstep with
  | selectImage => exact h
  | registerButtonClick =>
      refine h.imp (fun hmem => ?_) (fun haccount => ?_) <;>
        unfold RegisterState.registerButtonClick <;> split
      · exact List.mem_append_left _ hmem
      · exact hmem
      · exact haccount
      · exact haccount
  | @answer request response _ _ _ =>
      rcases h with hmem | ⟨account, haccount, hemail⟩
      · by_cases hrequest : request = .createUser form
        · subst hrequest
          -- the answer creates the account, or there is one already
          rcases hflawless _ response rfl with
            ⟨hsucceeds, _⟩ | ⟨form', hform, account, haccount, hemail⟩
          · cases response with
            | succeeded userId =>
                exact Or.inr ⟨(form.email, userId), by simp [RegisterState.answer], rfl⟩
            | failed _ => cases hsucceeds
            | nothing => cases hsucceeds
          · obtain rfl := RegisterRequest.createUser.inj hform
            exact Or.inr ⟨account, accounts_subset_answer _ _ s haccount, hemail⟩
        · have hrest : .createUser form ∈ s.requests.erase request :=
            (List.mem_erase_of_ne (Ne.symm hrequest)).2 hmem
          exact Or.inl (erase_subset_answer request response s hrest)
      · exact Or.inr ⟨account, accounts_subset_answer request response s haccount, hemail⟩

theorem requested_pressWith {form : RegisterForm} {s t : RegisterState}
    (hstep : RegisterStep s (pressWith form) t) : Requested form t := by
  cases hstep with
  | registerButtonClick => exact Or.inl (List.mem_append_right _ (by simp))

/-- From a quiet state with complete accounts, trying again without a failure succeeds. -/
theorem retryable_of_complete {s : RegisterState} (hs : s.requests = []) (hcomplete : s.Complete) :
    Retryable s := by
  intro form es t hrun hflawless ht
  have hcomplete' : t.Complete :=
    (complete_iff hs hcomplete hrun ht).2
      (hflawless.imp fun _ _ _ hstep h => Flawless.not_abandons hstep h)
  -- the account is requested by the press, and there in the end
  have hsplit : Run RegisterStep s ([] ++ [pressWith form] ++ es) t := hrun
  rcases hsplit.split with ⟨u, hpress, hrest⟩
  rcases hpress.snoc_inv with ⟨s', _, hstep⟩
  have hrequested : Requested form t :=
    hrest.invariant_along (fun _ _ _ h hflawless hstep => h.step hflawless hstep)
      (hflawless.suffix hpress) (requested_pressWith hstep)
  rcases hrequested with hmem | ⟨⟨email, userId⟩, haccount, rfl⟩
  · simp [ht] at hmem
  · exact ⟨userId, haccount, hcomplete' _ haccount⟩

/-- Between two quiet states, registration leaves every account with its document, and can be tried
again, if and only if no step has abandoned an account: once an account has been created with a
picture that has data, none of the three later requests failed. -/
theorem registered_iff_not_abandoned {s t : RegisterState} {es : List RegisterEvent}
    (hs : s.requests = []) (hcomplete : s.Complete) (hrun : Run RegisterStep s es t)
    (ht : t.requests = []) :
    (t.Complete ∧ Retryable t) ↔ Along RegisterStep s es fun u e _ => ¬ Abandons u e := by
  rw [← complete_iff hs hcomplete hrun ht]
  exact and_iff_left_of_imp (retryable_of_complete ht)

/-! ## An upload that fails -/

/-- Nobody has registered; the picture is the one the screen starts with. -/
def RegisterState.fresh : RegisterState where
  image := some { pngData := some [137, 80, 78, 71] }
  accounts := []
  users := fun _ => none
  requests := []

def aliceForm : RegisterForm where
  firstName := "Alice"
  lastName := "Smith"
  email := "alice@mail"
  password := "secret"

theorem run_createUser_alice :
    Run RegisterStep .fresh
      [pressWith aliceForm, .answer (.createUser aliceForm) (.succeeded "alice")]
      { RegisterState.fresh with
        accounts := [("alice@mail", "alice")]
        requests := [.putData "alice" aliceForm [137, 80, 78, 71]] } := by
  refine (Run.single RegisterStep.registerButtonClick).snoc
    (RegisterStep.answer (List.mem_singleton_self _) trivial ?_)
  rintro _ _ ⟨⟩ ⟨⟩
  exact ⟨by simp [RegisterState.registerButtonClick, RegisterState.fresh], rfl⟩

/-- An answer to one of the later requests is always possible. -/
theorem RegisterStep.answer_of_userId {s : RegisterState} {request : RegisterRequest}
    (response : RegisterResponse) (hmem : request ∈ s.requests) (hget : request.CanGet response)
    (h : request.userId.isSome) :
    RegisterStep s (.answer request response) (s.answer request response) := by
  refine .answer hmem hget ?_
  rintro form userId rfl
  cases h

/-- Alice registers. -/
theorem alice_registered_iff : ∃ t : RegisterState,
    t.accounts = [("alice@mail", "alice")] ∧
      ((t.Complete ∧ Retryable t) ↔ Along RegisterStep .fresh
        [pressWith aliceForm, .answer (.createUser aliceForm) (.succeeded "alice"),
          .answer (.putData "alice" aliceForm [137, 80, 78, 71]) (.succeeded "metadata"),
          .answer (.downloadURL "alice" aliceForm) (.succeeded "alice.jpg"),
          .answer (.setData "alice" aliceForm "alice.jpg") .nothing]
        fun u e _ => ¬ Abandons u e) := by
  have hrun : Run RegisterStep .fresh _ _ :=
    ((run_createUser_alice.snoc
      (.answer_of_userId (.succeeded "metadata") (List.mem_singleton_self _)
      trivial rfl)).snoc (.answer_of_userId (.succeeded "alice.jpg")
        (List.mem_singleton_self _) trivial rfl)).snoc
      (.answer_of_userId .nothing (List.mem_singleton_self _) trivial rfl)
  exact ⟨_, rfl, registered_iff_not_abandoned rfl (by simp [RegisterState.Complete,
    RegisterState.fresh]) hrun rfl⟩

/-- The picture cannot be uploaded, and the account stays without a document. -/
theorem failed_upload_leaves_account :
    ¬ ∀ (es : List RegisterEvent) (t : RegisterState), Run RegisterStep .fresh es t →
      t.requests = [] → t.Complete ∧ Retryable t := by
  intro h
  have hrun : Run RegisterStep .fresh _ _ :=
    run_createUser_alice.snoc (.answer_of_userId (.failed "network") (List.mem_singleton_self _)
      trivial rfl)
  have hcomplete := (h _ _ hrun rfl).1 ("alice@mail", "alice") (by decide)
  rcases hcomplete with ⟨doc, hdoc, _⟩
  cases hdoc

end ChatApp
end IosProjects
