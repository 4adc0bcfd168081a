import Mathlib.Algebra.Ring.Parity
import IosProjects.Library.ObservedRemove
import IosProjects.InstagramClone.Following

/-!
# Convergence — the dictionary and the server once all requests are processed

The dictionary counts the taps. The server ends up with the rows that no query of an unfollow
returned: those a query did return are deleted one by one, and nothing else is. So the two agree in
the end exactly when what the queries missed is what the taps left followed; a query that overtakes
the save it was to undo misses its row.
-/

namespace IosProjects
namespace InstagramClone

open IosProjects.Library

/-! ## What a run did for one user -/

/-- The following state of a user tapped `taps` times. -/
def followedAfter (known : Bool) (taps : ℕ) : Bool :=
  if Odd taps then !known else known

@[simp] theorem followedAfter_zero (known : Bool) : followedAfter known 0 = known := by
  simp [followedAfter]

theorem followedAfter_succ (known : Bool) (taps : ℕ) :
    followedAfter known (taps + 1) = !followedAfter known taps := by
  by_cases hodd : Odd taps <;> simp [followedAfter, hodd, Nat.odd_add_one]

/-- The event taps the row of the user. -/
def Event.taps (objectIds : List String) (objectId : String) : Event → Bool
  | .tap row => objectIds[row]? = some objectId
  | _ => false

/-- The row for the user that the server stored at the event. -/
def Event.savedRow (objectId : String) : Event → Option Following
  | .saved row => if row.following = objectId then some row else none
  | _ => none

/-- The rows a query of an unfollow of the user returned at the event. -/
def Event.returnedRows (objectId : String) : Event → List Following
  | .foundUnfollow objectId' found => if objectId' = objectId then found else []
  | _ => []

/-- All rows for the user, those of `server` and those saved since. -/
def allRows (currentUser : PFUser) (objectId : String) (server : Server) (es : List Event) :
    List Following :=
  server.followings currentUser.objectId objectId ++ es.filterMap (Event.savedRow objectId)

def returnedRows (objectId : String) (es : List Event) : List Following :=
  es.flatMap (Event.returnedRows objectId)

/-- The rows for the user that no unfollow's query returned. -/
def missedRows (currentUser : PFUser) (objectId : String) (server : Server) (es : List Event) :
    List Following :=
  (allRows currentUser objectId server es).filter (· ∉ returnedRows objectId es)

/-! ## Rows about to be deleted -/

/-- A delete of the row is in flight, or a block that will send one. -/
def AppState.Doomed (s : AppState) (row : Following) : Prop :=
  .delete row ∈ s.requests ∨ ∃ found, .unfollow found ∈ s.callbacks ∧ row ∈ found

theorem AppState.Quiet.not_doomed {s : AppState} (h : s.Quiet) (row : Following) :
    ¬ s.Doomed row := by
  simp [AppState.Doomed, h.1, h.2]

/-- Nothing of a refresh is in flight. -/
structure AppState.Settled (s : AppState) : Prop where
  users : .users ∉ s.requests
  isFollowing : ∀ objectId, .isFollowing objectId ∉ s.requests
  foundUsers : ∀ found, .users found ∉ s.callbacks
  foundIsFollowing : ∀ objectId found, .isFollowing objectId found ∉ s.callbacks

theorem AppState.Quiet.settled {s : AppState} (h : s.Quiet) : s.Settled where
  users := by simp [h.1]
  isFollowing := by simp [h.1]
  foundUsers := by simp [h.2]
  foundIsFollowing := by simp [h.2]

theorem AppState.Settled.process {s : AppState} (h : s.Settled) (request : Request)
    (server : Server) : (s.process request server).Settled where
  users := fun hmem => h.users (List.mem_of_mem_erase hmem)
  isFollowing := fun objectId hmem => h.isFollowing objectId (List.mem_of_mem_erase hmem)
  foundUsers := h.foundUsers
  foundIsFollowing := h.foundIsFollowing

/-! ## What taps can do -/

/-- A tap leaves the list of users alone, flips the tapped user's entry and sends what it says. -/
theorem UserTable.didSelectRowAt_some {row : ℕ} {table table' : UserTable} {sent : List Request}
    (h : table.didSelectRowAt row = some (table', sent)) :
    ∃ tapped, table.objectIds[row]? = some tapped ∧ table'.objectIds = table.objectIds ∧
      (∀ request ∈ sent, request = .follow tapped ∨ request = .unfollow tapped) ∧
      ∀ objectId, table'.followings.lookup objectId =
        if tapped = objectId then (table.followings.lookup objectId).map (!·)
        else table.followings.lookup objectId := by
  unfold UserTable.didSelectRowAt at h
  cases htapped : table.objectIds[row]? with
  | none => simp [htapped] at h
  | some tapped =>
      refine ⟨tapped, rfl, ?_⟩
      cases hknown : table.followings.lookup tapped with
      | none =>
          -- not answered for yet, so the tap does nothing
          simp only [htapped, hknown, Option.some.injEq, Prod.mk.injEq] at h
          rcases h with ⟨rfl, rfl⟩
          refine ⟨rfl, by simp, fun objectId => ?_⟩
          by_cases hsame : tapped = objectId
          · subst hsame
            simp [hknown]
          · simp [hsame]
      | some known =>
          cases known <;>
            · simp only [htapped, hknown, Option.some.injEq, Prod.mk.injEq] at h
              rcases h with ⟨rfl, rfl⟩
              refine ⟨rfl, by simp, fun objectId => ?_⟩
              by_cases hsame : tapped = objectId
              · subst hsame
                simp [hknown]
              · simp [hsame, Finmap.lookup_insert_of_ne _ (Ne.symm hsame)]

/-! ## What is doomed after a step -/

section Doomed

variable {s : AppState} {row : Following}

theorem AppState.doomed_send {table : UserTable} {sent : List Request}
    (hsent : ∀ row, .delete row ∉ sent) :
    AppState.Doomed { s with table := table, requests := s.requests ++ sent } row ↔
      s.Doomed row := by
  simp [AppState.Doomed, hsent]

theorem AppState.doomed_answer_unfollow {objectId : String} {found : List Following} :
    (s.answer (.unfollow objectId) (.unfollow found)).Doomed row ↔ s.Doomed row ∨ row ∈ found := by
  have hrequests : .delete row ∈ s.requests.erase (.unfollow objectId) ↔ .delete row ∈ s.requests :=
    List.mem_erase_of_ne (by simp)
  simp only [AppState.Doomed, AppState.answer, hrequests, List.mem_append, List.mem_singleton,
    Callback.unfollow.injEq, or_assoc]
  refine or_congr_right ?_
  constructor
  · rintro ⟨found', hfound' | rfl, hrow⟩
    · exact Or.inl ⟨found', hfound', hrow⟩
    · exact Or.inr hrow
  · rintro (⟨found', hfound', hrow⟩ | hrow)
    · exact ⟨found', Or.inl hfound', hrow⟩
    · exact ⟨found, Or.inr rfl, hrow⟩

theorem AppState.doomed_process {request : Request} {server : Server}
    (hne : .delete row ≠ request) :
    (s.process request server).Doomed row ↔ s.Doomed row := by
  simp only [AppState.Doomed, AppState.process, List.mem_erase_of_ne hne]

/-- Running the block of an unfollow's query passes the rows on as deletes. -/
theorem AppState.doomed_run_unfollow {found : List Following}
    (hfound : .unfollow found ∈ s.callbacks) :
    AppState.Doomed { s with
      table := (s.table.run (.unfollow found)).1
      requests := s.requests ++ (s.table.run (.unfollow found)).2
      callbacks := s.callbacks.erase (.unfollow found) } row ↔ s.Doomed row := by
  have hsent : .delete row ∈ found.map Request.delete ↔ row ∈ found := by simp
  simp only [AppState.Doomed, UserTable.run, List.mem_append, hsent]
  constructor
  · rintro ((hrequest | hrow) | ⟨found', hfound', hrow⟩)
    · exact Or.inl hrequest
    · exact Or.inr ⟨found, hfound, hrow⟩
    · exact Or.inr ⟨found', List.mem_of_mem_erase hfound', hrow⟩
  · rintro (hrequest | ⟨found', hfound', hrow⟩)
    · exact Or.inl (Or.inl hrequest)
    · -- another block may have found the same rows
      by_cases hsame : found' = found
      · exact Or.inl (Or.inr (hsame ▸ hrow))
      · refine Or.inr ⟨found', (List.mem_erase_of_ne ?_).2 hfound', hrow⟩
        simpa using hsame

end Doomed

/-! ## The invariant of a run -/

/-- What the events `es`, without a refresh, have made of `s₀` for one user whose following state
was `known`. -/
structure Since (currentUser : PFUser) (objectId : String) (known : Bool) (s₀ : AppState)
    (es : List Event) (s : AppState) : Prop where
  settled : s.Settled
  objectIds : s.table.objectIds = s₀.table.objectIds
  lookup : s.table.followings.lookup objectId =
    some (followedAfter known (es.countP (Event.taps s₀.table.objectIds objectId)))
  rows : ObservedRemove (allRows currentUser objectId s₀.server es) (returnedRows objectId es)
    (s.server.followings currentUser.objectId objectId) s.Doomed
  -- ids are not given out again, so a row stored now is not among the earlier ones
  all_lt : ∀ row ∈ allRows currentUser objectId s₀.server es, row.objectId < s.server.nextID
  doomed_lt : ∀ row, s.Doomed row → row.objectId < s.server.nextID

section Since

variable {currentUser : PFUser} {objectId : String} {known : Bool} {s₀ s s' : AppState}
  {es : List Event} {e : Event}

theorem Since.refl (hquiet : s₀.Quiet)
    (hknown : s₀.table.followings.lookup objectId = some known) :
    Since currentUser objectId known s₀ [] s₀ where
  settled := hquiet.settled
  objectIds := rfl
  lookup := by simpa using hknown
  rows := by
    simpa [allRows, returnedRows] using
      ObservedRemove.refl (s₀.server.followings_nodup _ _) hquiet.not_doomed
  all_lt := by
    intro row hrow
    exact s₀.server.id_lt row (Server.mem_followings.1 (by simpa [allRows] using hrow)).1
  doomed_lt := fun row hrow => absurd hrow (hquiet.not_doomed row)

theorem allRows_snoc_none (h : e.savedRow objectId = none) :
    allRows currentUser objectId s₀.server (es ++ [e]) =
      allRows currentUser objectId s₀.server es := by
  rw [allRows, List.filterMap_append, List.filterMap_cons_none h, List.filterMap_nil,
    List.append_nil, ← allRows]

theorem returnedRows_snoc (objectId : String) (es : List Event) (e : Event) :
    returnedRows objectId (es ++ [e]) = returnedRows objectId es ++ e.returnedRows objectId := by
  simp [returnedRows]

theorem returnedRows_snoc_nil (h : e.returnedRows objectId = []) :
    returnedRows objectId (es ++ [e]) = returnedRows objectId es := by
  rw [returnedRows_snoc, h, List.append_nil]

/-! ### Each event in turn -/

/-- A tap flips the entry of the user it taps. -/
theorem Since.tap (h : Since currentUser objectId known s₀ es s) {row : ℕ} {table : UserTable}
    {sent : List Request} (hselect : s.table.didSelectRowAt row = some (table, sent)) :
    Since currentUser objectId known s₀ (es ++ [.tap row])
      { s with table := table, requests := s.requests ++ sent } := by
  rcases UserTable.didSelectRowAt_some hselect with ⟨tapped, htapped, hids, hsent, hlookup⟩
  have hkind : ∀ request ∈ sent, (∀ row, request ≠ .delete row) ∧ request ≠ .users ∧
      ∀ objectId, request ≠ .isFollowing objectId := by
    intro request hrequest
    rcases hsent request hrequest with rfl | rfl <;> simp
  have hdoomed :
      ∀ row, AppState.Doomed { s with table := table, requests := s.requests ++ sent } row
      ↔ s.Doomed row :=
    fun row => AppState.doomed_send fun row hrow => (hkind _ hrow).1 row rfl
  exact {
    settled := by
      refine ⟨?_, fun objectId => ?_, h.settled.foundUsers, h.settled.foundIsFollowing⟩
      · intro hmem
        rcases List.mem_append.1 hmem with hmem | hmem
        · exact h.settled.users hmem
        · exact (hkind _ hmem).2.1 rfl
      · intro hmem
        rcases List.mem_append.1 hmem with hmem | hmem
        · exact h.settled.isFollowing objectId hmem
        · exact (hkind _ hmem).2.2 objectId rfl
    objectIds := hids.trans h.objectIds
    lookup := by
      -- without a refresh the rows still show the users they showed at the start
      have htaps :
          Event.taps s₀.table.objectIds objectId (.tap row) = decide (tapped = objectId) := by
        simp [Event.taps, ← h.objectIds, htapped]
      rw [hlookup objectId, h.lookup, List.countP_append, List.countP_singleton, htaps]
      by_cases hsame : tapped = objectId
      · simp [hsame, followedAfter_succ]
      · simp [hsame]
    rows := by
      rw [allRows_snoc_none rfl, returnedRows_snoc_nil rfl]
      exact h.rows.congr fun row _ => hdoomed row
    all_lt := by
      rw [allRows_snoc_none rfl]
      exact h.all_lt
    doomed_lt := fun row hrow => h.doomed_lt row ((hdoomed row).1 hrow) }

/-- A save stores a row with a new id. -/
theorem Since.saved (h : Since currentUser objectId known s₀ es s) {followed : String} :
    Since currentUser objectId known s₀
      (es ++ [.saved (s.server.newFollowing currentUser.objectId followed)])
      (s.process (.follow followed) (s.server.save currentUser.objectId followed)) := by
  have hdoomed : ∀ row, (s.process (.follow followed)
      (s.server.save currentUser.objectId followed)).Doomed row ↔ s.Doomed row :=
    fun row => AppState.doomed_process (by simp)
  have hall : allRows currentUser objectId s₀.server
      (es ++ [.saved (s.server.newFollowing currentUser.objectId followed)]) =
        if followed = objectId then allRows currentUser objectId s₀.server es ++
          [s.server.newFollowing currentUser.objectId followed]
        else allRows currentUser objectId s₀.server es := by
    by_cases hsame : followed = objectId <;>
      simp [allRows, Event.savedRow, Server.newFollowing, hsame]
  have hlt : ∀ row : Following, row.objectId < s.server.nextID →
      row.objectId < (s.server.save currentUser.objectId followed).nextID :=
    fun row hrow => hrow.trans (Nat.lt_succ_self _)
  exact {
    settled := h.settled.process _ _
    objectIds := h.objectIds
    lookup := by simpa [Event.taps, AppState.process] using h.lookup
    rows := by
      rw [hall, returnedRows_snoc_nil rfl]
      refine ObservedRemove.congr ?_ fun row _ => hdoomed row
      have hfollowings := Server.followings_save currentUser.objectId followed objectId s.server
      by_cases hsame : followed = objectId
      -- the new row is neither among the earlier ones nor doomed, since its id is new
      · rw [if_pos hsame] at hfollowings ⊢
        rw [AppState.process, hfollowings]
        exact h.rows.add (fun hmem => lt_irrefl _ (h.all_lt _ hmem))
          (fun hmem => lt_irrefl _ (h.doomed_lt _ hmem))
      · rw [if_neg hsame] at hfollowings ⊢
        rw [AppState.process, hfollowings]
        exact h.rows
    all_lt := by
      intro row hrow
      rw [hall] at hrow
      split at hrow
      · rcases List.mem_append.1 hrow with hrow | hrow
        · exact hlt row (h.all_lt row hrow)
        · obtain rfl := List.mem_singleton.1 hrow
          exact Nat.lt_succ_self _
      · exact hlt row (h.all_lt row hrow)
    doomed_lt := fun row hrow => hlt row (h.doomed_lt row ((hdoomed row).1 hrow)) }

/-- The query of an unfollow dooms what it returns, whoever it is about. -/
theorem Since.foundUnfollow (h : Since currentUser objectId known s₀ es s) {unfollowed : String}
    {found : List Following}
    (hfound : IsFind (s.server.followings currentUser.objectId unfollowed) found) :
    Since currentUser objectId known s₀ (es ++ [.foundUnfollow unfollowed found])
      (s.answer (.unfollow unfollowed) (.unfollow found)) := by
  have hmem : ∀ row ∈ found, row ∈ s.server.rows ∧ row.follower = currentUser.objectId ∧
      row.following = unfollowed :=
    fun row hrow => Server.mem_followings.1 (hfound.mem hrow)
  exact {
    settled := by
      refine ⟨fun hmem => h.settled.users (List.mem_of_mem_erase hmem),
        fun objectId hmem => h.settled.isFollowing objectId (List.mem_of_mem_erase hmem), ?_, ?_⟩
      · intro found' hmem
        rcases List.mem_append.1 hmem with hmem | hmem
        · exact h.settled.foundUsers found' hmem
        · simp at hmem
      · intro objectId found' hmem
        rcases List.mem_append.1 hmem with hmem | hmem
        · exact h.settled.foundIsFollowing objectId found' hmem
        · simp at hmem
    objectIds := h.objectIds
    lookup := by simpa [Event.taps, AppState.answer] using h.lookup
    rows := by
      rw [allRows_snoc_none rfl, returnedRows_snoc, Event.returnedRows]
      refine h.rows.observe (fun row hrow => ?_) fun row hrow => ?_
      · split at hrow
        · rename_i hsame
          exact h.rows.added_of_mem row (hsame ▸ hfound.mem hrow)
        · exact absurd hrow List.not_mem_nil
      rw [AppState.doomed_answer_unfollow]
      refine or_congr_right ?_
      by_cases hsame : unfollowed = objectId
      · rw [if_pos hsame]
      · rw [if_neg hsame]
        -- what was found is about another user than the rows here
        refine iff_of_false (fun hin => hsame ?_) List.not_mem_nil
        exact (hmem row hin).2.2.symm.trans (Server.mem_followings.1 hrow).2.2
    all_lt := by
      rw [allRows_snoc_none rfl]
      exact h.all_lt
    doomed_lt := by
      intro row hrow
      rcases AppState.doomed_answer_unfollow.1 hrow with hrow | hrow
      · exact h.doomed_lt row hrow
      · exact s.server.id_lt row (hmem row hrow).1 }

/-- A delete takes its row away, if it is still there. -/
theorem Since.deleted (h : Since currentUser objectId known s₀ es s) {row : Following}
    (hrow : .delete row ∈ s.requests) :
    Since currentUser objectId known s₀ (es ++ [.deleted row])
      (s.process (.delete row) (s.server.delete row)) := by
  have hdoomed : ∀ row', (s.process (.delete row) (s.server.delete row)).Doomed row' →
      s.Doomed row' := by
    rintro row' (hrequest | hcallback)
    · exact Or.inl (List.mem_of_mem_erase hrequest)
    · exact Or.inr hcallback
  exact {
    settled := h.settled.process _ _
    objectIds := h.objectIds
    lookup := by simpa [Event.taps, AppState.process] using h.lookup
    rows := by
      -- the delete's own row is the only one whose doom ends with it
      rw [allRows_snoc_none rfl, returnedRows_snoc_nil rfl, AppState.process,
        Server.followings_delete]
      apply h.rows.drop (Or.inl hrow)
      intro row' hrow'
      have hne : row' ≠ row := ((h.rows.rows_nodup.mem_erase_iff).1 hrow').1
      exact AppState.doomed_process (by simpa using hne)
    all_lt := by
      rw [allRows_snoc_none rfl]
      exact h.all_lt
    doomed_lt := fun row' hrow' => h.doomed_lt row' (hdoomed row' hrow') }

/-- The block of an unfollow's query sends a delete for each row. -/
theorem Since.run_unfollow (h : Since currentUser objectId known s₀ es s) {found : List Following}
    (hfound : .unfollow found ∈ s.callbacks) :
    Since currentUser objectId known s₀ (es ++ [.run (.unfollow found)])
      { s with
        table := (s.table.run (.unfollow found)).1
        requests := s.requests ++ (s.table.run (.unfollow found)).2
        callbacks := s.callbacks.erase (.unfollow found) } := by
  exact {
    settled := by
      refine ⟨?_, fun objectId => ?_,
        fun found' hmem => h.settled.foundUsers found' (List.mem_of_mem_erase hmem),
        fun objectId found' hmem =>
          h.settled.foundIsFollowing objectId found' (List.mem_of_mem_erase hmem)⟩
      · simpa [UserTable.run] using h.settled.users
      · simpa [UserTable.run] using h.settled.isFollowing objectId
    objectIds := h.objectIds
    lookup := by simpa [Event.taps, UserTable.run] using h.lookup
    rows := by
      rw [allRows_snoc_none rfl, returnedRows_snoc_nil rfl]
      exact h.rows.congr fun row _ => AppState.doomed_run_unfollow hfound
    all_lt := by
      rw [allRows_snoc_none rfl]
      exact h.all_lt
    doomed_lt := fun row hrow =>
      h.doomed_lt row ((AppState.doomed_run_unfollow hfound).1 hrow) }

/-- No event of a run but a refresh breaks the invariant. -/
theorem Since.step (h : Since currentUser objectId known s₀ es s) (he : e ≠ .refresh)
    (hstep : Step currentUser s e s') : Since currentUser objectId known s₀ (es ++ [e]) s' := by
  cases hstep with
  | refresh => exact absurd rfl he
  | tap _ hselect => exact h.tap hselect
  | foundUsers hrequest _ => exact absurd hrequest h.settled.users
  | foundIsFollowing hrequest _ => exact absurd hrequest (h.settled.isFollowing _)
  | saved _ => exact h.saved
  | foundUnfollow _ hfound => exact h.foundUnfollow hfound
  | deleted hrow => exact h.deleted hrow
  | @run callback hcallback =>
      cases callback with
      | users found => exact absurd hcallback (h.settled.foundUsers found)
      | isFollowing objectId found => exact absurd hcallback (h.settled.foundIsFollowing _ _)
      | unfollow found => exact h.run_unfollow hcallback

theorem Since.run (hquiet : s₀.Quiet) (hknown : s₀.table.followings.lookup objectId = some known)
    (hrun : Run (Step currentUser) s₀ es s) (hes : .refresh ∉ es) :
    Since currentUser objectId known s₀ es s := by
  induction hrun with
  | nil => exact Since.refl hquiet hknown
  | snoc _ hlast ih =>
      refine (ih fun hmem => hes (by simp [hmem])).step ?_ hlast
      rintro rfl
      simp at hes

end Since

/-! ## Convergence -/

/-- The server holds a row for the user exactly when the dictionary says so, and never two. -/
def Converged (currentUser : PFUser) (objectId : String) (s : AppState) : Prop :=
  (s.server.followings currentUser.objectId objectId ≠ [] ↔
      s.table.followings.lookup objectId = some true) ∧
    (s.server.followings currentUser.objectId objectId).length ≤ 1

instance (currentUser : PFUser) (objectId : String) (s : AppState) :
    Decidable (Converged currentUser objectId s) :=
  inferInstanceAs (Decidable ((_ ↔ _) ∧ _))

/-- For a user whose following state is known, converging is a matter of the number of rows. -/
theorem converged_iff_length {currentUser : PFUser} {objectId : String} {s : AppState}
    {known : Bool} (hknown : s.table.followings.lookup objectId = some known) :
    Converged currentUser objectId s ↔
      (s.server.followings currentUser.objectId objectId).length = known.toNat := by
  rw [Converged, hknown, ← List.length_pos_iff]
  generalize (s.server.followings currentUser.objectId objectId).length = count
  cases known
  · simp only [Option.some.injEq, Bool.false_eq_true, iff_false, Bool.toNat_false]
    omega
  · simp only [iff_true, Bool.toNat_true]
    omega

/-- From a state with nothing in flight and `known` for the user: when nothing is in flight again,
the server and the dictionary agree if and only if the rows for the user that no query of an
unfollow returned are one when the taps left them followed, and none when not. -/
theorem converged_iff_missed {currentUser : PFUser} {objectId : String} {known : Bool}
    {s₀ s : AppState} {es : List Event} (hquiet : s₀.Quiet)
    (hknown : s₀.table.followings.lookup objectId = some known)
    (hrun : Run (Step currentUser) s₀ es s) (hes : .refresh ∉ es) (hquiet' : s.Quiet) :
    Converged currentUser objectId s ↔
      (missedRows currentUser objectId s₀.server es).length =
        (followedAfter known
          (es.countP (Event.taps s₀.table.objectIds objectId))).toNat := by
  have hsince := Since.run hquiet hknown hrun hes
  have hperm := hsince.rows.perm_unobserved hquiet'.not_doomed
  rw [converged_iff_length hsince.lookup, hperm.length_eq, missedRows]

/-! ### What a query misses -/

section Missed

variable {currentUser : PFUser} {objectId : String} {known : Bool} {s₀ s : AppState}
  {before after : List Event} {found : List Following}

/-- With few enough rows, every row there was has been returned by the query or by an earlier
one. -/
theorem Since.returned_iff (h : Since currentUser objectId known s₀ before s)
    (hfound : IsFind (s.server.followings currentUser.objectId objectId) found)
    (hfew : (allRows currentUser objectId s₀.server before).length ≤ defaultLimit)
    (row : Following) :
    row ∈ returnedRows objectId before ++ found ↔
      row ∈ allRows currentUser objectId s₀.server before := by
  constructor
  · intro hrow
    rcases List.mem_append.1 hrow with hrow | hrow
    · exact h.rows.added_of_observed row hrow
    · exact h.rows.added_of_mem row (hfound.mem hrow)
  · intro hrow
    by_cases hobserved : row ∈ returnedRows objectId before
    · exact List.mem_append_left _ hobserved
    · have hstored := h.rows.mem_of_unobserved row hrow hobserved
      exact List.mem_append_right _ (hfound.mem_of_le (h.rows.length_le.trans hfew) hstored)

/-- Without another query nothing more is returned. -/
theorem returnedRows_last_query (hlast : ∀ found, .foundUnfollow objectId found ∉ after) :
    returnedRows objectId (before ++ .foundUnfollow objectId found :: after) =
      returnedRows objectId before ++ found := by
  -- only a query of an unfollow of this user returns rows
  have hnone : after.flatMap (Event.returnedRows objectId) = [] := by
    apply List.flatMap_eq_nil_iff.2
    intro e he
    cases e with
    | foundUnfollow objectId' found' =>
        rw [Event.returnedRows, if_neg]
        rintro rfl
        exact hlast found' he
    | _ => rfl
  simp [returnedRows, Event.returnedRows, hnone]

/-- As long as a query returns every row there is, the missed rows are those stored after the last
query of an unfollow. -/
theorem missedRows_eq_saved_after (hquiet : s₀.Quiet)
    (hknown : s₀.table.followings.lookup objectId = some known)
    (hrun : Run (Step currentUser) s₀ (before ++ .foundUnfollow objectId found :: after) s)
    (hes : .refresh ∉ before ++ .foundUnfollow objectId found :: after)
    (hfew : (allRows currentUser objectId s₀.server before).length ≤ defaultLimit)
    (hlast : ∀ found, .foundUnfollow objectId found ∉ after) :
    missedRows currentUser objectId s₀.server (before ++ .foundUnfollow objectId found :: after) =
      after.filterMap (Event.savedRow objectId) := by
  have hnodup := (Since.run hquiet hknown hrun hes).rows.added_nodup
  -- the invariant holds in the state the last query is answered in
  have hreturned : ∀ row, row ∈ returnedRows objectId before ++ found ↔
      row ∈ allRows currentUser objectId s₀.server before := by
    rw [List.append_cons] at hrun
    rcases hrun.split with ⟨t, hquery, _⟩
    rcases hquery.snoc_inv with ⟨u, hbefore, hstep⟩
    have hu := Since.run hquiet hknown hbefore fun hmem => hes (List.mem_append_left _ hmem)
    cases hstep with
    | foundUnfollow _ hfound => exact hu.returned_iff hfound hfew
  have hall : allRows currentUser objectId s₀.server
      (before ++ .foundUnfollow objectId found :: after) =
        allRows currentUser objectId s₀.server before ++
          after.filterMap (Event.savedRow objectId) := by
    rw [allRows, allRows, List.filterMap_append, List.filterMap_cons_none rfl, List.append_assoc]
  rw [hall, List.nodup_append] at hnodup
  have hbefore : (allRows currentUser objectId s₀.server before).filter
      (· ∉ returnedRows objectId before ++ found) = [] := by
    apply List.filter_eq_nil_iff.2
    intro row hrow
    rw [decide_eq_true_eq, not_not]
    exact (hreturned row).2 hrow
  -- ids are not given out twice, so no row stored later had been returned
  have hafter : (after.filterMap (Event.savedRow objectId)).filter
      (· ∉ returnedRows objectId before ++ found) = after.filterMap (Event.savedRow objectId) := by
    apply List.filter_eq_self.2
    intro row hrow
    rw [decide_eq_true_eq, hreturned row]
    exact fun hmem => hnodup.2.2 row hmem row hrow rfl
  calc missedRows currentUser objectId s₀.server (before ++ .foundUnfollow objectId found :: after)
      = (allRows currentUser objectId s₀.server before ++
          after.filterMap (Event.savedRow objectId)).filter
            (· ∉ returnedRows objectId before ++ found) := by
        rw [missedRows, hall, returnedRows_last_query hlast]
    _ = after.filterMap (Event.savedRow objectId) := by
        rw [List.filter_append, hbefore, hafter, List.nil_append]

end Missed

/-! ### Alice and Bob -/

def alice : PFUser := ⟨"a", "alice"⟩

def bob : PFUser := ⟨"b", "bob"⟩

/-- Nobody follows anybody yet. -/
def noFollowings : Server where
  users := [alice, bob]
  rows := []
  nextID := 0
  ids_nodup := List.nodup_nil
  id_lt := by simp

/-- What Alice sees after the first refresh. -/
def bobListed : AppState where
  server := noFollowings
  table := ⟨["bob"], ["b"], (∅ : Finmap fun _ : String => Bool).insert "b" false, 1⟩
  requests := []
  callbacks := []

theorem launch_bobListed :
    ∃ before, Run (Step alice) (.launch noFollowings) before bobListed := by
  have hrefresh : Step alice (.launch noFollowings) .refresh _ := Step.refresh
  have husers : Step alice { AppState.launch noFollowings with requests := [.users] }
      (.foundUsers [bob]) _ :=
    Step.foundUsers (by decide) (IsFind.all (by decide))
  have hbob : Step alice { AppState.launch noFollowings with
      table := ⟨["bob"], ["b"], ∅, 0⟩
      requests := [.isFollowing "b"] } (.foundIsFollowing "b" []) _ :=
    Step.foundIsFollowing (by decide) (IsFind.all (by decide))
  exact ⟨_, ((((Run.single hrefresh).snoc husers).snoc
    (@Step.run _ _ (.users [bob]) (by decide))).snoc hbob).snoc
    (@Step.run _ _ (.isFollowing "b" []) (by decide))⟩

theorem bobListed_known : bobListed.table.followings.lookup "b" = some false := by
  simp [bobListed]

theorem tap_bob {s : AppState} {known : Bool} (hrow : 0 < s.table.rows)
    (hbob : s.table.objectIds[0]? = some "b")
    (hknown : s.table.followings.lookup "b" = some known) :
    Step alice s (.tap 0) { s with
      table := { s.table with followings := s.table.followings.insert "b" !known }
      requests := s.requests ++ [if known then .unfollow "b" else .follow "b"] } := by
  refine Step.tap hrow ?_
  cases known <;> simp [UserTable.didSelectRowAt, hbob, hknown]

/-- Alice follows Bob, and the row is stored. -/
def bobFollowed : AppState where
  server := noFollowings.save "a" "b"
  table := { bobListed.table with followings := bobListed.table.followings.insert "b" true }
  requests := []
  callbacks := []

theorem follow_bob : Run (Step alice) bobListed [.tap 0, .saved ⟨0, "a", "b"⟩] bobFollowed := by
  have hfollow := tap_bob (s := bobListed) (by decide) rfl bobListed_known
  have hsave : Step alice { bobFollowed with server := noFollowings, requests := [.follow "b"] }
      (.saved ⟨0, "a", "b"⟩) bobFollowed :=
    Step.saved (by decide)
  exact (Run.single hfollow).snoc hsave

theorem follow_bob_converged_iff :
    Converged alice "b" bobFollowed ↔
      (missedRows alice "b" noFollowings [.tap 0, .saved ⟨0, "a", "b"⟩]).length =
        (followedAfter false
          ([.tap 0, .saved ⟨0, "a", "b"⟩].countP (Event.taps ["b"] "b"))).toNat :=
  converged_iff_missed (by decide : bobListed.Quiet) bobListed_known follow_bob (by decide)
    (by decide)

/-- Alice follows Bob and takes it back before the save is processed; the query finds nothing, and
the row is stored after it. -/
theorem overtaking_query_misses_row :
    ¬ ∀ (before es : List Event) (s₀ s : AppState) (known : Bool),
      Run (Step alice) (.launch noFollowings) before s₀ → s₀.Quiet →
      s₀.table.followings.lookup "b" = some known →
      Run (Step alice) s₀ es s → .refresh ∉ es → s.Quiet → Converged alice "b" s := by
  intro h
  rcases launch_bobListed with ⟨before, hbefore⟩
  -- both requests are sent before the server processes either
  have hfollow := tap_bob (s := bobListed) (by decide) rfl bobListed_known
  have hunfollow := tap_bob (s := { bobListed with
    table := { bobListed.table with followings := bobListed.table.followings.insert "b" true }
    requests := [.follow "b"] }) (by decide) rfl (Finmap.lookup_insert _)
  have hquery : Step alice { bobListed with
      table := { bobListed.table with
        followings := (bobListed.table.followings.insert "b" true).insert "b" false }
      requests := [.follow "b", .unfollow "b"] } (.foundUnfollow "b" []) _ :=
    Step.foundUnfollow (by decide) (IsFind.all (by decide))
  have hsave : Step alice { bobListed with
      table := { bobListed.table with
        followings := (bobListed.table.followings.insert "b" true).insert "b" false }
      requests := [.follow "b"]
      callbacks := [.unfollow []] } (.saved ⟨0, "a", "b"⟩) _ :=
    Step.saved (by decide)
  have hrun := ((((Run.single hfollow).snoc hunfollow).snoc hquery).snoc hsave).snoc
    (@Step.run _ _ (.unfollow []) (by decide))
  have hconverged := h before _ bobListed _ false hbefore (by decide) bobListed_known hrun
    (by decide) (by decide)
  revert hconverged
  decide +kernel

end InstagramClone
end IosProjects
