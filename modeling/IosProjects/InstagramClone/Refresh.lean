import IosProjects.InstagramClone.Following

/-!
# Refresh — when pulling the table down comes to an end

`refreshUserTable()` asks for the users, and once they have come it asks for each whether the
current user follows them. Every answer to the latter compares the number of users listed with the
number of users answered for, and reloads the table and ends the refresh when they agree. An answer
with an error compares nothing, and a list of no users asks nothing. Several refreshes may be under
way.

Taps are left out here; they neither ask nor reload.
-/

namespace IosProjects
namespace InstagramClone

open IosProjects.Library

/-- The counts that the block of the query for one user compares. -/
def UserTable.AllAnswered (objectId : String) (found : List Following) (table : UserTable) : Prop :=
  table.usernames.length = (table.followings.insert objectId (0 < found.length)).keys.card

instance (objectId : String) (found : List Following) (table : UserTable) :
    Decidable (table.AllAnswered objectId found) :=
  inferInstanceAs (Decidable (_ = _))

/-- `requests` are the queries in flight. `ended` says that `endRefreshing()` has been called since
the last refresh started, and `reloaded` that the table has been reloaded since the arrays last
changed. -/
structure RefreshState where
  table : UserTable
  requests : List Request
  ended : Bool
  reloaded : Bool

namespace RefreshState

/-- Before `viewDidLoad()`. -/
def launch : RefreshState where
  table := .initial
  requests := []
  ended := true
  reloaded := true

/-- `refreshUserTable()`, called by `viewDidLoad()` and by pulling the table down. -/
def refreshUserTable (s : RefreshState) : RefreshState :=
  { s with requests := s.requests ++ [.users], ended := false }

/-- The query for the users answers. -/
def foundUsers (found : List PFUser) (s : RefreshState) : RefreshState :=
  { s with
    table := (s.table.foundUsers found).1
    requests := s.requests.erase .users ++ (s.table.foundUsers found).2
    reloaded := false }

/-- The query for one user answers. -/
def foundIsFollowing (objectId : String) (found : List Following) (s : RefreshState) :
    RefreshState :=
  let completed : Bool := s.table.AllAnswered objectId found
  { table := s.table.foundIsFollowing objectId found
    requests := s.requests.erase (.isFollowing objectId)
    ended := s.ended || completed
    reloaded := completed }

/-- A query answers with an error; its block only prints. -/
def failed (request : Request) (s : RefreshState) : RefreshState :=
  { s with requests := s.requests.erase request }

end RefreshState

inductive RefreshEvent where
  | refresh
  | foundUsers (found : List PFUser)
  | failedUsers
  | foundIsFollowing (objectId : String) (found : List Following)
  | failedIsFollowing (objectId : String)
  deriving DecidableEq, Repr

/-- The queries answer in any order, and with anything. -/
inductive RefreshStep : RefreshState → RefreshEvent → RefreshState → Prop where
  | refresh {s : RefreshState} : RefreshStep s .refresh s.refreshUserTable
  | foundUsers {s : RefreshState} {found : List PFUser} :
      .users ∈ s.requests → RefreshStep s (.foundUsers found) (s.foundUsers found)
  | failedUsers {s : RefreshState} :
      .users ∈ s.requests → RefreshStep s .failedUsers (s.failed .users)
  | foundIsFollowing {s : RefreshState} {objectId : String} {found : List Following} :
      .isFollowing objectId ∈ s.requests →
      RefreshStep s (.foundIsFollowing objectId found) (s.foundIsFollowing objectId found)
  | failedIsFollowing {s : RefreshState} {objectId : String} :
      .isFollowing objectId ∈ s.requests →
      RefreshStep s (.failedIsFollowing objectId) (s.failed (.isFollowing objectId))

/-! ## What the answers of a run have brought -/

/-- The event is an answer with an error. -/
def RefreshEvent.IsFailure : RefreshEvent → Prop
  | failedUsers | failedIsFollowing _ => True
  | refresh | foundUsers _ | foundIsFollowing _ _ => False

/-- The users that the last query for them found, and for whom an answer has come since. -/
structure Progress where
  listed : List PFUser
  answered : Finset String

def Progress.record (p : Progress) : RefreshEvent → Progress
  | .foundUsers found => ⟨found, ∅⟩
  | .foundIsFollowing objectId _ => { p with answered := insert objectId p.answered }
  | .refresh | .failedUsers | .failedIsFollowing _ => p

/-- The progress after a run of events. -/
def progress (es : List RefreshEvent) : Progress :=
  es.foldl Progress.record ⟨[], ∅⟩

theorem progress_snoc (es : List RefreshEvent) (e : RefreshEvent) :
    progress (es ++ [e]) = (progress es).record e := by
  simp [progress]

/-- An answer has come that made as many users answered for as were listed, and nothing but failures
since. -/
def EndsComplete (es : List RefreshEvent) : Prop :=
  HeldSince RefreshEvent.IsFailure
    (fun before e => ∃ objectId found, e = .foundIsFollowing objectId found ∧
      (insert objectId (progress before).answered).card = (progress before).listed.length) es

/-- The table lists the users found last and holds an entry for each of those answered for. -/
structure Recorded (es : List RefreshEvent) (table : UserTable) : Prop where
  usernames : table.usernames.length = (progress es).listed.length
  followings : table.followings.keys = (progress es).answered

theorem keys_insert (objectId : String) (follows : Bool)
    (followings : Finmap fun _ : String => Bool) :
    (followings.insert objectId follows).keys = insert objectId followings.keys := by
  ext other
  simp [Finmap.mem_keys, Finmap.mem_insert]

namespace Recorded

variable {es : List RefreshEvent} {s t : RefreshState} {e : RefreshEvent}

theorem initial : Recorded [] .initial where
  usernames := rfl
  followings := Finmap.keys_empty

theorem step (h : Recorded es s.table) (hstep : RefreshStep s e t) :
    Recorded (es ++ [e]) t.table where
  usernames := by
    rw [progress_snoc]
    cases hstep with
    | refresh => exact h.usernames
    | foundUsers _ =>
        simp [Progress.record, RefreshState.foundUsers, UserTable.foundUsers]
    | failedUsers _ => exact h.usernames
    | foundIsFollowing _ => exact h.usernames
    | failedIsFollowing _ => exact h.usernames
  followings := by
    rw [progress_snoc]
    cases hstep with
    | refresh => exact h.followings
    -- the answers for the old list are forgotten, those still to come are not
    | foundUsers _ => exact Finmap.keys_empty
    | failedUsers _ => exact h.followings
    | foundIsFollowing _ =>
        rw [Progress.record, ← h.followings]
        exact keys_insert _ _ _
    | failedIsFollowing _ => exact h.followings

/-- The counts compared are those of the run. -/
theorem allAnswered_iff (h : Recorded es s.table) (objectId : String) (found : List Following) :
    s.table.AllAnswered objectId found ↔
      (insert objectId (progress es).answered).card = (progress es).listed.length := by
  rw [UserTable.AllAnswered, keys_insert, h.followings, h.usernames]
  exact eq_comm

end Recorded

theorem recorded_of_run {es : List RefreshEvent} {s : RefreshState}
    (hrun : Run RefreshStep .launch es s) : Recorded es s.table := by
  refine hrun.invariant_history
    (P := fun es (s : RefreshState) => Recorded es s.table) ?_ ?_
  · exact Recorded.initial
  · exact fun es s e t _ h hstep => h.step hstep

/-! ## The end of a run -/

/-- `endRefreshing()` has been called since the last refresh started, and the table has been
reloaded since its arrays last changed. -/
def RefreshState.Completed (s : RefreshState) : Prop :=
  s.ended = true ∧ s.reloaded = true

theorem endsComplete_snoc {es : List RefreshEvent} {s : RefreshState} {e : RefreshEvent}
    (hrecorded : Recorded es s.table) :
    EndsComplete (es ++ [e]) ↔
      (∃ objectId found, e = .foundIsFollowing objectId found ∧
        s.table.AllAnswered objectId found) ∨ EndsComplete es ∧ e.IsFailure := by
  simp only [hrecorded.allAnswered_iff]
  exact HeldSince.snoc_iff

/-- A step completes the refresh, or it is a failure and leaves everything as it was. -/
theorem completed_step_iff {s t : RefreshState} {e : RefreshEvent} (hstep : RefreshStep s e t) :
    t.Completed ↔
      (∃ objectId found, e = .foundIsFollowing objectId found ∧
        s.table.AllAnswered objectId found) ∨ s.Completed ∧ e.IsFailure := by
  cases hstep with
  | refresh =>
      simp [RefreshState.Completed, RefreshState.refreshUserTable, RefreshEvent.IsFailure]
  | foundUsers _ =>
      simp [RefreshState.Completed, RefreshState.foundUsers, RefreshEvent.IsFailure]
  | failedUsers _ =>
      simp [RefreshState.Completed, RefreshState.failed, RefreshEvent.IsFailure]
  | @foundIsFollowing objectId found _ =>
      -- any other answer changes `followings` and does not reload the table
      by_cases hall : s.table.AllAnswered objectId found <;>
        simp [RefreshState.Completed, RefreshState.foundIsFollowing, RefreshEvent.IsFailure, hall]
  | failedIsFollowing _ =>
      simp [RefreshState.Completed, RefreshState.failed, RefreshEvent.IsFailure]

/-- A failure is never the first event. -/
theorem not_isFailure_of_launch {t : RefreshState} {e : RefreshEvent}
    (hstep : RefreshStep .launch e t) : ¬ e.IsFailure := by
  cases hstep with
  | refresh => exact id
  | foundUsers hin => cases hin
  | failedUsers hin => cases hin
  | foundIsFollowing hin => cases hin
  | failedIsFollowing hin => cases hin

/-- Whatever is in flight, the refreshes of a run are complete if and only if none has started, or
an answer came that made as many users answered for as were listed, and nothing but failures
since. -/
theorem completed_iff {es : List RefreshEvent} {s : RefreshState}
    (hrun : Run RefreshStep .launch es s) : s.Completed ↔ es = [] ∨ EndsComplete es := by
  induction hrun with
  | nil => exact iff_of_true ⟨rfl, rfl⟩ (Or.inl rfl)
  | @snoc s t es e hrun hstep ih =>
      have hne : es ++ [e] ≠ [] := by simp
      -- at the launch no query is in flight that could fail
      have hfirst : es = [] → ¬ e.IsFailure := by
        rintro rfl
        rw [hrun.nil_inv] at hstep
        exact not_isFailure_of_launch hstep
      rw [completed_step_iff hstep, endsComplete_snoc (recorded_of_run hrun), ih,
        or_iff_right hne]
      refine or_congr Iff.rfl ⟨?_, ?_⟩
      · rintro ⟨hnil | hends, hfailure⟩
        · exact absurd hfailure (hfirst hnil)
        · exact ⟨hends, hfailure⟩
      · rintro ⟨hends, hfailure⟩
        exact ⟨Or.inr hends, hfailure⟩

/-- Two users are listed, and both are answered for. -/
def carol : PFUser where
  objectId := "u1"
  username := "carol"

def dave : PFUser where
  objectId := "u2"
  username := "dave"

theorem answered_run :
    Run RefreshStep .launch
      [.refresh, .foundUsers [carol, dave], .foundIsFollowing "u2" [], .foundIsFollowing "u1" []]
      ((((RefreshState.launch.refreshUserTable).foundUsers [carol, dave]).foundIsFollowing "u2"
        []).foundIsFollowing "u1" []) :=
  (((Run.single .refresh).snoc (.foundUsers (by decide))).snoc (.foundIsFollowing (by decide))).snoc
    (.foundIsFollowing (by decide))

theorem completed_answered :
    ((((RefreshState.launch.refreshUserTable).foundUsers [carol, dave]).foundIsFollowing "u2"
        []).foundIsFollowing "u1" []).Completed ↔
      [.refresh, .foundUsers [carol, dave], .foundIsFollowing "u2" [], .foundIsFollowing "u1" []] =
          ([] : List RefreshEvent) ∨
        EndsComplete [.refresh, .foundUsers [carol, dave], .foundIsFollowing "u2" [],
          .foundIsFollowing "u1" []] :=
  completed_iff answered_run

/-- Where there are no other users, nothing is in flight and the refresh goes on. -/
theorem no_users_never_ends :
    ¬ ∀ (es : List RefreshEvent) (s : RefreshState), Run RefreshStep .launch es s →
      s.requests = [] → s.Completed := by
  intro h
  have hrun : Run RefreshStep .launch [.refresh, .foundUsers []] _ :=
    (Run.single .refresh).snoc (.foundUsers (by decide))
  have hended := (h _ _ hrun (by decide)).1
  revert hended
  decide

/-! ## A list that is answered for in full -/

theorem insert_toFinset (a : String) (as : List String) :
    insert a as.toFinset = (as ++ [a]).toFinset := by
  ext b
  simp

theorem progress_answers (earlier : List RefreshEvent) (found : List PFUser)
    (answers : List (String × List Following)) :
    progress (earlier ++ .foundUsers found ::
        answers.map fun answer => .foundIsFollowing answer.1 answer.2) =
      ⟨found, (answers.map Prod.fst).toFinset⟩ := by
  induction answers using List.reverseRecOn with
  | nil => simp [progress, Progress.record]
  | append_singleton answers answer ih =>
      rw [List.map_append, ← List.cons_append, ← List.append_assoc, List.map_singleton,
        progress_snoc, ih]
      simp only [Progress.record, insert_toFinset, List.map_append, List.map_singleton]

/-- The answers for all users of a list complete the refresh, in whatever order they come. -/
theorem endsComplete_answers (earlier : List RefreshEvent) {found : List PFUser}
    {answers : List (String × List Following)} (hsome : found ≠ [])
    (hids : (found.map PFUser.objectId).Nodup)
    (hall : (answers.map Prod.fst).Perm (found.map PFUser.objectId)) :
    EndsComplete (earlier ++ .foundUsers found ::
      answers.map fun answer => .foundIsFollowing answer.1 answer.2) := by
  have hlength : answers.length = found.length := by simpa using hall.length_eq
  rcases List.eq_nil_or_concat answers with rfl | ⟨answers, last, rfl⟩
  · exact absurd (List.length_eq_zero_iff.1 hlength.symm) hsome
  · -- the last answer is the one that makes the counts agree
    refine ⟨earlier ++ .foundUsers found ::
      answers.map fun answer => .foundIsFollowing answer.1 answer.2, [], _, ?_,
      ⟨last.1, last.2, rfl, ?_⟩, by simp⟩
    · simp
    · have hnodup := hall.nodup_iff.2 hids
      rw [progress_answers]
      calc
        (insert last.1 (answers.map Prod.fst).toFinset).card
            = ((answers.concat last).map Prod.fst).toFinset.card := by
              rw [insert_toFinset, List.concat_eq_append, List.map_append, List.map_singleton]
        _ = ((answers.concat last).map Prod.fst).length := List.toFinset_card_of_nodup hnodup
        _ = found.length := by rw [List.length_map, hlength]

end InstagramClone
end IosProjects
