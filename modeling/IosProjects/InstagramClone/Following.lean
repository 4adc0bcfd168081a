import Mathlib.Data.Finmap
import IosProjects.Library.Run

/-!
# Following — the table of users, the requests it fires and the server

`UserTableViewController` keeps, for every listed user, whether the current user follows them. A tap
on a row flips that entry at once and fires a request without waiting for earlier ones: a save to
follow, a query to unfollow, whose callback deletes each row found. The server processes the
requests in any order; all of them succeed.

The cells and their check marks are left out, nothing is read back from them.
-/

namespace IosProjects
namespace InstagramClone

/-! ## The server -/

/-- A stored user; the server gives every one both fields. -/
structure PFUser where
  objectId : String
  username : String
  deriving DecidableEq, Repr

/-- An object of the class `Following`. -/
structure Following where
  objectId : ℕ
  follower : String
  following : String
  deriving DecidableEq, Repr

/-- An `objectId` is given out once. -/
structure Server where
  users : List PFUser
  rows : List Following
  nextID : ℕ
  ids_nodup : (rows.map Following.objectId).Nodup
  id_lt : ∀ row ∈ rows, row.objectId < nextID

namespace Server

/-- What `whereKey("follower", equalTo:)` and `whereKey("following", equalTo:)` match. -/
def followings (follower following : String) (server : Server) : List Following :=
  server.rows.filter fun row => row.follower = follower && row.following = following

/-- The object a save of `following` stores. -/
def newFollowing (follower following : String) (server : Server) : Following where
  objectId := server.nextID
  follower := follower
  following := following

def save (follower following : String) (server : Server) : Server where
  users := server.users
  rows := server.rows ++ [server.newFollowing follower following]
  nextID := server.nextID + 1
  ids_nodup := by
    rw [List.map_append]
    refine server.ids_nodup.append (by simp) ?_
    intro objectId hold hnew
    rcases List.mem_map.1 hold with ⟨row, hrow, rfl⟩
    have hsame : row.objectId = server.nextID := by simpa [newFollowing] using hnew
    exact absurd hsame (server.id_lt row hrow).ne
  id_lt := by
    intro row hrow
    rcases List.mem_append.1 hrow with hrow | hrow
    · exact (server.id_lt row hrow).trans (Nat.lt_succ_self _)
    · obtain rfl := List.mem_singleton.1 hrow
      exact Nat.lt_succ_self _

/-- Deleting a row that is gone changes nothing. -/
def delete (row : Following) (server : Server) : Server where
  users := server.users
  rows := server.rows.erase row
  nextID := server.nextID
  ids_nodup := server.ids_nodup.sublist (List.erase_sublist.map _)
  id_lt := fun row' h => server.id_lt row' (List.mem_of_mem_erase h)

variable {server : Server} {follower following : String}

theorem mem_followings {row : Following} :
    row ∈ server.followings follower following ↔
      row ∈ server.rows ∧ row.follower = follower ∧ row.following = following := by
  simp [followings]

theorem followings_nodup (server : Server) (follower following : String) :
    (server.followings follower following).Nodup :=
  (List.Nodup.of_map _ server.ids_nodup).filter _

theorem followings_save (follower following following' : String) (server : Server) :
    (server.save follower following).followings follower following' =
      if following = following' then
        server.followings follower following' ++ [server.newFollowing follower following]
      else server.followings follower following' := by
  by_cases hsame : following = following' <;> simp [followings, save, newFollowing, hsame]

theorem followings_delete (row : Following) (server : Server) :
    (server.delete row).followings follower following =
      (server.followings follower following).erase row := by
  rw [followings, followings, List.erase_filter]
  rfl

end Server

/-- A query that sets no limit returns at most so many objects. -/
def defaultLimit : ℕ := 100

/-- The answers `findObjectsInBackground(block:)` may give, in any order. -/
structure IsFind {α : Type} (matching found : List α) : Prop where
  subperm : found.Subperm matching
  length : found.length = min defaultLimit matching.length

theorem IsFind.mem {α : Type} {matching found : List α} (h : IsFind matching found) {a : α}
    (ha : a ∈ found) : a ∈ matching :=
  h.subperm.subset ha

/-- A query with few enough matches returns them all. -/
theorem IsFind.all {α : Type} {matching : List α} (h : matching.length ≤ defaultLimit) :
    IsFind matching matching :=
  ⟨List.Subperm.refl _, (min_eq_right h).symm⟩

theorem IsFind.mem_of_le {α : Type} {matching found : List α} (h : IsFind matching found)
    (hle : matching.length ≤ defaultLimit) {a : α} (ha : a ∈ matching) : a ∈ found := by
  have hlength : found.length = matching.length := h.length.trans (min_eq_right hle)
  exact (h.subperm.perm_of_length_le hlength.ge).mem_iff.2 ha

/-! ## Requests and their callbacks -/

/-- What the device has sent and the server has not processed. -/
inductive Request where
  -- the query of `refreshUserTable` for the users, and the one it makes for each of them
  | users
  | isFollowing (objectId : String)
  -- what a tap sends
  | follow (objectId : String)
  | unfollow (objectId : String)
  -- `obj.deleteInBackground()`
  | delete (row : Following)
  deriving DecidableEq, Repr

/-- An answer whose block has not run. The block of a save only prints. -/
inductive Callback where
  | users (found : List PFUser)
  | isFollowing (objectId : String) (found : List Following)
  | unfollow (found : List Following)
  deriving DecidableEq, Repr

/-! ## `UserTableViewController` -/

/-- `rows` is the number of rows the table view shows since it was last reloaded. -/
structure UserTable where
  usernames : List String
  objectIds : List String
  followings : Finmap fun _ : String => Bool
  rows : ℕ

namespace UserTable

def initial : UserTable where
  usernames := []
  objectIds := []
  followings := ∅
  rows := 0

/-- `tableView(_:didSelectRowAt:)`; `objectIds[indexPath.row]` can trap. -/
def didSelectRowAt (row : ℕ) (table : UserTable) : Option (UserTable × List Request) :=
  match table.objectIds[row]? with
  | none => none
  | some objectId =>
      match table.followings.lookup objectId with
      | none => some (table, [])
      | some true =>
          some ({ table with followings := table.followings.insert objectId false },
            [.unfollow objectId])
      | some false =>
          some ({ table with followings := table.followings.insert objectId true },
            [.follow objectId])

/-- The block of the query for the users. -/
def foundUsers (found : List PFUser) (table : UserTable) : UserTable × List Request :=
  ({ table with
      usernames := found.map PFUser.username
      objectIds := found.map PFUser.objectId
      followings := ∅ },
    found.map fun user => .isFollowing user.objectId)

/-- The block of the query for one user; it reloads the table after the last of them. -/
def foundIsFollowing (objectId : String) (found : List Following) (table : UserTable) : UserTable :=
  let followings := table.followings.insert objectId (0 < found.length)
  { table with
    followings := followings
    rows := if table.usernames.length = followings.keys.card then table.usernames.length
      else table.rows }

/-- Running the block of an answer; what it sends comes second. -/
def run (callback : Callback) (table : UserTable) : UserTable × List Request :=
  match callback with
  | .users found => table.foundUsers found
  | .isFollowing objectId found => (table.foundIsFollowing objectId found, [])
  | .unfollow found => (table, found.map .delete)

end UserTable

/-! ## Steps -/

structure AppState where
  server : Server
  table : UserTable
  requests : List Request
  callbacks : List Callback

namespace AppState

def launch (server : Server) : AppState where
  server := server
  table := .initial
  requests := []
  callbacks := []

/-- No request is in flight. -/
def Quiet (s : AppState) : Prop :=
  s.requests = [] ∧ s.callbacks = []

instance (s : AppState) : Decidable s.Quiet :=
  inferInstanceAs (Decidable (_ ∧ _))

/-- The server takes a request off and leaves an answer. -/
def answer (request : Request) (callback : Callback) (s : AppState) : AppState :=
  { s with
    requests := s.requests.erase request
    callbacks := s.callbacks ++ [callback] }

/-- The server takes a request off that nothing waits for. -/
def process (request : Request) (server : Server) (s : AppState) : AppState :=
  { s with
    server := server
    requests := s.requests.erase request }

end AppState

/-- What the user does, what the server does and the blocks that run; an event of the server carries
what it found, stored or deleted. -/
inductive Event where
  | refresh
  | tap (row : ℕ)
  | foundUsers (found : List PFUser)
  | foundIsFollowing (objectId : String) (found : List Following)
  | saved (row : Following)
  | foundUnfollow (objectId : String) (found : List Following)
  | deleted (row : Following)
  | run (callback : Callback)
  deriving DecidableEq, Repr

/-- The steps of the device on which `currentUser` is logged in. -/
inductive Step (currentUser : PFUser) : AppState → Event → AppState → Prop where
  -- `viewDidLoad()` and pulling the table down
  | refresh {s : AppState} :
      Step currentUser s .refresh { s with requests := s.requests ++ [.users] }
  | tap {s : AppState} {row : ℕ} {table : UserTable} {sent : List Request} :
      row < s.table.rows → s.table.didSelectRowAt row = some (table, sent) →
      Step currentUser s (.tap row) { s with table := table, requests := s.requests ++ sent }
  | foundUsers {s : AppState} {found : List PFUser} :
      .users ∈ s.requests →
      IsFind (s.server.users.filter fun user => user.username ≠ currentUser.username) found →
      Step currentUser s (.foundUsers found) (s.answer .users (.users found))
  | foundIsFollowing {s : AppState} {objectId : String} {found : List Following} :
      .isFollowing objectId ∈ s.requests →
      IsFind (s.server.followings currentUser.objectId objectId) found →
      Step currentUser s (.foundIsFollowing objectId found)
        (s.answer (.isFollowing objectId) (.isFollowing objectId found))
  | saved {s : AppState} {objectId : String} :
      .follow objectId ∈ s.requests →
      Step currentUser s (.saved (s.server.newFollowing currentUser.objectId objectId))
        (s.process (.follow objectId) (s.server.save currentUser.objectId objectId))
  | foundUnfollow {s : AppState} {objectId : String} {found : List Following} :
      .unfollow objectId ∈ s.requests →
      IsFind (s.server.followings currentUser.objectId objectId) found →
      Step currentUser s (.foundUnfollow objectId found)
        (s.answer (.unfollow objectId) (.unfollow found))
  | deleted {s : AppState} {row : Following} :
      .delete row ∈ s.requests →
      Step currentUser s (.deleted row) (s.process (.delete row) (s.server.delete row))
  | run {s : AppState} {callback : Callback} :
      callback ∈ s.callbacks →
      Step currentUser s (.run callback)
        { s with
          table := (s.table.run callback).1
          requests := s.requests ++ (s.table.run callback).2
          callbacks := s.callbacks.erase callback }

end InstagramClone
end IosProjects
