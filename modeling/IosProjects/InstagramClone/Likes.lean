import Mathlib.Algebra.Ring.Parity
import IosProjects.InstagramClone.Feed

/-!
# Likes — pressing the like button

`likePost(sender:)` looks for the likes that the current user has given the post. It flips `isLiked`
of each that it finds and saves it, and saves a new one if there is none. A new one says that the
post is not liked.

The query and the saves of a press have succeeded before the next press. What the button looks like
is left out, nothing is read back from it.
-/

namespace IosProjects
namespace InstagramClone

open IosProjects.Library

/-! ## The server -/

/-- What `as? Bool` can tell apart. -/
inductive ParseValue where
  | bool (value : Bool)
  | other
  deriving DecidableEq, Repr

/-- An object of the class `Like`. -/
structure Like where
  objectId : ℕ
  user_id : String
  post_id : String
  isLiked : Option ParseValue
  deriving DecidableEq, Repr

/-- An `objectId` is given out once. -/
structure LikeServer where
  rows : List Like
  nextID : ℕ
  ids_nodup : (rows.map Like.objectId).Nodup
  id_lt : ∀ row ∈ rows, row.objectId < nextID

namespace LikeServer

/-- What `whereKey("user_id", equalTo:)` and `whereKey("post_id", equalTo:)` match. -/
def likes (user_id post_id : String) (server : LikeServer) : List Like :=
  server.rows.filter fun row => row.user_id = user_id && row.post_id = post_id

/-- The stored object takes over `isLiked`, the one key that has been assigned. -/
def assign (obj row : Like) : Like :=
  if row.objectId = obj.objectId then { row with isLiked := obj.isLiked } else row

@[simp] theorem objectId_assign (obj row : Like) : (assign obj row).objectId = row.objectId := by
  unfold assign
  split <;> rfl

@[simp] theorem user_id_assign (obj row : Like) : (assign obj row).user_id = row.user_id := by
  unfold assign
  split <;> rfl

@[simp] theorem post_id_assign (obj row : Like) : (assign obj row).post_id = row.post_id := by
  unfold assign
  split <;> rfl

/-- `obj.saveInBackground()` for an object that is stored already. -/
def save (obj : Like) (server : LikeServer) : LikeServer where
  rows := server.rows.map (assign obj)
  nextID := server.nextID
  ids_nodup := by
    have hids :
        (server.rows.map (assign obj)).map Like.objectId = server.rows.map Like.objectId := by
      simp
    rw [hids]
    exact server.ids_nodup
  id_lt := by
    intro row hrow
    rcases List.mem_map.1 hrow with ⟨before, hbefore, rfl⟩
    rw [objectId_assign]
    exact server.id_lt before hbefore

/-- The object that saving a new `userLike` stores. -/
def userLike (user_id post_id : String) (server : LikeServer) : Like where
  objectId := server.nextID
  user_id := user_id
  post_id := post_id
  isLiked := some (.bool false)

/-- `userLike.saveInBackground()`. -/
def create (user_id post_id : String) (server : LikeServer) : LikeServer where
  rows := server.rows ++ [server.userLike user_id post_id]
  nextID := server.nextID + 1
  ids_nodup := by
    rw [List.map_append]
    refine server.ids_nodup.append (by simp) ?_
    intro objectId hold hnew
    rcases List.mem_map.1 hold with ⟨row, hrow, rfl⟩
    have hsame : row.objectId = server.nextID := by simpa [userLike] using hnew
    exact absurd hsame (server.id_lt row hrow).ne
  id_lt := by
    intro row hrow
    rcases List.mem_append.1 hrow with hrow | hrow
    · exact (server.id_lt row hrow).trans (Nat.lt_succ_self _)
    · obtain rfl := List.mem_singleton.1 hrow
      exact Nat.lt_succ_self _

variable {server : LikeServer} {user_id post_id : String}

theorem mem_likes {row : Like} :
    row ∈ server.likes user_id post_id ↔
      row ∈ server.rows ∧ row.user_id = user_id ∧ row.post_id = post_id := by
  simp [likes]

theorem likes_save (obj : Like) (server : LikeServer) :
    (server.save obj).likes user_id post_id = (server.likes user_id post_id).map (assign obj) := by
  rw [likes, likes, save, List.filter_map]
  simp [Function.comp_def]

/-- Saving an object leaves the likes alone that it is not one of. -/
theorem likes_save_of_ne {obj : Like} (hobj : obj ∈ server.rows) (hother : obj.post_id ≠ post_id)
    {saved : Like} (hid : saved.objectId = obj.objectId) :
    (server.save saved).likes user_id post_id = server.likes user_id post_id := by
  rw [likes_save]
  refine (List.map_congr_left fun row hrow => ?_).trans (List.map_id _)
  have hne : row.objectId ≠ saved.objectId := by
    rw [hid]
    intro hsame
    have hrow' := mem_likes.1 hrow
    have heq := List.inj_on_of_nodup_map server.ids_nodup hrow'.1 hobj hsame
    exact hother (heq ▸ hrow'.2.2)
  simp [assign, hne]

theorem likes_create (post_id' : String) (server : LikeServer) :
    (server.create user_id post_id').likes user_id post_id =
      if post_id' = post_id then
        server.likes user_id post_id ++ [server.userLike user_id post_id']
      else server.likes user_id post_id := by
  by_cases hsame : post_id' = post_id <;> simp [likes, create, userLike, hsame]

end LikeServer

/-! ## `likePost(sender:)` -/

/-- What the loop assigns to an object; `obj["isLiked"]!` traps when there is no such key. -/
def Like.toggled (obj : Like) : Option Like :=
  match obj.isLiked with
  | none => none
  | some (.bool true) => some { obj with isLiked := some (.bool false) }
  | some (.bool false) => some { obj with isLiked := some (.bool true) }
  | some .other => some obj

theorem Like.toggled_frame {obj obj' : Like} (h : obj.toggled = some obj') :
    obj'.objectId = obj.objectId ∧ obj'.post_id = obj.post_id := by
  unfold Like.toggled at h
  split at h <;> cases h <;> exact ⟨rfl, rfl⟩

/-- The loop over the objects found. -/
def toggleLikes : List Like → LikeServer → Option LikeServer
  | [], server => some server
  | obj :: objects, server =>
      match obj.toggled with
      | none => none
      | some obj => toggleLikes objects (server.save obj)

/-- The block of the query that a press of the button makes, with its saves. -/
def likeBlock (user_id post_id : String) (objects : List Like) (server : LikeServer) :
    Option LikeServer :=
  if objects.length > 0 then toggleLikes objects server
  else some (server.create user_id post_id)

/-! ## Steps -/

structure LikeState where
  server : LikeServer
  vc : FeedTableViewController

/-- `objects` are what the query of a press finds. -/
inductive LikeEvent where
  | likePost (row : ℕ) (post_id : String) (objects : List Like)
  | foundPosts (posts : List Post)
  | others
  deriving DecidableEq, Repr

/-- What can happen around the feed of `user_id`; other users change likes of their own. -/
inductive LikeStep (user_id : String) : LikeState → LikeEvent → LikeState → Prop where
  | likePost {s : LikeState} {row : ℕ} {post_id : String} {objects : List Like}
      {server : LikeServer} :
      s.vc.likedPostId row = some post_id → IsFind (s.server.likes user_id post_id) objects →
      likeBlock user_id post_id objects s.server = some server →
      LikeStep user_id s (.likePost row post_id objects) { s with server := server }
  | foundPosts {s : LikeState} {posts : List Post} :
      LikeStep user_id s (.foundPosts posts) { s with vc := s.vc.foundPosts posts }
  | others {s : LikeState} {server : LikeServer} :
      (∀ post_id, server.likes user_id post_id = s.server.likes user_id post_id) →
      LikeStep user_id s .others { s with server := server }

/-- The event is a press of the button of the post. -/
def LikeEvent.presses (post_id : String) : LikeEvent → Bool
  | likePost _ pressed _ => pressed = post_id
  | foundPosts _ | others => false

/-! ## The likes of one post -/

/-- Toggling likes of one post leaves those of another alone. -/
theorem likes_toggleLikes_of_ne {user_id post_id pressed : String} (hother : pressed ≠ post_id)
    {objects : List Like} {server server' : LikeServer}
    (hobjects : ∀ obj ∈ objects, obj.post_id = pressed ∧ ∃ row ∈ server.rows,
      row.objectId = obj.objectId ∧ row.post_id = pressed)
    (h : toggleLikes objects server = some server') :
    server'.likes user_id post_id = server.likes user_id post_id := by
  induction objects generalizing server with
  | nil =>
      cases h
      rfl
  | cons obj objects ih =>
      rw [toggleLikes] at h
      split at h
      · cases h
      · rename_i saved hsaved
        obtain ⟨hid, _⟩ := Like.toggled_frame hsaved
        obtain ⟨row, hrow, hrowId, hrowPost⟩ := (hobjects obj List.mem_cons_self).2
        have hstored : (server.save saved).likes user_id post_id = server.likes user_id post_id :=
          LikeServer.likes_save_of_ne hrow (hrowPost ▸ hother) (hid.trans hrowId.symm)
        refine (ih (fun obj' hobj' => ?_) h).trans hstored
        obtain ⟨hpost, row', hrow', hid', hpost'⟩ := hobjects obj' (List.mem_cons_of_mem obj hobj')
        exact ⟨hpost, LikeServer.assign saved row', List.mem_map_of_mem hrow', by simp [hid'],
          by simp [hpost']⟩

theorem likes_likeBlock_of_ne {user_id post_id pressed : String} (hother : pressed ≠ post_id)
    {objects : List Like} {server server' : LikeServer}
    (hfind : IsFind (server.likes user_id pressed) objects)
    (h : likeBlock user_id pressed objects server = some server') :
    server'.likes user_id post_id = server.likes user_id post_id := by
  unfold likeBlock at h
  split at h
  · refine likes_toggleLikes_of_ne hother (fun obj hobj => ?_) h
    have hrow := LikeServer.mem_likes.1 (hfind.mem hobj)
    exact ⟨hrow.2.2, obj, hrow.1, rfl, hrow.2.2⟩
  · cases h
    rw [LikeServer.likes_create, if_neg hother]

/-- A query with few enough matches finds them and nothing else. -/
theorem IsFind.perm_of_le {α : Type} {matching found : List α} (h : IsFind matching found)
    (hle : matching.length ≤ defaultLimit) : found.Perm matching :=
  h.subperm.perm_of_length_le (h.length.trans (min_eq_right hle)).ge

/-- What `n` presses make of no row. -/
def likesAfter (n : ℕ) (likes : List Like) : Prop :=
  if n = 0 then likes = [] else ∃ row, likes = [row] ∧ row.isLiked = some (.bool (n % 2 = 0))

/-- The first press stores a row, and every other one flips it. -/
theorem likesAfter_likeBlock {user_id post_id : String} {n : ℕ} {objects : List Like}
    {server server' : LikeServer} (h : likesAfter n (server.likes user_id post_id))
    (hfind : IsFind (server.likes user_id post_id) objects)
    (hblock : likeBlock user_id post_id objects server = some server') :
    likesAfter (n + 1) (server'.likes user_id post_id) := by
  by_cases hn : n = 0
  · -- nothing is found, and what is saved says that the post is not liked
    subst hn
    have hnone : server.likes user_id post_id = [] := by simpa [likesAfter] using h
    rw [hnone] at hfind
    obtain rfl := (hfind.perm_of_le (by simp)).eq_nil
    simp only [likeBlock, List.length_nil, gt_iff_lt, lt_self_iff_false, if_false,
      Option.some.injEq] at hblock
    subst hblock
    refine ⟨server.userLike user_id post_id, ?_, rfl⟩
    rw [LikeServer.likes_create, if_pos rfl, hnone, List.nil_append]
  · -- the one row is found and flipped
    obtain ⟨row, hone, hliked⟩ : ∃ row, server.likes user_id post_id = [row] ∧
        row.isLiked = some (.bool (n % 2 = 0)) := by simpa [likesAfter, hn] using h
    rw [hone] at hfind
    obtain rfl := List.perm_singleton.1 (hfind.perm_of_le (by simp [defaultLimit]))
    have htoggled : row.toggled = some { row with isLiked := some (.bool ((n + 1) % 2 = 0)) } := by
      rcases Nat.mod_two_eq_zero_or_one n with hmod | hmod
      · have hsucc : (n + 1) % 2 = 1 := by omega
        simp [Like.toggled, hliked, hmod, hsucc]
      · have hsucc : (n + 1) % 2 = 0 := by omega
        simp [Like.toggled, hliked, hmod, hsucc]
    simp only [likeBlock, List.length_singleton, gt_iff_lt, zero_lt_one, if_true, toggleLikes,
      htoggled, Option.some.injEq] at hblock
    subst hblock
    simp [likesAfter, LikeServer.likes_save, hone, LikeServer.assign]

/-! ## Runs -/

section Runs

variable {user_id post_id : String} {s₀ s : LikeState} {es : List LikeEvent}

/-- After any run the row is as the number of presses says. -/
theorem likesAfter_run (hnone : s₀.server.likes user_id post_id = [])
    (hrun : Run (LikeStep user_id) s₀ es s) :
    likesAfter (es.countP (LikeEvent.presses post_id)) (s.server.likes user_id post_id) := by
  induction hrun with
  | nil => simpa [likesAfter] using hnone
  | @snoc t u es e hrun hstep ih =>
      rw [List.countP_append, List.countP_singleton]
      cases hstep with
      | @likePost row pressed objects server _ hfind hblock =>
          by_cases hsame : pressed = post_id
          · subst hsame
            simpa [LikeEvent.presses] using likesAfter_likeBlock ih hfind hblock
          · have hframe := likes_likeBlock_of_ne hsame hfind hblock
            simpa [LikeEvent.presses, hsame, hframe] using ih
      | foundPosts => simpa [LikeEvent.presses] using ih
      | others hframe => simpa [LikeEvent.presses, hframe] using ih

/-- The post is liked by the user. -/
def LikeServer.IsLiked (user_id post_id : String) (server : LikeServer) : Prop :=
  ∃ row ∈ server.likes user_id post_id, row.isLiked = some (.bool true)

/-- There is at most one row for the post, none before the first press, and the post is liked after
an odd number of presses. -/
structure Toggles (user_id post_id : String) (n : ℕ) (server : LikeServer) : Prop where
  one : (server.likes user_id post_id).length ≤ 1
  none : n = 0 → server.likes user_id post_id = []
  liked : server.IsLiked user_id post_id ↔ Odd n

/-- For every post that the user has not liked before: after a run the button has toggled as it
should, if and only if it has not been pressed at all. -/
theorem toggles_iff_not_pressed (hnone : s₀.server.likes user_id post_id = [])
    (hrun : Run (LikeStep user_id) s₀ es s) :
    Toggles user_id post_id (es.countP (LikeEvent.presses post_id)) s.server ↔
      es.countP (LikeEvent.presses post_id) = 0 := by
  have hafter := likesAfter_run hnone hrun
  generalize es.countP (LikeEvent.presses post_id) = n at hafter ⊢
  by_cases hn : n = 0
  · subst hn
    have hlikes : s.server.likes user_id post_id = [] := by simpa [likesAfter] using hafter
    refine iff_of_true ⟨by simp [hlikes], fun _ => hlikes, ?_⟩ rfl
    simp [LikeServer.IsLiked, hlikes]
  · refine iff_of_false (fun htoggles => ?_) hn
    obtain ⟨row, hone, hrow⟩ : ∃ row, s.server.likes user_id post_id = [row] ∧
        row.isLiked = some (.bool (n % 2 = 0)) := by simpa [likesAfter, hn] using hafter
    -- the row is liked after an even number of presses
    have hliked : s.server.IsLiked user_id post_id ↔ n % 2 = 0 := by
      simp [LikeServer.IsLiked, hone, hrow]
    have hodd := hliked.symm.trans htoggles.liked
    rw [Nat.odd_iff] at hodd
    omega

end Runs

/-! ## One press -/

def likeServer : LikeServer where
  rows := []
  nextID := 0
  ids_nodup := .nil
  id_lt := by simp

def sunset : Post where
  objectId := "p1"
  userId := some "u2"
  imageName := some "Sunset"
  imageFile := some ⟨"sunset.jpg"⟩

/-- The feed shows a post that has no likes. -/
def sunsetFeed : LikeState where
  server := likeServer
  vc := FeedTableViewController.initial.foundPosts [sunset]

theorem sunset_pressed : Run (LikeStep "u1") sunsetFeed [.likePost 0 "p1" []]
    { sunsetFeed with server := likeServer.create "u1" "p1" } :=
  Run.single (.likePost rfl (IsFind.all (by decide)) rfl)

theorem sunset_toggles_iff :
    Toggles "u1" "p1" 1 (likeServer.create "u1" "p1") ↔ 1 = 0 :=
  toggles_iff_not_pressed rfl sunset_pressed

/-- Pressing the button of a post for the first time stores that it is not liked. -/
theorem first_press_stores_no_like :
    ¬ ∀ (user_id post_id : String) (s₀ s : LikeState) (es : List LikeEvent),
      s₀.server.likes user_id post_id = [] → Run (LikeStep user_id) s₀ es s →
        Toggles user_id post_id (es.countP (LikeEvent.presses post_id)) s.server := by
  intro h
  have htoggles := h "u1" "p1" _ _ _ rfl sunset_pressed
  obtain ⟨row, hrow, hliked⟩ := htoggles.liked.2 (by decide)
  revert row
  decide

end InstagramClone
end IosProjects
