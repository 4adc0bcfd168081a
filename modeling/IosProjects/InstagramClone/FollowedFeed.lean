import IosProjects.InstagramClone.Convergence
import IosProjects.InstagramClone.PostedFeed

/-!
# FollowedFeed — the feed of the users whose rows are checked

The table of users and the feed meet on the server: taps store and delete objects of `Following`,
and the first query of the feed finds those of the current user. When the feed is opened with
nothing in flight, it shows the posts of the users with a check mark, unless a query of an unfollow
has missed a row.
-/

namespace IosProjects
namespace InstagramClone

open IosProjects.Library

/-! ## The first query -/

/-- The objects `whereKey("follower", equalTo:)` alone matches. -/
def Server.followingsOf (follower : String) (server : Server) : List Following :=
  server.rows.filter fun row => row.follower = follower

/-- The first query is answered from the rows of the server; each of them has both fields. -/
def FeedEvent.AnsweredBy (currentUser : PFUser) (server : Server) : FeedEvent → Prop
  | .foundFollowing followers => ∃ found : List Following,
      IsFind (server.followingsOf currentUser.objectId) found ∧
        followers = found.map fun row => some row.following
  | _ => True

/-- The query has found what it was made for. -/
def FeedEvent.Succeeds : FeedEvent → Prop
  | .failedFollowing => False
  | .failedPosts _ => False
  | _ => True

/-- The answer to the first query. -/
def FeedEvent.isFirst : FeedEvent → Bool
  | .foundFollowing _ => true
  | .failedFollowing => true
  | _ => false

section First

variable {posts : List Post} {es : List FeedEvent} {s t : FeedState} {e : FeedEvent}

theorem following_not_mem_foundFollowing (followers : List (Option String)) :
    FeedRequest.following ∉ FeedTableViewController.foundFollowing followers := by
  intro hmem
  rcases List.mem_filterMap.1 hmem with ⟨following, _, hrequest⟩
  cases following <;> simp at hrequest

/-- The first query is made once, so it is in flight or has been answered. -/
theorem FeedStep.count_following (hstep : FeedStep posts s e t) :
    t.requests.count .following + (if e.isFirst then 1 else 0) = s.requests.count .following := by
  cases hstep with
  | @foundFollowing followers hmem =>
      have hnone := List.count_eq_zero_of_not_mem (following_not_mem_foundFollowing followers)
      have hpos := List.count_pos_iff.2 hmem
      rw [List.count_append, hnone, List.count_erase_self]
      simp only [FeedEvent.isFirst, if_true]
      omega
  | failedFollowing hmem =>
      have hpos := List.count_pos_iff.2 hmem
      rw [List.count_erase_self]
      simp only [FeedEvent.isFirst, if_true]
      omega
  | foundPosts _ _ => simp [FeedEvent.isFirst, List.count_erase_of_ne]
  | failedPosts _ => simp [FeedEvent.isFirst, List.count_erase_of_ne]

theorem count_first_of_run (hrun : Run (FeedStep posts) .loaded es t) :
    t.requests.count .following + es.countP FeedEvent.isFirst = 1 := by
  refine hrun.invariant_history
    (P := fun es t => t.requests.count .following + es.countP FeedEvent.isFirst = 1) (by decide) ?_
  intro es s e t _ h hstep
  have hcount := hstep.count_following
  rw [List.countP_append, List.countP_singleton]
  omega

/-- Only the answer to the first query finds users. -/
theorem followedUsers_eq_nil (h : ∀ e ∈ es, e.isFirst = false) :
    es.flatMap FeedEvent.followedUsers = [] := by
  refine List.flatMap_eq_nil_iff.2 fun e he => ?_
  have hother := h e he
  cases e <;> simp_all [FeedEvent.isFirst, FeedEvent.followedUsers]

/-- When nothing is in flight and nothing has failed, the users found are those of one answer. -/
theorem followedUsers_of_run (hrun : Run (FeedStep posts) .loaded es t)
    (hanswered : t.requests = []) (hok : ∀ e ∈ es, e.Succeeds) :
    ∃ followers, .foundFollowing followers ∈ es ∧
      es.flatMap FeedEvent.followedUsers = followers.filterMap id := by
  have hone : es.countP FeedEvent.isFirst = 1 := by
    simpa [hanswered] using count_first_of_run hrun
  obtain ⟨e, he, hfirst⟩ := List.countP_pos_iff.1 (hone ▸ Nat.one_pos)
  obtain ⟨before, after, rfl⟩ := List.append_of_mem he
  rw [List.countP_append, List.countP_cons_of_pos hfirst] at hone
  have hbefore : ∀ e ∈ before, e.isFirst = false := by
    simpa using List.countP_eq_zero.1 (by omega : before.countP FeedEvent.isFirst = 0)
  have hafter : ∀ e ∈ after, e.isFirst = false := by
    simpa using List.countP_eq_zero.1 (by omega : after.countP FeedEvent.isFirst = 0)
  cases e with
  | foundFollowing followers =>
      refine ⟨followers, he, ?_⟩
      rw [List.flatMap_append, List.flatMap_cons, followedUsers_eq_nil hbefore,
        followedUsers_eq_nil hafter, List.append_nil, List.nil_append]
      rfl
  | failedFollowing => exact absurd (hok _ he) id
  | foundPosts followedUser found => cases hfirst
  | failedPosts followedUser => cases hfirst

theorem failedUsers_eq_nil (hok : ∀ e ∈ es, e.Succeeds) :
    es.flatMap FeedEvent.failedUsers = [] := by
  refine List.flatMap_eq_nil_iff.2 fun e he => ?_
  have hsucceeds := hok e he
  cases e with
  | failedPosts followedUser => exact absurd hsucceeds id
  | _ => rfl

end First

/-! ## What the feed shows -/

section Shown

variable {currentUser : PFUser} {server : Server} {posts : List Post} {es : List FeedEvent}
  {t : FeedState} {post : Post} {objectId : String}

/-- A user is found once for each row. -/
theorem count_found {found : List Following}
    (hfound : found.Perm (server.followingsOf currentUser.objectId)) (objectId : String) :
    (found.map Following.following).count objectId =
      (server.followings currentUser.objectId objectId).length := by
  calc (found.map Following.following).count objectId
      = found.countP fun row => row.following = objectId := by
        rw [List.count, List.countP_map]
        exact List.countP_congr fun row _ => by simp
    _ = (server.followingsOf currentUser.objectId).countP fun row => row.following = objectId :=
        hfound.countP_eq _
    _ = (server.followings currentUser.objectId objectId).length := by
        rw [List.countP_eq_length_filter, Server.followingsOf, Server.followings,
          List.filter_filter]
        congr 1
        exact List.filter_congr fun row _ => Bool.and_comm _ _

/-- A feed whose queries have all been answered shows a post once for each row of its user. -/
theorem timesShown_of_run (hrun : Run (FeedStep posts) .loaded es t)
    (hserver : ∀ e ∈ es, e.AnsweredBy currentUser server) (hok : ∀ e ∈ es, e.Succeeds)
    (hanswered : t.requests = [])
    (hfew : (server.followingsOf currentUser.objectId).length ≤ defaultLimit)
    (hsmall : ∀ user, (postsOf user posts).length ≤ defaultLimit)
    (hcomplete : ∀ post ∈ posts, post.Complete) (hnodup : posts.Nodup) (hpost : post ∈ posts)
    (huser : post.userId = some objectId) :
    t.vc.timesShown post =
      (server.followings currentUser.objectId objectId).length := by
  obtain ⟨followers, hfirst, hfollowed⟩ := followedUsers_of_run hrun hanswered hok
  obtain ⟨found, hfind, rfl⟩ := hserver _ hfirst
  have hfollowers : (found.map fun row => some row.following).filterMap id =
      found.map Following.following := by
    rw [List.filterMap_map]
    exact congrFun List.filterMap_eq_map found
  have hreceived : ∀ post ∈ receivedPosts es, post.Complete := fun post hpost =>
    hcomplete post (received_subset hrun post hpost)
  calc t.vc.timesShown post
      = (receivedPosts es).count post := (feedMatches_of_run hrun).timesShown hreceived post
    _ = (postsOfAll posts (es.flatMap FeedEvent.followedUsers)).count post := by
        have hperm := (accounted_of_run hsmall hrun).count_eq post
        rwa [accounted, hanswered, failedUsers_eq_nil hok, postsOfAll, List.flatMap_nil,
          List.flatMap_nil, List.append_nil, List.append_nil] at hperm
    _ = (found.map Following.following).count objectId := by
        rw [count_postsOfAll hnodup hpost huser, hfollowed, hfollowers]
    _ = (server.followings currentUser.objectId objectId).length :=
        count_found (hfind.perm_of_le hfew) objectId

end Shown

/-! ## Check marks and feed -/

/-- Two posts of bob. -/
def bobBeach : Post :=
  ⟨"p", some "b", some "the beach", some ⟨"beach.png"⟩⟩

def bobPark : Post :=
  ⟨"q", some "b", some "the park", some ⟨"park.png"⟩⟩

def bobPosts : List Post :=
  [bobBeach, bobPark]

/-- Alice opens her feed after she has followed bob. -/
def bobShown : FeedState where
  vc := FeedTableViewController.initial.foundPosts bobPosts
  requests := []

theorem bobShown_run : Run (FeedStep bobPosts) .loaded
    [.foundFollowing [some "b"], .foundPosts "b" bobPosts] bobShown :=
  (Run.single (.foundFollowing (by decide))).snoc (.foundPosts (by decide) (IsFind.all (by decide)))

theorem bobPosts_complete : ∀ post ∈ bobPosts, post.Complete := by
  simp only [bobPosts, bobBeach, bobPark, List.mem_cons, List.not_mem_nil, or_false,
    forall_eq_or_imp, forall_eq]
  exact ⟨⟨rfl, rfl, rfl⟩, ⟨rfl, rfl, rfl⟩⟩

end InstagramClone
end IosProjects
