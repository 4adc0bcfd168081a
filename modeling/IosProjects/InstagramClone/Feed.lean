import IosProjects.Library.Lists
import IosProjects.InstagramClone.Following

/-!
# Feed — four arrays for one list of posts

`FeedTableViewController` spreads a post over the arrays `postIds`, `followings`, `comments` and
`images`, each of which is appended to only if the post has that field. The table takes its rows
from `comments` and looks the other three up at the same index. The posts of every followed user
come from a query of their own, and the queries answer in any order.

The dictionary `users` and the array `likes` are never used and are left out.
-/

namespace IosProjects
namespace InstagramClone

open IosProjects.Library

/-! ## Posts -/

structure PFFileObject where
  url : String
  deriving DecidableEq, Repr

/-- An object of the class `Post`; any field but its `objectId` may be missing. -/
structure Post where
  objectId : String
  userId : Option String
  imageName : Option String
  imageFile : Option PFFileObject
  deriving DecidableEq, Repr

/-- What `whereKey("userId", equalTo:)` matches. -/
def postsOf (followedUser : String) (posts : List Post) : List Post :=
  posts.filter fun post => post.userId = some followedUser

/-! ## `FeedTableViewController` -/

/-- `rows` is the number of rows the table view shows since it was last reloaded. -/
structure FeedTableViewController where
  followings : List String
  comments : List String
  postIds : List String
  images : List PFFileObject
  rows : ℕ

/-- What `cellForRowAt` puts into a cell; the picture is loaded from the file. -/
structure FeedTableViewCell where
  userImageFile : PFFileObject
  userComment : String
  userInfo : String
  deriving DecidableEq, Repr

/-- A query of `viewDidLoad()`: the one for the users followed, and the one it makes for each. -/
inductive FeedRequest where
  | following
  | posts (followedUser : String)
  deriving DecidableEq, Repr

namespace FeedTableViewController

def initial : FeedTableViewController where
  followings := []
  comments := []
  postIds := []
  images := []
  rows := 0

def numberOfRowsInSection (vc : FeedTableViewController) : ℕ :=
  vc.comments.length

/-- `tableView.reloadData()`. -/
def reloadData (vc : FeedTableViewController) : FeedTableViewController :=
  { vc with rows := vc.numberOfRowsInSection }

/-- The loop body for one post. -/
def appendPost (vc : FeedTableViewController) (post : Post) : FeedTableViewController :=
  let vc := { vc with postIds := vc.postIds ++ [post.objectId] }
  let vc :=
    match post.userId with
    | some userId => { vc with followings := vc.followings ++ [userId] }
    | none => vc
  let vc :=
    match post.imageName with
    | some comment => { vc with comments := vc.comments ++ [comment] }
    | none => vc
  let vc :=
    match post.imageFile with
    | some image => { vc with images := vc.images ++ [image] }
    | none => vc
  vc.reloadData

/-- The block of a query for the posts of a user. -/
def foundPosts (posts : List Post) (vc : FeedTableViewController) : FeedTableViewController :=
  posts.foldl appendPost vc

/-- The block of the query for the users followed; an object may have no `following`. -/
def foundFollowing (followers : List (Option String)) : List FeedRequest :=
  followers.filterMap fun following => following.map .posts

/-- `tableView(_:cellForRowAt:)`; each of the three indices can trap. -/
def cellForRowAt (row : ℕ) (vc : FeedTableViewController) : Option FeedTableViewCell := do
  let userImageFile ← vc.images[row]?
  let comment ← vc.comments[row]?
  let following ← vc.followings[row]?
  return { userImageFile := userImageFile, userComment := comment, userInfo := following }

/-- The post that `likePost(sender:)` looks likes up for and saves one for; the index can trap. -/
def likedPostId (row : ℕ) (vc : FeedTableViewController) : Option String :=
  vc.postIds[row]?

end FeedTableViewController

/-! ## Steps -/

structure FeedState where
  vc : FeedTableViewController
  requests : List FeedRequest

/-- After `viewDidLoad()`. -/
def FeedState.loaded : FeedState where
  vc := .initial
  requests := [.following]

/-- The completions; `found` and `followers` are what a query found. -/
inductive FeedEvent where
  | foundFollowing (followers : List (Option String))
  | failedFollowing
  | foundPosts (followedUser : String) (found : List Post)
  | failedPosts (followedUser : String)

/-- The completions in any order, over the posts of the server. -/
inductive FeedStep (posts : List Post) : FeedState → FeedEvent → FeedState → Prop where
  | foundFollowing {s : FeedState} {followers : List (Option String)} :
      .following ∈ s.requests →
      FeedStep posts s (.foundFollowing followers)
        { s with
          requests := s.requests.erase .following ++
            FeedTableViewController.foundFollowing followers }
  | failedFollowing {s : FeedState} :
      .following ∈ s.requests →
      FeedStep posts s .failedFollowing { s with requests := s.requests.erase .following }
  | foundPosts {s : FeedState} {followedUser : String} {found : List Post} :
      .posts followedUser ∈ s.requests → IsFind (postsOf followedUser posts) found →
      FeedStep posts s (.foundPosts followedUser found)
        { vc := s.vc.foundPosts found, requests := s.requests.erase (.posts followedUser) }
  | failedPosts {s : FeedState} {followedUser : String} :
      .posts followedUser ∈ s.requests →
      FeedStep posts s (.failedPosts followedUser)
        { s with requests := s.requests.erase (.posts followedUser) }

/-- The posts an event brings. -/
def FeedEvent.received : FeedEvent → List Post
  | .foundPosts _ found => found
  | _ => []

/-- The posts that have come, in the order in which they came. -/
def receivedPosts (es : List FeedEvent) : List Post :=
  es.flatMap FeedEvent.received

/-! ## The arrays of a run -/

theorem FeedTableViewController.appendPost_eq (vc : FeedTableViewController) (post : Post) :
    vc.appendPost post =
      { followings := vc.followings ++ post.userId.toList
        comments := vc.comments ++ post.imageName.toList
        postIds := vc.postIds ++ [post.objectId]
        images := vc.images ++ post.imageFile.toList
        rows := (vc.comments ++ post.imageName.toList).length } := by
  rcases post with ⟨objectId, userId, imageName, imageFile⟩
  cases userId <;> cases imageName <;> cases imageFile <;> simp [appendPost, reloadData,
    numberOfRowsInSection]

/-- Each array holds its field of the posts that have it. -/
structure FeedMatches (received : List Post) (vc : FeedTableViewController) : Prop where
  postIds : vc.postIds = received.map Post.objectId
  followings : vc.followings = received.filterMap Post.userId
  comments : vc.comments = received.filterMap Post.imageName
  images : vc.images = received.filterMap Post.imageFile
  rows : vc.rows = vc.comments.length

namespace FeedMatches

variable {received : List Post} {vc : FeedTableViewController}

theorem initial : FeedMatches [] .initial where
  postIds := rfl
  followings := rfl
  comments := rfl
  images := rfl
  rows := rfl

theorem filterMap_snoc {β : Type} (field : Post → Option β) (received : List Post) (post : Post) :
    (received ++ [post]).filterMap field = received.filterMap field ++ (field post).toList := by
  rw [List.filterMap_append]
  cases hfield : field post <;> simp [hfield]

theorem appendPost (h : FeedMatches received vc) (post : Post) :
    FeedMatches (received ++ [post]) (vc.appendPost post) := by
  rw [FeedTableViewController.appendPost_eq]
  exact {
    postIds := by simp [h.postIds]
    followings := by rw [h.followings, filterMap_snoc]
    comments := by rw [h.comments, filterMap_snoc]
    images := by rw [h.images, filterMap_snoc]
    rows := rfl }

theorem foundPosts (h : FeedMatches received vc) (posts : List Post) :
    FeedMatches (received ++ posts) (vc.foundPosts posts) := by
  induction posts generalizing received vc with
  | nil => simpa [FeedTableViewController.foundPosts] using h
  | cons post posts ih =>
      have hrest := ih (h.appendPost post)
      rwa [List.append_assoc, List.singleton_append] at hrest

/-- The index of a post is the same in all arrays as long as no post lacks a field. -/
theorem getElem? (h : FeedMatches received vc)
    (huser : ∀ post ∈ received, post.userId.isSome)
    (hname : ∀ post ∈ received, post.imageName.isSome)
    (hfile : ∀ post ∈ received, post.imageFile.isSome) {i : ℕ} {post : Post}
    (hi : received[i]? = some post) :
    vc.postIds[i]? = some post.objectId ∧ vc.followings[i]? = post.userId ∧
      vc.comments[i]? = post.imageName ∧ vc.images[i]? = post.imageFile := by
  rw [h.postIds, h.followings, h.comments, h.images, getElem?_filterMap_of_isSome huser,
    getElem?_filterMap_of_isSome hname, getElem?_filterMap_of_isSome hfile, List.getElem?_map, hi]
  exact ⟨rfl, rfl, rfl, rfl⟩

end FeedMatches

theorem receivedPosts_snoc (es : List FeedEvent) (e : FeedEvent) :
    receivedPosts (es ++ [e]) = receivedPosts es ++ e.received := by
  simp [receivedPosts]

variable {posts : List Post} {es : List FeedEvent} {t : FeedState}

theorem feedMatches_of_run (hrun : Run (FeedStep posts) .loaded es t) :
    FeedMatches (receivedPosts es) t.vc := by
  refine hrun.invariant_history
    (P := fun es (t : FeedState) => FeedMatches (receivedPosts es) t.vc) ?_ ?_
  · exact FeedMatches.initial
  · intro es s e t _ h hstep
    rw [receivedPosts_snoc]
    cases hstep with
    | foundFollowing _ => simpa [FeedEvent.received] using h
    | failedFollowing _ => simpa [FeedEvent.received] using h
    | foundPosts _ _ => exact h.foundPosts _
    | failedPosts _ => simpa [FeedEvent.received] using h

/-- A post that has come belongs to the user it was asked for. -/
theorem userId_of_received (hrun : Run (FeedStep posts) .loaded es t) :
    ∀ post ∈ receivedPosts es, post.userId.isSome := by
  refine hrun.invariant_history
    (P := fun es _ => ∀ post ∈ receivedPosts es, post.userId.isSome) (by simp [receivedPosts]) ?_
  intro es s e t _ h hstep post hpost
  rw [receivedPosts_snoc, List.mem_append] at hpost
  rcases hpost with hpost | hpost
  · exact h post hpost
  · cases hstep with
    | foundFollowing _ => simp [FeedEvent.received] at hpost
    | failedFollowing _ => simp [FeedEvent.received] at hpost
    | foundPosts _ hfind =>
        -- the query was for the posts with this userId
        have hmatch := (List.mem_filter.1 (hfind.mem hpost)).2
        simp [of_decide_eq_true hmatch]
    | failedPosts _ => simp [FeedEvent.received] at hpost

/-! ## Rows -/

/-- The arrays have one length, the entries at an index are the fields of one of the posts that have
come, and a row of the table is set up with that post and liked under its id. -/
structure FeedConsistent (received : List Post) (vc : FeedTableViewController) : Prop where
  followings_length : vc.followings.length = vc.postIds.length
  comments_length : vc.comments.length = vc.postIds.length
  images_length : vc.images.length = vc.postIds.length
  samePost : ∀ i < vc.postIds.length, ∃ post ∈ received,
    vc.postIds[i]? = some post.objectId ∧ vc.followings[i]? = post.userId ∧
      vc.comments[i]? = post.imageName ∧ vc.images[i]? = post.imageFile
  cells : ∀ row < vc.rows, ∃ post ∈ received, ∃ cell,
    vc.cellForRowAt row = some cell ∧ post.imageFile = some cell.userImageFile ∧
      post.imageName = some cell.userComment ∧ post.userId = some cell.userInfo ∧
      vc.likedPostId row = some post.objectId

theorem FeedMatches.consistent {received : List Post} {vc : FeedTableViewController}
    (h : FeedMatches received vc) (huser : ∀ post ∈ received, post.userId.isSome)
    (hname : ∀ post ∈ received, post.imageName.isSome)
    (hfile : ∀ post ∈ received, post.imageFile.isSome) : FeedConsistent received vc := by
  have hids : vc.postIds.length = received.length := by rw [h.postIds, List.length_map]
  have hcomments : vc.comments.length = received.length := by
    rw [h.comments, List.filterMap_length_eq_length]
    exact hname
  have hentry : ∀ i < received.length, ∃ post ∈ received,
      vc.postIds[i]? = some post.objectId ∧ vc.followings[i]? = post.userId ∧
        vc.comments[i]? = post.imageName ∧ vc.images[i]? = post.imageFile := fun i hi =>
    ⟨received[i], List.getElem_mem hi,
      h.getElem? huser hname hfile (List.getElem?_eq_getElem hi)⟩
  exact {
    followings_length := by
      rw [hids, h.followings, List.filterMap_length_eq_length]
      exact huser
    comments_length := hcomments.trans hids.symm
    images_length := by
      rw [hids, h.images, List.filterMap_length_eq_length]
      exact hfile
    samePost := by rwa [hids]
    cells := by
      -- the table counts the comments, and they are as many as the posts
      intro row hrow
      rw [h.rows, hcomments] at hrow
      rcases hentry row hrow with ⟨post, hpost, hid, huserId, hcomment, himage⟩
      obtain ⟨userId, huserId'⟩ := Option.isSome_iff_exists.1 (huser post hpost)
      obtain ⟨comment, hcomment'⟩ := Option.isSome_iff_exists.1 (hname post hpost)
      obtain ⟨image, himage'⟩ := Option.isSome_iff_exists.1 (hfile post hpost)
      refine ⟨post, hpost, ⟨image, comment, userId⟩, ?_, himage', hcomment', huserId', hid⟩
      simp [FeedTableViewController.cellForRowAt, himage, himage', hcomment, hcomment', huserId,
        huserId'] }

/-- Arrays of one length leave no post without a comment or a picture. -/
theorem FeedMatches.complete_of_consistent {received : List Post} {vc : FeedTableViewController}
    (h : FeedMatches received vc) (hconsistent : FeedConsistent received vc) :
    ∀ post ∈ received, post.imageName.isSome ∧ post.imageFile.isSome := by
  have hids : vc.postIds.length = received.length := by rw [h.postIds, List.length_map]
  -- a post without the field would have shortened the array
  have hname : ∀ post ∈ received, post.imageName.isSome := by
    apply List.filterMap_length_eq_length.1
    calc (received.filterMap Post.imageName).length
        = vc.comments.length := by rw [h.comments]
      _ = vc.postIds.length := hconsistent.comments_length
      _ = received.length := hids
  have hfile : ∀ post ∈ received, post.imageFile.isSome := by
    apply List.filterMap_length_eq_length.1
    calc (received.filterMap Post.imageFile).length
        = vc.images.length := by rw [h.images]
      _ = vc.postIds.length := hconsistent.images_length
      _ = received.length := hids
  exact fun post hpost => ⟨hname post hpost, hfile post hpost⟩

/-- After every completion of a run the rows are consistent if and only if every post that came has
a comment and a picture. -/
theorem feed_consistent_iff (hrun : Run (FeedStep posts) .loaded es t) :
    ThroughoutHistory (FeedStep posts) .loaded es
        (fun before s => FeedConsistent (receivedPosts before) s.vc) ↔
      ∀ post ∈ receivedPosts es, post.imageName.isSome ∧ post.imageFile.isSome := by
  constructor
  · intro h
    have hend := h es [] t (List.append_nil es).symm hrun
    exact (feedMatches_of_run hrun).complete_of_consistent hend
  · intro h before after s hes hs
    have hsome : ∀ post ∈ receivedPosts before, post.imageName.isSome ∧ post.imageFile.isSome := by
      intro post hpost
      apply h
      rw [hes, receivedPosts, List.flatMap_append]
      exact List.mem_append_left _ hpost
    exact (feedMatches_of_run hs).consistent (userId_of_received hs)
      (fun post hpost => (hsome post hpost).1) fun post hpost => (hsome post hpost).2

/-- Posts of the two users followed, with all their fields. -/
def bobsPosts : List Post :=
  [⟨"p1", some "bob", some "at the beach", some ⟨"beach.png"⟩⟩,
    ⟨"p3", some "bob", some "in the park", some ⟨"park.png"⟩⟩]

def carolsPosts : List Post :=
  [⟨"p2", some "carol", some "my cat", some ⟨"cat.png"⟩⟩]

/-- The queries for the posts answer in either order. -/
def twoUsersEvents (bobFirst : Bool) : List FeedEvent :=
  .foundFollowing [some "bob", some "carol"] ::
    if bobFirst then [.foundPosts "bob" bobsPosts, .foundPosts "carol" carolsPosts]
    else [.foundPosts "carol" carolsPosts, .foundPosts "bob" bobsPosts]

theorem twoUsers_run (bobFirst : Bool) :
    ∃ t, Run (FeedStep (bobsPosts ++ carolsPosts)) .loaded (twoUsersEvents bobFirst) t := by
  have hfollowing : Run (FeedStep (bobsPosts ++ carolsPosts)) .loaded
      [.foundFollowing [some "bob", some "carol"]] _ := Run.single (.foundFollowing (by decide))
  have hbob : IsFind (postsOf "bob" (bobsPosts ++ carolsPosts)) bobsPosts := IsFind.all (by decide)
  have hcarol : IsFind (postsOf "carol" (bobsPosts ++ carolsPosts)) carolsPosts :=
    IsFind.all (by decide)
  cases bobFirst with
  | true => exact ⟨_, (hfollowing.snoc (.foundPosts (by decide) hbob)).snoc
      (.foundPosts (by decide) hcarol)⟩
  | false => exact ⟨_, (hfollowing.snoc (.foundPosts (by decide) hcarol)).snoc
      (.foundPosts (by decide) hbob)⟩

theorem twoUsers_consistent :
    ThroughoutHistory (FeedStep (bobsPosts ++ carolsPosts)) .loaded (twoUsersEvents true)
        (fun before s => FeedConsistent (receivedPosts before) s.vc) ∧
      ThroughoutHistory (FeedStep (bobsPosts ++ carolsPosts)) .loaded (twoUsersEvents false)
        (fun before s => FeedConsistent (receivedPosts before) s.vc) := by
  obtain ⟨s, hbobFirst⟩ := twoUsers_run true
  obtain ⟨t, hcarolFirst⟩ := twoUsers_run false
  exact ⟨(feed_consistent_iff hbobFirst).2 (by decide),
    (feed_consistent_iff hcarolFirst).2 (by decide)⟩

/-- A post that was stored without a comment. -/
def barePost : Post where
  objectId := "p4"
  userId := some "bob"
  imageName := none
  imageFile := some ⟨"image.png"⟩

/-- Such a post leaves four arrays of different lengths. -/
theorem barePost_inconsistent :
    ¬ ∀ (posts : List Post) (es : List FeedEvent) (t : FeedState),
      Run (FeedStep posts) .loaded es t → FeedConsistent (receivedPosts es) t.vc := by
  intro h
  have hrun : Run (FeedStep [barePost]) .loaded
      [.foundFollowing [some "bob"], .foundPosts "bob" [barePost]]
      ⟨FeedTableViewController.initial.foundPosts [barePost], []⟩ :=
    (Run.single (FeedStep.foundFollowing (by decide))).snoc
      (FeedStep.foundPosts (by decide) (IsFind.all (by decide)))
  have hlength := (h _ _ _ hrun).comments_length
  revert hlength
  decide

end InstagramClone
end IosProjects
