import IosProjects.InstagramClone.Likes
import IosProjects.InstagramClone.Posting

/-!
# PostedFeed — what the feed shows of the posts

The screens of all users store posts on one server, while a feed asks for the posts of the users it
follows and gets its answers in any order.

What the screens store has all its fields, so the arrays of the feed stay together whatever is
posted meanwhile. Once every query has been answered, a post is shown as many times as its user was
found among the users followed.
-/

namespace IosProjects
namespace InstagramClone

open IosProjects.Library

/-! ## Screens, server and feed -/

/-- The server gives an object an identifier that no other has, and a file its url. -/
structure ParseServer where
  objectId : ℕ → String
  url : ℕ → String
  objectId_injective : Function.Injective objectId

/-- The object that a save stores, as the `n`th. -/
def ParseServer.post (server : ParseServer) (n : ℕ) (userPost : UserPost) : Post where
  objectId := server.objectId n
  userId := some userPost.userId
  imageName := some userPost.imageName
  imageFile := some ⟨server.url n⟩

/-- What an event of a screen stores. -/
def PostEvent.stores (server : ParseServer) (posts : List Post) : PostEvent → List Post
  | .saved userPost true => posts ++ [server.post posts.length userPost]
  | _ => posts

/-- A step of a screen over the stored posts. -/
def ScreenStep (server : ParseServer) (s : PostScreen × List Post) (e : PostEvent)
    (t : PostScreen × List Post) : Prop :=
  PostStep s.1 e t.1 ∧ t.2 = e.stores server s.2

/-- The screens are told apart by a number, whichever user they belong to. -/
structure PostedFeedState where
  screens : ℕ → PostScreen
  posts : List Post
  feed : FeedState

def PostedFeedState.initial (photo : UIImage) : PostedFeedState where
  screens := fun _ => .initial photo
  posts := []
  feed := .loaded

inductive PostedFeedEvent where
  | screen (event : ℕ × PostEvent)
  | feed (event : FeedEvent)

/-- A query of the feed finds the posts that are stored when it is answered. -/
inductive PostedFeedStep (server : ParseServer) :
    PostedFeedState → PostedFeedEvent → PostedFeedState → Prop where
  | screen {s : PostedFeedState} {e : ℕ × PostEvent} {screens' : ℕ → PostScreen}
      {posts' : List Post} :
      Interleaved (fun _ => ScreenStep server) (s.screens, s.posts) e (screens', posts') →
      PostedFeedStep server s (.screen e) { s with screens := screens', posts := posts' }
  | feed {s : PostedFeedState} {e : FeedEvent} {feed' : FeedState} :
      FeedStep s.posts s.feed e feed' → PostedFeedStep server s (.feed e) { s with feed := feed' }

def PostedFeedEvent.received : PostedFeedEvent → List Post
  | .screen _ => []
  | .feed e => e.received

/-! ## Posts with all their fields -/

/-- Nothing of the post is missing. -/
structure Post.Complete (post : Post) : Prop where
  userId : post.userId.isSome
  imageName : post.imageName.isSome
  imageFile : post.imageFile.isSome

section Complete

variable {server : ParseServer} {posts received : List Post}

theorem complete_stores (h : ∀ post ∈ posts, post.Complete) (e : PostEvent) :
    ∀ post ∈ e.stores server posts, post.Complete := by
  unfold PostEvent.stores
  split
  · intro post hpost
    rcases List.mem_append.1 hpost with hpost | hpost
    · exact h post hpost
    · obtain rfl := List.mem_singleton.1 hpost
      exact ⟨rfl, rfl, rfl⟩
  · exact h

/-- What a step of the feed brings is stored. -/
theorem FeedStep.received_subset {s t : FeedState} {e : FeedEvent} (hstep : FeedStep posts s e t) :
    ∀ post ∈ e.received, post ∈ posts := by
  intro post hpost
  cases hstep with
  | foundPosts _ hfind => exact (List.mem_filter.1 (hfind.mem hpost)).1
  | foundFollowing _ => cases hpost
  | failedFollowing _ => cases hpost
  | failedPosts _ => cases hpost

theorem FeedMatches.step {s t : FeedState} {e : FeedEvent} (h : FeedMatches received s.vc)
    (hstep : FeedStep posts s e t) : FeedMatches (received ++ e.received) t.vc := by
  cases hstep with
  | foundPosts _ _ => exact h.foundPosts _
  | foundFollowing _ => simpa [FeedEvent.received] using h
  | failedFollowing _ => simpa [FeedEvent.received] using h
  | failedPosts _ => simpa [FeedEvent.received] using h

/-- What is stored stays stored. -/
theorem subset_stores (e : PostEvent) : posts ⊆ e.stores server posts := by
  unfold PostEvent.stores
  split
  · exact List.subset_append_left _ _
  · exact List.Subset.refl _

/-- The stored posts are complete, those in the feed are among them, and the arrays are the fields
of the latter. -/
structure PostedFeedOk (received : List Post) (s : PostedFeedState) : Prop where
  complete : ∀ post ∈ s.posts, post.Complete
  stored : received ⊆ s.posts
  arrays : FeedMatches received s.feed.vc

theorem PostedFeedOk.step {s t : PostedFeedState} {e : PostedFeedEvent}
    (h : PostedFeedOk received s)
    (hstep : PostedFeedStep server s e t) : PostedFeedOk (received ++ e.received) t := by
  cases hstep with
  | @screen e screens' posts' hscreen =>
      obtain rfl : posts' = e.2.stores server s.posts := hscreen.own.2
      rw [PostedFeedEvent.received, List.append_nil]
      exact ⟨complete_stores h.complete e.2, List.Subset.trans h.stored (subset_stores e.2),
        h.arrays⟩
  | @feed e feed' hfeed =>
      refine ⟨h.complete, fun post hpost => ?_, h.arrays.step hfeed⟩
      rcases List.mem_append.1 hpost with hpost | hpost
      · exact h.stored hpost
      · exact hfeed.received_subset post hpost

theorem FeedConsistent.mono {vc : FeedTableViewController} (h : FeedConsistent received vc)
    (hsub : received ⊆ posts) : FeedConsistent posts vc where
  followings_length := h.followings_length
  comments_length := h.comments_length
  images_length := h.images_length
  samePost := by
    intro i hi
    obtain ⟨post, hpost, hfields⟩ := h.samePost i hi
    exact ⟨post, hsub hpost, hfields⟩
  cells := by
    intro row hrow
    obtain ⟨post, hpost, hcell⟩ := h.cells row hrow
    exact ⟨post, hsub hpost, hcell⟩

theorem postedFeedOk_of_run {photo : UIImage} {es : List PostedFeedEvent} {s : PostedFeedState}
    (hrun : Run (PostedFeedStep server) (.initial photo) es s) :
    PostedFeedOk (es.flatMap PostedFeedEvent.received) s := by
  refine hrun.invariant_history
    (P := fun es s => PostedFeedOk (es.flatMap PostedFeedEvent.received) s) ?_ ?_
  · exact ⟨by simp [PostedFeedState.initial], List.nil_subset _, FeedMatches.initial⟩
  · intro es s e t _ h hstep
    rw [List.flatMap_append, List.flatMap_singleton]
    exact h.step hstep

end Complete

/-! ## Each post as often as its user is followed -/

namespace FeedTableViewController

/-- The row is set up with the fields of the post and liked under its id. -/
def shows (post : Post) (vc : FeedTableViewController) (row : ℕ) : Bool :=
  match vc.cellForRowAt row with
  | none => false
  | some cell =>
      post.imageFile = some cell.userImageFile && post.imageName = some cell.userComment &&
        post.userId = some cell.userInfo && vc.likedPostId row = some post.objectId

/-- In how many rows of the table the post is shown. -/
def timesShown (post : Post) (vc : FeedTableViewController) : ℕ :=
  (List.range vc.rows).countP (vc.shows post)

end FeedTableViewController

/-- The rows of complete posts show them one after the other. -/
theorem FeedMatches.timesShown {received : List Post} {vc : FeedTableViewController}
    (h : FeedMatches received vc) (hcomplete : ∀ post ∈ received, post.Complete) (post : Post) :
    vc.timesShown post = received.count post := by
  have hrows : vc.rows = received.length := by
    rw [h.rows, h.comments, List.filterMap_length_eq_length]
    exact fun post hpost => (hcomplete post hpost).imageName
  rw [FeedTableViewController.timesShown, hrows, ← countP_range_getElem?]
  refine List.countP_congr fun row hrow => ?_
  obtain ⟨other, hother⟩ : ∃ other, received[row]? = some other :=
    ⟨_, List.getElem?_eq_getElem (List.mem_range.1 hrow)⟩
  obtain ⟨hid, hfollowing, hcomment, himage⟩ := h.getElem?
    (fun post hpost => (hcomplete post hpost).userId)
    (fun post hpost => (hcomplete post hpost).imageName)
    (fun post hpost => (hcomplete post hpost).imageFile) hother
  obtain ⟨userId, huser⟩ := Option.isSome_iff_exists.1
    (hcomplete other (List.mem_of_getElem? hother)).userId
  obtain ⟨imageName, hname⟩ := Option.isSome_iff_exists.1
    (hcomplete other (List.mem_of_getElem? hother)).imageName
  obtain ⟨imageFile, hfile⟩ := Option.isSome_iff_exists.1
    (hcomplete other (List.mem_of_getElem? hother)).imageFile
  rcases other with ⟨objectId, otherId, otherName, otherFile⟩
  rcases post with ⟨postId, postUser, postName, postFile⟩
  subst huser hname hfile
  simp only [FeedTableViewController.shows, FeedTableViewController.cellForRowAt, himage, hcomment,
    hfollowing, Option.bind_eq_bind, Option.bind_some, Option.pure_def,
    FeedTableViewController.likedPostId, hid, hother, Bool.and_eq_true, decide_eq_true_eq,
    Option.some.injEq, Post.mk.injEq]
  tauto

/-- The users that the first query found, as often as it found them. -/
def FeedEvent.followedUsers : FeedEvent → List String
  | .foundFollowing followers => followers.filterMap id
  | _ => []

/-- The user whose posts did not come. -/
def FeedEvent.failedUsers : FeedEvent → List String
  | .failedPosts followedUser => [followedUser]
  | _ => []

/-- What a query in flight is to bring. -/
def FeedRequest.awaits (posts : List Post) : FeedRequest → List Post
  | .following => []
  | .posts followedUser => postsOf followedUser posts

/-- The posts of users, one user after the other. -/
def postsOfAll (posts : List Post) (users : List String) : List Post :=
  users.flatMap fun user => postsOf user posts

section Counting

variable {posts : List Post} {es : List FeedEvent} {s t : FeedState} {e : FeedEvent}

theorem flatMap_perm_erase {α β : Type} [DecidableEq α] {l : List α} {a : α} (h : a ∈ l)
    (f : α → List β) : (l.flatMap f).Perm (f a ++ (l.erase a).flatMap f) :=
  (List.perm_cons_erase h).flatMap_right f

theorem awaits_foundFollowing (followers : List (Option String)) :
    (FeedTableViewController.foundFollowing followers).flatMap (FeedRequest.awaits posts) =
      postsOfAll posts (followers.filterMap id) := by
  unfold postsOfAll
  induction followers with
  | nil => rfl
  | cons following followers ih =>
      cases following with
      | none => simpa [FeedTableViewController.foundFollowing] using ih
      | some user =>
          simpa [FeedTableViewController.foundFollowing, FeedRequest.awaits] using ih

/-- What the feed has got, what it awaits, and what it has missed with the users that failed. -/
def accounted (posts received : List Post) (failed : List String) (s : FeedState) : List Post :=
  received ++ (postsOfAll posts failed ++ s.requests.flatMap (FeedRequest.awaits posts))

theorem postsOfAll_append (users users' : List String) :
    postsOfAll posts (users ++ users') = postsOfAll posts users ++ postsOfAll posts users' :=
  List.flatMap_append

/-- An answer moves posts from one account to another, and the first answer adds the posts of the
users that it found. -/
theorem FeedStep.accounted_perm (hsmall : ∀ user, (postsOf user posts).length ≤ defaultLimit)
    (hstep : FeedStep posts s e t) (received : List Post) (failed : List String) :
    (accounted posts (received ++ e.received) (failed ++ e.failedUsers) t).Perm
      (accounted posts received failed s ++ postsOfAll posts e.followedUsers) := by
  unfold accounted
  cases hstep with
  | @foundFollowing followers hmem =>
      have hrest := flatMap_perm_erase hmem (FeedRequest.awaits posts)
      simp only [FeedEvent.received, FeedEvent.failedUsers, FeedEvent.followedUsers,
        List.append_nil, List.flatMap_append, awaits_foundFollowing, List.append_assoc]
      refine .append_left received (.append_left _ ?_)
      exact hrest.symm.append_right _
  | failedFollowing hmem =>
      have hrest := flatMap_perm_erase hmem (FeedRequest.awaits posts)
      simp only [FeedEvent.received, FeedEvent.failedUsers, FeedEvent.followedUsers,
        List.append_nil, postsOfAll, List.flatMap_nil]
      exact .append_left received (.append_left _ hrest.symm)
  | @foundPosts followedUser found hmem hfind =>
      have hrest := flatMap_perm_erase hmem (FeedRequest.awaits posts)
      have hfound : found.Perm (postsOf followedUser posts) :=
        hfind.perm_of_le (hsmall followedUser)
      let missed := postsOfAll posts failed
      let left := (s.requests.erase (.posts followedUser)).flatMap (FeedRequest.awaits posts)
      have hmoved : (found ++ (missed ++ left)).Perm
          (missed ++ s.requests.flatMap (FeedRequest.awaits posts)) :=
        calc (found ++ (missed ++ left)).Perm (postsOf followedUser posts ++ (missed ++ left)) :=
              hfound.append_right _
          List.Perm _ (missed ++ (postsOf followedUser posts ++ left)) :=
              List.perm_append_comm_assoc _ _ _
          List.Perm _ (missed ++ s.requests.flatMap (FeedRequest.awaits posts)) :=
              .append_left missed hrest.symm
      simpa [FeedEvent.received, FeedEvent.failedUsers, FeedEvent.followedUsers, postsOfAll]
        using .append_left received hmoved
  | @failedPosts followedUser hmem =>
      have hrest := flatMap_perm_erase hmem (FeedRequest.awaits posts)
      have hmoved := List.Perm.append_left (postsOfAll posts failed) hrest.symm
      simpa [FeedEvent.received, FeedEvent.failedUsers, FeedEvent.followedUsers, postsOfAll,
        FeedRequest.awaits] using .append_left received hmoved

/-- Every post of a user followed is in the feed, awaited or missed, once for each time that the
user was found. -/
theorem accounted_of_run (hsmall : ∀ user, (postsOf user posts).length ≤ defaultLimit)
    (hrun : Run (FeedStep posts) .loaded es t) :
    (accounted posts (receivedPosts es) (es.flatMap FeedEvent.failedUsers) t).Perm
      (postsOfAll posts (es.flatMap FeedEvent.followedUsers)) := by
  refine hrun.invariant_history (P := fun es t =>
    (accounted posts (receivedPosts es) (es.flatMap FeedEvent.failedUsers) t).Perm
      (postsOfAll posts (es.flatMap FeedEvent.followedUsers))) ?_ ?_
  · simp [accounted, receivedPosts, postsOfAll, FeedState.loaded, FeedRequest.awaits]
  · intro es s e t _ h hstep
    rw [receivedPosts_snoc, List.flatMap_append, List.flatMap_append, List.flatMap_singleton,
      List.flatMap_singleton, postsOfAll_append]
    exact (hstep.accounted_perm hsmall _ _).trans (h.append_right _)

theorem received_subset (hrun : Run (FeedStep posts) .loaded es t) :
    ∀ post ∈ receivedPosts es, post ∈ posts := by
  refine hrun.invariant_history (P := fun es _ => ∀ post ∈ receivedPosts es, post ∈ posts)
    (by simp [receivedPosts]) ?_
  intro es s e t _ h hstep post hpost
  rw [receivedPosts_snoc] at hpost
  rcases List.mem_append.1 hpost with hpost | hpost
  · exact h post hpost
  · exact hstep.received_subset post hpost

/-- A stored post is counted once for each mention of its user. -/
theorem count_postsOfAll (hnodup : posts.Nodup) {post : Post} {user : String} (hpost : post ∈ posts)
    (huser : post.userId = some user) (users : List String) :
    (postsOfAll posts users).count post = users.count user := by
  unfold postsOfAll
  induction users with
  | nil => rfl
  | cons user' users ih =>
      rw [List.flatMap_cons, List.count_append, ih, List.count_cons, Nat.add_comm]
      congr 1
      by_cases hsame : user' = user
      · subst hsame
        have hmem : post ∈ postsOf user' posts := List.mem_filter.2 ⟨hpost, by simp [huser]⟩
        have hnodup' : (postsOf user' posts).Nodup := hnodup.filter _
        rw [List.count_eq_one_of_mem hnodup' hmem]
        simp
      · have hnot : post ∉ postsOf user' posts := by
          intro hmem
          have hmatch := of_decide_eq_true (List.mem_filter.1 hmem).2
          rw [huser] at hmatch
          exact hsame (Option.some.inj hmatch).symm
        rw [List.count_eq_zero_of_not_mem hnot]
        simp [hsame]

end Counting

/-! ## Stored posts -/

section Stored

variable {server : ParseServer} {photo : UIImage} {ws : List PostedFeedEvent} {s : PostedFeedState}

/-- The `n`th post has the `n`th identifier. -/
theorem objectIds_of_run (hrun : Run (PostedFeedStep server) (.initial photo) ws s) :
    s.posts.map Post.objectId = (List.range s.posts.length).map server.objectId := by
  refine hrun.invariant (P := fun s =>
    s.posts.map Post.objectId = (List.range s.posts.length).map server.objectId) ?_ rfl
  intro s e t h hstep
  cases hstep with
  | feed _ => exact h
  | @screen e screens' posts' hscreen =>
      obtain rfl : posts' = e.2.stores server s.posts := hscreen.own.2
      dsimp only
      unfold PostEvent.stores
      split
      · rw [List.map_append, h, List.length_append, List.length_singleton, List.range_succ,
          List.map_append]
        rfl
      · exact h

theorem objectIds_nodup (hrun : Run (PostedFeedStep server) (.initial photo) ws s) :
    (s.posts.map Post.objectId).Nodup := by
  rw [objectIds_of_run hrun]
  exact List.nodup_range.map server.objectId_injective

/-- Once every query over the posts that the screens have stored is answered, in whatever order, a
post has as many rows as its user was found among the users followed, less one for each query for
that user that failed. -/
theorem shown_as_often_as_followed
    (hposted : Run (PostedFeedStep server) (.initial photo) ws s)
    {es : List FeedEvent} {t : FeedState} (hrun : Run (FeedStep s.posts) .loaded es t)
    (hanswered : t.requests = [])
    (hsmall : ∀ user, (postsOf user s.posts).length ≤ defaultLimit) {post : Post} {user : String}
    (hpost : post ∈ s.posts) (huser : post.userId = some user) :
    t.vc.timesShown post + (es.flatMap FeedEvent.failedUsers).count user =
      (es.flatMap FeedEvent.followedUsers).count user := by
  have hnodup : s.posts.Nodup := (objectIds_nodup hposted).of_map _
  have hperm := (accounted_of_run hsmall hrun).count_eq post
  rw [accounted, hanswered, List.flatMap_nil, List.append_nil, List.count_append,
    count_postsOfAll hnodup hpost huser, count_postsOfAll hnodup hpost huser] at hperm
  have hcomplete : ∀ post ∈ receivedPosts es, post.Complete := fun post hreceived =>
    (postedFeedOk_of_run hposted).complete post (received_subset hrun post hreceived)
  rw [(feedMatches_of_run hrun).timesShown hcomplete]
  exact hperm

end Stored

/-! ## One post -/

theorem run_screens {server : ParseServer} {w : PostedFeedState} {es : List (ℕ × PostEvent)}
    {s : (ℕ → PostScreen) × List Post}
    (hrun : Run (Interleaved fun _ => ScreenStep server) (w.screens, w.posts) es s) :
    Run (PostedFeedStep server) w (es.map .screen) { w with screens := s.1, posts := s.2 } := by
  induction hrun with
  | nil => exact Run.nil w
  | snoc _ hlast ih =>
      rw [List.map_append]
      exact ih.snoc (.screen hlast)

/-- What a screen stores in a run. -/
theorem run_screenStep {server : ParseServer} {s t : PostScreen} {es : List PostEvent}
    (hrun : Run PostStep s es t) (posts : List Post) :
    Run (ScreenStep server) (s, posts) es
      (t, es.foldl (fun posts e => e.stores server posts) posts) := by
  induction hrun with
  | nil => exact Run.nil _
  | snoc _ hlast ih =>
      rw [List.foldl_append]
      exact ih.snoc ⟨hlast, rfl⟩

def sampleServer : ParseServer where
  objectId := fun n => String.ofList (List.replicate n 'p')
  url := fun _ => "image.png"
  objectId_injective := by
    intro m n h
    simpa using congrArg String.length h

/-- The picture has been posted. -/
def beachPosted : PostedFeedState where
  screens := Function.update (fun _ => .initial photo) 0 clearedScreen
  posts := [sampleServer.post 0 beachPost]
  feed := .loaded

theorem beachPosted_run :
    Run (PostedFeedStep sampleServer) (.initial photo)
      (((beachEvents true).map (Prod.mk 0)).map .screen) beachPosted := by
  have hscreen : Run (ScreenStep sampleServer) (.initial photo, []) (beachEvents true)
      (clearedScreen, [sampleServer.post 0 beachPost]) := run_screenStep (beach_run true) []
  have hscreens := @Interleaved.run_own ℕ _ _ _ _ (fun _ => ScreenStep sampleServer) 0 _ _ _ hscreen
    (fun _ => .initial photo) rfl
  exact @run_screens _ (.initial photo) _ _ hscreens

/-- The object that is stored. -/
def storedBeach : Post :=
  sampleServer.post 0 beachPost

theorem storedBeach_find : IsFind (postsOf "bob" [storedBeach]) [storedBeach] :=
  IsFind.all (by decide)

/-- Carol presses Post on a new screen. -/
def photoPost : UserPost where
  imageName := ""
  userId := "carol"
  imageFile := [137, 80]

def storedPhoto : Post :=
  sampleServer.post 1 photoPost

theorem photoPost_run : Run PostStep (.initial photo)
    [.postImage (some "carol"), .saved photoPost true, .dismissAlert] clearedScreen :=
  ((Run.single (@PostStep.postImage (.initial photo) (some "carol") _ _ rfl rfl rfl)).snoc
    (@PostStep.saved _ photoPost true (by decide))).snoc (.dismissAlert rfl)

/-- If two rows of the server say that bob is followed, his post is shown twice. -/
def followedTwice : FeedState where
  vc := (FeedTableViewController.initial.foundPosts [storedBeach]).foundPosts [storedBeach]
  requests := []

theorem followedTwice_run : Run (FeedStep [storedBeach]) .loaded
    [.foundFollowing [some "bob", some "bob"], .foundPosts "bob" [storedBeach],
      .foundPosts "bob" [storedBeach]] followedTwice :=
  ((Run.single (.foundFollowing (by decide))).snoc
    (.foundPosts (by decide) storedBeach_find)).snoc (.foundPosts (by decide) storedBeach_find)

theorem followedTwice_count : followedTwice.vc.timesShown storedBeach = 2 :=
  shown_as_often_as_followed beachPosted_run followedTwice_run rfl
    (fun _ => (List.length_filter_le _ _).trans (by decide)) List.mem_cons_self rfl

end InstagramClone
end IosProjects
