import IosProjects.InstagramClone.Feed
import IosProjects.Library.LateLoads

/-!
# FeedPictures — the cells of the feed

A cell of the feed is given the comment and the user of its row when it is dequeued, and its picture
when the file has been loaded. The block that sets the picture holds the cell, not the row, and a
cell that is used again keeps the picture it has until another comes.

The heart of a cell is left out.
-/

namespace IosProjects
namespace InstagramClone

open IosProjects.Library

/-! ## The cells -/

/-- What a cell has on the screen. -/
structure FeedCellViews (UIImage : Type) where
  userComment : Option String
  userInfo : Option String
  userImage : Option UIImage
  deriving DecidableEq, Repr

/-- A row, and what `cellForRowAt` looked up for it. -/
abbrev FeedRow : Type := ℕ × FeedTableViewCell

/-- How `cellForRowAt` and the block of `getDataInBackground` draw a row; `imageOf` is what
`UIImage(data:)` makes of the data of a file. -/
def feedDrawing {UIImage : Type} (imageOf : PFFileObject → UIImage) :
    Drawing FeedRow (FeedCellViews UIImage) (Option String × Option String) (Option UIImage) where
  configure := fun row views =>
    { views with userComment := some row.2.userComment, userInfo := some row.2.userInfo }
  load := fun row views => { views with userImage := some (imageOf row.2.userImageFile) }
  text := fun views => (views.userComment, views.userInfo)
  picture := FeedCellViews.userImage
  textOf := fun row => (some row.2.userComment, some row.2.userInfo)
  pictureOf := fun row => some (imageOf row.2.userImageFile)
  text_configure := fun _ _ => rfl
  text_load := fun _ _ => rfl
  picture_configure := fun _ _ => rfl
  picture_load := fun _ _ => rfl

/-! ## The screen -/

structure FeedScreen (UIImage : Type) where
  feed : FeedState
  cells : LoadingPool FeedRow (FeedCellViews UIImage)

/-- After `viewDidLoad()`; the cells of the storyboard are blank. -/
def FeedScreen.loaded {UIImage : Type} : FeedScreen UIImage where
  feed := .loaded
  cells := .empty ⟨none, none, none⟩

inductive FeedScreenEvent where
  | feed (event : FeedEvent)
  | cells (event : LoadEvent FeedRow)

section Screen

variable {UIImage : Type} (posts : List Post) (imageOf : PFFileObject → UIImage)

inductive FeedScreenStep : FeedScreen UIImage → FeedScreenEvent → FeedScreen UIImage → Prop where
  -- `reloadData()` takes every cell off the screen before it asks for cells again
  | feed {s : FeedScreen UIImage} {e : FeedEvent} {feed : FeedState} :
      FeedStep posts s.feed e feed → (e.received ≠ [] → ∀ row, s.cells.views.shown row = none) →
      FeedScreenStep s (.feed e) { s with feed := feed }
  | cellForRowAt {s : FeedScreen UIImage} {row : ℕ} {cell : FeedTableViewCell} {view : ℕ}
      {cells : LoadingPool FeedRow (FeedCellViews UIImage)} :
      row < s.feed.vc.rows → s.feed.vc.cellForRowAt row = some cell →
      LoadStep (feedDrawing imageOf) s.cells (.use (row, cell) view) cells →
      FeedScreenStep s (.cells (.use (row, cell) view)) { s with cells := cells }
  -- a cell leaves the screen, or a file comes or fails
  | cells {s : FeedScreen UIImage} {e : LoadEvent FeedRow}
      {cells : LoadingPool FeedRow (FeedCellViews UIImage)} :
      (∀ row view, e ≠ .use row view) → LoadStep (feedDrawing imageOf) s.cells e cells →
      FeedScreenStep s (.cells e) { s with cells := cells }

def FeedScreenEvent.ofCells : FeedScreenEvent → Option (LoadEvent FeedRow)
  | .feed _ => none
  | .cells e => some e

/-- The events of the cells in a run. -/
def cellEvents (es : List FeedScreenEvent) : List (LoadEvent FeedRow) :=
  es.filterMap FeedScreenEvent.ofCells

end Screen

section Runs

variable {UIImage : Type} {posts : List Post} {imageOf : PFFileObject → UIImage}
  {es : List FeedScreenEvent} {s t : FeedScreen UIImage} {e : FeedScreenEvent}

theorem cells_of_run (hrun : Run (FeedScreenStep posts imageOf) .loaded es s) :
    Run (LoadStep (feedDrawing imageOf)) (.empty ⟨none, none, none⟩) (cellEvents es) s.cells := by
  refine hrun.filterMap (f := FeedScreen.cells) (g := FeedScreenEvent.ofCells) ?_ ?_
  · rintro s e t d hd hstep
    cases hstep with
    | feed _ _ => cases hd
    | cellForRowAt _ _ hload =>
        obtain rfl := Option.some.inj hd
        exact hload
    | cells _ hload =>
        obtain rfl := Option.some.inj hd
        exact hload
  · rintro s e t hnone hstep
    cases hstep with
    | feed _ _ => rfl
    | cellForRowAt _ _ _ => cases hnone
    | cells _ _ => cases hnone

/-- The rows on the screen are rows of the arrays, with what the arrays have for them. -/
def RowsOfArrays (s : FeedScreen UIImage) : Prop :=
  ∀ row view, s.cells.views.shown row = some view → s.feed.vc.cellForRowAt row.1 = some row.2

/-- Only posts that come change the arrays. -/
theorem FeedStep.vc_eq {s t : FeedState} {e : FeedEvent} (h : FeedStep posts s e t)
    (hnone : e.received = []) : t.vc = s.vc := by
  cases h with
  | foundFollowing _ => rfl
  | failedFollowing _ => rfl
  | failedPosts _ => rfl
  | foundPosts _ _ =>
      simp only [FeedEvent.received] at hnone
      subst hnone
      rfl

theorem RowsOfArrays.step (h : RowsOfArrays s) (hstep : FeedScreenStep posts imageOf s e t) :
    RowsOfArrays t := by
  intro row view hshown
  cases hstep with
  | @feed e feed hfeed hreload =>
      by_cases hnone : e.received = []
      · rw [hfeed.vc_eq hnone]
        exact h row view hshown
      · exact absurd (hshown.symm.trans (hreload hnone row)) nofun
  | cellForRowAt _ hcell hload =>
      rcases hload.used_or_shown hshown with ⟨_, heq⟩ | hbefore
      · cases heq
        exact hcell
      · exact h row view hbefore
  | cells hne hload =>
      rcases hload.used_or_shown hshown with ⟨view', heq⟩ | hbefore
      · exact absurd heq (hne row view')
      · exact h row view hbefore

theorem rowsOfArrays_of_run (hrun : Run (FeedScreenStep posts imageOf) .loaded es s) :
    RowsOfArrays s :=
  hrun.invariant (fun _ _ _ h hstep => h.step hstep) fun _ _ hshown => nomatch hshown

/-- Every row on the screen is a row of the arrays and shows its comment and its user. It shows its
picture exactly when what came last for the cell was that picture; so always when nothing is in
flight for the cell and the files of each cell have come in the order in which they were asked
for. -/
theorem feed_rows_show (hrun : Run (FeedScreenStep posts imageOf) .loaded es s)
    {row : FeedRow} {view : ℕ} (hshown : s.cells.views.shown row = some view) :
    let cell := s.cells.views.content view
    s.feed.vc.cellForRowAt row.1 = some row.2 ∧
      cell.userComment = some row.2.userComment ∧ cell.userInfo = some row.2.userInfo ∧
      (cell.userImage = some (imageOf row.2.userImageFile) ↔
        ∃ last, (arrivalsIn view (cellEvents es)).getLast? = some last ∧
          imageOf last.2.userImageFile = imageOf row.2.userImageFile) ∧
      (s.cells.inFlightFor view = [] →
        Along (LoadStep (feedDrawing imageOf)) (.empty ⟨none, none, none⟩) (cellEvents es)
          (fun cells e _ => InOrder cells e) →
        cell.userImage = some (imageOf row.2.userImageFile)) := by
  have hcells := cells_of_run hrun
  have htext : ((s.cells.views.content view).userComment, (s.cells.views.content view).userInfo) =
      (some row.2.userComment, some row.2.userInfo) := (Loads.run hcells).text row view hshown
  refine ⟨rowsOfArrays_of_run hrun row view hshown, (Prod.mk.inj htext).1, (Prod.mk.inj htext).2,
    ?_, fun hrest horder => picture_of_inOrder hcells horder hshown hrest⟩
  -- a blank cell has no picture at all
  have hblank : (feedDrawing imageOf).picture ⟨none, none, none⟩ ≠
      (feedDrawing imageOf).pictureOf row := nofun
  have hlast := (Loads.run hcells).picture_iff_of_ne_blank view hblank
  simpa [feedDrawing] using hlast

end Runs

/-! ## An example -/

def beachRow : FeedRow := (0, ⟨⟨"beach.png"⟩, "at the beach", "bob"⟩)

def parkRow : FeedRow := (1, ⟨⟨"park.png"⟩, "in the park", "bob"⟩)

/-- One cell is used for the beach and then for the park. -/
def parkCells : LoadingPool FeedRow (FeedCellViews String) :=
  let d := feedDrawing PFFileObject.url
  (((LoadingPool.empty ⟨none, none, none⟩).use d beachRow 0).release beachRow).use d parkRow 0

def lateEvents : List FeedScreenEvent :=
  [.feed (.foundFollowing [some "bob"]), .feed (.foundPosts "bob" bobsPosts),
    .cells (.use beachRow 0), .cells (.release beachRow), .cells (.use parkRow 0),
    .cells (.arrive 0 parkRow), .cells (.arrive 0 beachRow)]

/-- The feed with the posts of bob, and some cells. -/
def bobsScreen (cells : LoadingPool FeedRow (FeedCellViews String)) : FeedScreen String where
  feed := ⟨FeedTableViewController.initial.foundPosts bobsPosts, []⟩
  cells := cells

theorem bobsScreen_run : Run (FeedScreenStep bobsPosts PFFileObject.url) .loaded (lateEvents.take 2)
    (bobsScreen (.empty ⟨none, none, none⟩)) := by
  have hfind : IsFind (postsOf "bob" bobsPosts) bobsPosts := IsFind.all (by decide)
  have hfollowing : FeedScreenStep bobsPosts PFFileObject.url (.loaded : FeedScreen String)
      (.feed (.foundFollowing [some "bob"])) _ :=
    .feed (.foundFollowing (by decide)) fun _ _ => rfl
  exact (Run.single hfollowing).snoc (.feed (.foundPosts (by decide) hfind) fun _ _ => rfl)

theorem parkCells_run : Run (FeedScreenStep bobsPosts PFFileObject.url) .loaded (lateEvents.take 5)
    (bobsScreen parkCells) := by
  let d := feedDrawing PFFileObject.url
  let beachCells := (LoadingPool.empty ⟨none, none, none⟩).use d beachRow 0
  have hbeach : FeedScreenStep bobsPosts PFFileObject.url (bobsScreen (.empty ⟨none, none, none⟩))
      (.cells (.use (0, beachRow.2) 0)) (bobsScreen beachCells) :=
    .cellForRowAt (by decide) (by decide) (.use rfl ⟨Nat.le_refl 0, nofun⟩)
  have hrelease : FeedScreenStep bobsPosts PFFileObject.url (bobsScreen beachCells)
      (.cells (.release beachRow)) (bobsScreen (beachCells.release beachRow)) :=
    .cells (by simp) .release
  have hfree : (beachCells.release beachRow).views.Free 0 := by
    refine ⟨Nat.zero_le _, fun row => ?_⟩
    by_cases hrow : row = beachRow <;>
      simp [beachCells, LoadingPool.release, ViewPool.release, LoadingPool.use, ViewPool.use,
        LoadingPool.empty, ViewPool.empty, hrow]
  have hpark : FeedScreenStep bobsPosts PFFileObject.url (bobsScreen (beachCells.release beachRow))
      (.cells (.use (1, parkRow.2) 0)) (bobsScreen parkCells) :=
    .cellForRowAt (by decide) (by decide) (.use rfl hfree)
  exact ((bobsScreen_run.snoc hbeach).snoc hrelease).snoc hpark

/-- The picture of the beach comes last. -/
def lateScreen : FeedScreen String :=
  let d := feedDrawing PFFileObject.url
  bobsScreen ((parkCells.arrive d 0 parkRow).arrive d 0 beachRow)

theorem late_run : Run (FeedScreenStep bobsPosts PFFileObject.url) .loaded lateEvents lateScreen :=
  (parkCells_run.snoc (FeedScreenStep.cells (by simp) (.arrive (by decide)))).snoc
    (FeedScreenStep.cells (by simp) (.arrive (by decide)))

/-- The row of the park shows the beach. -/
theorem park_shows_beach :
    (lateScreen.cells.views.content 0).userComment = some "in the park" ∧
      (lateScreen.cells.views.content 0).userImage ≠ some "park.png" := by
  have hpark : lateScreen.cells.views.shown parkRow = some 0 := by decide
  rcases feed_rows_show late_run hpark with ⟨_, hcomment, _, hpicture⟩
  refine ⟨hcomment, fun hright => ?_⟩
  obtain ⟨last, hlast, himage⟩ := hpicture.1.1 hright
  obtain rfl : beachRow = last := Option.some.inj (Eq.trans (by decide) hlast)
  exact absurd himage (by decide)

end InstagramClone
end IosProjects
