import IosProjects.BucketListHotels.Hotels
import IosProjects.Library.Decimal
import IosProjects.Library.ViewPool

/-!
# Rows — the cells of the list of hotels

The cell provider draws a hotel into whatever cell the table view hands out. The labels and the
picture are replaced; the stars are appended to the stack view of the cell, next to those of the
hotels it showed before. So a row shows its hotel exactly when its cell has never shown another.
-/

namespace IosProjects
namespace BucketListHotels

open IosProjects.Library

/-! ## `HotelTableViewCell` -/

/-- `UIImage(systemName:)`, for the two symbols that are asked for. -/
inductive StarImage where
  | starFill
  | star
  deriving DecidableEq, Repr

/-- `imageCellView` is the name of its image. -/
structure HotelTableViewCell where
  nameLabel : Option String
  countryLabel : Option String
  imageCellView : Option String
  starsStackView : List StarImage
  deriving DecidableEq, Repr

/-- A cell as the storyboard has it. -/
def HotelTableViewCell.prototype : HotelTableViewCell where
  nameLabel := none
  countryLabel := none
  imageCellView := none
  starsStackView := []

/-- `Int(_:)` of a string: digits, with or without a sign, for a number that fits. -/
def intOfString (text : String) : Option ℤ :=
  let value : Option ℤ :=
    match text.toList with
    | '-' :: digits => (readDecimal digits).map fun n => -(n : ℤ)
    | '+' :: digits => (readDecimal digits).map fun n => (n : ℤ)
    | digits => (readDecimal digits).map fun n => (n : ℤ)
  value.filter fun n => -2 ^ 63 ≤ n ∧ n < 2 ^ 63

/-- The five images that `setStars(_:)` adds. -/
def starImages (stars : ℤ) : List StarImage :=
  (List.range 5).map fun i => if (i : ℤ) < stars then .starFill else .star

/-- `setStars(_:)`. -/
def HotelTableViewCell.setStars (stars : ℤ) (cell : HotelTableViewCell) : HotelTableViewCell :=
  -- the stack view keeps the images it has
  { cell with starsStackView := cell.starsStackView ++ starImages stars }

/-- The argument of `setStars(_:)`. -/
def Hotel.rating (hotel : Hotel) : ℤ :=
  (intOfString hotel.stars).getD 0

/-- The cell provider of `setupDataSource()`, given the cell that was dequeued. -/
def cellProvider (hotel : Hotel) (cell : HotelTableViewCell) : HotelTableViewCell :=
  { cell with
    nameLabel := some hotel.name
    imageCellView := some hotel.image
    countryLabel := some hotel.country }.setStars hotel.rating

@[simp] theorem length_starImages (stars : ℤ) : (starImages stars).length = 5 := by
  simp [starImages]

@[simp] theorem starsStackView_cellProvider (hotel : Hotel) (cell : HotelTableViewCell) :
    (cellProvider hotel cell).starsStackView = cell.starsStackView ++ starImages hotel.rating := rfl

/-- The row shows the hotel. -/
structure RowShows (hotel : Hotel) (cell : HotelTableViewCell) : Prop where
  nameLabel : cell.nameLabel = some hotel.name
  countryLabel : cell.countryLabel = some hotel.country
  imageCellView : cell.imageCellView = some hotel.image
  starsStackView : cell.starsStackView = starImages hotel.rating

/-- A cell shows the stars of all the hotels it has been used for. -/
theorem starsStackView_foldl (hotels : List Hotel) (cell : HotelTableViewCell) :
    (hotels.foldl (fun cell hotel => cellProvider hotel cell) cell).starsStackView =
      cell.starsStackView ++ hotels.flatMap fun hotel => starImages hotel.rating := by
  induction hotels generalizing cell with
  | nil => simp
  | cons hotel hotels ih =>
      rw [List.foldl_cons, ih, starsStackView_cellProvider, List.flatMap_cons, List.append_assoc]

section Cells

variable {es : List (PoolEvent Hotel)} {pool : ViewPool Hotel HotelTableViewCell} {hotel : Hotel}
  {view : ℕ}

theorem length_starsStackView (h : Tracks cellProvider .prototype es pool) (view : ℕ) :
    (pool.content view).starsStackView.length = 5 * (usesOf view es).length := by
  rw [h.content, starsStackView_foldl]
  simp [HotelTableViewCell.prototype, List.length_flatMap, Nat.mul_comm]

/-- The labels and the picture are always those of the hotel. -/
theorem labels_eq (h : Tracks cellProvider .prototype es pool)
    (hshown : pool.shown hotel = some view) :
    (pool.content view).nameLabel = some hotel.name ∧
      (pool.content view).countryLabel = some hotel.country ∧
        (pool.content view).imageCellView = some hotel.image := by
  let see : HotelTableViewCell → Option String × Option String × Option String :=
    fun cell => (cell.nameLabel, cell.countryLabel, cell.imageCellView)
  have hsee : see (pool.content view) = see (cellProvider hotel .prototype) :=
    h.eq_of_overwrites (fun _ _ _ => rfl) hshown
  simpa [see, cellProvider, HotelTableViewCell.setStars] using hsee

/-- The stars are right in a cell that has been used once. -/
theorem rowShows_iff (h : Tracks cellProvider .prototype es pool)
    (hshown : pool.shown hotel = some view) :
    RowShows hotel (pool.content view) ↔ usesOf view es = [hotel] := by
  rcases labels_eq h hshown with ⟨hname, hcountry, himage⟩
  constructor
  · intro hrow
    obtain ⟨before, huses⟩ := h.exists_uses hshown
    have hlength := length_starsStackView h view
    rw [hrow.starsStackView, length_starImages, huses, List.length_append, List.length_singleton]
      at hlength
    obtain rfl : before = [] := List.eq_nil_of_length_eq_zero (by omega)
    rw [huses, List.nil_append]
  · intro huses
    refine ⟨hname, hcountry, himage, ?_⟩
    rw [h.content, huses, starsStackView_foldl]
    simp [HotelTableViewCell.prototype]

end Cells

/-! ## The screen -/

structure HotelsScreen where
  vc : HotelTableViewController
  pool : ViewPool Hotel HotelTableViewCell

/-- The list has been loaded; no row has been displayed yet. -/
def HotelsScreen.launch (vc : HotelTableViewController) : HotelsScreen where
  vc := vc
  pool := .empty .prototype

inductive HotelsEvent where
  | display (hotel : Hotel) (view : ℕ)
  | endDisplaying (hotel : Hotel)
  | delete (hotel : Hotel)
  deriving DecidableEq

inductive HotelsStep : HotelsScreen → HotelsEvent → HotelsScreen → Prop where
  | display {s : HotelsScreen} {row : ℕ} {hotel : Hotel} {view : ℕ} :
      s.vc.itemIdentifier row = some hotel → s.pool.shown hotel = none → s.pool.Free view →
      HotelsStep s (.display hotel view) { s with pool := s.pool.use cellProvider hotel view }
  | endDisplaying {s : HotelsScreen} {hotel : Hotel} :
      HotelsStep s (.endDisplaying hotel) { s with pool := s.pool.release hotel }
  -- a row on the screen is swiped
  | delete {s : HotelsScreen} {row : ℕ} {hotel : Hotel} {view : ℕ} :
      s.vc.itemIdentifier row = some hotel → s.pool.shown hotel = some view →
      HotelsStep s (.delete hotel)
        { vc := s.vc.deleteAction hotel, pool := s.pool.release hotel }

/-- What an event does to the cells. -/
def HotelsEvent.pool : HotelsEvent → PoolEvent Hotel
  | .display hotel view => .use hotel view
  | .endDisplaying hotel => .release hotel
  | .delete hotel => .release hotel

theorem HotelsStep.pool {s t : HotelsScreen} {e : HotelsEvent} (h : HotelsStep s e t) :
    PoolStep cellProvider s.pool e.pool t.pool := by
  cases h with
  | display _ hnone hfree => exact .use hnone hfree
  | endDisplaying => exact .release
  | delete _ _ => exact .release

theorem tracks_of_run {vc : HotelTableViewController} {es : List HotelsEvent} {s : HotelsScreen}
    (hrun : Run HotelsStep (.launch vc) es s) :
    Tracks cellProvider .prototype (es.map HotelsEvent.pool) s.pool :=
  Tracks.run (hrun.map (f := HotelsScreen.pool) fun _ _ _ hstep => hstep.pool)

/-- Every row on the screen shows its hotel. -/
def RowsRight (s : HotelsScreen) : Prop :=
  ∀ hotel view, s.pool.shown hotel = some view → RowShows hotel (s.pool.content view)

/-- A cell that has shown a hotel comes back for another. -/
def Reuses (s : HotelsScreen) (e : HotelsEvent) : Prop :=
  ∃ hotel view, e = .display hotel view ∧ view < s.pool.made

/-- Taking cells off the screen changes none. -/
theorem RowsRight.release {s t : HotelsScreen} (h : RowsRight s) {hotel : Hotel}
    (ht : t.pool = s.pool.release hotel) : RowsRight t := by
  intro hotel' view hshown
  rw [ht] at hshown ⊢
  exact h hotel' view (ViewPool.shown_of_release hshown)

theorem rowsRight_display_iff {es : List (PoolEvent Hotel)} {s : HotelsScreen} {hotel : Hotel}
    {view : ℕ} (htracks : Tracks cellProvider .prototype es s.pool) (h : RowsRight s)
    (hnone : s.pool.shown hotel = none) (hfree : s.pool.Free view) :
    RowsRight { s with pool := s.pool.use cellProvider hotel view } ↔ ¬ view < s.pool.made := by
  have hafter : Tracks cellProvider .prototype (es ++ [.use hotel view])
      (s.pool.use cellProvider hotel view) := htracks.use hfree
  have hself : (s.pool.use cellProvider hotel view).shown hotel = some view :=
    ViewPool.shown_use_self
  rw [htracks.made_iff, not_not]
  constructor
  · intro hright
    have huses := (rowShows_iff hafter hself).1 (hright hotel view hself)
    simpa using huses
  · intro hnew hotel' view' hshown
    refine (rowShows_iff hafter hshown).2 ?_
    rcases hfree.of_shown_use hshown with ⟨rfl, rfl⟩ | ⟨hview, hbefore⟩
    · simp [hnew]
    · rw [usesOf_use_of_ne hview.symm]
      exact (rowShows_iff htracks hbefore).1 (h hotel' view' hbefore)

/-- All rows on the screen show their hotels, with their names, countries, pictures and stars, in
every state of a run if and only if no cell is used twice in it. -/
theorem rowsRight_throughout_iff (vc : HotelTableViewController) (es : List HotelsEvent) :
    Throughout HotelsStep (.launch vc) es RowsRight ↔
      Along HotelsStep (.launch vc) es fun s e _ => ¬ Reuses s e := by
  apply Throughout.iff_along
  · intro hotel view hshown
    cases hshown
  · intro before s e t hrun h hstep
    cases hstep with
    | @display _ hotel view _ hnone hfree =>
        rw [rowsRight_display_iff (tracks_of_run hrun) h hnone hfree]
        refine not_congr ⟨fun hlt => ⟨hotel, view, rfl, hlt⟩, ?_⟩
        rintro ⟨_, _, heq, hlt⟩
        cases heq
        exact hlt
    | endDisplaying => exact iff_of_true (h.release rfl) (by rintro ⟨_, _, heq, _⟩; cases heq)
    | delete _ _ => exact iff_of_true (h.release rfl) (by rintro ⟨_, _, heq, _⟩; cases heq)

end BucketListHotels
end IosProjects
