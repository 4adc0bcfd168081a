import IosProjects.Library.Lists

/-!
# Hotels — the list of hotels and the hotel a row opens

`HotelTableViewController` holds the list twice. The diffable data source shows the items of a
snapshot, and a swipe deletes from that snapshot. The array `hotels` stays as it was loaded, and it
is what a tap on a row is looked up in.

How a cell shows a hotel is left out.
-/

namespace IosProjects
namespace BucketListHotels

open IosProjects.Library

structure Hotel where
  id : Int32
  name : String
  address : String
  country : String
  phone : String
  description : String
  stars : String
  image : String
  deriving DecidableEq

/-! ## `HotelDataManager` -/

structure HotelDataManager where
  items : List Hotel

/-- `fetch()`, given what reading and decoding `Hotels.json` comes to, if the bundle has that file.
The new items are what it returns. -/
def HotelDataManager.fetch (decoded : Option (Except String (List Hotel)))
    (manager : HotelDataManager) : HotelDataManager :=
  match decoded with
  | some (.ok hotels) => ⟨hotels⟩
  | some (.error _) => manager
  | none => manager

/-! ## The snapshot -/

/-- `NSDiffableDataSourceSnapshot<Section, Hotel>` with the one section there is. An identifier
occurs once. -/
structure Snapshot where
  itemIdentifiers : List Hotel
  nodup : itemIdentifiers.Nodup

namespace Snapshot

def empty : Snapshot where
  itemIdentifiers := []
  nodup := List.nodup_nil

/-- `appendItems(_:toSection:)`; a repeated identifier raises an exception. -/
def appendItems (hotels : List Hotel) (snapshot : Snapshot) : Option Snapshot :=
  if h : (snapshot.itemIdentifiers ++ hotels).Nodup then some ⟨_, h⟩ else none

/-- `deleteItems(_:)`; identifiers that are not there are ignored. -/
def deleteItems (hotels : List Hotel) (snapshot : Snapshot) : Snapshot where
  itemIdentifiers := snapshot.itemIdentifiers.filter fun hotel => hotel ∉ hotels
  nodup := snapshot.nodup.filter _

/-- Deleting the item of a row deletes that row. -/
theorem itemIdentifiers_deleteItems {snapshot : Snapshot} {row : ℕ} {hotel : Hotel}
    (h : snapshot.itemIdentifiers[row]? = some hotel) :
    (snapshot.deleteItems [hotel]).itemIdentifiers = snapshot.itemIdentifiers.eraseIdx row := by
  rcases List.getElem?_eq_some_iff.1 h with ⟨hrow, rfl⟩
  calc
    (snapshot.deleteItems [snapshot.itemIdentifiers[row]]).itemIdentifiers
        = snapshot.itemIdentifiers.filter (· != snapshot.itemIdentifiers[row]) := by
          apply List.filter_congr
          intro hotel _
          simp only [List.mem_singleton, decide_not, bne, beq_eq_decide]
    _ = snapshot.itemIdentifiers.erase snapshot.itemIdentifiers[row] :=
          (snapshot.nodup.erase_eq_filter _).symm
    _ = snapshot.itemIdentifiers.eraseIdx row := by
          rw [snapshot.nodup.erase_getElem]

end Snapshot

/-! ## `HotelTableViewController` -/

/-- `snapshot` is what the data source shows. -/
structure HotelTableViewController where
  manager : HotelDataManager
  hotels : List Hotel
  snapshot : Snapshot

structure HotelContentViewController where
  hotel : Hotel
  deriving DecidableEq

namespace HotelTableViewController

/-- `viewDidLoad()`. -/
def viewDidLoad (decoded : Option (Except String (List Hotel))) :
    Option HotelTableViewController := do
  let manager := HotelDataManager.fetch decoded ⟨[]⟩
  let hotels := manager.items
  let snapshot ← Snapshot.empty.appendItems hotels
  return ⟨manager, hotels, snapshot⟩

/-- `dataSource.itemIdentifier(for:)`: the hotel that the row shows. -/
def itemIdentifier (row : ℕ) (vc : HotelTableViewController) : Option Hotel :=
  vc.snapshot.itemIdentifiers[row]?

/-- The handler of the delete action for a hotel. -/
def deleteAction (hotel : Hotel) (vc : HotelTableViewController) : HotelTableViewController :=
  -- `hotels` keeps the hotel
  { vc with snapshot := vc.snapshot.deleteItems [hotel] }

/-- `tableView(_:trailingSwipeActionsConfigurationForRowAt:)`: the handlers of its actions. -/
def trailingSwipeActions (row : ℕ) (vc : HotelTableViewController) :
    List (HotelTableViewController → HotelTableViewController) :=
  match vc.itemIdentifier row with
  | none => []
  | some hotel => [deleteAction hotel]

/-- A full swipe on a row performs its first action. -/
def swipe (vc : HotelTableViewController) (row : ℕ) : HotelTableViewController :=
  match vc.trailingSwipeActions row with
  | [] => vc
  | action :: _ => action vc

/-- Swiping the rows one after the other. -/
def swipeAll (rows : List ℕ) (vc : HotelTableViewController) : HotelTableViewController :=
  rows.foldl swipe vc

/-- `prepare(for:sender:)` with the identifier of the segue, its destination and the selected row;
`hotels[indexPath.row]` can trap. -/
def prepare (identifier : Option String) (destination : HotelContentViewController)
    (indexPathForSelectedRow : Option ℕ) (vc : HotelTableViewController) :
    Option HotelContentViewController :=
  if identifier = some "showHotelContent" then
    match indexPathForSelectedRow with
    | some row => vc.hotels[row]?.map fun hotel => { destination with hotel := hotel }
    | none => some destination
  else some destination

/-! ## Runs of deletions -/

@[simp] theorem hotels_swipe (vc : HotelTableViewController) (row : ℕ) :
    (vc.swipe row).hotels = vc.hotels := by
  unfold swipe trailingSwipeActions
  cases vc.itemIdentifier row <;> rfl

theorem itemIdentifiers_swipe (vc : HotelTableViewController) (row : ℕ) :
    (vc.swipe row).snapshot.itemIdentifiers = vc.snapshot.itemIdentifiers.eraseIdx row := by
  unfold swipe trailingSwipeActions
  cases hitem : vc.itemIdentifier row with
  | none => exact (List.eraseIdx_of_length_le (List.getElem?_eq_none_iff.1 hitem)).symm
  | some hotel => exact Snapshot.itemIdentifiers_deleteItems hitem

/-- No deletion changes the array. -/
theorem hotels_swipeAll (rows : List ℕ) (vc : HotelTableViewController) :
    (vc.swipeAll rows).hotels = vc.hotels := by
  induction rows generalizing vc with
  | nil => rfl
  | cons row rows ih =>
      calc
        (vc.swipeAll (row :: rows)).hotels
            = ((vc.swipe row).swipeAll rows).hotels := rfl
        _ = (vc.swipe row).hotels := ih _
        _ = vc.hotels := hotels_swipe vc row

/-- Each takes its row out of the snapshot. -/
theorem itemIdentifiers_swipeAll (rows : List ℕ) (vc : HotelTableViewController) :
    (vc.swipeAll rows).snapshot.itemIdentifiers =
      rows.foldl List.eraseIdx vc.snapshot.itemIdentifiers := by
  induction rows generalizing vc with
  | nil => rfl
  | cons row rows ih =>
      calc
        (vc.swipeAll (row :: rows)).snapshot.itemIdentifiers
            = ((vc.swipe row).swipeAll rows).snapshot.itemIdentifiers := rfl
        _ = rows.foldl List.eraseIdx (vc.swipe row).snapshot.itemIdentifiers := ih _
        _ = rows.foldl List.eraseIdx (vc.snapshot.itemIdentifiers.eraseIdx row) := by
              rw [itemIdentifiers_swipe]

/-- Hotels with distinct ids can be loaded; both lists hold them. -/
theorem viewDidLoad_eq {hotels : List Hotel} (hids : (hotels.map Hotel.id).Nodup) :
    ∃ vc, viewDidLoad (some (.ok hotels)) = some vc ∧ vc.hotels = hotels ∧
      vc.snapshot.itemIdentifiers = hotels := by
  have hnodup : hotels.Nodup := List.Nodup.of_map _ hids
  refine ⟨⟨⟨hotels⟩, hotels, ⟨hotels, hnodup⟩⟩, ?_, rfl, rfl⟩
  simp [viewDidLoad, HotelDataManager.fetch, Snapshot.appendItems, Snapshot.empty, hnodup]

theorem prepare_selected (destination : HotelContentViewController) (row : ℕ)
    (vc : HotelTableViewController) :
    vc.prepare (some "showHotelContent") destination (some row) =
      vc.hotels[row]?.map HotelContentViewController.mk := by
  simp [prepare]

end HotelTableViewController

open HotelTableViewController in
/-- After any deletions a displayed row can be looked up in `hotels`, and the hotel found there is
the displayed one exactly when every deletion was made below that row. -/
theorem prepare_displayed_iff {hotels : List Hotel} (hids : (hotels.map Hotel.id).Nodup) :
    ∃ loaded, viewDidLoad (some (.ok hotels)) = some loaded ∧
      ∀ (deletions : List ℕ) (row : ℕ) (hotel : Hotel) (destination : HotelContentViewController),
        (loaded.swipeAll deletions).itemIdentifier row = some hotel →
          row < (loaded.swipeAll deletions).hotels.length ∧
            ((loaded.swipeAll deletions).prepare (some "showHotelContent") destination (some row) =
                some ⟨hotel⟩ ↔ ∀ deleted ∈ deletions, row < deleted) := by
  rcases viewDidLoad_eq hids with ⟨loaded, hload, hhotels, hitems⟩
  refine ⟨loaded, hload, fun deletions row hotel destination hshown => ?_⟩
  have hdisplayed : (deletions.foldl List.eraseIdx hotels)[row]? = some hotel := by
    rw [← hitems, ← itemIdentifiers_swipeAll]
    exact hshown
  rw [prepare_selected, hotels_swipeAll, hhotels]
  constructor
  · rw [getElem?_foldl_eraseIdx] at hdisplayed
    have hlt := (List.getElem?_eq_some_iff.1 hdisplayed).1
    exact (le_originalPosition deletions row).trans_lt hlt
  · have hnodup : hotels.Nodup := List.Nodup.of_map _ hids
    rw [← getElem?_foldl_eraseIdx_eq_iff hnodup hdisplayed, Option.map_eq_some_iff]
    constructor
    · rintro ⟨found, hfound, hsame⟩
      obtain rfl : found = hotel := by simpa using hsame
      exact hfound
    · intro hfound
      exact ⟨hotel, hfound, rfl⟩

def harbour : Hotel where
  id := 1
  name := "Harbour"
  address := "1 Main Street"
  country := "France"
  phone := "1"
  description := ""
  stars := "5"
  image := "harbour"

def garden : Hotel where
  id := 2
  name := "Garden"
  address := "2 Main Street"
  country := "Spain"
  phone := "2"
  description := ""
  stars := "4"
  image := "garden"

theorem prepare_garden_iff :
    ∃ loaded, HotelTableViewController.viewDidLoad (some (.ok [harbour, garden])) = some loaded ∧
      ∀ (deletions : List ℕ) (row : ℕ) (hotel : Hotel) (destination : HotelContentViewController),
        (loaded.swipeAll deletions).itemIdentifier row = some hotel →
          row < (loaded.swipeAll deletions).hotels.length ∧
            ((loaded.swipeAll deletions).prepare (some "showHotelContent") destination (some row) =
                some ⟨hotel⟩ ↔ ∀ deleted ∈ deletions, row < deleted) :=
  prepare_displayed_iff (by decide)

/-- Once the first of two hotels is deleted, its row shows the second and opens the first. -/
theorem deleted_hotel_opens :
    ∃ loaded, HotelTableViewController.viewDidLoad (some (.ok [harbour, garden])) = some loaded ∧
      (loaded.swipeAll [0]).itemIdentifier 0 = some garden ∧
        (loaded.swipeAll [0]).prepare (some "showHotelContent") ⟨garden⟩ (some 0) =
          some ⟨harbour⟩ :=
  ⟨_, rfl, by decide, by decide⟩

end BucketListHotels
end IosProjects
