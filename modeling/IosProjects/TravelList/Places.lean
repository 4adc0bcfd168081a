import Mathlib.Data.Rat.Defs
import IosProjects.Library.Run

/-!
# Places — the map, the list and the array in the user defaults

A long press on the map starts a reverse-geocode request; its block appends the address found to the
array stored under `places`, whenever it runs. `PlacesTableViewController` reads the array when it
appears and stores its own copy back when a row is deleted. The steps do not ask which of the two is
on the screen, so they happen in every order.

The pin put on the map is left out. The table is reloaded whenever its array changes, so its rows
are those of the array.
-/

namespace IosProjects
namespace TravelList

/-! ## `MapViewController` -/

structure CLLocation where
  latitude : ℚ
  longitude : ℚ
  deriving DecidableEq, Repr

/-- `UIGestureRecognizer.State`. -/
inductive PressState where
  | possible
  | began
  | changed
  | ended
  | cancelled
  | failed
  deriving DecidableEq, Repr

structure CLPlacemark where
  name : Option String
  locality : Option String
  administrativeArea : Option String
  postalCode : Option String
  deriving DecidableEq, Repr

/-- The text a placemark is stored as. -/
def CLPlacemark.result (placemark : CLPlacemark) : String :=
  let result := ""
  let result := match placemark.name with
    | some name => result ++ name
    | none => result
  let result := match placemark.locality with
    | some locality => result ++ s!", {locality}"
    | none => result
  let result := match placemark.administrativeArea with
    | some administrativeArea => result ++ s!", {administrativeArea}"
    | none => result
  match placemark.postalCode with
  | some postalCode => result ++ s!", {postalCode}"
  | none => result

/-- What the block of a request has to store, if anything. -/
def geocoded (placemarks : Option (List CLPlacemark)) (error : Option String) : Option String :=
  match error with
  | some _ => none
  | none =>
      match placemarks with
      | some (placemark :: _) => some placemark.result
      | _ => none

/-- The array with the result, from the stored one. -/
def addPlace (result : String) (placesObj : Option (List String)) : List String :=
  match placesObj with
  | some placesList => placesList ++ [result]
  | none => [result]

/-! ## `PlacesTableViewController` -/

structure PlacesTable where
  places : List String

namespace PlacesTable

/-- `viewDidAppear(_:)`; the array is stored again afterwards. -/
def viewDidAppear (placesObj : Option (List String)) (table : PlacesTable) : PlacesTable :=
  match placesObj with
  | some placesList => { places := placesList }
  | none => table

/-- `tableView(_:numberOfRowsInSection:)`. -/
def numberOfRowsInSection (table : PlacesTable) : ℕ :=
  table.places.length

/-- `tableView(_:commit:forRowAt:)` for `.delete`; `places.remove(at:)` traps out of range. -/
def commitDelete (row : ℕ) (table : PlacesTable) : Option PlacesTable :=
  if row < table.places.length then some { places := table.places.eraseIdx row } else none

end PlacesTable

/-! ## Steps -/

/-- `stored` is the array under `places`, if there is one; `requests` are the places whose address
has not been found yet. -/
structure AppState where
  stored : Option (List String)
  table : PlacesTable
  requests : List CLLocation

namespace AppState

/-- Nothing has been shown since the app was started. -/
def launch (stored : Option (List String)) : AppState where
  stored := stored
  table := { places := [] }
  requests := []

/-- `addAnnotation(press:)`. -/
def addAnnotation (state : PressState) (pinnedLocation : CLLocation) (s : AppState) : AppState :=
  if state = .began then { s with requests := s.requests ++ [pinnedLocation] } else s

/-- The block of a request runs. -/
def complete (pinnedLocation : CLLocation) (placemarks : Option (List CLPlacemark))
    (error : Option String) (s : AppState) : AppState :=
  { s with
    requests := s.requests.erase pinnedLocation
    stored :=
      match geocoded placemarks error with
      | some result => some (addPlace result s.stored)
      | none => s.stored }

def viewDidAppear (s : AppState) : AppState :=
  let table := s.table.viewDidAppear s.stored
  { s with stored := some table.places, table := table }

end AppState

inductive Event where
  | press (state : PressState) (pinnedLocation : CLLocation)
  | complete (pinnedLocation : CLLocation) (placemarks : Option (List CLPlacemark))
      (error : Option String)
  | appear
  | deleteRow (row : ℕ)
  deriving DecidableEq, Repr

inductive Step : AppState → Event → AppState → Prop where
  | press {s : AppState} {state : PressState} {pinnedLocation : CLLocation} :
      Step s (.press state pinnedLocation) (s.addAnnotation state pinnedLocation)
  -- in any order, and with any answer
  | complete {s : AppState} {pinnedLocation : CLLocation} {placemarks : Option (List CLPlacemark)}
      {error : Option String} :
      pinnedLocation ∈ s.requests →
      Step s (.complete pinnedLocation placemarks error)
        (s.complete pinnedLocation placemarks error)
  | appear {s : AppState} : Step s .appear s.viewDidAppear
  | deleteRow {s : AppState} {row : ℕ} {table : PlacesTable} :
      s.table.commitDelete row = some table →
      Step s (.deleteRow row) { s with table := table, stored := some table.places }

/-- The rows of the list can be deleted. -/
theorem Step.exists_deleteRow {s : AppState} {row : ℕ}
    (hrow : row < s.table.numberOfRowsInSection) :
    ∃ t, Step s (.deleteRow row) t ∧ t.table.places = s.table.places.eraseIdx row ∧
      t.stored = some t.table.places :=
  ⟨_, .deleteRow (if_pos hrow), rfl, rfl⟩

end TravelList
end IosProjects
