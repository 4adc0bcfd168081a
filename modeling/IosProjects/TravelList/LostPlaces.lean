import IosProjects.Library.WriteBack
import IosProjects.TravelList.Places

/-!
# LostPlaces — the stored array against the places found and deleted

Every run is matched by a ledger, which numbers the places in the order their addresses were found
and knows which of them a row of the list stands for. The stored array is what the ledger says it
should be exactly when no row was deleted from a list that had missed a place.
-/

namespace IosProjects
namespace TravelList

open IosProjects.Library
open IosProjects.Library.WriteBack

/-- What an event does to the stored array and the copy in the list. -/
def Event.op : Event → Option (Op String)
  | .press _ _ => none
  | .complete _ placemarks error => (geocoded placemarks error).map .append
  | .appear => some .read
  | .deleteRow row => some (.removeAt row)

/-- What was found and deleted since the app was started with `stored`. -/
def ledger (stored : Option (List String)) (es : List Event) : Ledger String :=
  (Ledger.start (stored.getD [])).after (es.filterMap Event.op)

/-- The places found, in the order they were found, without those deleted. -/
def expectedPlaces (stored : Option (List String)) (es : List Event) : List String :=
  (ledger stored es).expected

/-- No row was deleted when a place had been found since the list last appeared. -/
def FreshDeletes (es : List Event) : Prop :=
  Fresh (es.filterMap Event.op)

/-! ## The ledger of a run -/

/-- The ledger knows the stored array and the copy in the list. -/
structure Matches (w : Ledger String) (s : AppState) : Prop where
  stored : s.stored.getD [] = w.contents
  places : s.table.places = w.shown
  -- before the array is first stored, the list is empty
  unstored : s.stored = none → s.table.places = []

theorem Matches.launch (stored : Option (List String)) :
    Matches (Ledger.start (stored.getD [])) (.launch stored) where
  stored := (Ledger.contents_start _).symm
  places := rfl
  unstored := fun _ => rfl

theorem ledger_snoc_some {stored : Option (List String)} {es : List Event} {e : Event}
    {op : Op String} (h : e.op = some op) :
    ledger stored (es ++ [e]) = (ledger stored es).apply op := by
  have hops : (es ++ [e]).filterMap Event.op = es.filterMap Event.op ++ [op] := by
    rw [List.filterMap_append, List.filterMap_cons_some h, List.filterMap_nil]
  calc ledger stored (es ++ [e])
      = (Ledger.start (stored.getD [])).after (es.filterMap Event.op ++ [op]) := by
        rw [ledger, hops]
    _ = (ledger stored es).apply op := Ledger.after_snoc _ _ _

theorem ledger_snoc_none {stored : Option (List String)} {es : List Event} {e : Event}
    (h : e.op = none) : ledger stored (es ++ [e]) = ledger stored es := by
  have hops : (es ++ [e]).filterMap Event.op = es.filterMap Event.op := by
    rw [List.filterMap_append, List.filterMap_cons_none h, List.filterMap_nil, List.append_nil]
  rw [ledger, hops, ← ledger]

/-- A step does to the app what its operation does to the ledger. -/
theorem Matches.step {stored : Option (List String)} {es : List Event} {s s' : AppState} {e : Event}
    (h : Matches (ledger stored es) s) (hstep : Step s e s') :
    Matches (ledger stored (es ++ [e])) s' := by
  cases hstep with
  | @press state pinnedLocation =>
      rw [ledger_snoc_none rfl]
      unfold AppState.addAnnotation
      split
      · exact ⟨h.stored, h.places, h.unstored⟩
      · exact h
  | @complete pinnedLocation placemarks error _ =>
      cases hresult : geocoded placemarks error with
      | none =>
          rw [ledger_snoc_none (by simp [Event.op, hresult]), AppState.complete, hresult]
          exact ⟨h.stored, h.places, h.unstored⟩
      | some result =>
          have hop :
              Event.op (.complete pinnedLocation placemarks error) = some (.append result) := by
            simp [Event.op, hresult]
          rw [ledger_snoc_some hop, AppState.complete, hresult]
          refine ⟨?_, h.places, fun hnone => by simp at hnone⟩
          rw [Ledger.apply, Ledger.contents_append, ← h.stored]
          -- `addPlace` starts a new array when nothing has been stored yet
          cases hstored : s.stored <;> simp [addPlace]
  | appear =>
      rw [ledger_snoc_some (show Event.op .appear = some .read from rfl)]
      have hplaces : (s.table.viewDidAppear s.stored).places = (ledger stored es).contents := by
        rw [← h.stored]
        -- a list that appears before anything is stored stays empty
        cases hstored : s.stored with
        | none => simpa [PlacesTable.viewDidAppear] using h.unstored hstored
        | some placesList => rfl
      exact ⟨hplaces, hplaces, fun hnone => by simp [AppState.viewDidAppear] at hnone⟩
  | @deleteRow row table hdelete =>
      rw [ledger_snoc_some (show Event.op (.deleteRow row) = some (.removeAt row) from rfl)]
      unfold PlacesTable.commitDelete at hdelete
      split at hdelete
      · rename_i hrow
        obtain rfl := Option.some.inj hdelete
        rw [h.places] at hrow
        have hplaces : s.table.places.eraseIdx row = (ledger stored es).shown.eraseIdx row := by
          rw [h.places]
        exact {
          stored := hplaces.trans (Ledger.contents_removeAt hrow).symm
          places := hplaces.trans Ledger.shown_removeAt.symm
          unstored := fun hnone => by simp at hnone }
      · cases hdelete

/-- Every run is matched by its ledger. -/
theorem Matches.run {stored : Option (List String)} {es : List Event} {s : AppState}
    (hrun : Run Step (.launch stored) es s) : Matches (ledger stored es) s :=
  hrun.invariant_history (P := fun es s => Matches (ledger stored es) s) (Matches.launch stored)
    fun _ _ _ _ _ hmatches hstep => hmatches.step hstep

/-- A run deletes rows that exist. -/
theorem performed_of_run {stored : Option (List String)} {es : List Event} {s : AppState}
    (hrun : Run Step (.launch stored) es s) :
    (Ledger.start (stored.getD [])).Performed (es.filterMap Event.op) := by
  intro before row after hops
  rcases List.filterMap_eq_append_iff.1 hops with ⟨es₁, es₂, rfl, rfl, hafter⟩
  -- the events in front of the deletion that are no operations come before it as well
  rcases List.filterMap_eq_cons_iff.1 hafter with ⟨es₃, e, es₄, rfl, hnone, hop, _⟩
  have hbefore : (es₁ ++ es₃).filterMap Event.op = es₁.filterMap Event.op := by
    rw [List.filterMap_append, List.filterMap_eq_nil_iff.2 hnone, List.append_nil]
  rw [← List.append_assoc, List.append_cons] at hrun
  rcases hrun.split with ⟨t, hdeleted, _⟩
  rcases hdeleted.snoc_inv with ⟨u, hu, hstep⟩
  have hplaces := (Matches.run hu).places
  rw [ledger, hbefore] at hplaces
  cases hstep with
  | deleteRow hdelete =>
      obtain rfl := Op.removeAt.inj (Option.some.inj hop)
      unfold PlacesTable.commitDelete at hdelete
      split at hdelete
      · rename_i hrow
        rwa [hplaces, Ledger.shown, List.length_map] at hrow
      · cases hdelete
  | press => cases hop
  | appear => cases hop
  | @complete _ placemarks error _ =>
      cases hresult : geocoded placemarks error <;> simp [Event.op, hresult] at hop

/-! ## No place is lost -/

/-- In every state a run reaches, the stored array consists of the places found without those
deleted, in the order they were found, if and only if every row deleted so far was deleted from a
list that had appeared after the last place was found. Every row of the list can be deleted. -/
theorem stored_eq_expected_iff_fresh {stored : Option (List String)} {es : List Event}
    {s : AppState} (hrun : Run Step (.launch stored) es s) :
    (s.stored.getD [] = expectedPlaces stored es ↔ FreshDeletes es) ∧
      ∀ row < s.table.numberOfRowsInSection, ∃ t, Step s (.deleteRow row) t ∧
        t.table.places = s.table.places.eraseIdx row ∧ t.stored = some t.table.places := by
  rw [(Matches.run hrun).stored]
  exact ⟨Ledger.contents_eq_expected_iff_fresh (performed_of_run hrun),
    fun _ hrow => Step.exists_deleteRow hrow⟩

def paris : CLLocation := ⟨48.9, 2.4⟩

def rome : CLLocation := ⟨41.9, 12.5⟩

def placemark (name : String) : CLPlacemark := ⟨some name, none, none, none⟩

/-- Back on the list, Paris has been found and is deleted, which leaves nothing. -/
theorem delete_paris_iff_fresh :
    ([] : List String) = expectedPlaces none [.press .began paris,
        .complete paris (some [placemark "Paris"]) none, .appear, .deleteRow 0] ↔
      FreshDeletes [.press .began paris, .complete paris (some [placemark "Paris"]) none, .appear,
        .deleteRow 0] := by
  have hrun : Run Step (.launch none) [.press .began paris,
      .complete paris (some [placemark "Paris"]) none, .appear, .deleteRow 0] _ :=
    (((Run.single Step.press).snoc (Step.complete (by decide +kernel))).snoc Step.appear).snoc
      (@Step.deleteRow _ 0 ⟨[]⟩ rfl)
  exact (stored_eq_expected_iff_fresh hrun).1

/-- Rome is found after the list has appeared, and lost when Paris is deleted. -/
theorem deleting_paris_loses_rome :
    ¬ ∀ (es : List Event) (s : AppState),
      Run Step (.launch none) es s → s.requests = [] →
        s.stored.getD [] = expectedPlaces none es := by
  intro h
  have hrun : Run Step (.launch none) [.press .began paris, .press .began rome,
      .complete paris (some [placemark "Paris"]) none, .appear,
      .complete rome (some [placemark "Rome"]) none, .deleteRow 0] _ :=
    (((((Run.single Step.press).snoc Step.press).snoc (Step.complete (by decide +kernel))).snoc
      Step.appear).snoc (Step.complete (by decide +kernel))).snoc (@Step.deleteRow _ 0 ⟨[]⟩ rfl)
  have hexpected := h _ _ hrun (by decide +kernel)
  revert hexpected
  decide +kernel

end TravelList
end IosProjects
