import Mathlib.Logic.Function.Basic
import IosProjects.InstagramClone.UserRows

/-!
# Checkmarks — the accessories of reused cells

A cell is configured from the entry of its user in `followings`. It is given a checkmark for a user
who is followed and none for a user nothing is known about; for a user who is not followed it keeps
the accessory it had in the row it showed before. A tap turns the checkmark with the entry, and does
nothing where there is no entry.
-/

namespace IosProjects
namespace InstagramClone

open IosProjects.Library

/-! ## Cells -/

abbrev CellID := ℕ

/-- The accessory types that are set. -/
inductive AccessoryType where
  | none
  | checkmark
  deriving DecidableEq, Repr

structure UserCell where
  textLabel : Option String
  accessoryType : AccessoryType
  deriving DecidableEq, Repr

/-- The prototype of the storyboard, which has no accessory. -/
def UserCell.prototype : UserCell where
  textLabel := none
  accessoryType := .none

/-- What `followings` says about the user in a row. -/
def UserTable.following (row : ℕ) (table : UserTable) : Option Bool :=
  table.objectIds[row]?.bind fun objectId => table.followings.lookup objectId

/-- The table with its cells, and which of them is displayed in which row. -/
structure UserCells where
  refresh : RefreshState
  cells : CellID → UserCell
  displayed : ℕ → Option CellID

namespace UserCells

def launch : UserCells where
  refresh := .launch
  cells := fun _ => .prototype
  displayed := fun _ => none

/-- `tableView(_:cellForRowAt:)` with the cell it dequeues, which may have shown any row before. -/
def cellForRowAt (row : ℕ) (cell : CellID) (s : UserCells) : Option UserCells :=
  match s.refresh.table.cellForRowAt row with
  | none => none
  | some shown =>
      some { s with
        cells := Function.update s.cells cell
          { textLabel := some shown.username
            accessoryType :=
              match shown.following with
              | some true => .checkmark
              -- `false` has no branch of its own
              | some false => (s.cells cell).accessoryType
              | none => .none }
        displayed := fun row' =>
          if row' = row then some cell
          else if s.displayed row' = some cell then none
          else s.displayed row' }

/-- `tableView(_:didSelectRowAt:)`; `tableView.cellForRow(at:)` is the cell displayed in the row.
What is sent to the server is left out. -/
def didSelectRowAt (row : ℕ) (s : UserCells) : Option UserCells :=
  match s.refresh.table.didSelectRowAt row with
  | none => none
  | some (table, _) =>
      some { s with
        refresh := { s.refresh with table := table }
        cells :=
          match s.displayed row with
          | none => s.cells
          | some cell =>
              Function.update s.cells cell
                { s.cells cell with
                  accessoryType :=
                    match s.refresh.table.following row with
                    | some true => .none
                    | some false => .checkmark
                    | none => (s.cells cell).accessoryType } }

end UserCells

/-! ## Steps -/

/-- A configuration and a tap carry the cell, and the entry of the row's user before them. -/
inductive CellsEvent where
  | query (e : RefreshEvent)
  | cellForRowAt (row : ℕ) (cell : CellID) (following : Option Bool)
  | didSelectRowAt (row : ℕ) (cell : CellID) (following : Option Bool)
  | endDisplaying (row : ℕ)
  deriving DecidableEq, Repr

inductive CellsStep : UserCells → CellsEvent → UserCells → Prop where
  | query {s : UserCells} {refresh : RefreshState} {e : RefreshEvent} :
      RefreshStep s.refresh e refresh → CellsStep s (.query e) { s with refresh := refresh }
  | cellForRowAt {s t : UserCells} {row : ℕ} {cell : CellID} :
      row < s.refresh.table.rows → s.cellForRowAt row cell = some t →
      CellsStep s (.cellForRowAt row cell (s.refresh.table.following row)) t
  | didSelectRowAt {s t : UserCells} {row : ℕ} {cell : CellID} :
      s.displayed row = some cell → s.didSelectRowAt row = some t →
      CellsStep s (.didSelectRowAt row cell (s.refresh.table.following row)) t
  | endDisplaying {s : UserCells} {row : ℕ} :
      CellsStep s (.endDisplaying row)
        { s with displayed := fun row' => if row' = row then none else s.displayed row' }

/-! ## What sets an accessory -/

/-- The accessory the event sets in a cell, if it sets one. -/
def CellsEvent.sets (cell : CellID) : CellsEvent → Option AccessoryType
  | .cellForRowAt _ configured following =>
      if configured = cell then
        match following with
        | some true => some .checkmark
        | some false => none
        | none => some .none
      else none
  | .didSelectRowAt _ tapped following =>
      if tapped = cell then
        match following with
        | some true => some .none
        | some false => some .checkmark
        | none => none
      else none
  | .query _ | .endDisplaying _ => none

/-- The last event that set an accessory in the cell set the checkmark. -/
def Marked (cell : CellID) (es : List CellsEvent) : Prop :=
  HeldSince (fun e => e.sets cell = none) (fun _ e => e.sets cell = some .checkmark) es

section Accessories

variable {s t : UserCells} {e : CellsEvent} {es : List CellsEvent}

theorem following_of_cellForRowAt {row : ℕ} {table : UserTable} {shown : UserRow}
    (h : table.cellForRowAt row = some shown) : shown.following = table.following row := by
  rcases Option.bind_eq_some_iff.1 h with ⟨username, _, h⟩
  rcases Option.bind_eq_some_iff.1 h with ⟨objectId, hobjectId, h⟩
  cases h
  rw [UserTable.following, hobjectId, Option.bind_some]

/-- A tap turns the entry of the row's user, if there is one. -/
theorem following_didSelectRowAt {row : ℕ} {table table' : UserTable} {sent : List Request}
    (h : table.didSelectRowAt row = some (table', sent)) :
    table'.following row = (table.following row).map (!·) := by
  unfold UserTable.didSelectRowAt at h
  split at h
  · cases h
  · rename_i objectId hobjectId
    split at h
    · rename_i hlookup
      cases h
      simp [UserTable.following, hobjectId, hlookup]
    · rename_i hlookup
      cases h
      simp [UserTable.following, hobjectId, hlookup]
    · rename_i hlookup
      cases h
      simp [UserTable.following, hobjectId, hlookup]

/-- A configuration reads the table and sets what the entry says in the cell it is given. -/
theorem cellForRowAt_spec {row : ℕ} {configured : CellID}
    (h : s.cellForRowAt row configured = some t) (cell : CellID) :
    t.refresh = s.refresh ∧ (t.cells cell).accessoryType =
      ((CellsEvent.cellForRowAt row configured (s.refresh.table.following row)).sets cell).getD
        (s.cells cell).accessoryType := by
  unfold UserCells.cellForRowAt at h
  split at h
  · cases h
  · rename_i shown hshown
    cases h
    refine ⟨rfl, ?_⟩
    have hfollowing := following_of_cellForRowAt hshown
    by_cases hsame : configured = cell
    · subst hsame
      cases hentry : s.refresh.table.following row with
      | none => simp [CellsEvent.sets, hfollowing, hentry]
      | some follows => cases follows <;> simp [CellsEvent.sets, hfollowing, hentry]
    · simp [CellsEvent.sets, hsame, Function.update_of_ne (Ne.symm hsame)]

/-- A tap turns the entry, and sets what it is then in the cell of the row. -/
theorem didSelectRowAt_spec {row : ℕ} {tapped : CellID} (hdisplayed : s.displayed row = some tapped)
    (h : s.didSelectRowAt row = some t) (cell : CellID) :
    t.refresh.table.following row = (s.refresh.table.following row).map (!·) ∧
      (t.cells cell).accessoryType =
        ((CellsEvent.didSelectRowAt row tapped (s.refresh.table.following row)).sets cell).getD
          (s.cells cell).accessoryType := by
  unfold UserCells.didSelectRowAt at h
  split at h
  · cases h
  · rename_i htable
    cases h
    refine ⟨following_didSelectRowAt htable, ?_⟩
    by_cases hsame : tapped = cell
    · subst hsame
      cases hentry : s.refresh.table.following row with
      | none => simp [CellsEvent.sets, hdisplayed]
      | some follows => cases follows <;> simp [CellsEvent.sets, hdisplayed]
    · simp [CellsEvent.sets, hsame, hdisplayed, Function.update_of_ne (Ne.symm hsame)]

/-- An event leaves in every cell what it sets there, or what was there before. -/
theorem accessoryType_step (hstep : CellsStep s e t) (cell : CellID) :
    (t.cells cell).accessoryType = (e.sets cell).getD (s.cells cell).accessoryType := by
  cases hstep with
  | query _ => rfl
  | endDisplaying => rfl
  | cellForRowAt _ hcell => exact (cellForRowAt_spec hcell cell).2
  | didSelectRowAt hdisplayed htap => exact (didSelectRowAt_spec hdisplayed htap cell).2

/-- A cell shows a checkmark exactly if the last event that set its accessory set that. -/
theorem accessoryType_eq_checkmark_iff (hrun : Run CellsStep .launch es s) (cell : CellID) :
    (s.cells cell).accessoryType = .checkmark ↔ Marked cell es := by
  induction hrun with
  | nil =>
      refine iff_of_false ?_ HeldSince.not_nil
      simp [UserCells.launch, UserCell.prototype]
  | @snoc s t es e _ hstep ih =>
      have hmarked := @HeldSince.snoc_iff _ (fun e : CellsEvent => e.sets cell = none)
        (fun _ e => e.sets cell = some .checkmark) es e
      rw [Marked, hmarked, ← Marked, ← ih, accessoryType_step hstep]
      cases hsets : e.sets cell <;> simp

end Accessories

/-! ## Checkmarks and entries -/

/-- The cell that was configured or tapped shows a checkmark exactly if the row's user is
followed. -/
def Matches (e : CellsEvent) (t : UserCells) : Prop :=
  match e with
  | .cellForRowAt row cell _ | .didSelectRowAt row cell _ =>
      (t.cells cell).accessoryType = .checkmark ↔ t.refresh.table.following row = some true
  | .query _ | .endDisplaying _ => True

/-- The event does not configure a cell that shows a checkmark for a user who is not followed, nor
is it a tap on such a cell in the row of a user without an entry. -/
def KeepsMatching (before : List CellsEvent) : CellsEvent → Prop
  | .cellForRowAt _ cell following => following = some false → ¬ Marked cell before
  | .didSelectRowAt _ cell following => following = none → ¬ Marked cell before
  | .query _ | .endDisplaying _ => True

section Matching

variable {s t : UserCells} {e : CellsEvent} {es : List CellsEvent}

theorem matches_step_iff (hrun : Run CellsStep .launch es s) (hstep : CellsStep s e t) :
    Matches e t ↔ KeepsMatching es e := by
  cases hstep with
  | query _ => exact Iff.rfl
  | endDisplaying => exact Iff.rfl
  | @cellForRowAt _ row cell _ hcell =>
      obtain ⟨hrefresh, hafter⟩ := cellForRowAt_spec hcell cell
      rw [Matches, KeepsMatching, hafter, hrefresh, ← accessoryType_eq_checkmark_iff hrun]
      cases hentry : s.refresh.table.following row with
      | none => simp [CellsEvent.sets]
      | some follows => cases follows <;> simp [CellsEvent.sets]
  | @didSelectRowAt _ row cell hdisplayed htap =>
      obtain ⟨hfollowing, hafter⟩ := didSelectRowAt_spec hdisplayed htap cell
      rw [Matches, KeepsMatching, hafter, hfollowing, ← accessoryType_eq_checkmark_iff hrun]
      cases hentry : s.refresh.table.following row with
      | none => simp [CellsEvent.sets]
      | some follows => cases follows <;> simp [CellsEvent.sets]

/-- In a run every cell shows the right accessory right after it was configured or tapped, if and
only if none that showed a checkmark was configured for a user who was not followed or tapped in the
row of a user without an entry. -/
theorem checkmarks_match_iff (hrun : Run CellsStep .launch es s) :
    Along CellsStep .launch es (fun _ e t => Matches e t) ↔
      ∀ before after e, es = before ++ e :: after → KeepsMatching before e := by
  constructor
  · intro hmatches before after e hes
    rw [hes, List.append_cons] at hrun
    rcases hrun.split with ⟨u, hu, _⟩
    rcases hu.snoc_inv with ⟨v, hv, hstep⟩
    exact (matches_step_iff hv hstep).1 (hmatches before after e v u hes hv hstep)
  · intro hkeeps before after e t u hes ht hstep
    exact (matches_step_iff ht hstep).2 (hkeeps before after e hes)

end Matching

/-- Carol is followed and dave is not. -/
def carolFollowed : Following where
  objectId := 0
  follower := "u0"
  following := "u1"

/-- Both users are answered for, and carol is shown in the first cell. -/
def carolShown : List CellsEvent :=
  [.query .refresh, .query (.foundUsers [carol, dave]),
    .query (.foundIsFollowing "u1" [carolFollowed]),
    .query (.foundIsFollowing "u2" []), .cellForRowAt 0 0 (some true)]

theorem run_carolShown : ∃ s, Run CellsStep .launch carolShown s ∧
    s.refresh = (((RefreshState.launch.refreshUserTable).foundUsers [carol, dave]).foundIsFollowing
      "u1" [carolFollowed]).foundIsFollowing "u2" [] := by
  have hfound : Run CellsStep .launch [.query .refresh, .query (.foundUsers [carol, dave])] _ :=
    (Run.single (.query .refresh)).snoc (.query (.foundUsers (by decide)))
  have hanswered := (hfound.snoc (.query
    (@RefreshStep.foundIsFollowing _ "u1" [carolFollowed] (by decide)))).snoc (.query
      (@RefreshStep.foundIsFollowing _ "u2" [] (by decide)))
  exact ⟨_, hanswered.snoc (@CellsStep.cellForRowAt _ _ 0 0 (by decide) rfl), rfl⟩

theorem carolShown_matches :
    Along CellsStep .launch carolShown (fun _ e t => Matches e t) ↔
      ∀ before after e, carolShown = before ++ e :: after → KeepsMatching before e := by
  rcases run_carolShown with ⟨s, hrun, _⟩
  exact checkmarks_match_iff hrun

/-- Carol's cell is used for dave and keeps her checkmark. -/
theorem reused_cell_keeps_checkmark :
    ¬ ∀ (es : List CellsEvent) (s : UserCells), Run CellsStep .launch es s →
      Along CellsStep .launch es fun _ e t => Matches e t := by
  intro hmatches
  rcases run_carolShown with ⟨s, hrun, hrefresh⟩
  have hmarked : Marked 0 carolShown :=
    ⟨carolShown.dropLast, [], .cellForRowAt 0 0 (some true), rfl, rfl, by simp⟩
  have hrow : s.refresh.table.cellForRowAt 1 = some ⟨"dave", some false⟩ := by
    rw [hrefresh]
    decide
  have hfollowing : s.refresh.table.following 1 = some false := by
    rw [hrefresh]
    decide
  obtain ⟨t, hcell⟩ : ∃ t, s.cellForRowAt 1 0 = some t := by
    rw [UserCells.cellForRowAt, hrow]
    exact ⟨_, rfl⟩
  have hstep := CellsStep.cellForRowAt (by rw [hrefresh]; decide) hcell
  rw [hfollowing] at hstep
  have hlast := hmatches _ t (hrun.snoc hstep) carolShown [] _ s t rfl hrun hstep
  exact (matches_step_iff hrun hstep).1 hlast rfl hmarked

end InstagramClone
end IosProjects
