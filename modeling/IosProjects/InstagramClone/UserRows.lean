import IosProjects.InstagramClone.Refresh

/-!
# UserRows — the rows of the table of users and the arrays behind them

The answer to the query for the users replaces `usernames` and `objectIds` at once, while the table
keeps the number of rows of its last reload until every user has been answered for. Meanwhile the
user scrolls and taps.

What a tap sends to the server is left out, no answer to it comes back to the table.
-/

namespace IosProjects
namespace InstagramClone

open IosProjects.Library

/-- What `tableView(_:cellForRowAt:)` reads for a row. -/
structure UserRow where
  username : String
  following : Option Bool
  deriving DecidableEq, Repr

/-- `tableView(_:cellForRowAt:)`; the row can trap in either array. -/
def UserTable.cellForRowAt (row : ℕ) (table : UserTable) : Option UserRow := do
  let username ← table.usernames[row]?
  let objectId ← table.objectIds[row]?
  return { username := username, following := table.followings.lookup objectId }

/-! ## Steps -/

inductive TableEvent where
  | query (e : RefreshEvent)
  | scroll (row : ℕ)
  | tap (row : ℕ)
  deriving DecidableEq, Repr

/-- Refreshes and their answers, and what the user does with the rows that the table has. -/
inductive TableStep : RefreshState → TableEvent → RefreshState → Prop where
  | query {s t : RefreshState} {e : RefreshEvent} :
      RefreshStep s e t → TableStep s (.query e) t
  | scroll {s : RefreshState} {row : ℕ} {cell : UserRow} :
      row < s.table.rows → s.table.cellForRowAt row = some cell → TableStep s (.scroll row) s
  | tap {s : RefreshState} {row : ℕ} {table : UserTable} {sent : List Request} :
      row < s.table.rows → s.table.didSelectRowAt row = some (table, sent) →
      TableStep s (.tap row) { s with table := table }

/-! ## Rows -/

/-- Every row the table can ask for is valid in both arrays. -/
structure UserRowsValid (table : UserTable) : Prop where
  rows_le : table.rows ≤ table.usernames.length
  lengths : table.usernames.length = table.objectIds.length
  cellForRowAt : ∀ row < table.rows, (table.cellForRowAt row).isSome
  didSelectRowAt : ∀ row < table.rows, (table.didSelectRowAt row).isSome

theorem UserTable.didSelectRowAt_isSome {row : ℕ} {table : UserTable}
    (h : row < table.objectIds.length) : (table.didSelectRowAt row).isSome := by
  simp only [didSelectRowAt, List.getElem?_eq_getElem h]
  split <;> rfl

theorem userRowsValid_iff {table : UserTable}
    (hlengths : table.usernames.length = table.objectIds.length) :
    UserRowsValid table ↔ table.rows ≤ table.usernames.length := by
  constructor
  · exact UserRowsValid.rows_le
  · intro hle
    refine ⟨hle, hlengths, fun row hrow => ?_, fun row hrow => ?_⟩
    · have husername : row < table.usernames.length := hrow.trans_le hle
      have hobjectId : row < table.objectIds.length := hlengths ▸ husername
      simp [UserTable.cellForRowAt, husername, hobjectId]
    · exact UserTable.didSelectRowAt_isSome ((hrow.trans_le hle).trans_eq hlengths)

/-- A tap changes neither the arrays nor the rows. -/
theorem UserTable.didSelectRowAt_frame {row : ℕ} {table table' : UserTable} {sent : List Request}
    (h : table.didSelectRowAt row = some (table', sent)) :
    table'.usernames = table.usernames ∧ table'.objectIds = table.objectIds ∧
      table'.rows = table.rows := by
  unfold didSelectRowAt at h
  split at h
  · cases h
  · split at h <;> cases h <;> exact ⟨rfl, rfl, rfl⟩

theorem length_objectIds_of_run {es : List TableEvent} {s : RefreshState}
    (hrun : Run TableStep .launch es s) :
    s.table.usernames.length = s.table.objectIds.length := by
  refine hrun.invariant (P := fun s : RefreshState =>
    s.table.usernames.length = s.table.objectIds.length) ?_ rfl
  intro s e t h hstep
  cases hstep with
  | query hquery =>
      cases hquery with
      | refresh => exact h
      | foundUsers _ => simp [RefreshState.foundUsers, UserTable.foundUsers]
      | failedUsers _ => exact h
      | foundIsFollowing _ => exact h
      | failedIsFollowing _ => exact h
  | scroll _ _ => exact h
  -- a tap changes an entry of `followings` only
  | tap _ htap =>
      obtain ⟨husernames, hobjectIds, _⟩ := UserTable.didSelectRowAt_frame htap
      simpa [husernames, hobjectIds] using h

/-- The event brings no list of users that is shorter than the table was when it was last
reloaded. -/
def CoversUserRows (s : RefreshState) (e : TableEvent) : Prop :=
  ∀ found, e = .query (.foundUsers found) → s.table.rows ≤ found.length

theorem rows_le_step_iff {s t : RefreshState} {e : TableEvent}
    (h : s.table.rows ≤ s.table.usernames.length) (hstep : TableStep s e t) :
    t.table.rows ≤ t.table.usernames.length ↔ CoversUserRows s e := by
  have hother : (∀ found, e ≠ .query (.foundUsers found)) → CoversUserRows s e :=
    fun hne found he => absurd he (hne found)
  cases hstep with
  | query hquery =>
      cases hquery with
      | refresh => exact iff_of_true h (hother (by simp))
      | @foundUsers found _ =>
          -- the arrays are replaced and the table is not reloaded
          have hlength : ((s.foundUsers found).table.usernames).length = found.length := by
            simp [RefreshState.foundUsers, UserTable.foundUsers]
          rw [hlength]
          constructor
          · rintro hle _ ⟨⟩
            exact hle
          · exact fun hcovers => hcovers found rfl
      | failedUsers _ => exact iff_of_true h (hother (by simp))
      | @foundIsFollowing objectId found _ =>
          refine iff_of_true ?_ (hother (by simp))
          simp only [RefreshState.foundIsFollowing, UserTable.foundIsFollowing]
          split
          · -- the last answer reloads the table
            exact le_refl _
          · exact h
      | failedIsFollowing _ => exact iff_of_true h (hother (by simp))
  | scroll _ _ => exact iff_of_true h (hother (by simp))
  | tap _ htap =>
      obtain ⟨husernames, _, hrows⟩ := UserTable.didSelectRowAt_frame htap
      refine iff_of_true ?_ (hother (by simp))
      simpa [husernames, hrows] using h

/-- In every state of a run every row the table can ask for is valid in both arrays, if and only if
no query for the users found fewer of them than the table had rows. -/
theorem userRowsValid_throughout_iff (es : List TableEvent) :
    Throughout TableStep .launch es (fun s => UserRowsValid s.table) ↔
      Along TableStep .launch es fun s e _ => CoversUserRows s e := by
  apply Throughout.iff_along
  · exact (userRowsValid_iff rfl).2 (le_refl 0)
  · intro before s e t hrun h hstep
    have hlengths := length_objectIds_of_run (hrun.snoc hstep)
    rw [userRowsValid_iff hlengths]
    exact rows_le_step_iff h.rows_le hstep

/-- A refresh that finds nobody any more leaves a row without a user. -/
theorem shorter_list_leaves_row :
    ¬ ∀ (es : List TableEvent) (s : RefreshState), Run TableStep .launch es s →
      UserRowsValid s.table := by
  intro h
  have hfirst : Run TableStep .launch
      [.query .refresh, .query (.foundUsers [carol]), .query (.foundIsFollowing "u1" [])] _ :=
    ((Run.single (.query .refresh)).snoc (.query (.foundUsers (by decide)))).snoc
      (.query (.foundIsFollowing (by decide)))
  have hrun := (hfirst.snoc (.query .refresh)).snoc
    (.query (@RefreshStep.foundUsers _ [] (by decide)))
  have hle := (h _ _ hrun).rows_le
  revert hle
  decide

end InstagramClone
end IosProjects
