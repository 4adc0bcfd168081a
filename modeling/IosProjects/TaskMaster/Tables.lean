import IosProjects.Library.Run
import IosProjects.TaskMaster.Reloads

/-!
# Tables — the counts that the views read and the indices they pass

A collection view or a table view asks for its cells by the counts it read when it was reloaded
last. Every handler reloads what it has changed, so no view asks for a row that is gone. But a grid
whose array has never been fetched announces one item, and the list counts the rows of its sections
in the order of the parsed dates and looks its cells up in the order of the texts.
-/

namespace IosProjects
namespace TaskMaster

open IosProjects.Library

/-! ## Counts -/

/-- `CompletedTasksViewController.collectionView(_:numberOfItemsInSection:)`. -/
def CompletedTab.numberOfItemsInSection (tab : CompletedTab) : ℕ :=
  match tab.completedTasks with
  | none => 1
  | some completedTasks => completedTasks.length

/-- The rows of every section, as the table view reads them; `none` is a trap. -/
def TaskViewController.readRows (formatter : DateFormatter) (it : Iteration String ObjectID)
    (vc : TaskViewController) : Option (List ℕ) :=
  (List.range vc.numberOfSections).mapM fun section_ =>
    vc.numberOfRowsInSection formatter it section_

/-- What the views read when they were reloaded last: the items of the two grids and the rows of the
sections of the list. A grid has none before its first `reloadData()`. -/
structure TableCounts where
  items : Option ℕ
  rows : List ℕ
  completedItems : Option ℕ
  deriving DecidableEq, Repr

/-- `reloadData()` of the grid and the list of the Tasks tab. -/
def TableCounts.reloadTasks (formatter : DateFormatter) (it : Iteration String ObjectID)
    (vc : TaskViewController) (counts : TableCounts) : Option TableCounts :=
  (vc.readRows formatter it).map fun rows =>
    { counts with items := some vc.numberOfItemsInSection, rows := rows }

/-- `reloadData()` of the grid of the Completed tab. -/
def TableCounts.reloadCompleted (tab : CompletedTab) (counts : TableCounts) : TableCounts :=
  { counts with completedItems := some tab.numberOfItemsInSection }

/-! ## The app with its tables -/

structure Tables where
  app : AppState
  counts : TableCounts

/-- An event on a screen. `it` is the order in which the dictionary is listed when it is counted. -/
structure TablesEvent where
  screen : Screen
  event : AppEvent
  it : Iteration String ObjectID

namespace Tables

/-- The app when an event comes. -/
def before (s : Tables) (e : TablesEvent) : AppState :=
  { s.app with screen := e.screen }

variable (formatter : DateFormatter)

/-- The app has started, and no view has been reloaded. -/
def launch (context : ManagedObjectContext) (today : Date) : Tables where
  app := .launch formatter context today
  counts := { items := none, rows := [], completedItems := none }

/-- One main-queue turn. The screen comes with the event, so that the operations are taken in any
order. -/
def step (s : Tables) (e : TablesEvent) : Option Tables :=
  match (s.before e).step formatter e.event with
  | none => none
  | some app =>
      let counts :=
        if e.event.reloadsCompleted (s.before e) then s.counts.reloadCompleted app.completedTab
        else s.counts
      if e.event.reloadsTasks (s.before e) then
        (counts.reloadTasks formatter e.it app.tasksVC).map fun counts =>
          { app := app, counts := counts }
      else some { app := app, counts := counts }

end Tables

/-! ## Indices in range -/

/-- There is an array, and every row below the count is a row of it. -/
def ItemsInRange (items : Option ℕ) (tasks : Option (List ObjectID)) : Prop :=
  ∀ count, items = some count → ∀ row < count, ∃ shown, tasks = some shown ∧ row < shown.length

/-- Every section that was counted is a section, and its rows are rows of the group that
`cellForRowAt` selects for it. -/
def RowsInRange (rows : List ℕ) (vc : TaskViewController) : Prop :=
  ∀ section_ count, rows[section_]? = some count → section_ < vc.numberOfSections ∧
    ∀ row < count, ∀ key, vc.sectionDates[section_]? = some key → row < (vc.tasksOf key).length

structure TablesValid (s : Tables) : Prop where
  grid : ItemsInRange s.counts.items s.app.tasksVC.tasks
  list : RowsInRange s.counts.rows s.app.tasksVC
  completed : ItemsInRange s.counts.completedItems s.app.completedTasks

/-- Two days have equally many tasks if as many days come before the one by their dates as before
the other by their texts. -/
def SizesAgree (formatter : DateFormatter) (listed : String → Option (List ObjectID)) : Prop :=
  ∀ byDate byText tasks tasks', listed byDate = some tasks → listed byText = some tasks' →
    rank formatter.parsed {day | (listed day).isSome} byDate =
      rank id {day | (listed day).isSome} byText →
    tasks.length = tasks'.length

/-- An event that reloads a grid finds its array or fetches it, and one that reloads the list leaves
days of the same sizes in both orders. -/
structure ReloadsInRange (formatter : DateFormatter) (s : AppState) (e : AppEvent) : Prop where
  grid : e.reloadsTasks s = true → s.tasksVC.tasks.isSome ∨ e.loadsTasks = true
  list : e.reloadsTasks s = true → SizesAgree formatter (e.listed formatter s)
  completed : e.reloadsCompleted s = true → s.completedTasks.isSome ∨ e.loadsCompleted = true

/-! ## The rows of the sections -/

namespace TaskViewController

variable {formatter : DateFormatter} {it : Iteration String ObjectID} {vc : TaskViewController}
  {dates : List String}

theorem sortedTasksByDate_perm (h : vc.sortedTasksByDate formatter it = some dates) :
    dates.Perm vc.sectionDates := by
  refine List.Perm.trans ?_ (keys_perm it vc)
  simp only [sortedTasksByDate] at h
  split at h
  · obtain rfl := Option.some.inj h
    exact List.Perm.refl _
  split at h
  · obtain rfl := Option.some.inj h
    exact sortAscending_perm _ _
  · cases h

/-- The rows are the sizes of the groups, in the order of the parsed dates. -/
theorem readRows_eq (h : vc.sortedTasksByDate formatter it = some dates) :
    vc.readRows formatter it = some (dates.map fun key => (vc.tasksOf key).length) := by
  have hperm := sortedTasksByDate_perm h
  have hlength : vc.numberOfSections = (dates.map fun key => (vc.tasksOf key).length).length := by
    rw [List.length_map, hperm.length_eq, length_sectionDates]
  rw [readRows, hlength]
  apply mapM_range_eq_some
  intro section_ count hcount
  rw [List.getElem?_map] at hcount
  rcases Option.map_eq_some_iff.1 hcount with ⟨key, hkey, rfl⟩
  have hmem : key ∈ vc.sectionDates := hperm.mem_iff.1 (List.mem_of_getElem? hkey)
  rcases List.getElem?_of_mem hmem with ⟨_, hsection⟩
  simp [numberOfRowsInSection, h, hkey, lookup_of_sectionDates hsection]

/-- Counting the rows traps when the dates cannot be compared. -/
theorem exists_sortedTasksByDate {rows : List ℕ} (h : vc.readRows formatter it = some rows) :
    ∃ dates, vc.sortedTasksByDate formatter it = some dates := by
  cases hsorted : vc.sortedTasksByDate formatter it with
  | some dates => exact ⟨dates, rfl⟩
  | none =>
      -- only two or more keys are compared, so there is a first section to count
      have hkeys : ((it.entries vc.tasksByDate).map Sigma.fst).length = vc.numberOfSections := by
        rw [(keys_perm it vc).length_eq, length_sectionDates]
      have htwo : 2 ≤ vc.numberOfSections := by
        simp only [sortedTasksByDate, hkeys] at hsorted
        split at hsorted
        · cases hsorted
        · omega
      obtain ⟨n, hn⟩ := Nat.exists_eq_add_of_lt (Nat.zero_lt_of_lt htwo)
      rw [readRows, hn, Nat.zero_add, List.range_succ_eq_map, List.mapM_cons] at h
      simp [numberOfRowsInSection, hsorted] at h

/-- The list asks for rows in range exactly when both orders give the same sizes. -/
theorem rowsInRange_iff_map {rows : List ℕ}
    (hsorted : vc.sortedTasksByDate formatter it = some dates)
    (h : vc.readRows formatter it = some rows) :
    RowsInRange rows vc ↔ (dates.map fun key => (vc.tasksOf key).length) =
      vc.sectionDates.map fun key => (vc.tasksOf key).length := by
  have hperm := sortedTasksByDate_perm hsorted
  obtain rfl := Option.some.inj ((readRows_eq hsorted).symm.trans h)
  have hlength : dates.length = vc.sectionDates.length := hperm.length_eq
  constructor
  · intro hrange
    -- the same sizes are counted both ways, and no section gets more than it has
    apply eq_of_forall₂_le_of_perm ?_ (hperm.map _)
    refine List.forall₂_iff_get.2 ⟨by simp [hlength], fun section_ hdate hkey => ?_⟩
    simp only [List.length_map] at hdate hkey
    have hcount : (dates.map fun key => (vc.tasksOf key).length)[section_]? =
        some (vc.tasksOf dates[section_]).length := by simp [hdate]
    have hrows := (hrange _ _ hcount).2
    have hsection : vc.sectionDates[section_]? = some vc.sectionDates[section_] := by simp [hkey]
    simpa using le_of_forall_lt fun row hrow => hrows row hrow _ hsection
  · intro hagree section_ count hcount
    rw [hagree, List.getElem?_map] at hcount
    rcases Option.map_eq_some_iff.1 hcount with ⟨key, hkey, rfl⟩
    refine ⟨?_, fun row hrow key' hkey' => ?_⟩
    · rw [← length_sectionDates]
      exact (List.getElem?_eq_some_iff.1 hkey).1
    · obtain rfl := Option.some.inj (hkey.symm.trans hkey')
      exact hrow

theorem isSome_lookup {key : String} :
    (vc.tasksByDate.lookup key).isSome ↔ key ∈ vc.sectionDates := by
  rw [mem_sectionDates, Finmap.mem_keys, Finmap.mem_iff, Option.isSome_iff_exists]

end TaskViewController

/-! ## Keys that are texts of dates -/

/-- The keys are texts that the formatter has written. -/
def Keyed (formatter : DateFormatter) (listed : String → Option (List ObjectID)) : Prop :=
  ∀ key, (listed key).isSome → ∃ date, formatter.string date = key

section Keyed

variable {formatter : DateFormatter} {it : Iteration String ObjectID} {vc : TaskViewController}
  {dates : List String} {s s' : AppState}

/-- No two of them are one day. -/
theorem Keyed.parsed_inj (hparses : formatter.ParsesDays) {listed : String → Option (List ObjectID)}
    (h : Keyed formatter listed) {key key' : String} (hkey : (listed key).isSome)
    (hkey' : (listed key').isSome) (heq : formatter.parsed key = formatter.parsed key') :
    key = key' := by
  obtain ⟨date, rfl⟩ := h key hkey
  obtain ⟨date', rfl⟩ := h key' hkey'
  obtain ⟨day, hday, htext⟩ := hparses date
  obtain ⟨day', hday', htext'⟩ := hparses date'
  simp only [DateFormatter.parsed, hday, hday', WithBot.coe_inj] at heq
  rw [← htext, ← htext', heq]

theorem Keyed.sorted (hparses : formatter.ParsesDays) (h : Keyed formatter vc.tasksByDate.lookup)
    (hsorted : vc.sortedTasksByDate formatter it = some dates) :
    dates.Pairwise fun a b => formatter.parsed a < formatter.parsed b := by
  have hperm := TaskViewController.sortedTasksByDate_perm hsorted
  have hnodup : dates.Nodup := hperm.nodup_iff.2 (Finset.sort_nodup _ _)
  have hle : dates.Pairwise fun a b => formatter.parsed a ≤ formatter.parsed b := by
    simp only [TaskViewController.sortedTasksByDate] at hsorted
    split at hsorted
    · rename_i hfew
      obtain rfl := Option.some.inj hsorted
      -- nothing is compared
      exact List.pairwise_iff_getElem.2 fun i j hi hj hij => by omega
    split at hsorted
    · obtain rfl := Option.some.inj hsorted
      exact sortAscending_pairwise _ _
    · cases hsorted
  refine (hle.and hnodup).imp_of_mem fun {a b} ha hb hab => lt_of_le_of_ne hab.1 fun heq => hab.2 ?_
  have hkey : ∀ key ∈ dates, (vc.tasksByDate.lookup key).isSome := fun key hkey =>
    TaskViewController.isSome_lookup.2 (hperm.mem_iff.1 hkey)
  exact h.parsed_inj hparses (hkey a ha) (hkey b hb) heq

/-- In both orders the days stand at the place that their rank gives them. -/
theorem Keyed.rowsInRange_iff (hparses : formatter.ParsesDays)
    (h : Keyed formatter vc.tasksByDate.lookup) {rows : List ℕ}
    (hrows : vc.readRows formatter it = some rows) :
    RowsInRange rows vc ↔ SizesAgree formatter vc.tasksByDate.lookup := by
  obtain ⟨dates, hsorted⟩ := TaskViewController.exists_sortedTasksByDate hrows
  have hperm := TaskViewController.sortedTasksByDate_perm hsorted
  have hmem : ∀ key, key ∈ {day | (vc.tasksByDate.lookup day).isSome} ↔ key ∈ vc.sectionDates :=
    fun key => TaskViewController.isSome_lookup
  have htexts : vc.sectionDates.Pairwise fun a b => id a < id b :=
    TaskViewController.sectionDates_pairwise vc
  rw [TaskViewController.rowsInRange_iff_map hsorted hrows,
    map_eq_map_iff_rank (fun key => (hmem key).trans hperm.mem_iff.symm) hmem
      (h.sorted hparses hsorted) htexts]
  constructor
  · intro hranks byDate byText tasks tasks' hdate htext hrank
    have hsizes := hranks byDate (by simp [hdate]) byText (by simp [htext]) hrank
    simpa [TaskViewController.tasksOf, hdate, htext] using hsizes
  · intro hagree byDate hdate byText htext hrank
    obtain ⟨tasks, htasks⟩ := Option.isSome_iff_exists.1 hdate
    obtain ⟨tasks', htasks'⟩ := Option.isSome_iff_exists.1 htext
    simpa [TaskViewController.tasksOf, htasks, htasks'] using
      hagree byDate byText tasks tasks' htasks htasks' hrank

/-- Days in the years 1 to 9999 are in the same order both ways. -/
theorem sizesAgree_of_dayKeys {offset : ℚ} (h : DayKeys offset vc.tasksByDate) :
    SizesAgree (DateFormatter.gregorian offset) vc.tasksByDate.lookup := by
  have hmem : ∀ key, key ∈ {day | (vc.tasksByDate.lookup day).isSome} ↔ key ∈ vc.sectionDates :=
    fun key => TaskViewController.isSome_lookup
  have hsorted : vc.sectionDates.Pairwise fun a b =>
      (DateFormatter.gregorian offset).parsed a < (DateFormatter.gregorian offset).parsed b := by
    refine (TaskViewController.sectionDates_pairwise vc).imp_of_mem fun {a b} ha hb hab => ?_
    rcases h a (TaskViewController.mem_sectionDates.1 ha) with ⟨d, hd, rfl⟩
    rcases h b (TaskViewController.mem_sectionDates.1 hb) with ⟨e, he, rfl⟩
    exact parsed_lt_parsed hd he hab
  have htexts : vc.sectionDates.Pairwise fun a b => id a < id b :=
    TaskViewController.sectionDates_pairwise vc
  have hranks := (map_eq_map_iff_rank hmem hmem hsorted htexts
    (f := fun key => (vc.tasksOf key).length)).1 rfl
  intro byDate byText tasks tasks' hdate htext hrank
  have hsizes := hranks byDate (by simp [hdate]) byText (by simp [htext]) hrank
  simpa [TaskViewController.tasksOf, hdate, htext] using hsizes

/-- The keys stay texts of dates. -/
theorem Keyed.step {e : AppEvent} (h : Keyed formatter s.tasksVC.tasksByDate.lookup)
    (hstep : s.step formatter e = some s') : Keyed formatter s'.tasksVC.tasksByDate.lookup := by
  intro day hday
  replace hday : (s'.tasksVC.tasksByDate.lookup day).isSome := hday
  rw [AppState.lookup_of_step hstep] at hday
  have hgrouped : ∀ tasks, (occupied (members (dateKey formatter s.context) tasks day)).isSome →
      ∃ date, formatter.string date = day := by
    intro tasks hsome
    obtain ⟨grouped, hgrouped⟩ := Option.isSome_iff_exists.1 hsome
    obtain ⟨rfl, hne⟩ := occupied_eq_some.1 hgrouped
    obtain ⟨task, htask⟩ := List.exists_mem_of_ne_nil _ hne
    rcases Option.map_eq_some_iff.1 (mem_members.1 htask).2 with ⟨date, _, htext⟩
    exact ⟨date, htext⟩
  have hbind : ∀ f : List ObjectID → Option (List ObjectID),
      ((s.tasksVC.tasksByDate.lookup day).bind f).isSome →
        (s.tasksVC.tasksByDate.lookup day).isSome :=
    fun f => Option.isSome_of_isSome_bind
  cases e with
  | showTasks fetched => exact hgrouped _ hday
  | viewTypeChanged fetched => exact hgrouped _ hday
  | panelDismissed fetched => exact hgrouped _ hday
  | gridDelete row =>
      apply h day
      simp only [AppEvent.listed] at hday
      split at hday
      · exact hday
      split at hday
      · exact hbind _ hday
      · exact hday
  | listDelete section_ row fetched =>
      apply h day
      simp only [AppEvent.listed] at hday
      split at hday
      · exact hbind _ hday
      · exact hday
  | _ => exact h day hday

end Keyed

/-! ## Turns -/

/-- After a reload the rows of a grid are in range exactly when it has an array. -/
theorem ItemsInRange.reloaded_iff {items : ℕ} {tasks : Option (List ObjectID)}
    (hitems : items = tasks.elim 1 List.length) :
    ItemsInRange (some items) tasks ↔ tasks.isSome := by
  cases tasks with
  | none =>
      subst hitems
      simp [ItemsInRange]
  | some shown =>
      refine iff_of_true ?_ rfl
      rintro count ⟨⟩ row hrow
      exact ⟨shown, rfl, by simpa [hitems] using hrow⟩

theorem ItemsInRange.grown {items : Option ℕ} {tasks tasks' : Option (List ObjectID)}
    (h : ItemsInRange items tasks) (hgrown : Option.Rel (· <+: ·) tasks tasks') :
    ItemsInRange items tasks' := by
  intro count hcount row hrow
  rcases h count hcount row hrow with ⟨shown, rfl, hlt⟩
  cases hgrown with
  | some hgrows => exact ⟨_, rfl, hlt.trans_le hgrows.length_le⟩

theorem TaskViewController.numberOfItemsInSection_eq (vc : TaskViewController) :
    vc.numberOfItemsInSection = vc.tasks.elim 1 List.length := by
  unfold TaskViewController.numberOfItemsInSection
  cases vc.tasks <;> rfl

theorem CompletedTab.numberOfItemsInSection_eq (tab : CompletedTab) :
    tab.numberOfItemsInSection = tab.completedTasks.elim 1 List.length := by
  unfold CompletedTab.numberOfItemsInSection
  cases tab.completedTasks <;> rfl

theorem RowsInRange.grown {rows : List ℕ} {vc vc' : TaskViewController} (hgrown : Grown vc vc') :
    RowsInRange rows vc' ↔ RowsInRange rows vc := by
  simp only [RowsInRange, TaskViewController.numberOfSections, TaskViewController.sectionDates,
    TaskViewController.tasksOf, hgrown.tasksByDate]

/-- No view asks for a cell and traps, and no checkbox of the Completed tab does. -/
theorem TablesValid.cells {s : Tables} (h : TablesValid s) :
    (∀ count, s.counts.items = some count → ∀ row < count,
        ∃ task, s.app.tasksVC.cellForItemAt row = some (some task)) ∧
      (∀ section_ count, s.counts.rows[section_]? = some count →
        ∀ row < count, ∃ task, s.app.tasksVC.cellForRowAt section_ row = some (some task)) ∧
      ∀ count, s.counts.completedItems = some count → ∀ row < count,
        (s.app.completedTab.toggleCheckbox row).isSome := by
  refine ⟨fun count hcount row hrow => ?_, fun section_ count hcount row hrow => ?_,
    fun count hcount row hrow => ?_⟩
  · rcases h.grid count hcount row hrow with ⟨shown, hshown, hlt⟩
    exact ⟨_, TaskViewController.cellForItemAt_eq.2 ⟨shown, hshown, List.getElem?_eq_getElem hlt⟩⟩
  · rcases h.list section_ count hcount with ⟨hsection, hrows⟩
    rw [← TaskViewController.length_sectionDates] at hsection
    have hkey : s.app.tasksVC.sectionDates[section_]? = some s.app.tasksVC.sectionDates[section_] :=
      List.getElem?_eq_getElem hsection
    have hlt := hrows row hrow _ hkey
    exact ⟨_, TaskViewController.cellForRowAt_eq hkey (List.getElem?_eq_getElem hlt)⟩
  · rcases h.completed count hcount row hrow with ⟨shown, hshown, hlt⟩
    have htab : s.app.completedTab.completedTasks = some shown := hshown
    simp [CompletedTab.toggleCheckbox, htab, List.getElem?_eq_getElem hlt]

section Turns

variable {formatter : DateFormatter} {s t : Tables} {e : TablesEvent}

/-- The counts after a turn. -/
theorem Tables.step_cases (h : s.step formatter e = some t) :
    (s.before e).step formatter e.event = some t.app ∧
      t.counts.completedItems = (if e.event.reloadsCompleted (s.before e) then
        some t.app.completedTab.numberOfItemsInSection else s.counts.completedItems) ∧
      if e.event.reloadsTasks (s.before e) then
        t.counts.items = some t.app.tasksVC.numberOfItemsInSection ∧
          t.app.tasksVC.readRows formatter e.it = some t.counts.rows
      else t.counts.items = s.counts.items ∧ t.counts.rows = s.counts.rows := by
  unfold Tables.step at h
  split at h
  · cases h
  · rename_i app happ
    simp only at h
    generalize hcounts : (if e.event.reloadsCompleted (s.before e) then
      s.counts.reloadCompleted app.completedTab else s.counts) = counts at h
    have hitems : counts.items = s.counts.items ∧ counts.rows = s.counts.rows := by
      rw [← hcounts]
      split <;> exact ⟨rfl, rfl⟩
    have hcompleted : counts.completedItems = if e.event.reloadsCompleted (s.before e) then
        some app.completedTab.numberOfItemsInSection else s.counts.completedItems := by
      rw [← hcounts]
      split <;> rfl
    split at h
    · rename_i hreload
      rcases Option.map_eq_some_iff.1 h with ⟨counts', hcounts', rfl⟩
      rcases Option.map_eq_some_iff.1 hcounts' with ⟨rows, hrows, rfl⟩
      refine ⟨happ, hcompleted, ?_⟩
      rw [if_pos hreload]
      exact ⟨rfl, hrows⟩
    · rename_i hreload
      obtain rfl := Option.some.inj h
      refine ⟨happ, hcompleted, ?_⟩
      rw [if_neg hreload]
      exact hitems

theorem TablesValid.completedGrid_iff (hvalid : TablesValid s) (h : s.step formatter e = some t) :
    ItemsInRange t.counts.completedItems t.app.completedTasks ↔
      (e.event.reloadsCompleted (s.before e) = true →
        (s.before e).completedTasks.isSome ∨ e.event.loadsCompleted = true) := by
  rcases Tables.step_cases h with ⟨happ, hitems, _⟩
  by_cases hreload : e.event.reloadsCompleted (s.before e) = true
  · rw [hitems, if_pos hreload, forall_prop_of_true hreload,
      ← AppState.completedTasks_isSome_of_step happ hreload]
    exact ItemsInRange.reloaded_iff (CompletedTab.numberOfItemsInSection_eq _)
  · have hkept := (AppState.step_kept happ).completed (Bool.eq_false_of_not_eq_true hreload)
    refine iff_of_true ?_ fun htrue => absurd htrue hreload
    rw [hitems, if_neg hreload, hkept]
    exact hvalid.completed

theorem TablesValid.grid_iff (hvalid : TablesValid s) (h : s.step formatter e = some t) :
    ItemsInRange t.counts.items t.app.tasksVC.tasks ↔
      (e.event.reloadsTasks (s.before e) = true →
        (s.before e).tasksVC.tasks.isSome ∨ e.event.loadsTasks = true) := by
  rcases Tables.step_cases h with ⟨happ, _, hcounts⟩
  by_cases hreload : e.event.reloadsTasks (s.before e) = true
  · rw [if_pos hreload] at hcounts
    rw [hcounts.1, forall_prop_of_true hreload, ← AppState.tasks_isSome_of_step happ hreload]
    exact ItemsInRange.reloaded_iff (TaskViewController.numberOfItemsInSection_eq _)
  · rw [if_neg hreload] at hcounts
    have hgrown : Grown (s.before e).tasksVC t.app.tasksVC :=
      (AppState.step_kept happ).tasks (Bool.eq_false_of_not_eq_true hreload)
    refine iff_of_true ?_ fun htrue => absurd htrue hreload
    rw [hcounts.1]
    exact hvalid.grid.grown hgrown.tasks

theorem TablesValid.list_iff (hparses : formatter.ParsesDays)
    (hkeyed : Keyed formatter s.app.tasksVC.tasksByDate.lookup) (hvalid : TablesValid s)
    (h : s.step formatter e = some t) :
    RowsInRange t.counts.rows t.app.tasksVC ↔
      (e.event.reloadsTasks (s.before e) = true →
        SizesAgree formatter (e.event.listed formatter (s.before e))) := by
  rcases Tables.step_cases h with ⟨happ, _, hcounts⟩
  have hlisted : t.app.tasksVC.tasksByDate.lookup = e.event.listed formatter (s.before e) :=
    funext (AppState.lookup_of_step happ)
  by_cases hreload : e.event.reloadsTasks (s.before e) = true
  · rw [if_pos hreload] at hcounts
    have hbefore : Keyed formatter (s.before e).tasksVC.tasksByDate.lookup := hkeyed
    have hkeyed' : Keyed formatter t.app.tasksVC.tasksByDate.lookup := hbefore.step happ
    rw [forall_prop_of_true hreload, ← hlisted]
    exact hkeyed'.rowsInRange_iff hparses hcounts.2
  · rw [if_neg hreload] at hcounts
    have hgrown : Grown (s.before e).tasksVC t.app.tasksVC :=
      (AppState.step_kept happ).tasks (Bool.eq_false_of_not_eq_true hreload)
    refine iff_of_true ?_ fun htrue => absurd htrue hreload
    rw [hcounts.2]
    exact (RowsInRange.grown hgrown).2 hvalid.list

/-- A turn keeps every index valid exactly when it reloads what it has. -/
theorem TablesValid.step_iff (hparses : formatter.ParsesDays)
    (hkeyed : Keyed formatter s.app.tasksVC.tasksByDate.lookup) (hvalid : TablesValid s)
    (h : s.step formatter e = some t) :
    TablesValid t ↔ ReloadsInRange formatter (s.before e) e.event := by
  constructor
  · intro hvalid'
    exact ⟨(hvalid.grid_iff h).1 hvalid'.grid, (hvalid.list_iff hparses hkeyed h).1 hvalid'.list,
      (hvalid.completedGrid_iff h).1 hvalid'.completed⟩
  · intro hreloads
    exact ⟨(hvalid.grid_iff h).2 hreloads.grid, (hvalid.list_iff hparses hkeyed h).2 hreloads.list,
      (hvalid.completedGrid_iff h).2 hreloads.completed⟩

end Turns

/-! ## Runs -/

/-- One turn of the main queue. -/
def TablesStep (formatter : DateFormatter) (s : Tables) (e : TablesEvent) (t : Tables) : Prop :=
  s.step formatter e = some t

section Runs

variable {formatter : DateFormatter} {context : ManagedObjectContext} {today : Date}
  {es : List TablesEvent} {s : Tables}

theorem tablesValid_launch (formatter : DateFormatter) (context : ManagedObjectContext)
    (today : Date) : TablesValid (.launch formatter context today) where
  grid := fun _ hnone => by cases hnone
  list := by simp [RowsInRange, Tables.launch]
  completed := fun _ hnone => by cases hnone

theorem keyed_of_run (hrun : Run (TablesStep formatter) (.launch formatter context today) es s) :
    Keyed formatter s.app.tasksVC.tasksByDate.lookup := by
  refine hrun.invariant (P := fun s => Keyed formatter s.app.tasksVC.tasksByDate.lookup)
    (fun t e u hkeyed hstep => Keyed.step (s := t.before e) hkeyed (Tables.step_cases hstep).1) ?_
  intro day hday
  simp [Tables.launch, AppState.launch] at hday

/-- The Tasks tab appears, and its list is counted. -/
theorem tablesStep_showTasks {fetched : Option (List ObjectID)} {it : Iteration String ObjectID}
    {rows : List ℕ}
    (hrows : (s.app.refreshTasks formatter fetched).tasksVC.readRows formatter it = some rows) :
    TablesStep formatter s ⟨.launching, .showTasks fetched, it⟩
      { app := s.app.refreshTasks formatter fetched
        counts := { s.counts with
          items := some (s.app.refreshTasks formatter fetched).tasksVC.numberOfItemsInSection
          rows := rows } } := by
  have happ : (s.before ⟨.launching, .showTasks fetched, it⟩).step formatter (.showTasks fetched) =
      some (s.app.refreshTasks formatter fetched) := rfl
  have hcounts : s.counts.reloadTasks formatter it (s.app.refreshTasks formatter fetched).tasksVC =
      some { s.counts with
        items := some (s.app.refreshTasks formatter fetched).tasksVC.numberOfItemsInSection
        rows := rows } := by
    rw [TableCounts.reloadTasks, hrows]
    rfl
  simp [TablesStep, Tables.step, happ, AppEvent.reloadsTasks, AppEvent.reloadsCompleted, hcounts]

/-- With fetched arrays and keys of the years 1 to 9999 the tables stay valid. -/
theorem tablesValid_of_dayKeys {offset : ℚ} {context : ManagedObjectContext} {today : Date}
    {es : List TablesEvent}
    (h : Along (TablesStep (.gregorian offset)) (.launch (.gregorian offset) context today) es
      fun s e t => (e.event.reloadsTasks (s.before e) = true →
          t.app.tasksVC.tasks.isSome ∧ DayKeys offset t.app.tasksVC.tasksByDate) ∧
        (e.event.reloadsCompleted (s.before e) = true → t.app.completedTasks.isSome)) :
    Throughout (TablesStep (.gregorian offset)) (.launch (.gregorian offset) context today) es
      TablesValid := by
  refine (Throughout.iff_along (tablesValid_launch _ context today)
    fun _ _ _ _ hrun hvalid hstep => hvalid.step_iff (gregorian_parsesDays offset)
      (keyed_of_run hrun) hstep).2 (h.imp fun s e t hstep hgood => ?_)
  have happ := (Tables.step_cases hstep).1
  refine ⟨fun hreload => ?_, fun hreload => ?_, fun hreload => ?_⟩
  · exact (AppState.tasks_isSome_of_step happ hreload).1 (hgood.1 hreload).1
  · rw [← funext (AppState.lookup_of_step happ)]
    exact sizesAgree_of_dayKeys (hgood.1 hreload).2
  · exact (AppState.completedTasks_isSome_of_step happ hreload).1 (hgood.2 hreload)

/-- In every run no view can pass an index out of range exactly when every event that reloads a grid
finds its array or fetches it, and every one that reloads the list leaves days of the same sizes in
the order of the dates as in the order of the texts. -/
theorem tablesValid_throughout_iff (formatter : DateFormatter) (hparses : formatter.ParsesDays)
    (context : ManagedObjectContext) (today : Date) (es : List TablesEvent) :
    Throughout (TablesStep formatter) (.launch formatter context today) es TablesValid ↔
      Along (TablesStep formatter) (.launch formatter context today) es fun s e _ =>
        ReloadsInRange formatter (s.before e) e.event :=
  Throughout.iff_along (tablesValid_launch formatter context today)
    fun _ _ _ _ hrun hvalid hstep => hvalid.step_iff hparses (keyed_of_run hrun) hstep

end Runs

/-! ## The sample store -/

/-- The sample store is shown on the Tasks tab, and then on the Completed tab. -/
def sampleTabs (it : Iteration String ObjectID) : List TablesEvent :=
  [⟨.launching, .showTasks (some [1, 0]), it⟩, ⟨.tasks, .showCompleted (some [2]) (some [2]), it⟩]

/-- The Tasks tab that shows it. -/
def sampleVC : TaskViewController :=
  (TasksTab.loaded (DateFormatter.gregorian 0) sampleContext [1, 0]).vc

theorem sampleVC_dayKeys : DayKeys 0 sampleVC.tasksByDate := by
  refine Dated.dayKeys fun id hid => ?_
  have hmarked := (sampleContext_fetch.mem_iff id).1 hid
  rcases Option.map_eq_some_iff.1 hmarked with ⟨task, htask, _⟩
  rcases sampleContext_task htask with ⟨_, rfl⟩ | ⟨_, rfl⟩ | ⟨_, rfl⟩
  · exact ⟨90000, by simp [ManagedObjectContext.dueDate, htask], by decide +kernel⟩
  · exact ⟨3600, by simp [ManagedObjectContext.dueDate, htask], by decide +kernel⟩
  · exact ⟨0, by simp [ManagedObjectContext.dueDate, htask], by decide +kernel⟩

theorem sample_refreshTasks : ((AppState.launch (DateFormatter.gregorian 0) sampleContext
    0).refreshTasks (DateFormatter.gregorian 0) (some [1, 0])).tasksVC = sampleVC :=
  congrArg TasksTab.vc (TasksTab.refreshData_some _ [1, 0] _)

theorem sampleTabs_run (it : Iteration String ObjectID) :
    ∃ t, Run (TablesStep (DateFormatter.gregorian 0))
      (.launch (DateFormatter.gregorian 0) sampleContext 0) (sampleTabs it) t := by
  have hrows := TaskViewController.readRows_eq
    (TaskViewController.sortedTasksByDate_eq sampleVC_dayKeys it)
  rw [← sample_refreshTasks] at hrows
  have htasks : TablesStep (DateFormatter.gregorian 0)
      (.launch (DateFormatter.gregorian 0) sampleContext 0)
      ⟨.launching, .showTasks (some [1, 0]), it⟩ _ := tablesStep_showTasks hrows
  have hcompleted : ∀ s, ∃ t, TablesStep (DateFormatter.gregorian 0) s
      ⟨.tasks, .showCompleted (some [2]) (some [2]), it⟩ t := fun s => ⟨_, rfl⟩
  rcases hcompleted _ with ⟨t, hlast⟩
  exact ⟨t, (Run.single htasks).snoc hlast⟩

theorem sampleTabs_valid :
    (∃ t, Run (TablesStep (DateFormatter.gregorian 0))
      (.launch (DateFormatter.gregorian 0) sampleContext 0) (sampleTabs default) t) ∧
      Throughout (TablesStep (DateFormatter.gregorian 0))
        (.launch (DateFormatter.gregorian 0) sampleContext 0) (sampleTabs default) TablesValid := by
  refine ⟨sampleTabs_run default, (tablesValid_throughout_iff (.gregorian 0)
    (gregorian_parsesDays 0) sampleContext 0 (sampleTabs default)).2 ?_⟩
  intro before after e s t hes hrun hstep
  match before, hes with
  | [], hes =>
      obtain ⟨rfl, rfl⟩ := List.cons.inj hes
      obtain rfl := hrun.nil_inv
      have happ := (Tables.step_cases hstep).1
      refine ⟨fun _ => Or.inr rfl, fun _ => ?_, nofun⟩
      have hloaded : t.app.tasksVC = sampleVC :=
        (congrArg AppState.tasksVC (Option.some.inj happ)).symm.trans sample_refreshTasks
      rw [← funext (AppState.lookup_of_step happ), hloaded]
      exact sizesAgree_of_dayKeys sampleVC_dayKeys
  | [first], hes =>
      obtain ⟨-, hes⟩ := List.cons.inj hes
      obtain ⟨rfl, -⟩ := List.cons.inj hes
      exact ⟨nofun, nofun, fun _ => Or.inr rfl⟩
  | first :: second :: before, hes => simp [sampleTabs] at hes

/-! ## A failed fetch, and New Year 10000 -/

/-- A task is due on the last day of the year 9999, and two on the day after it. -/
def newYearContext : ManagedObjectContext :=
  ((ManagedObjectContext.empty.insert
    ⟨some "make resolutions", some (midnight 0 3652058), false⟩).insert
      ⟨some "sleep", some (midnight 0 3652059), false⟩).insert
        ⟨some "clean up", some (midnight 0 3652059), false⟩

/-- The Tasks tab that shows them. -/
def newYearVC : TaskViewController :=
  (TasksTab.loaded (DateFormatter.gregorian 0) newYearContext [0, 1, 2]).vc

theorem newYear_tasksOf : newYearVC.tasksOf "9999-12-31" = [0] ∧
    newYearVC.tasksOf "10000-01-01" = [1, 2] := by
  decide +kernel

/-- As texts, the later day comes first. -/
theorem newYear_sectionDates : newYearVC.sectionDates = ["10000-01-01", "9999-12-31"] := by
  have hkeys : newYearVC.tasksByDate.keys = insert "10000-01-01" {"9999-12-31"} := by
    decide +kernel
  rw [TaskViewController.sectionDates, hkeys, Finset.sort_insert, Finset.sort_singleton]
  · intro key hkey
    rw [Finset.mem_singleton.1 hkey]
    decide
  · decide

/-- As dates, it comes last. -/
theorem newYear_sortedTasksByDate (it : Iteration String ObjectID) :
    newYearVC.sortedTasksByDate (DateFormatter.gregorian 0) it =
      some ["9999-12-31", "10000-01-01"] := by
  have hperm := TaskViewController.keys_perm it newYearVC
  rw [newYear_sectionDates] at hperm
  have hswap : List.Perm ["9999-12-31", "10000-01-01"] ["10000-01-01", "9999-12-31"] :=
    List.Perm.swap _ _ _
  unfold TaskViewController.sortedTasksByDate
  generalize (it.entries newYearVC.tasksByDate).map Sigma.fst = keys at *
  have hlength : ¬ keys.length < 2 := by simp [hperm.length_eq]
  have hall : keys.all (fun key => ((DateFormatter.gregorian 0).date key).isSome) = true := by
    rw [List.all_eq_true]
    intro key hkey
    rcases List.mem_cons.1 (hperm.mem_iff.1 hkey) with rfl | hlast
    · decide +kernel
    · obtain rfl := List.mem_singleton.1 hlast
      decide +kernel
  have hnodup : (keys.map (DateFormatter.gregorian 0).parsed).Nodup := by
    refine (hperm.map _).nodup_iff.2 ?_
    decide +kernel
  have hsort := eq_sortAscending hnodup (hswap.trans hperm.symm) (by decide +kernel)
  simp only [hlength, hall, if_true, if_false, ← hsort]

/-- The list is told of two rows in its second section, which has one. -/
theorem newYear_not_rowsInRange : ¬ RowsInRange [1, 2] newYearVC := by
  intro h
  have hrange := (h 1 2 rfl).2 1 (by decide) "9999-12-31" (by rw [newYear_sectionDates]; rfl)
  have hone : (newYearVC.tasksOf "9999-12-31").length = 1 := congrArg List.length newYear_tasksOf.1
  omega

theorem newYear_refreshTasks : ((AppState.launch (DateFormatter.gregorian 0) newYearContext
    0).refreshTasks (DateFormatter.gregorian 0) (some [0, 1, 2])).tasksVC = newYearVC :=
  congrArg TasksTab.vc (TasksTab.refreshData_some _ [0, 1, 2] _)

/-- When the fetches of the Completed tab fail, it announces one item whose checkbox traps. When the
list has days on both sides of New Year 10000, it counts more rows than there are. -/
theorem tables_out_of_range :
    (∃ t, Run (TablesStep (DateFormatter.gregorian 0))
        (.launch (DateFormatter.gregorian 0) .empty 0)
        [⟨.tasks, .showCompleted none none, default⟩] t ∧
      t.counts.completedItems = some 1 ∧ t.app.completedTab.toggleCheckbox 0 = none ∧
      ¬ TablesValid t) ∧
    ∃ t, Run (TablesStep (DateFormatter.gregorian 0))
        (.launch (DateFormatter.gregorian 0) newYearContext 0)
        [⟨.launching, .showTasks (some [0, 1, 2]), default⟩] t ∧
      ¬ TablesValid t := by
  constructor
  · refine ⟨_, Run.single rfl, rfl, rfl, fun hvalid => ?_⟩
    rcases hvalid.completed 1 rfl 0 Nat.one_pos with ⟨shown, hshown, _⟩
    cases hshown
  · have hrows : ((AppState.launch (DateFormatter.gregorian 0) newYearContext 0).refreshTasks
        (DateFormatter.gregorian 0) (some [0, 1, 2])).tasksVC.readRows (DateFormatter.gregorian 0)
          default = some [1, 2] := by
      rw [newYear_refreshTasks, TaskViewController.readRows_eq (newYear_sortedTasksByDate default)]
      simp [newYear_tasksOf]
    refine ⟨_, Run.single (tablesStep_showTasks hrows), fun hvalid => newYear_not_rowsInRange ?_⟩
    exact newYear_refreshTasks ▸ hvalid.list

end TaskMaster
end IosProjects
