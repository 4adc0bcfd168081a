import IosProjects.TaskMaster.Sections

/-!
# Reloads — what an event reloads, and what it leaves to be shown

Every handler reloads the views of what it changes. An event that reloads the Tasks tab leaves days
in the list that can be told from the state before it; what an event does not reload has at most
grown.
-/

namespace IosProjects
namespace TaskMaster

open IosProjects.Library

/-! ## Which views are reloaded -/

/-- Whether an event reloads the grid and the list of the Tasks tab. They are always reloaded
together. -/
def AppEvent.reloadsTasks (s : AppState) : AppEvent → Bool
  | .showTasks _ | .viewTypeChanged _ | .panelDismissed _ | .tapTask _ => true
  | .saveTask title _ =>
      -- `didAddTask` appends to the array and reloads nothing
      match s.screen with
      | .panel (some _) => title ≠ ""
      | _ => false
  -- a task without a due date is not deleted
  | .gridDelete row =>
      match s.tasksVC.cellForItemAt row with
      | some (some deleteItem) => (s.context.dueDate deleteItem).isSome
      | _ => false
  | .listDelete section_ row _ =>
      match s.tasksVC.cellForRowAt section_ row with
      | some (some _) => true
      | _ => false
  -- nothing is reloaded when the task has left the array already
  | .runBlock =>
      match s.blocks with
      | .tasks task :: _ => (s.tasksVC.tasks.getD []).any fun shown => some shown = task
      | _ => false
  | _ => false

/-- Whether an event reloads the grid of the Completed tab. -/
def AppEvent.reloadsCompleted (s : AppState) : AppEvent → Bool
  | .showCompleted _ _ | .tapCompleted _ | .clearSearch _ => true
  | .setIncomplete _ | .deleteCompleted _ => s.completedTasks.isSome
  | .clearCompleted saved _ => s.completedTasks.isSome && saved
  -- an empty text is not searched for
  | .search text _ => text ≠ ""
  | .runBlock =>
      match s.blocks with
      | .completed task :: _ => (s.completedTasks.getD []).any fun shown => some shown = task
      | _ => false
  | _ => false

/-! ## What is fetched and listed -/

/-- A fetch of the event for the array of the Tasks tab succeeds. -/
def AppEvent.loadsTasks : AppEvent → Bool
  | .showTasks fetched | .viewTypeChanged fetched | .panelDismissed fetched
  | .listDelete _ _ fetched => fetched.isSome
  | _ => false

/-- A fetch of the event for the array of the Completed tab succeeds. -/
def AppEvent.loadsCompleted : AppEvent → Bool
  | .showCompleted fetched fetched' => fetched.isSome || fetched'.isSome
  | .search _ fetched | .clearSearch fetched => fetched.isSome
  | _ => false

/-- A task is taken out of the tasks of a day, and with the last one the day. -/
def withoutTask (task : ObjectID) (tasks : List ObjectID) : Option (List ObjectID) :=
  if task ∈ tasks then occupied (tasks.erase task) else some tasks

/-- A row is taken out, and the same task once more if it is listed twice. -/
def withoutRow (row : ℕ) (tasks : List ObjectID) : Option (List ObjectID) :=
  match tasks[row]? with
  | none => some tasks
  | some task => (occupied (tasks.eraseIdx row)).map fun left => left.erase task

/-- The tasks that the event leaves in the list under a day, if there are any, told from what was
there before. -/
def AppEvent.listed (formatter : DateFormatter) (s : AppState) (e : AppEvent) (day : String) :
    Option (List ObjectID) :=
  let tasks := s.tasksVC.tasksByDate.lookup day
  match e with
  -- the array is grouped anew, whether the fetch has succeeded or not
  | .showTasks fetched | .viewTypeChanged fetched | .panelDismissed fetched =>
      occupied <| members (dateKey formatter s.context) ((fetched.or s.tasksVC.tasks).getD []) day
  | .gridDelete row =>
      match (s.tasksVC.tasks.getD [])[row]? with
      | none => tasks
      | some task =>
          -- the day it is due on by now
          if dateKey formatter s.context task = some day then tasks.bind (withoutTask task)
          else tasks
  | .listDelete section_ row _ =>
      if (s.tasksVC.tasksByDate.keys.filter (· < day)).card = section_ then
        tasks.bind (withoutRow row)
      else tasks
  | _ => tasks

/-! ## What the list is left with -/

theorem lookup_removeFromDay (key : String) (task : ObjectID) (d : Groups String ObjectID)
    (day : String) : (removeFromDay key task d).lookup day =
      if key = day then (d.lookup day).bind (withoutTask task) else d.lookup day := by
  split
  · rename_i hday
    subst hday
    cases hlookup : d.lookup key with
    | none => simp [removeFromDay, hlookup]
    | some tasks =>
        rw [Option.bind_some, withoutTask]
        split
        · rename_i hmem
          rw [removeFromDay_eq hlookup hmem, dropMember, hlookup]
          cases hleft : tasks.erase task <;> simp [hleft, occupied]
        · rename_i hmem
          have hnone : tasks.idxOf? task = none := List.idxOf?_eq_none_iff.2 hmem
          simp [removeFromDay, hlookup, hnone]
  · rename_i hday
    have hne : day ≠ key := fun h => hday h.symm
    unfold removeFromDay
    cases d.lookup key with
    | none => rfl
    | some tasks =>
        dsimp only
        cases tasks.idxOf? task with
        | none => rfl
        | some taskIndex =>
            dsimp only
            split <;> simp [Finmap.lookup_erase_ne hne, Finmap.lookup_insert_of_ne _ hne]

theorem lookup_removeFromSection_self {key : String} {row : ℕ} {task : ObjectID}
    {tasks : List ObjectID} {d : Groups String ObjectID} (hrow : tasks[row]? = some task) :
    (removeFromSection key row task tasks d).lookup key = withoutRow row tasks := by
  have herase := List.erase_eq_eraseIdx (tasks.eraseIdx row) task
  simp only [withoutRow, hrow, removeFromSection, Finmap.lookup_insert]
  cases hleft : tasks.eraseIdx row with
  | nil => simp [occupied]
  | cons first rest =>
      rw [hleft] at herase
      rw [occupied, Option.map_some, herase]
      cases (first :: rest).idxOf? task <;> simp

section Lookups

variable {formatter : DateFormatter} {s s' : AppState}

/-- The section that a row is swiped in is the day with as many days before it. -/
theorem TaskViewController.sectionDates_eq_some {vc : TaskViewController} {section_ : ℕ}
    {key : String} : vc.sectionDates[section_]? = some key ↔
      key ∈ vc.tasksByDate.keys ∧ (vc.tasksByDate.keys.filter (· < key)).card = section_ := by
  have hrank : rank id {day | day ∈ vc.tasksByDate.keys} key =
      (vc.tasksByDate.keys.filter (· < key)).card := by
    rw [rank, ← Set.ncard_coe_finset, Finset.coe_filter]
    rfl
  have hsorted : vc.sectionDates.Pairwise fun a b => id a < id b :=
    TaskViewController.sectionDates_pairwise vc
  have hmem : ∀ day, day ∈ {day | day ∈ vc.tasksByDate.keys} ↔ day ∈ vc.sectionDates :=
    fun _ => TaskViewController.mem_sectionDates.symm
  rw [getElem?_eq_some_iff_rank hmem hsorted, hrank]
  rfl

theorem TasksTab.lookup_refreshData (fetched : Option (List ObjectID)) (tab : TasksTab)
    (day : String) : (tab.refreshData formatter fetched).vc.tasksByDate.lookup day =
      occupied
        (members (dateKey formatter tab.context) ((fetched.or tab.vc.tasks).getD []) day) := by
  simp only [TasksTab.refreshData, TaskViewController.groupTasksByDate_eq, lookup_group]
  cases fetched <;> rfl

theorem TasksTab.vc_toggleCheckbox {row : ℕ} {tab tab' : TasksTab} {task : Option ObjectID}
    (h : tab.toggleCheckbox row = some (tab', task)) : tab'.vc = tab.vc := by
  unfold TasksTab.toggleCheckbox at h
  split at h
  · cases h
    rfl
  split at h
  · cases h
  · cases h
    rfl

theorem AppState.tasksByDate_saveTask (title : String) (dueDate : Date) (editTask : Option ObjectID)
    (s : AppState) :
    (s.saveTask title dueDate editTask).tasksVC.tasksByDate = s.tasksVC.tasksByDate := by
  unfold AppState.saveTask
  split
  · rfl
  · cases editTask <;> rfl

theorem TasksTab.lookup_createDeleteAction {row : ℕ} {tab tab' : TasksTab}
    (h : tab.createDeleteAction formatter row = some tab') (day : String) :
    tab'.vc.tasksByDate.lookup day =
      match (tab.vc.tasks.getD [])[row]? with
      | none => tab.vc.tasksByDate.lookup day
      | some task =>
          if dateKey formatter tab.context task = some day then
            (tab.vc.tasksByDate.lookup day).bind (withoutTask task)
          else tab.vc.tasksByDate.lookup day := by
  unfold TasksTab.createDeleteAction at h
  cases htasks : tab.vc.tasks with
  | none =>
      simp only [htasks, Option.some.injEq] at h
      rw [← h]
      rfl
  | some tasks =>
      cases hrow : tasks[row]? with
      | none => simp [htasks, hrow] at h
      | some task =>
          cases hdue : tab.context.dueDate task with
          | none =>
              simp only [htasks, hrow, hdue, Option.some.injEq] at h
              subst h
              simp [hrow, dateKey, hdue]
          | some dueDate =>
              simp only [htasks, hrow, hdue, Option.some.injEq] at h
              rw [← h]
              simp [hrow, dateKey, hdue, lookup_removeFromDay, DateFormatter.formattedFullDate]

theorem TasksTab.lookup_deleteAction {fetched : Option (List ObjectID)} {section_ row : ℕ}
    {tab tab' : TasksTab} (h : tab.deleteAction formatter fetched section_ row = some tab')
    (day : String) : tab'.vc.tasksByDate.lookup day =
      if (tab.vc.tasksByDate.keys.filter (· < day)).card = section_ then
        (tab.vc.tasksByDate.lookup day).bind (withoutRow row)
      else tab.vc.tasksByDate.lookup day := by
  unfold TasksTab.deleteAction at h
  cases hsection : tab.vc.sectionDates[section_]? with
  | none => simp [hsection] at h
  | some key =>
      have hlookup := TaskViewController.lookup_of_sectionDates hsection
      cases hrow : (tab.vc.tasksOf key)[row]? with
      | none => simp [hsection, hlookup, hrow] at h
      | some task =>
          simp only [hsection, hlookup, hrow, Option.some.injEq] at h
          have hgroups : tab'.vc.tasksByDate =
              removeFromSection key row task (tab.vc.tasksOf key) tab.vc.tasksByDate := by
            rw [← h]
            cases fetched <;> rfl
          rw [hgroups]
          by_cases hday : day = key
          · subst hday
            rw [lookup_removeFromSection_self hrow, hlookup, Option.bind_some,
              if_pos (TaskViewController.sectionDates_eq_some.1 hsection).2]
          · rw [lookup_removeFromSection_of_ne hday]
            split
            · rename_i hcard
              -- a text in the place of this section that is no day of the list
              have hnone : tab.vc.tasksByDate.lookup day = none := by
                refine Finmap.lookup_eq_none.2 fun hmem => hday ?_
                have hsame := TaskViewController.sectionDates_eq_some.2
                  ⟨Finmap.mem_keys.2 hmem, hcard⟩
                exact Option.some.inj (hsame.symm.trans hsection)
              rw [hnone, Option.bind_none]
            · rfl

/-- What an event leaves in the list. -/
theorem AppState.lookup_of_step {e : AppEvent} (h : s.step formatter e = some s') (day : String) :
    s'.tasksVC.tasksByDate.lookup day = e.listed formatter s day := by
  cases AppState.does_of_step h with
  | showTasks _ => exact s.tasksTab.lookup_refreshData _ day
  | viewTypeChanged _ => exact s.tasksTab.lookup_refreshData _ day
  | panelDismissed _ => exact s.tasksTab.lookup_refreshData _ day
  | gridDelete _ hdelete => exact TasksTab.lookup_createDeleteAction hdelete day
  | listDelete _ hdelete => exact TasksTab.lookup_deleteAction hdelete day
  | tapTask _ htap =>
      exact congrArg (·.tasksByDate.lookup day) (TasksTab.vc_toggleCheckbox htap)
  | saveTask _ => exact congrArg (·.lookup day) (AppState.tasksByDate_saveTask _ _ _ s)
  | _ => rfl

end Lookups

/-! ## What is not reloaded has not shrunk -/

/-- The dictionary is the same, and the array has at most grown at its end. -/
structure Grown (vc vc' : TaskViewController) : Prop where
  tasksByDate : vc'.tasksByDate = vc.tasksByDate
  tasks : Option.Rel (· <+: ·) vc.tasks vc'.tasks

theorem Grown.refl (vc : TaskViewController) : Grown vc vc where
  tasksByDate := rfl
  tasks := by
    cases vc.tasks with
    | none => exact .none
    | some shown => exact .some List.prefix_rfl

theorem removeToggled_of_not_any {task : Option ObjectID} {tasks : Option (List ObjectID)}
    (h : ((tasks.getD []).any fun shown => some shown = task) = false) :
    removeToggled task tasks = tasks := by
  cases tasks with
  | none => rfl
  | some shown =>
      have hnone : (shown.findIdx? fun other => some other = task) = none := by
        simpa [List.findIdx?_eq_none_iff] using h
      simp only [removeToggled, Option.map_some, hnone]

section Steps

variable {formatter : DateFormatter} {s s' : AppState}

/-- What is not reloaded has stayed in place. -/
structure Kept (e : AppEvent) (s s' : AppState) : Prop where
  tasks : e.reloadsTasks s = false → Grown s.tasksVC s'.tasksVC
  completed : e.reloadsCompleted s = false → s'.completedTasks = s.completedTasks

theorem Kept.of_eq {e : AppEvent} (htasks : s'.tasksVC = s.tasksVC)
    (hcompleted : s'.completedTasks = s.completedTasks) : Kept e s s' where
  tasks := fun _ => htasks ▸ Grown.refl _
  completed := fun _ => hcompleted

/-- A saved task is appended, or edited and shown at once. -/
theorem Kept.saveTask {title : String} {dueDate : Date} {editTask : Option ObjectID}
    (hscreen : s.screen = .panel editTask) :
    Kept (.saveTask title dueDate) s (s.saveTask title dueDate editTask) := by
  by_cases htitle : title = ""
  · simp only [AppState.saveTask, htitle, if_true]
    exact Kept.of_eq rfl rfl
  cases editTask with
  | some task =>
      simp only [AppState.saveTask, htitle, if_false]
      exact Kept.of_eq rfl rfl
  | none =>
      simp only [AppState.saveTask, htitle, if_false]
      refine ⟨fun _ => ⟨rfl, ?_⟩, fun _ => rfl⟩
      cases s.tasksVC.tasks with
      | none => exact .none
      | some shown => exact .some (List.prefix_append _ _)

/-- The grid's delete action reloads when it deletes. -/
theorem Kept.gridDelete {row : ℕ} {tab : TasksTab}
    (hdelete : s.tasksTab.createDeleteAction formatter row = some tab) :
    Kept (.gridDelete row) s (s.withTasksTab tab) := by
  refine ⟨fun hreload => ?_, fun _ => rfl⟩
  rcases TasksTab.createDeleteAction_cases hdelete with
    ⟨rfl, -⟩ | ⟨tasks, task, htasks, hrow, hdue, -⟩
  · exact Grown.refl _
  · have hcell : s.tasksVC.cellForItemAt row = some (some task) :=
      TaskViewController.cellForItemAt_eq.2 ⟨tasks, htasks, hrow⟩
    have hnone : (s.context.dueDate task).isSome = false := by
      simpa only [AppEvent.reloadsTasks, hcell] using hreload
    exact absurd (hdue.symm.trans hnone) (by simp)

/-- So does the swipe action of the list. -/
theorem Kept.listDelete {section_ row : ℕ} {fetched : Option (List ObjectID)} {tab : TasksTab}
    (hdelete : s.tasksTab.deleteAction formatter fetched section_ row = some tab) :
    Kept (.listDelete section_ row fetched) s (s.withTasksTab tab) := by
  refine ⟨fun hreload => ?_, fun _ => rfl⟩
  rcases TasksTab.deleteAction_cases hdelete with ⟨rfl, -⟩ | ⟨task, hcell, -⟩
  · exact Grown.refl _
  · have hcell' : s.tasksVC.cellForRowAt section_ row = some (some task) := hcell
    simp [AppEvent.reloadsTasks, hcell'] at hreload

/-- The items of the menu of the Completed tab change nothing without an array. -/
theorem CompletedTab.menuAction_completedTasks
    {change : ObjectID → ManagedObjectContext → ManagedObjectContext} {row : ℕ}
    {tab tab' : CompletedTab} (h : tab.menuAction change row = some tab')
    (hnone : tab.completedTasks.isSome = false) : tab'.completedTasks = tab.completedTasks := by
  have hnone' : tab.completedTasks = none := by simpa using hnone
  obtain rfl : tab' = tab := by simpa [CompletedTab.menuAction, hnone'] using h.symm
  rfl

/-- Clearing the completed tasks loads them again once the save has succeeded. -/
theorem CompletedTab.deleteCompletedTasks_completedTasks {saved : Bool}
    (fetched : Option (List ObjectID)) (tab : CompletedTab)
    (h : (tab.completedTasks.isSome && saved) = false) :
    (tab.deleteCompletedTasks saved fetched).completedTasks = tab.completedTasks := by
  cases hshown : tab.completedTasks with
  | none => simp [CompletedTab.deleteCompletedTasks, hshown]
  | some shown =>
      obtain rfl : saved = false := by simpa [hshown] using h
      simp [CompletedTab.deleteCompletedTasks, hshown]

/-- A block reloads the tab it takes a task out of. -/
theorem Kept.tasksBlock {task : Option ObjectID} {blocks : List Block}
    (hblocks : s.blocks = .tasks task :: blocks) :
    Kept .runBlock s { s.withTasksTab (s.tasksTab.checkboxBlock task) with blocks := blocks } := by
  refine ⟨fun hreload => ?_, fun _ => rfl⟩
  have hnone : ((s.tasksVC.tasks.getD []).any fun shown => some shown = task) = false := by
    simpa only [AppEvent.reloadsTasks, hblocks] using hreload
  have hsame : s.tasksTab.checkboxBlock task = s.tasksTab := by
    simp [TasksTab.checkboxBlock, AppState.tasksTab, removeToggled_of_not_any hnone]
  rw [hsame]
  exact Grown.refl _

theorem Kept.completedBlock {task : Option ObjectID} {blocks : List Block}
    (hblocks : s.blocks = .completed task :: blocks) :
    Kept .runBlock s
      { s.withCompletedTab (s.completedTab.checkboxBlock task) with blocks := blocks } := by
  refine ⟨fun _ => Grown.refl _, fun hreload => ?_⟩
  have hnone : ((s.completedTasks.getD []).any fun shown => some shown = task) = false := by
    simpa only [AppEvent.reloadsCompleted, hblocks] using hreload
  exact removeToggled_of_not_any hnone

/-- An event leaves in place what it does not reload. -/
theorem AppState.step_kept {e : AppEvent} (h : s.step formatter e = some s') : Kept e s s' := by
  cases AppState.does_of_step h with
  -- these reload the Tasks tab, whatever they do
  | showTasks _ => exact ⟨nofun, fun _ => rfl⟩
  | viewTypeChanged _ => exact ⟨nofun, fun _ => rfl⟩
  | panelDismissed _ => exact ⟨nofun, fun _ => rfl⟩
  | tapTask _ _ => exact ⟨nofun, fun _ => rfl⟩
  | saveTask hscreen => exact Kept.saveTask hscreen
  | gridDelete _ hdelete => exact Kept.gridDelete hdelete
  | listDelete _ hdelete => exact Kept.listDelete hdelete
  -- and these the Completed tab
  | showCompleted _ _ => exact ⟨fun _ => Grown.refl _, nofun⟩
  | clearSearch _ => exact ⟨fun _ => Grown.refl _, nofun⟩
  | tapCompleted _ _ => exact ⟨fun _ => Grown.refl _, nofun⟩
  | search _ htext =>
      refine ⟨fun _ => Grown.refl _, fun hreload => absurd hreload ?_⟩
      simpa [AppEvent.reloadsCompleted] using htext
  | setIncomplete _ hmenu =>
      exact ⟨fun _ => Grown.refl _, CompletedTab.menuAction_completedTasks hmenu⟩
  | deleteCompleted _ hmenu =>
      exact ⟨fun _ => Grown.refl _, CompletedTab.menuAction_completedTasks hmenu⟩
  | clearCompleted _ =>
      exact ⟨fun _ => Grown.refl _,
        CompletedTab.deleteCompletedTasks_completedTasks _ s.completedTab⟩
  | tasksBlock hblocks => exact Kept.tasksBlock hblocks
  | completedBlock hblocks => exact Kept.completedBlock hblocks
  -- the others touch neither array
  | noSearch _ => exact Kept.of_eq rfl rfl
  | showCalendar _ _ _ => exact Kept.of_eq rfl rfl
  | addTask _ => exact Kept.of_eq rfl rfl
  | noEdit _ => exact Kept.of_eq rfl rfl
  | gridEdit _ => exact Kept.of_eq rfl rfl
  | listEdit _ => exact Kept.of_eq rfl rfl
  | selectDate _ => exact Kept.of_eq rfl rfl

end Steps

/-! ## Arrays that are there -/

section Loads

variable {formatter : DateFormatter} {s s' : AppState}

/-- When the Tasks tab is reloaded, its array is one it had or one it has fetched. -/
theorem AppState.tasks_isSome_of_step {e : AppEvent} (h : s.step formatter e = some s')
    (hreload : e.reloadsTasks s = true) :
    s'.tasksVC.tasks.isSome ↔ s.tasksVC.tasks.isSome ∨ e.loadsTasks = true := by
  have hrefresh : ∀ fetched, (s.refreshTasks formatter fetched).tasksVC.tasks.isSome ↔
      s.tasksVC.tasks.isSome ∨ fetched.isSome = true := by
    intro fetched
    have hvc : (s.refreshTasks formatter fetched).tasksVC =
        (s.tasksVC.loadTasks fetched).groupTasksByDate formatter s.context := rfl
    rw [hvc, TaskViewController.groupTasksByDate_eq]
    cases fetched <;> simp [TaskViewController.loadTasks]
  cases AppState.does_of_step h with
  | showTasks _ => exact hrefresh _
  | viewTypeChanged _ => exact hrefresh _
  | panelDismissed _ => exact hrefresh _
  | @tapTask row tab task _ htap =>
      have hvc : (s.withTasksTab tab).tasksVC = s.tasksVC := TasksTab.vc_toggleCheckbox htap
      simp [hvc, AppEvent.loadsTasks]
  | saveTask _ =>
      unfold AppState.saveTask
      split
      · simp [AppEvent.loadsTasks]
      · split <;> simp [AppEvent.loadsTasks]
  | @gridDelete row tab _ hdelete =>
      rcases TasksTab.createDeleteAction_cases hdelete with
        ⟨rfl, -⟩ | ⟨tasks, task, htasks, -, -, -, hleft, -⟩
      · simp [AppEvent.loadsTasks, AppState.withTasksTab, AppState.tasksTab]
      · have hbefore : s.tasksVC.tasks = some tasks := htasks
        simp [AppState.withTasksTab, hleft, hbefore]
  | @listDelete section_ row fetched tab _ hdelete =>
      rcases TasksTab.deleteAction_cases hdelete with ⟨rfl, hcell⟩ | ⟨task, -, -, hleft, -⟩
      · have hcell' : s.tasksVC.cellForRowAt section_ row = some none := hcell
        simp [AppEvent.reloadsTasks, hcell'] at hreload
      · have hvc : (s.withTasksTab tab).tasksVC.tasks = fetched.or s.tasksVC.tasks := hleft
        rw [hvc]
        cases fetched <;> simp [AppEvent.loadsTasks]
  | @tasksBlock task blocks _ =>
      have hleft : (s.withTasksTab (s.tasksTab.checkboxBlock task)).tasksVC.tasks =
        removeToggled task s.tasksVC.tasks := rfl
      simp [hleft, removeToggled, AppEvent.loadsTasks]
  | completedBlock hblocks => simp [AppEvent.reloadsTasks, hblocks] at hreload
  -- the others do not reload it
  | _ => cases hreload

theorem CompletedTab.completedTasks_toggleCheckbox {row : ℕ} {tab tab' : CompletedTab}
    {task : Option ObjectID} (h : tab.toggleCheckbox row = some (tab', task)) :
    tab'.completedTasks = tab.completedTasks := by
  unfold CompletedTab.toggleCheckbox at h
  split at h
  · cases h
  split at h
  · cases h
  · cases h
    rfl

theorem CompletedTab.completedTasks_loadTasks (fetched : Option (List ObjectID))
    (tab : CompletedTab) :
    (tab.loadTasks fetched).completedTasks = fetched.or tab.completedTasks := by
  cases fetched <;> rfl

/-- The array that `viewDidLoad` or `viewWillAppear` fetches; the later one counts. -/
theorem CompletedTab.completedTasks_viewDidAppear (formatter : DateFormatter)
    (fetched fetched' : Option (List ObjectID)) (tab : CompletedTab) :
    (tab.viewDidAppear formatter fetched fetched').completedTasks =
      (fetched'.or fetched).or tab.completedTasks := by
  rw [viewDidAppear, completedTasks_loadTasks]
  cases fetched <;> cases fetched' <;> rfl

/-- An item of the menu takes its row out of the array. -/
theorem CompletedTab.completedTasks_menuAction
    {change : ObjectID → ManagedObjectContext → ManagedObjectContext} {row : ℕ}
    {tab tab' : CompletedTab} (h : tab.menuAction change row = some tab') :
    tab'.completedTasks = tab.completedTasks.map fun tasks => tasks.eraseIdx row := by
  unfold CompletedTab.menuAction at h
  split at h
  · rename_i htasks
    cases h
    rw [htasks, Option.map_none]
  split at h
  · cases h
  · rename_i htasks _ _ _
    cases h
    rw [htasks, Option.map_some]

/-- So it is for the Completed tab. -/
theorem AppState.completedTasks_isSome_of_step {e : AppEvent} (h : s.step formatter e = some s')
    (hreload : e.reloadsCompleted s = true) :
    s'.completedTasks.isSome ↔ s.completedTasks.isSome ∨ e.loadsCompleted = true := by
  have hload : ∀ fetched, (s.completedTab.loadTasks fetched).completedTasks.isSome ↔
      s.completedTasks.isSome ∨ fetched.isSome = true := by
    intro fetched
    rw [CompletedTab.completedTasks_loadTasks, Option.isSome_or, Bool.or_eq_true, or_comm]
    rfl
  cases AppState.does_of_step h with
  | @showCompleted fetched fetched' _ _ =>
      have happear :=
        CompletedTab.completedTasks_viewDidAppear formatter fetched fetched' s.completedTab
      rw [show (s.withCompletedTab _).completedTasks = _ from happear, Option.isSome_or,
        Option.isSome_or]
      simp only [AppEvent.loadsCompleted, Bool.or_eq_true]
      tauto
  | search _ _ => exact hload _
  | clearSearch _ => exact hload _
  | @tapCompleted row tab task _ htap =>
      have hkept : (s.withCompletedTab tab).completedTasks = s.completedTasks :=
        CompletedTab.completedTasks_toggleCheckbox htap
      simp [hkept, AppEvent.loadsCompleted]
  | @setIncomplete row tab _ hmenu =>
      have hkept : (s.withCompletedTab tab).completedTasks.isSome = s.completedTasks.isSome :=
        (congrArg Option.isSome (CompletedTab.completedTasks_menuAction hmenu)).trans
          Option.isSome_map
      simp [hkept, AppEvent.loadsCompleted]
  | @deleteCompleted row tab _ hmenu =>
      have hkept : (s.withCompletedTab tab).completedTasks.isSome = s.completedTasks.isSome :=
        (congrArg Option.isSome (CompletedTab.completedTasks_menuAction hmenu)).trans
          Option.isSome_map
      simp [hkept, AppEvent.loadsCompleted]
  | @clearCompleted saved fetched _ =>
      obtain ⟨hshown, rfl⟩ : s.completedTasks.isSome = true ∧ saved = true := by
        simpa [AppEvent.reloadsCompleted] using hreload
      obtain ⟨shown, hshown⟩ := Option.isSome_iff_exists.1 hshown
      have htab : s.completedTab.completedTasks = some shown := hshown
      have hleft : (s.completedTab.deleteCompletedTasks true fetched).completedTasks.isSome := by
        cases fetched <;> simp [CompletedTab.deleteCompletedTasks, htab, CompletedTab.loadTasks]
      exact iff_of_true hleft (Or.inl (hshown ▸ rfl))
  | tasksBlock hblocks => simp [AppEvent.reloadsCompleted, hblocks] at hreload
  | @completedBlock task blocks _ =>
      have hleft : (s.withCompletedTab (s.completedTab.checkboxBlock task)).completedTasks =
        removeToggled task s.completedTasks := rfl
      simp [hleft, removeToggled, AppEvent.loadsCompleted]
  | noSearch _ => simp [AppEvent.reloadsCompleted] at hreload
  | _ => cases hreload

end Loads

end TaskMaster
end IosProjects
