import Mathlib.Data.Finset.Sort
import IosProjects.Library.Grouping
import IosProjects.Library.Lists
import IosProjects.TaskMaster.Tasks

/-!
# TaskView — the Tasks tab and the grouping it shares with the calendar

`TaskViewController` fetches the incomplete tasks into `tasks`, which the grid shows, and groups
them by day into `tasksByDate`, which the list shows. `DataManager.shared` keeps a second grouping
for the calendar. Both groupings are the same create-or-append loop; `dateKey` is the key they file
a task under.
-/

namespace IosProjects
namespace TaskMaster

open IosProjects.Library

/-! ## Grouping by day -/

/-- `DataManager`; there is no dictionary before the first grouping. -/
structure DataManager where
  tasksByDate : Option (Groups String ObjectID)

/-- The part of `TaskViewController` that decides what the Tasks tab shows. -/
structure TaskViewController where
  tasks : Option (List ObjectID)
  tasksByDate : Groups String ObjectID

/-- The key of a task: the text of its due date. -/
def dateKey (formatter : DateFormatter) (context : ManagedObjectContext) (task : ObjectID) :
    Option String :=
  (context.dueDate task).map formatter.string

/-- `DataManager.groupTasksByDate(tasks:)`. -/
def DataManager.groupTasksByDate (formatter : DateFormatter) (context : ManagedObjectContext)
    (tasks : List ObjectID) (_shared : DataManager) : DataManager where
  tasksByDate := some <|
    tasks.foldl
      (fun tasksByDate task =>
        match context.dueDate task with
        | none => tasksByDate
        | some dueDate =>
            let dateString := formatter.formattedFullDate dueDate
            match tasksByDate.lookup dateString with
            | none => tasksByDate.insert dateString [task]
            | some tasksOnDueDate => tasksByDate.insert dateString (tasksOnDueDate ++ [task])) ∅

namespace TaskViewController

/-- `TaskViewController.groupTasksByDate()`. -/
def groupTasksByDate (formatter : DateFormatter) (context : ManagedObjectContext)
    (vc : TaskViewController) : TaskViewController :=
  match vc.tasks with
  | none => { vc with tasksByDate := ∅ }
  | some tasks =>
      { vc with
        tasksByDate := tasks.foldl
          (fun tasksByDate task =>
            match context.dueDate task with
            | none => tasksByDate
            | some dueDate =>
                let dateString := formatter.string dueDate
                match tasksByDate.lookup dateString with
                | none => tasksByDate.insert dateString [task]
                | some tasksOnDueDate =>
                    tasksByDate.insert dateString (tasksOnDueDate ++ [task])) ∅ }

/-- `loadTasks()`, given what the fetch returned; an error leaves `tasks` as they are. -/
def loadTasks (fetched : Option (List ObjectID)) (vc : TaskViewController) : TaskViewController :=
  match fetched with
  | none => vc
  | some tasks => { vc with tasks := some tasks }

end TaskViewController

/-- The loop of both groupings files each task under its day. -/
theorem group_dateKey (formatter : DateFormatter) (context : ManagedObjectContext)
    (tasks : List ObjectID) :
    group (dateKey formatter context) tasks =
      tasks.foldl
        (fun tasksByDate task =>
          match context.dueDate task with
          | none => tasksByDate
          | some dueDate =>
              match tasksByDate.lookup (formatter.string dueDate) with
              | none => tasksByDate.insert (formatter.string dueDate) [task]
              | some tasksOnDueDate =>
                  tasksByDate.insert (formatter.string dueDate) (tasksOnDueDate ++ [task])) ∅ := by
  rw [group]
  congr 1
  funext tasksByDate task
  unfold dateKey fileUnder
  cases context.dueDate task with
  | none => rfl
  | some dueDate =>
      dsimp only [Option.map_some]
      cases tasksByDate.lookup (formatter.string dueDate) <;> rfl

theorem DataManager.groupTasksByDate_eq (formatter : DateFormatter)
    (context : ManagedObjectContext) (tasks : List ObjectID) (shared : DataManager) :
    shared.groupTasksByDate formatter context tasks =
      ⟨some (group (dateKey formatter context) tasks)⟩ := by
  rw [group_dateKey]
  rfl

theorem TaskViewController.groupTasksByDate_eq (formatter : DateFormatter)
    (context : ManagedObjectContext) (vc : TaskViewController) :
    vc.groupTasksByDate formatter context =
      { vc with tasksByDate := group (dateKey formatter context) (vc.tasks.getD []) } := by
  unfold TaskViewController.groupTasksByDate
  cases htasks : vc.tasks with
  | none => rfl
  | some tasks => rw [Option.getD_some, group_dateKey]

/-! ## Refreshing -/

/-- The Tasks tab with what it reads and writes. -/
structure TasksTab where
  context : ManagedObjectContext
  shared : DataManager
  vc : TaskViewController

/-- `TaskViewController.refreshData()`. -/
def TasksTab.refreshData (formatter : DateFormatter) (fetched : Option (List ObjectID))
    (tab : TasksTab) : TasksTab :=
  let vc := (tab.vc.loadTasks fetched).groupTasksByDate formatter tab.context
  { tab with
    vc := vc
    shared :=
      match vc.tasks with
      | none => tab.shared
      | some tasks => tab.shared.groupTasksByDate formatter tab.context tasks }

/-- What a refresh leaves when the fetch returns `tasks`. -/
def TasksTab.loaded (formatter : DateFormatter) (context : ManagedObjectContext)
    (tasks : List ObjectID) : TasksTab where
  context := context
  shared := ⟨some (group (dateKey formatter context) tasks)⟩
  vc := ⟨some tasks, group (dateKey formatter context) tasks⟩

theorem TasksTab.refreshData_some (formatter : DateFormatter) (tasks : List ObjectID)
    (tab : TasksTab) :
    tab.refreshData formatter (some tasks) = TasksTab.loaded formatter tab.context tasks := by
  simp [TasksTab.refreshData, TaskViewController.groupTasksByDate_eq, TaskViewController.loadTasks,
    DataManager.groupTasksByDate_eq, TasksTab.loaded]

/-! ## Checkboxes -/

/-- The block a tap on a checkbox schedules: `firstIndex(where: { $0 == task })`, then
`remove(at:)`. -/
def removeToggled (task : Option ObjectID) (tasks : Option (List ObjectID)) :
    Option (List ObjectID) :=
  tasks.map fun tasks =>
    match tasks.findIdx? fun shown => some shown = task with
    | none => tasks
    | some index => tasks.eraseIdx index

theorem removeToggled_some (task : ObjectID) (tasks : List ObjectID) :
    removeToggled (some task) (some tasks) = some (tasks.erase task) := by
  have herase := List.erase_eq_eraseIdx tasks task
  have hfind : (tasks.findIdx? fun shown => some shown = some task) = tasks.idxOf? task := by
    simp only [List.idxOf?, Option.some.injEq]
    rfl
  rw [removeToggled, Option.map_some, hfind, herase]
  -- `erase` leaves the list alone as well when the task is not in it
  cases tasks.idxOf? task with
  | none => rfl
  | some index => rfl

/-- `TaskViewController.toggleCheckbox(_:)` for a row: the tab and the task the block captures. An
index out of range traps; without an array there is no task. -/
def TasksTab.toggleCheckbox (row : ℕ) (tab : TasksTab) : Option (TasksTab × Option ObjectID) :=
  match tab.vc.tasks with
  | none => some (tab, none)
  | some tasks =>
      match tasks[row]? with
      | none => none
      | some task => some ({ tab with context := tab.context.toggle task }, some task)

/-- The block of `TaskViewController.toggleCheckbox(_:)`. -/
def TasksTab.checkboxBlock (task : Option ObjectID) (tab : TasksTab) : TasksTab :=
  -- neither grouping is touched
  { tab with vc := { tab.vc with tasks := removeToggled task tab.vc.tasks } }

/-! ## The grid -/

namespace TaskViewController

/-- `collectionView(_:numberOfItemsInSection:)`. -/
def numberOfItemsInSection (vc : TaskViewController) : ℕ :=
  match vc.tasks with
  | none => 1
  | some tasks => tasks.length

/-- The task `collectionView(_:cellForItemAt:)` sets the cell up with, if any; an index out of range
traps. -/
def cellForItemAt (row : ℕ) (vc : TaskViewController) : Option (Option ObjectID) :=
  match vc.tasks with
  | none => some none
  | some tasks => tasks[row]?.map some

/-- The cells of the grid. -/
def readGrid (vc : TaskViewController) : Option (List (Option ObjectID)) :=
  (List.range vc.numberOfItemsInSection).mapM fun row => vc.cellForItemAt row

theorem readGrid_some {vc : TaskViewController} {tasks : List ObjectID}
    (h : vc.tasks = some tasks) : vc.readGrid = some (tasks.map some) := by
  have hcount : vc.numberOfItemsInSection = (tasks.map some).length := by
    rw [List.length_map]
    simp only [numberOfItemsInSection, h]
  rw [readGrid, hcount]
  apply mapM_range_eq_some
  intro row cell hcell
  rw [List.getElem?_map] at hcell
  simp only [cellForItemAt, h]
  exact hcell

theorem cellForItemAt_eq {vc : TaskViewController} {row : ℕ} {task : ObjectID} :
    vc.cellForItemAt row = some (some task) ↔
      ∃ tasks, vc.tasks = some tasks ∧ tasks[row]? = some task := by
  unfold cellForItemAt
  cases vc.tasks <;> simp

end TaskViewController

/-! ## The list view -/

namespace TaskViewController

/-- `Array(tasksByDate.keys).sorted()`. -/
def sectionDates (vc : TaskViewController) : List String :=
  vc.tasksByDate.keys.sort (· ≤ ·)

def numberOfSections (vc : TaskViewController) : ℕ :=
  vc.tasksByDate.keys.card

/-- `tasksByDate.keys.sorted(by:)` with the comparison of the parsed dates, over the keys in the
order the dictionary lists them. The comparison is not called on fewer than two keys; it traps on a
key that is no date. -/
def sortedTasksByDate (formatter : DateFormatter) (it : Iteration String ObjectID)
    (vc : TaskViewController) : Option (List String) :=
  let keys := (it.entries vc.tasksByDate).map Sigma.fst
  if keys.length < 2 then some keys
  else if keys.all fun key => (formatter.date key).isSome then
    some (sortAscending formatter.parsed keys)
  else none

/-- `tableView(_:numberOfRowsInSection:)`; `none` is a trap. -/
def numberOfRowsInSection (formatter : DateFormatter) (it : Iteration String ObjectID)
    (section_ : ℕ) (vc : TaskViewController) : Option ℕ := do
  let sortedTasksByDate ← vc.sortedTasksByDate formatter it
  let date ← sortedTasksByDate[section_]?
  match vc.tasksByDate.lookup date with
  | some tasks => return tasks.length
  | none => return 0

/-- The task `tableView(_:cellForRowAt:)` sets the cell up with, if any; an index out of range
traps. -/
def cellForRowAt (section_ row : ℕ) (vc : TaskViewController) : Option (Option ObjectID) := do
  let sectionDateString ← vc.sectionDates[section_]?
  match vc.tasksByDate.lookup sectionDateString with
  | none => return none
  | some tasksForSection =>
      let task ← tasksForSection[row]?
      return some task

/-- The cells of the list view, read section by section. -/
def readList (formatter : DateFormatter) (it : Iteration String ObjectID)
    (vc : TaskViewController) : Option (List (Option ObjectID)) := do
  let sections ← (List.range vc.numberOfSections).mapM fun section_ => do
    let rows ← vc.numberOfRowsInSection formatter it section_
    (List.range rows).mapM fun row => vc.cellForRowAt section_ row
  return sections.flatten

end TaskViewController

end TaskMaster
end IosProjects
