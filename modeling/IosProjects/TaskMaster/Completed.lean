import IosProjects.TaskMaster.TaskView

/-!
# Completed — the tab of the completed tasks

`CompletedTasksViewController` is a subclass of `TaskViewController` with an array of its own. It
overrides `loadTasks`, so the inherited `tasks` stay `nil`, and the inherited `refreshData`, run
when the tab appears, never gets to regroup for the calendar.
-/

namespace IosProjects
namespace TaskMaster

open IosProjects.Library

/-- The Completed tab; `vc` is what it inherits. -/
structure CompletedTab extends TasksTab where
  completedTasks : Option (List ObjectID)

namespace CompletedTab

/-! ## Loading -/

/-- `CompletedTasksViewController.loadTasks(with:predicate:)`, given what the fetch returned. -/
def loadTasks (fetched : Option (List ObjectID)) (tab : CompletedTab) : CompletedTab :=
  match fetched with
  | none => tab
  | some tasks => { tab with completedTasks := some tasks }

/-- The inherited `refreshData()`, calling the overriding `loadTasks()`. -/
def refreshData (formatter : DateFormatter) (fetched : Option (List ObjectID))
    (tab : CompletedTab) : CompletedTab :=
  let tab := tab.loadTasks fetched
  let vc := tab.vc.groupTasksByDate formatter tab.context
  { tab with
    vc := vc
    shared :=
      match vc.tasks with
      | none => tab.shared
      | some tasks => tab.shared.groupTasksByDate formatter tab.context tasks }

/-- `CompletedTasksViewController.viewDidAppear(_:)`, which loads twice. -/
def viewDidAppear (formatter : DateFormatter) (fetched fetched' : Option (List ObjectID))
    (tab : CompletedTab) : CompletedTab :=
  (tab.refreshData formatter fetched).loadTasks fetched'

/-- While the inherited array is `nil`, appearing changes nothing but what this tab shows. -/
theorem viewDidAppear_of_nil {tab : CompletedTab} (h : tab.vc.tasks = none)
    (formatter : DateFormatter) (fetched fetched' : Option (List ObjectID)) :
    let tab' := tab.viewDidAppear formatter fetched fetched'
    tab'.context = tab.context ∧ tab'.shared = tab.shared ∧ tab'.vc.tasks = none := by
  cases fetched <;> cases fetched' <;>
    simp [viewDidAppear, refreshData, loadTasks, TaskViewController.groupTasksByDate_eq, h]

/-! ## Checkboxes and menus -/

/-- `CompletedTasksViewController.toggleCheckbox(_:)` for a row; `task!` traps without an array. -/
def toggleCheckbox (row : ℕ) (tab : CompletedTab) : Option (CompletedTab × Option ObjectID) :=
  match tab.completedTasks with
  | none => none
  | some tasks =>
      match tasks[row]? with
      | none => none
      | some task => some ({ tab with context := tab.context.toggle task }, some task)

/-- The block of `CompletedTasksViewController.toggleCheckbox(_:)`. -/
def checkboxBlock (task : Option ObjectID) (tab : CompletedTab) : CompletedTab :=
  { tab with completedTasks := removeToggled task tab.completedTasks }

/-- The two items of the context menu: something happens to the task in the row, which then leaves
the array. -/
def menuAction (change : ObjectID → ManagedObjectContext → ManagedObjectContext) (row : ℕ)
    (tab : CompletedTab) : Option CompletedTab :=
  match tab.completedTasks with
  | none => some tab
  | some tasks =>
      match tasks[row]? with
      | none => none
      | some task =>
          some { tab with
            context := change task tab.context
            completedTasks := some (tasks.eraseIdx row) }

/-- The handler of `createEditAction(for:)`, "Set it to incomplete". -/
def createEditAction (row : ℕ) (tab : CompletedTab) : Option CompletedTab :=
  tab.menuAction (fun task context => context.modify task ({ · with isCompleted := false })) row

/-- The handler of `createDeleteAction(for:)`. -/
def createDeleteAction (row : ℕ) (tab : CompletedTab) : Option CompletedTab :=
  tab.menuAction (fun task context => context.delete task) row

/-- `deleteCompletedTasks()`: it deletes what the tab shows, and loads again when the save
succeeds. -/
def deleteCompletedTasks (saved : Bool) (fetched : Option (List ObjectID)) (tab : CompletedTab) :
    CompletedTab :=
  match tab.completedTasks with
  | none => tab
  | some tasks =>
      let tab := { tab with context := tasks.foldl ManagedObjectContext.delete tab.context }
      if saved then tab.loadTasks fetched else tab

end CompletedTab

end TaskMaster
end IosProjects
