import IosProjects.Library.Checkpoint
import IosProjects.TaskMaster.App

/-!
# ContextChanges — what the handlers do to the managed object context

Every event of the app makes a few changes to the context, most of them none. They are listed here
with the saves that follow them, and `AppState.context_of_step` says that nothing else changes the
context.
-/

namespace IosProjects
namespace TaskMaster

open IosProjects.Library

/-! ## Changes of the context -/

/-- What the handlers do to the context. -/
inductive ContextChange where
  | insert (title : String) (dueDate : Date)
  | assign (task : ObjectID) (title : String) (dueDate : Date)
  | toggle (task : ObjectID)
  | untick (task : ObjectID)
  | delete (task : ObjectID)
  deriving DecidableEq

def ContextChange.apply (c : ContextChange) (context : ManagedObjectContext) :
    ManagedObjectContext :=
  match c with
  | .insert title dueDate => context.insert ⟨some title, some dueDate, false⟩
  | .assign task title dueDate =>
      context.modify task ({ · with title := some title, dueDate := some dueDate })
  | .toggle task => context.toggle task
  | .untick task => context.modify task ({ · with isCompleted := false })
  | .delete task => context.delete task

/-- The task in a row of the grid of the Tasks tab, and of the Completed tab. -/
def AppState.taskInRow (row : ℕ) (s : AppState) : Option ObjectID :=
  s.tasksVC.tasks.bind fun tasks => tasks[row]?

def AppState.completedInRow (row : ℕ) (s : AppState) : Option ObjectID :=
  s.completedTasks.bind fun tasks => tasks[row]?

/-- The changes an event makes to the context, in order. -/
def AppEvent.changes (s : AppState) : AppEvent → List ContextChange
  | .saveTask title dueDate =>
      if title = "" then []
      else
        match s.screen with
        | .panel (some editTask) => [.assign editTask title dueDate]
        | .panel none => [.insert title dueDate]
        | _ => []
  | .tapTask row => ((s.taskInRow row).map .toggle).toList
  | .gridDelete row =>
      ((s.taskInRow row).bind fun deleteItem =>
        if (s.context.dueDate deleteItem).isSome then some (.delete deleteItem) else none).toList
  | .listDelete section_ row _ =>
      match s.tasksVC.cellForRowAt section_ row with
      | some (some deleteItem) => [.delete deleteItem]
      | _ => []
  | .tapCompleted row => ((s.completedInRow row).map .toggle).toList
  | .setIncomplete row => ((s.completedInRow row).map .untick).toList
  | .deleteCompleted row => ((s.completedInRow row).map .delete).toList
  | .clearCompleted _ _ => (s.completedTasks.getD []).map .delete
  | _ => []

/-- Whether the handler calls `context.save()`. -/
def AppEvent.saves (s : AppState) : AppEvent → Bool
  -- the flag waits for the block
  | .tapTask _ | .tapCompleted _ => false
  | .runBlock =>
      match s.blocks with
      | .tasks task :: _ => (s.tasksVC.tasks.getD []).any fun shown => some shown = task
      | .completed task :: _ => (s.completedTasks.getD []).any fun shown => some shown = task
      | [] => false
  | .clearCompleted _ _ => s.completedTasks.isSome
  -- every other handler that changes the context saves it
  | e => !(e.changes s).isEmpty

/-- Which handlers change the context, and how. -/
theorem AppEvent.changes_cases {s : AppState} {e : AppEvent} {c : ContextChange}
    (hc : c ∈ e.changes s) :
    (∃ title dueDate, e = .saveTask title dueDate) ∨
      (∃ task row, c = .toggle task ∧ (e = .tapTask row ∨ e = .tapCompleted row)) ∨
      (∃ task row, c = .untick task ∧ e = .setIncomplete row) ∨ ∃ task, c = .delete task := by
  cases e with
  | saveTask title dueDate => exact Or.inl ⟨title, dueDate, rfl⟩
  | tapTask row =>
      rcases Option.map_eq_some_iff.1 (Option.mem_toList.1 hc) with ⟨task, _, rfl⟩
      exact Or.inr (Or.inl ⟨task, row, rfl, Or.inl rfl⟩)
  | tapCompleted row =>
      rcases Option.map_eq_some_iff.1 (Option.mem_toList.1 hc) with ⟨task, _, rfl⟩
      exact Or.inr (Or.inl ⟨task, row, rfl, Or.inr rfl⟩)
  | setIncomplete row =>
      rcases Option.map_eq_some_iff.1 (Option.mem_toList.1 hc) with ⟨task, _, rfl⟩
      exact Or.inr (Or.inr (Or.inl ⟨task, row, rfl, rfl⟩))
  | deleteCompleted row =>
      rcases Option.map_eq_some_iff.1 (Option.mem_toList.1 hc) with ⟨task, _, rfl⟩
      exact Or.inr (Or.inr (Or.inr ⟨task, rfl⟩))
  | clearCompleted saved fetched =>
      rcases List.mem_map.1 hc with ⟨task, _, rfl⟩
      exact Or.inr (Or.inr (Or.inr ⟨task, rfl⟩))
  | gridDelete row =>
      rcases Option.bind_eq_some_iff.1 (Option.mem_toList.1 hc) with ⟨task, _, hdelete⟩
      obtain ⟨_, hdelete⟩ := Option.ite_none_right_eq_some.1 hdelete
      exact Or.inr (Or.inr (Or.inr ⟨task, (Option.some.inj hdelete).symm⟩))
  | listDelete section_ row fetched =>
      simp only [AppEvent.changes] at hc
      split at hc
      · exact Or.inr (Or.inr (Or.inr ⟨_, List.mem_singleton.1 hc⟩))
      · cases hc
  | _ => cases hc

/-! ## What a step does to the context -/

section Steps

variable {formatter : DateFormatter} {s s' : AppState}

theorem context_saveTask {title : String} {dueDate : Date} {editTask : Option ObjectID}
    (hscreen : s.screen = .panel editTask) :
    (s.saveTask title dueDate editTask).context =
      Changes.perform ContextChange.apply (AppEvent.changes s (.saveTask title dueDate))
        s.context := by
  unfold AppState.saveTask
  by_cases htitle : title = ""
  · simp [AppEvent.changes, htitle]
  · cases editTask <;> simp [AppEvent.changes, htitle, hscreen, ContextChange.apply]

theorem context_tapTask {row : ℕ} {tab : TasksTab} {task : Option ObjectID}
    (htap : s.tasksTab.toggleCheckbox row = some (tab, task)) :
    tab.context =
      Changes.perform ContextChange.apply (AppEvent.changes s (.tapTask row)) s.context := by
  cases htasks : s.tasksVC.tasks with
  | none =>
      simp only [TasksTab.toggleCheckbox, AppState.tasksTab, htasks, Option.some.injEq,
        Prod.mk.injEq] at htap
      simp [AppEvent.changes, AppState.taskInRow, htasks, ← htap.1]
  | some tasks =>
      cases hrow : tasks[row]? with
      | none => simp [TasksTab.toggleCheckbox, AppState.tasksTab, htasks, hrow] at htap
      | some tapped =>
          simp only [TasksTab.toggleCheckbox, AppState.tasksTab, htasks, hrow, Option.some.injEq,
            Prod.mk.injEq] at htap
          simp [AppEvent.changes, AppState.taskInRow, htasks, hrow, ContextChange.apply, ← htap.1]

theorem context_gridDelete {row : ℕ} {tab : TasksTab}
    (hdelete : s.tasksTab.createDeleteAction formatter row = some tab) :
    tab.context =
      Changes.perform ContextChange.apply (AppEvent.changes s (.gridDelete row)) s.context := by
  rcases TasksTab.createDeleteAction_cases hdelete with
    ⟨rfl, hdue⟩ | ⟨tasks, task, htasks, hrow, hdue, hcontext, _, _⟩
  · -- no row, or a task without a due date
    have hnone : AppEvent.changes s (.gridDelete row) = [] := by
      cases hrow : s.taskInRow row with
      | none => simp [AppEvent.changes, hrow]
      | some task =>
          have hcell : s.tasksVC.cellForItemAt row = some (some task) := by
            rcases Option.bind_eq_some_iff.1 hrow with ⟨tasks, htasks, hrow⟩
            exact TaskViewController.cellForItemAt_eq.2 ⟨tasks, htasks, hrow⟩
          have hdate : s.context.dueDate task = none := hdue task hcell
          simp [AppEvent.changes, hrow, hdate]
    rw [hnone]
    rfl
  · have hshown : s.taskInRow row = some task := Option.bind_eq_some_iff.2 ⟨tasks, htasks, hrow⟩
    have hdate : (s.context.dueDate task).isSome := hdue
    simp only [AppEvent.changes, hshown, Option.bind_some, hdate, if_true, Option.toList_some]
    exact hcontext

theorem context_listDelete {section_ row : ℕ} {fetched : Option (List ObjectID)} {tab : TasksTab}
    (hdelete : s.tasksTab.deleteAction formatter fetched section_ row = some tab) :
    tab.context =
      Changes.perform ContextChange.apply (AppEvent.changes s (.listDelete section_ row fetched))
        s.context := by
  rcases TasksTab.deleteAction_cases hdelete with ⟨rfl, hcell⟩ | ⟨task, hcell, hcontext, _⟩
  · have hnone : s.tasksVC.cellForRowAt section_ row = some none := hcell
    simp only [AppEvent.changes, hnone]
    rfl
  · have hsome : s.tasksVC.cellForRowAt section_ row = some (some task) := hcell
    simp only [AppEvent.changes, hsome]
    exact hcontext

theorem context_tapCompleted {row : ℕ} {tab : CompletedTab} {task : Option ObjectID}
    (htap : s.completedTab.toggleCheckbox row = some (tab, task)) :
    tab.context =
      Changes.perform ContextChange.apply (AppEvent.changes s (.tapCompleted row)) s.context := by
  cases htasks : s.completedTasks with
  | none => simp [CompletedTab.toggleCheckbox, AppState.completedTab, htasks] at htap
  | some tasks =>
      cases hrow : tasks[row]? with
      | none => simp [CompletedTab.toggleCheckbox, AppState.completedTab, htasks, hrow] at htap
      | some tapped =>
          simp only [CompletedTab.toggleCheckbox, AppState.completedTab, htasks, hrow,
            Option.some.injEq, Prod.mk.injEq] at htap
          simp [AppEvent.changes, AppState.completedInRow, htasks, hrow, ContextChange.apply,
            ← htap.1]

/-- The two items of the menu make one change each. -/
theorem context_menuAction {change : ObjectID → ManagedObjectContext → ManagedObjectContext}
    {c : ObjectID → ContextChange}
    (hchange : ∀ task context, change task context = (c task).apply context)
    {row : ℕ} {tab : CompletedTab} (hmenu : s.completedTab.menuAction change row = some tab) :
    tab.context =
      Changes.perform ContextChange.apply ((s.completedInRow row).map c).toList s.context := by
  cases htasks : s.completedTasks with
  | none =>
      simp only [CompletedTab.menuAction, AppState.completedTab, htasks, Option.some.injEq] at hmenu
      simp [AppState.completedInRow, htasks, ← hmenu]
  | some tasks =>
      cases hrow : tasks[row]? with
      | none => simp [CompletedTab.menuAction, AppState.completedTab, htasks, hrow] at hmenu
      | some task =>
          simp only [CompletedTab.menuAction, AppState.completedTab, htasks, hrow,
            Option.some.injEq] at hmenu
          simp [AppState.completedInRow, htasks, hrow, ← hmenu, hchange]

theorem context_clearCompleted (saved : Bool) (fetched : Option (List ObjectID)) :
    (s.completedTab.deleteCompletedTasks saved fetched).context =
      Changes.perform ContextChange.apply (AppEvent.changes s (.clearCompleted saved fetched))
        s.context := by
  have hdelete : ∀ (tasks : List ObjectID) (context : ManagedObjectContext),
      Changes.perform ContextChange.apply (tasks.map .delete) context =
        tasks.foldl ManagedObjectContext.delete context := by
    intro tasks context
    rw [Changes.perform, List.foldl_map]
    rfl
  cases htasks : s.completedTasks with
  | none =>
      simp [CompletedTab.deleteCompletedTasks, AppState.completedTab, AppEvent.changes, htasks]
  | some tasks =>
      simp only [AppEvent.changes, htasks, Option.getD_some, hdelete]
      cases saved <;> cases fetched <;>
        simp [CompletedTab.deleteCompletedTasks, AppState.completedTab, htasks,
          CompletedTab.loadTasks]

theorem context_loadTasks (fetched : Option (List ObjectID)) (tab : CompletedTab) :
    (tab.loadTasks fetched).context = tab.context := by
  cases fetched <;> rfl

theorem context_viewDidAppear (fetched fetched' : Option (List ObjectID)) (tab : CompletedTab) :
    (tab.viewDidAppear formatter fetched fetched').context = tab.context := by
  rw [CompletedTab.viewDidAppear, context_loadTasks]
  exact context_loadTasks fetched tab

/-- A step changes the context as its event says, and nothing else does. -/
theorem AppState.context_of_step {e : AppEvent} (h : s.step formatter e = some s') :
    s'.context = Changes.perform ContextChange.apply (e.changes s) s.context := by
  cases AppState.does_of_step h with
  | saveTask hscreen => exact context_saveTask hscreen
  | tapTask _ htap => exact context_tapTask htap
  | gridDelete _ hdelete => exact context_gridDelete hdelete
  | listDelete _ hdelete => exact context_listDelete hdelete
  | tapCompleted _ htap => exact context_tapCompleted htap
  | setIncomplete _ hmenu => exact context_menuAction (c := .untick) (fun _ _ => rfl) hmenu
  | deleteCompleted _ hmenu => exact context_menuAction (c := .delete) (fun _ _ => rfl) hmenu
  | clearCompleted _ => exact context_clearCompleted _ _
  -- what these change are the arrays, the screen or the calendar
  | showCompleted _ _ => exact context_viewDidAppear _ _ s.completedTab
  | search _ _ => exact context_loadTasks _ s.completedTab
  | clearSearch _ => exact context_loadTasks _ s.completedTab
  | showTasks _ => rfl
  | showCalendar _ _ _ => rfl
  | viewTypeChanged _ => rfl
  | addTask _ => rfl
  | noEdit _ => rfl
  | gridEdit _ => rfl
  | listEdit _ => rfl
  | panelDismissed _ => rfl
  | noSearch _ => rfl
  | selectDate _ => rfl
  | tasksBlock _ => rfl
  | completedBlock _ => rfl

end Steps

end TaskMaster
end IosProjects
