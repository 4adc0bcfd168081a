import IosProjects.TaskMaster.Completed
import IosProjects.TaskMaster.Delete

/-!
# App — the three tabs over one context

`AppState` is the whole app: the context, `DataManager.shared`, the view controllers, the screen the
user sees and the checkbox blocks that have not run yet. `AppState.step` is what the user can do on
each screen; `AppStep` adds that every fetch answers from the context it is made in.
-/

namespace IosProjects
namespace TaskMaster

open IosProjects.Library

/-! ## `CalendarViewController` -/

/-- The calendar's copy of the dictionary and what it has selected from it. -/
structure CalendarViewController where
  selectedTasks : Option (List ObjectID)
  tasksByDate : Option (Groups String ObjectID)
  selectedDate : Option String
  dateKeys : Option (Finset String)

namespace CalendarViewController

/-- `getTasks(date:)`. -/
def getTasks (dateString : String) (vc : CalendarViewController) : Option (List ObjectID) :=
  vc.tasksByDate.bind fun tasksByDate => tasksByDate.lookup dateString

/-- `reloadData()`; both `selectedDate!` and `tasksByDate!` can trap. -/
def reloadData (shared : DataManager) (vc : CalendarViewController) :
    Option CalendarViewController := do
  let vc := { vc with tasksByDate := shared.tasksByDate }
  let selectedDate ← vc.selectedDate
  let tasksByDate ← vc.tasksByDate
  return { vc with
    selectedTasks := vc.getTasks selectedDate
    dateKeys := some tasksByDate.keys }

/-- `calendar(_:didSelect:at:)`. -/
def didSelect (formatter : DateFormatter) (date : Date) (vc : CalendarViewController) :
    CalendarViewController :=
  let selectedDate := formatter.formattedFullDate date
  { vc with
    selectedDate := some selectedDate
    selectedTasks := vc.getTasks selectedDate }

/-- `calendar(_:numberOfEventsFor:)`. -/
def numberOfEventsFor (formatter : DateFormatter) (date : Date) (vc : CalendarViewController) : ℕ :=
  match vc.dateKeys with
  | none => 0
  | some dateKeys => if formatter.formattedFullDate date ∈ dateKeys then 1 else 0

/-- After reloading, the calendar looks up days in the shared dictionary. -/
theorem getTasks_reloadData {shared : DataManager} {vc vc' : CalendarViewController}
    (h : vc.reloadData shared = some vc') (dateString : String) :
    ∃ tasksByDate, shared.tasksByDate = some tasksByDate ∧
      vc'.getTasks dateString = tasksByDate.lookup dateString := by
  unfold reloadData at h
  cases hdate : vc.selectedDate with
  | none => simp [hdate] at h
  | some selectedDate =>
      cases hshared : shared.tasksByDate with
      | none => simp [hdate, hshared] at h
      | some tasksByDate =>
          refine ⟨tasksByDate, rfl, ?_⟩
          simp only [hdate, hshared, Option.bind_eq_bind, Option.bind_some, Option.pure_def,
            Option.some.injEq] at h
          rw [← h]
          rfl

end CalendarViewController

/-! ## The state of the app -/

/-- What the user sees. The panel to add or edit a task lies over the Tasks tab. -/
inductive Screen where
  | launching
  | tasks
  | panel (editTask : Option ObjectID)
  | completed
  | calendar
  deriving DecidableEq, Repr

/-- A scheduled checkbox block, with the task it captured. -/
inductive Block where
  | tasks (task : Option ObjectID)
  | completed (task : Option ObjectID)
  deriving DecidableEq, Repr

structure AppState where
  context : ManagedObjectContext
  shared : DataManager
  tasksVC : TaskViewController
  -- what the Completed tab inherits
  completedVC : TaskViewController
  completedTasks : Option (List ObjectID)
  calendarVC : CalendarViewController
  blocks : List Block
  screen : Screen

namespace AppState

def tasksTab (s : AppState) : TasksTab :=
  ⟨s.context, s.shared, s.tasksVC⟩

def withTasksTab (s : AppState) (tab : TasksTab) : AppState :=
  { s with context := tab.context, shared := tab.shared, tasksVC := tab.vc }

def completedTab (s : AppState) : CompletedTab :=
  ⟨⟨s.context, s.shared, s.completedVC⟩, s.completedTasks⟩

def withCompletedTab (s : AppState) (tab : CompletedTab) : AppState :=
  { s with
    context := tab.context
    shared := tab.shared
    completedVC := tab.vc
    completedTasks := tab.completedTasks }

@[simp] theorem withTasksTab_self (s : AppState) :
    s.withTasksTab ⟨s.context, s.shared, s.tasksVC⟩ = s := rfl

/-- The app has started over what was stored, on the day `today`. -/
def launch (formatter : DateFormatter) (context : ManagedObjectContext) (today : Date) :
    AppState where
  context := context
  shared := ⟨none⟩
  tasksVC := ⟨none, ∅⟩
  completedVC := ⟨none, ∅⟩
  completedTasks := none
  calendarVC := ⟨none, none, some (formatter.formattedFullDate today), none⟩
  blocks := []
  screen := .launching

end AppState

/-! ## Adding and editing -/

/-- Presenting the panel for a task reads `editTask.dueDate!` and `editTask.title!`. -/
def AppState.presentEdit (task : ObjectID) (s : AppState) : Option AppState := do
  let attributes ← s.context.task task
  let _ ← attributes.dueDate
  let _ ← attributes.title
  return { s with screen := .panel (some task) }

theorem AppState.eq_of_presentEdit {task : ObjectID} {s s' : AppState}
    (h : s.presentEdit task = some s') : s' = { s with screen := .panel (some task) } := by
  rcases Option.bind_eq_some_iff.1 h with ⟨attributes, _, h⟩
  rcases Option.bind_eq_some_iff.1 h with ⟨_, _, h⟩
  rcases Option.bind_eq_some_iff.1 h with ⟨_, _, h⟩
  exact (Option.some.inj h).symm

/-- The handler of the grid's edit action for a row. -/
def AppState.gridEdit (row : ℕ) (s : AppState) : Option AppState :=
  match s.tasksVC.tasks with
  | none => some s
  | some tasks =>
      match tasks[row]? with
      | none => none
      | some task => s.presentEdit task

/-- The handler of the list's edit action; without a group the panel is presented for a new task. -/
def AppState.listEdit (section_ row : ℕ) (s : AppState) : Option AppState :=
  match s.tasksVC.cellForRowAt section_ row with
  | none => none
  | some none => some { s with screen := .panel none }
  | some (some task) => s.presentEdit task

/-- The grid's edit action presents the panel, or does nothing without an array. -/
theorem AppState.gridEdit_cases {row : ℕ} {s s' : AppState} (h : s.gridEdit row = some s') :
    s' = s ∨ ∃ editTask, s' = { s with screen := .panel editTask } := by
  unfold AppState.gridEdit at h
  split at h
  · exact Or.inl (Option.some.inj h).symm
  split at h
  · cases h
  · exact Or.inr ⟨_, AppState.eq_of_presentEdit h⟩

theorem AppState.listEdit_cases {section_ row : ℕ} {s s' : AppState}
    (h : s.listEdit section_ row = some s') :
    ∃ editTask, s' = { s with screen := .panel editTask } := by
  unfold AppState.listEdit at h
  split at h
  · cases h
  · exact ⟨none, (Option.some.inj h).symm⟩
  · exact ⟨_, AppState.eq_of_presentEdit h⟩

/-- `AddTaskViewController.saveTask(_:)` with the delegate's `didAddTask` or `didEditTask`. The
panel goes away later. -/
def AppState.saveTask (title : String) (dueDate : Date) (editTask : Option ObjectID)
    (s : AppState) : AppState :=
  if title = "" then s
  else
    match editTask with
    | some task =>
        { s with
          context :=
            s.context.modify task ({ · with title := some title, dueDate := some dueDate }) }
    | none =>
        { s with
          context := s.context.insert ⟨some title, some dueDate, false⟩
          tasksVC := { s.tasksVC with tasks := s.tasksVC.tasks.map (· ++ [s.context.nextID]) } }

/-! ## Steps -/

/-- The Tasks tab is on the screen and refreshes. -/
def AppState.refreshTasks (formatter : DateFormatter) (fetched : Option (List ObjectID))
    (s : AppState) : AppState :=
  { s.withTasksTab (s.tasksTab.refreshData formatter fetched) with screen := .tasks }

/-- What can happen. An event with fetches carries their answers; `none` is an error. -/
inductive AppEvent where
  | showTasks (fetched : Option (List ObjectID))
  | showCompleted (fetched fetched' : Option (List ObjectID))
  | showCalendar
  | viewTypeChanged (fetched : Option (List ObjectID))
  | addTask
  | gridEdit (row : ℕ)
  | listEdit (section_ row : ℕ)
  | saveTask (title : String) (dueDate : Date)
  | panelDismissed (fetched : Option (List ObjectID))
  | tapTask (row : ℕ)
  | gridDelete (row : ℕ)
  | listDelete (section_ row : ℕ) (fetched : Option (List ObjectID))
  | tapCompleted (row : ℕ)
  | setIncomplete (row : ℕ)
  | deleteCompleted (row : ℕ)
  | clearCompleted (saved : Bool) (fetched : Option (List ObjectID))
  | search (text : String) (fetched : Option (List ObjectID))
  | clearSearch (fetched : Option (List ObjectID))
  | selectDate (date : Date)
  | runBlock
  deriving DecidableEq

namespace AppState

variable (formatter : DateFormatter)

/-- What each event does; `none` means that it cannot happen on this screen, or traps. -/
def step (s : AppState) : AppEvent → Option AppState
  | .showTasks fetched =>
      match s.screen with
      | .panel _ => none
      | _ => some (s.refreshTasks formatter fetched)
  | .showCompleted fetched fetched' =>
      match s.screen with
      | .panel _ => none
      | .launching => none
      | _ =>
          some { s.withCompletedTab (s.completedTab.viewDidAppear formatter fetched fetched') with
            screen := .completed }
  | .showCalendar =>
      match s.screen with
      | .panel _ => none
      | .launching => none
      | _ => do
          let calendarVC ← s.calendarVC.reloadData s.shared
          return { s with calendarVC := calendarVC, screen := .calendar }
  | .viewTypeChanged fetched =>
      if s.screen = .tasks then some (s.refreshTasks formatter fetched) else none
  | .addTask => if s.screen = .tasks then some { s with screen := .panel none } else none
  | .gridEdit row => if s.screen = .tasks then s.gridEdit row else none
  | .listEdit section_ row => if s.screen = .tasks then s.listEdit section_ row else none
  | .saveTask title dueDate =>
      match s.screen with
      | .panel editTask => some (s.saveTask title dueDate editTask)
      | _ => none
  | .panelDismissed fetched =>
      match s.screen with
      | .panel _ => some (s.refreshTasks formatter fetched)
      | _ => none
  | .tapTask row =>
      if s.screen = .tasks then do
        let (tab, task) ← s.tasksTab.toggleCheckbox row
        return { s.withTasksTab tab with blocks := s.blocks ++ [.tasks task] }
      else none
  | .gridDelete row =>
      if s.screen = .tasks then do
        let tab ← s.tasksTab.createDeleteAction formatter row
        return s.withTasksTab tab
      else none
  | .listDelete section_ row fetched =>
      if s.screen = .tasks then do
        let tab ← s.tasksTab.deleteAction formatter fetched section_ row
        return s.withTasksTab tab
      else none
  | .tapCompleted row =>
      if s.screen = .completed then do
        let (tab, task) ← s.completedTab.toggleCheckbox row
        return { s.withCompletedTab tab with blocks := s.blocks ++ [.completed task] }
      else none
  | .setIncomplete row =>
      if s.screen = .completed then do
        let tab ← s.completedTab.createEditAction row
        return s.withCompletedTab tab
      else none
  | .deleteCompleted row =>
      if s.screen = .completed then do
        let tab ← s.completedTab.createDeleteAction row
        return s.withCompletedTab tab
      else none
  | .clearCompleted saved fetched =>
      if s.screen = .completed then
        some (s.withCompletedTab (s.completedTab.deleteCompletedTasks saved fetched))
      else none
  | .search text fetched =>
      if s.screen = .completed then
        some (if text = "" then s else s.withCompletedTab (s.completedTab.loadTasks fetched))
      else none
  | .clearSearch fetched =>
      if s.screen = .completed then some (s.withCompletedTab (s.completedTab.loadTasks fetched))
      else none
  | .selectDate date =>
      if s.screen = .calendar then
        some { s with calendarVC := s.calendarVC.didSelect formatter date }
      else none
  | .runBlock =>
      match s.blocks with
      | [] => none
      | .tasks task :: blocks =>
          some { s.withTasksTab (s.tasksTab.checkboxBlock task) with blocks := blocks }
      | .completed task :: blocks =>
          some { s.withCompletedTab (s.completedTab.checkboxBlock task) with blocks := blocks }

end AppState

/-- What a step does, with the guards it has passed. -/
inductive AppState.Does (formatter : DateFormatter) (s : AppState) :
    AppEvent → AppState → Prop where
  | showTasks {fetched : Option (List ObjectID)} :
      (∀ editTask, s.screen ≠ .panel editTask) →
      Does formatter s (.showTasks fetched) (s.refreshTasks formatter fetched)
  | showCompleted {fetched fetched' : Option (List ObjectID)} :
      (∀ editTask, s.screen ≠ .panel editTask) → s.screen ≠ .launching →
      Does formatter s (.showCompleted fetched fetched')
        { s.withCompletedTab (s.completedTab.viewDidAppear formatter fetched fetched') with
          screen := .completed }
  | showCalendar {calendarVC : CalendarViewController} :
      (∀ editTask, s.screen ≠ .panel editTask) → s.screen ≠ .launching →
      s.calendarVC.reloadData s.shared = some calendarVC →
      Does formatter s .showCalendar { s with calendarVC := calendarVC, screen := .calendar }
  | viewTypeChanged {fetched : Option (List ObjectID)} :
      s.screen = .tasks →
      Does formatter s (.viewTypeChanged fetched) (s.refreshTasks formatter fetched)
  | addTask : s.screen = .tasks → Does formatter s .addTask { s with screen := .panel none }
  -- the grid's edit action does nothing while there is no array
  | noEdit {row : ℕ} : s.screen = .tasks → Does formatter s (.gridEdit row) s
  | gridEdit {row : ℕ} {editTask : Option ObjectID} :
      s.screen = .tasks → Does formatter s (.gridEdit row) { s with screen := .panel editTask }
  | listEdit {section_ row : ℕ} {editTask : Option ObjectID} :
      s.screen = .tasks →
      Does formatter s (.listEdit section_ row) { s with screen := .panel editTask }
  | saveTask {title : String} {dueDate : Date} {editTask : Option ObjectID} :
      s.screen = .panel editTask →
      Does formatter s (.saveTask title dueDate) (s.saveTask title dueDate editTask)
  | panelDismissed {fetched : Option (List ObjectID)} {editTask : Option ObjectID} :
      s.screen = .panel editTask →
      Does formatter s (.panelDismissed fetched) (s.refreshTasks formatter fetched)
  | tapTask {row : ℕ} {tab : TasksTab} {task : Option ObjectID} :
      s.screen = .tasks → s.tasksTab.toggleCheckbox row = some (tab, task) →
      Does formatter s (.tapTask row)
        { s.withTasksTab tab with blocks := s.blocks ++ [.tasks task] }
  | gridDelete {row : ℕ} {tab : TasksTab} :
      s.screen = .tasks → s.tasksTab.createDeleteAction formatter row = some tab →
      Does formatter s (.gridDelete row) (s.withTasksTab tab)
  | listDelete {section_ row : ℕ} {fetched : Option (List ObjectID)} {tab : TasksTab} :
      s.screen = .tasks → s.tasksTab.deleteAction formatter fetched section_ row = some tab →
      Does formatter s (.listDelete section_ row fetched) (s.withTasksTab tab)
  | tapCompleted {row : ℕ} {tab : CompletedTab} {task : Option ObjectID} :
      s.screen = .completed → s.completedTab.toggleCheckbox row = some (tab, task) →
      Does formatter s (.tapCompleted row)
        { s.withCompletedTab tab with blocks := s.blocks ++ [.completed task] }
  | setIncomplete {row : ℕ} {tab : CompletedTab} :
      s.screen = .completed → s.completedTab.createEditAction row = some tab →
      Does formatter s (.setIncomplete row) (s.withCompletedTab tab)
  | deleteCompleted {row : ℕ} {tab : CompletedTab} :
      s.screen = .completed → s.completedTab.createDeleteAction row = some tab →
      Does formatter s (.deleteCompleted row) (s.withCompletedTab tab)
  | clearCompleted {saved : Bool} {fetched : Option (List ObjectID)} :
      s.screen = .completed →
      Does formatter s (.clearCompleted saved fetched)
        (s.withCompletedTab (s.completedTab.deleteCompletedTasks saved fetched))
  | noSearch {fetched : Option (List ObjectID)} :
      s.screen = .completed → Does formatter s (.search "" fetched) s
  | search {text : String} {fetched : Option (List ObjectID)} :
      s.screen = .completed → text ≠ "" →
      Does formatter s (.search text fetched)
        (s.withCompletedTab (s.completedTab.loadTasks fetched))
  | clearSearch {fetched : Option (List ObjectID)} :
      s.screen = .completed →
      Does formatter s (.clearSearch fetched)
        (s.withCompletedTab (s.completedTab.loadTasks fetched))
  | selectDate {date : Date} :
      s.screen = .calendar →
      Does formatter s (.selectDate date)
        { s with calendarVC := s.calendarVC.didSelect formatter date }
  | tasksBlock {task : Option ObjectID} {blocks : List Block} :
      s.blocks = .tasks task :: blocks →
      Does formatter s .runBlock
        { s.withTasksTab (s.tasksTab.checkboxBlock task) with blocks := blocks }
  | completedBlock {task : Option ObjectID} {blocks : List Block} :
      s.blocks = .completed task :: blocks →
      Does formatter s .runBlock
        { s.withCompletedTab (s.completedTab.checkboxBlock task) with blocks := blocks }

/-- Nothing else happens. -/
theorem AppState.does_of_step {formatter : DateFormatter} {s s' : AppState} {e : AppEvent}
    (h : s.step formatter e = some s') : s.Does formatter e s' := by
  cases e with
  | showTasks fetched =>
      simp only [AppState.step] at h
      split at h <;> cases h
      rename_i hpanel
      exact .showTasks hpanel
  | showCompleted fetched fetched' =>
      simp only [AppState.step] at h
      split at h <;> cases h
      rename_i hpanel hlaunching
      exact .showCompleted hpanel hlaunching
  | showCalendar =>
      simp only [AppState.step] at h
      split at h
      · cases h
      · cases h
      · rename_i hpanel hlaunching
        rcases Option.bind_eq_some_iff.1 h with ⟨calendarVC, hreload, h⟩
        cases h
        exact .showCalendar hpanel hlaunching hreload
  | viewTypeChanged fetched =>
      obtain ⟨hscreen, h⟩ := Option.ite_none_right_eq_some.1 h
      cases h
      exact .viewTypeChanged hscreen
  | addTask =>
      obtain ⟨hscreen, h⟩ := Option.ite_none_right_eq_some.1 h
      cases h
      exact .addTask hscreen
  | gridEdit row =>
      obtain ⟨hscreen, h⟩ := Option.ite_none_right_eq_some.1 h
      rcases AppState.gridEdit_cases h with rfl | ⟨editTask, rfl⟩
      · exact .noEdit hscreen
      · exact .gridEdit hscreen
  | listEdit section_ row =>
      obtain ⟨hscreen, h⟩ := Option.ite_none_right_eq_some.1 h
      rcases AppState.listEdit_cases h with ⟨editTask, rfl⟩
      exact .listEdit hscreen
  | saveTask title dueDate =>
      simp only [AppState.step] at h
      split at h <;> cases h
      rename_i hscreen
      exact .saveTask hscreen
  | panelDismissed fetched =>
      simp only [AppState.step] at h
      split at h <;> cases h
      rename_i hscreen
      exact .panelDismissed hscreen
  | tapTask row =>
      obtain ⟨hscreen, h⟩ := Option.ite_none_right_eq_some.1 h
      rcases Option.bind_eq_some_iff.1 h with ⟨⟨tab, task⟩, htap, h⟩
      cases h
      exact .tapTask hscreen htap
  | gridDelete row =>
      obtain ⟨hscreen, h⟩ := Option.ite_none_right_eq_some.1 h
      rcases Option.bind_eq_some_iff.1 h with ⟨tab, hdelete, h⟩
      cases h
      exact .gridDelete hscreen hdelete
  | listDelete section_ row fetched =>
      obtain ⟨hscreen, h⟩ := Option.ite_none_right_eq_some.1 h
      rcases Option.bind_eq_some_iff.1 h with ⟨tab, hdelete, h⟩
      cases h
      exact .listDelete hscreen hdelete
  | tapCompleted row =>
      obtain ⟨hscreen, h⟩ := Option.ite_none_right_eq_some.1 h
      rcases Option.bind_eq_some_iff.1 h with ⟨⟨tab, task⟩, htap, h⟩
      cases h
      exact .tapCompleted hscreen htap
  | setIncomplete row =>
      obtain ⟨hscreen, h⟩ := Option.ite_none_right_eq_some.1 h
      rcases Option.bind_eq_some_iff.1 h with ⟨tab, hmenu, h⟩
      cases h
      exact .setIncomplete hscreen hmenu
  | deleteCompleted row =>
      obtain ⟨hscreen, h⟩ := Option.ite_none_right_eq_some.1 h
      rcases Option.bind_eq_some_iff.1 h with ⟨tab, hmenu, h⟩
      cases h
      exact .deleteCompleted hscreen hmenu
  | clearCompleted saved fetched =>
      obtain ⟨hscreen, h⟩ := Option.ite_none_right_eq_some.1 h
      cases h
      exact .clearCompleted hscreen
  | search text fetched =>
      obtain ⟨hscreen, h⟩ := Option.ite_none_right_eq_some.1 h
      cases h
      by_cases htext : text = ""
      · subst htext
        exact .noSearch hscreen
      · rw [if_neg htext]
        exact .search hscreen htext
  | clearSearch fetched =>
      obtain ⟨hscreen, h⟩ := Option.ite_none_right_eq_some.1 h
      cases h
      exact .clearSearch hscreen
  | selectDate date =>
      obtain ⟨hscreen, h⟩ := Option.ite_none_right_eq_some.1 h
      cases h
      exact .selectDate hscreen
  | runBlock =>
      simp only [AppState.step] at h
      split at h <;> cases h
      · rename_i hblocks
        exact .tasksBlock hblocks
      · rename_i hblocks
        exact .completedBlock hblocks

/-- The answers fit the context the fetches are made in. `contains` is the predicate
`title CONTAINS[cd] %@` of the search. -/
def AppEvent.Answered (contains : Option String → String → Prop) (context : ManagedObjectContext) :
    AppEvent → Prop
  | .showTasks fetched | .viewTypeChanged fetched | .panelDismissed fetched
  | .listDelete _ _ fetched =>
      ∀ tasks, fetched = some tasks → context.IsFetchByDueDate false tasks
  | .showCompleted fetched fetched' =>
      (∀ tasks, fetched = some tasks → context.IsFetch true tasks) ∧
        ∀ tasks, fetched' = some tasks → context.IsFetch true tasks
  | .clearCompleted _ fetched | .clearSearch fetched =>
      ∀ tasks, fetched = some tasks → context.IsFetch true tasks
  | .search text fetched =>
      ∀ tasks, fetched = some tasks → tasks.Nodup ∧ ∀ id, id ∈ tasks ↔
        context.Marked true id ∧ ∀ task, context.task id = some task → contains task.title text
  | _ => True

/-- One step of the app. Every fetch is made in the context the step ends with. -/
def AppStep (formatter : DateFormatter) (contains : Option String → String → Prop) (s : AppState)
    (e : AppEvent) (s' : AppState) : Prop :=
  s.step formatter e = some s' ∧ e.Answered contains s'.context

end TaskMaster
end IosProjects
