import IosProjects.TaskMaster.GridRows
import IosProjects.TaskMaster.Tables

/-!
# GridCells — what the cells of the two grids show

A cell is set up with a task when it comes onto the screen and when its grid is reloaded; after that
it keeps what it was given, and a cell that is used again keeps what the new task does not set. The
attributes of a task change elsewhere: in the panel, by the checkbox, in the menus. So that what a
grid shows is what is stored rests on every handler reloading the grid it leaves on the screen. A
row of a task that has been deleted is left only where the fetch after the deletion has failed.
-/

namespace IosProjects
namespace TaskMaster

open IosProjects.Library

universe u

/-! ## `TaskCollectionViewCell` -/

/-- What a cell is drawn with: `DateHelper.formattedDate(from:)`, `UIColor(hexString:)`,
`ContrastColorOf(_:returnFlat:)` and the `taskColor` of each task, which is assigned once, before
the task is saved. -/
structure CellStyle (κ : Type u) where
  formattedDate : Date → String
  color : String → Option κ
  contrastColor : κ → κ
  taskColor : ObjectID → String

/-- The picture on the checkbox: a symbol and its tint. -/
structure CheckboxImage (κ : Type u) where
  name : String
  tint : κ
  deriving DecidableEq, Repr

structure TaskCollectionViewCell (κ : Type u) where
  taskLabel : Option String
  taskColor : Option κ
  dateLabel : Option String
  dateColor : Option κ
  backgroundColor : Option κ
  checkboxButton : Option (CheckboxImage κ)
  deriving DecidableEq, Repr

namespace TaskCollectionViewCell

variable {κ : Type u} (style : CellStyle κ)

/-- `setup(with:)`. -/
def setup (id : ObjectID) (task : Task) (cell : TaskCollectionViewCell κ) :
    TaskCollectionViewCell κ :=
  let cell := { cell with taskLabel := some (task.title.getD "No Tasks Added Yet") }
  let cell :=
    match task.dueDate with
    | some dueDate => { cell with dateLabel := some (style.formattedDate dueDate) }
    | none => cell
  match style.color (style.taskColor id) with
  -- the checkbox stays as it was
  | none => cell
  | some color =>
      let checkboxImageName := if task.isCompleted then "checkmark.circle" else "circle"
      { cell with
        taskColor := some (style.contrastColor color)
        dateColor := some (style.contrastColor color)
        backgroundColor := some color
        checkboxButton := some ⟨checkboxImageName, style.contrastColor color⟩ }

/-- The cell shows the title, the date and the check mark of the task, as far as the task has a date
and a colour. -/
structure Shows (id : ObjectID) (task : Task) (cell : TaskCollectionViewCell κ) : Prop where
  title : cell.taskLabel = some (task.title.getD "No Tasks Added Yet")
  date : ∀ dueDate, task.dueDate = some dueDate →
    cell.dateLabel = some (style.formattedDate dueDate)
  background : ∀ color, style.color (style.taskColor id) = some color →
    cell.backgroundColor = some color
  checkbox : ∀ color, style.color (style.taskColor id) = some color →
    cell.checkboxButton.map CheckboxImage.name =
      some (if task.isCompleted then "checkmark.circle" else "circle")

/-- A cell that is used again shows the new task. -/
theorem shows_setup (id : ObjectID) (task : Task) (cell : TaskCollectionViewCell κ) :
    (cell.setup style id task).Shows style id task := by
  constructor
  · unfold setup
    cases task.dueDate <;> cases style.color (style.taskColor id) <;> rfl
  · intro dueDate hdate
    unfold setup
    rw [hdate]
    cases style.color (style.taskColor id) <;> rfl
  · intro color hcolor
    unfold setup
    rw [hcolor]
  · intro color hcolor
    unfold setup
    rw [hcolor]
    rfl

end TaskCollectionViewCell

/-! ## The grids -/

/-- A grid: the title and the message of its empty view, if it is set, and a cell for each item that
is displayed. -/
structure Grid (κ : Type u) where
  backgroundView : Option (String × String)
  cells : List (Option (TaskCollectionViewCell κ))

/-- What `setEmptyView(title:message:)` is called with. -/
def Tab.emptyText : Tab → String × String
  | .tasks => ("You don't have any tasks yet!", "Click the + button to add some tasks")
  | .completed =>
      ("You don't have any completed tasks yet!", "Go back to the Tasks screen to add some tasks")

/-- The number of items of a grid. -/
def AppState.itemsOn (s : AppState) : Tab → ℕ
  | .tasks => s.tasksVC.numberOfItemsInSection
  | .completed => s.completedTab.numberOfItemsInSection

/-- Without an array there is one item, a cell that is set up with nothing. -/
theorem AppState.itemsOn_eq (s : AppState) (tab : Tab) :
    s.itemsOn tab = (s.tasksOn tab).elim 1 List.length := by
  cases tab with
  | tasks =>
      simp only [itemsOn, tasksOn, TaskViewController.numberOfItemsInSection]
      cases s.tasksVC.tasks <;> rfl
  | completed =>
      simp only [itemsOn, tasksOn, CompletedTab.numberOfItemsInSection, completedTab]
      cases s.completedTasks <;> rfl

section Grids

variable {κ : Type u} (style : CellStyle κ)

/-- `collectionView(_:cellForItemAt:)` returns the cell for a row: some cell is used again, and set
up if there is an array. Of an object that is gone any attributes may be read. -/
def CellForItem (context : ManagedObjectContext) (tasks : Option (List ObjectID)) (row : ℕ)
    (cell : TaskCollectionViewCell κ) : Prop :=
  ∀ shown, tasks = some shown → ∃ id task reused, shown[row]? = some id ∧
    (∀ stored, context.task id = some stored → task = stored) ∧
    cell = TaskCollectionViewCell.setup style id task reused

/-- The grid has been reloaded: it has asked for the number of items, and displays some of them. -/
structure Grid.Reloaded (s : AppState) (tab : Tab) (grid : Grid κ) : Prop where
  backgroundView :
    grid.backgroundView = if s.tasksOn tab = some [] then some tab.emptyText else none
  length : grid.cells.length = s.itemsOn tab
  cells : ∀ row cell, grid.cells[row]? = some (some cell) →
    CellForItem style s.context (s.tasksOn tab) row cell

/-- The app with its grids. -/
structure Grids (κ : Type u) where
  app : AppState
  grid : Tab → Grid κ

/-- The cell in a row comes onto the screen or goes off it. -/
def Grids.setCell (tab : Tab) (row : ℕ) (cell : Option (TaskCollectionViewCell κ)) (s : Grids κ) :
    Grids κ where
  app := s.app
  grid := Function.update s.grid tab
    ⟨(s.grid tab).backgroundView, (s.grid tab).cells.set row cell⟩

@[simp] theorem Grids.grid_setCell_self (tab : Tab) (row : ℕ)
    (cell : Option (TaskCollectionViewCell κ)) (s : Grids κ) :
    (s.setCell tab row cell).grid tab =
      ⟨(s.grid tab).backgroundView, (s.grid tab).cells.set row cell⟩ :=
  Function.update_self _ _ _

theorem Grids.grid_setCell_of_ne {tab tab' : Tab} (h : tab ≠ tab') (row : ℕ)
    (cell : Option (TaskCollectionViewCell κ)) (s : Grids κ) :
    (s.setCell tab' row cell).grid tab = s.grid tab :=
  Function.update_of_ne h _ _

inductive GridsEvent where
  | app (event : AppEvent)
  | display (tab : Tab) (row : ℕ)
  | endDisplaying (tab : Tab) (row : ℕ)
  deriving DecidableEq

variable (formatter : DateFormatter) (contains : Option String → String → Prop)

inductive GridsStep : Grids κ → GridsEvent → Grids κ → Prop where
  | app {s : Grids κ} {e : AppEvent} {app' : AppState} {grid' : Tab → Grid κ} :
      AppStep formatter contains s.app e app' →
      (∀ tab, if e.reloads s.app tab then (grid' tab).Reloaded style app' tab
        else grid' tab = s.grid tab) →
      GridsStep s (.app e) ⟨app', grid'⟩
  -- scrolling
  | display {s : Grids κ} {tab : Tab} {row : ℕ} {cell : TaskCollectionViewCell κ} :
      row < (s.grid tab).cells.length →
      CellForItem style s.app.context (s.app.tasksOn tab) row cell →
      GridsStep s (.display tab row) (s.setCell tab row (some cell))
  | endDisplaying {s : Grids κ} {tab : Tab} {row : ℕ} :
      GridsStep s (.endDisplaying tab row) (s.setCell tab row none)

/-- The app has started; neither grid displays anything. -/
def Grids.launch (context : ManagedObjectContext) (today : Date) : Grids κ where
  app := .launch formatter context today
  grid := fun _ => { backgroundView := none, cells := [none] }

/-- A grid reloaded into cells that have not been used before, where nothing is read of an object
that is gone. -/
def Grid.reload (blank : TaskCollectionViewCell κ) (s : AppState) (tab : Tab) : Grid κ where
  backgroundView := if s.tasksOn tab = some [] then some tab.emptyText else none
  cells :=
    match s.tasksOn tab with
    | none => [some blank]
    | some shown => shown.map fun id =>
        some (blank.setup style id ((s.context.task id).getD ⟨none, none, false⟩))

theorem Grid.reloaded_reload (blank : TaskCollectionViewCell κ) (s : AppState) (tab : Tab) :
    (Grid.reload style blank s tab).Reloaded style s tab where
  backgroundView := rfl
  length := by
    rw [AppState.itemsOn_eq, Grid.reload]
    cases s.tasksOn tab <;> simp
  cells := by
    intro row cell hcell shown hshown
    simp only [Grid.reload, hshown, List.getElem?_map, Option.map_eq_some_iff] at hcell
    rcases hcell with ⟨id, hid, hcell⟩
    obtain rfl := Option.some.inj hcell
    refine ⟨id, _, blank, hid, fun stored hstored => ?_, rfl⟩
    rw [hstored, Option.getD_some]

/-- The grids after an event of the app that reloads some of them. -/
def Grids.reload (blank : TaskCollectionViewCell κ) (e : AppEvent) (app' : AppState) (s : Grids κ) :
    Grids κ where
  app := app'
  grid := fun tab =>
    if e.reloads s.app tab then Grid.reload style blank app' tab else s.grid tab

variable {style formatter contains}

/-- Whatever the app does, the grids can follow. -/
theorem GridsStep.reload {s : Grids κ} {e : AppEvent} {app' : AppState}
    (h : AppStep formatter contains s.app e app') (blank : TaskCollectionViewCell κ) :
    GridsStep style formatter contains s (.app e) (s.reload style blank e app') := by
  refine GridsStep.app h fun tab => ?_
  by_cases hreload : e.reloads s.app tab = true
  · simpa only [hreload, if_true] using Grid.reloaded_reload style blank app' tab
  · simp only [hreload, Bool.false_eq_true, if_false]

end Grids

/-! ## What is not reloaded has not changed -/

section Steps

variable {formatter : DateFormatter} {s s' : AppState} {e : AppEvent} {tab : Tab}

/-- A grid that is on the screen and was not reloaded was there before. -/
theorem onScreen_of_step (h : s.step formatter e = some s') (hreload : e.reloads s tab = false)
    (hscreen : s'.OnScreen tab) : s.OnScreen tab := by
  rcases onScreen_or_shows h hscreen with hbefore | hshows
  · exact hbefore
  · cases (e.reloads_of_shows hshows).symm.trans hreload

/-- The change leaves the attributes of the other objects alone. -/
def ContextChange.keeps : ContextChange → Bool
  | .insert _ _ | .delete _ => true
  | _ => false

theorem task_of_perform {context : ManagedObjectContext} {changes : List ContextChange}
    (hkeeps : ∀ c ∈ changes, c.keeps = true) {id : ObjectID} (hlt : id < context.nextID)
    {task : Task} (h : (Changes.perform ContextChange.apply changes context).task id = some task) :
    context.task id = some task := by
  induction changes generalizing context with
  | nil => exact h
  | cons c changes ih =>
      have hafter := ih (fun c' hc' => hkeeps c' (List.mem_cons_of_mem c hc'))
        (hlt.trans_le c.nextID_le) h
      have hc := hkeeps c List.mem_cons_self
      cases c with
      | insert title dueDate => simpa [ContextChange.apply, hlt.ne] using hafter
      | delete deleted =>
          rw [ContextChange.apply, ManagedObjectContext.task_delete] at hafter
          exact (Option.ite_none_left_eq_some.1 hafter).2
      | assign _ _ _ => cases hc
      | toggle _ => cases hc
      | untick _ => cases hc

/-- What a step does to the context without reloading the grid on the screen: it inserts tasks or
deletes them. -/
theorem keeps_of_step (h : s.step formatter e = some s') (hreload : e.reloads s tab = false)
    (hscreen : s'.OnScreen tab) : ∀ c ∈ e.changes s, c.keeps = true := by
  intro c hc
  rcases AppEvent.changes_cases hc with
    ⟨title, dueDate, rfl⟩ | ⟨task, row, rfl, rfl | rfl⟩ | ⟨task, row, rfl, rfl⟩ | ⟨task, rfl⟩
  · cases AppState.does_of_step h with
    | @saveTask _ _ editTask hbefore =>
        obtain rfl := hscreen.eq_tasks_of_panel ((screen_saveTask _ _ _ _).trans hbefore)
        by_cases htitle : title = ""
        · simp [AppEvent.changes, htitle] at hc
        cases editTask with
        | none =>
            obtain rfl : c = .insert title dueDate := by
              simpa [AppEvent.changes, htitle, hbefore] using hc
            rfl
        | some task => simp [AppEvent.reloads, AppEvent.reloadsTasks, hbefore, htitle] at hreload
  -- a flag of the grid on the screen is set with a reload
  · cases AppState.does_of_step h with
    | tapTask hbefore _ =>
        obtain rfl := hscreen.eq_tasks hbefore
        cases hreload
  · cases AppState.does_of_step h with
    | tapCompleted hbefore _ =>
        obtain rfl := hscreen.eq_completed hbefore
        cases hreload
  · cases AppState.does_of_step h with
    | setIncomplete hbefore _ =>
        obtain rfl := hscreen.eq_completed hbefore
        have hnone : s.completedTasks = none := by
          simpa [AppEvent.reloads, AppEvent.reloadsCompleted] using hreload
        simp [AppEvent.changes, AppState.completedInRow, hnone] at hc
  · rfl

/-- The array behind a grid that is not reloaded has at most grown. -/
theorem tasksOn_of_step (h : s.step formatter e = some s') (hreload : e.reloads s tab = false)
    {shown' : List ObjectID} (hshown' : s'.tasksOn tab = some shown') :
    ∃ shown, s.tasksOn tab = some shown ∧ shown <+: shown' := by
  have hkept := AppState.step_kept h
  cases tab with
  | tasks =>
      have hgrown : Option.Rel (· <+: ·) (s.tasksOn .tasks) (s'.tasksOn .tasks) :=
        (hkept.tasks hreload).tasks
      rwa [hshown', rel_some_right] at hgrown
  | completed => exact ⟨shown', (hkept.completed hreload).symm.trans hshown', List.prefix_rfl⟩

/-- Where nothing lies over the grid, its array has not grown either: a task is only inserted in the
panel. -/
theorem tasksOn_eq_of_step (h : s.step formatter e = some s') (hreload : e.reloads s tab = false)
    (hscreen : s'.screen = tab.screen) :
    s.screen = tab.screen ∧ s'.tasksOn tab = s.tasksOn tab := by
  cases tab with
  | completed =>
      have hbefore : s.OnScreen .completed := onScreen_of_step h hreload hscreen
      exact ⟨hbefore, (AppState.step_kept h).completed hreload⟩
  | tasks =>
      cases AppState.does_of_step h with
      | showTasks _ => cases hreload
      | viewTypeChanged _ => cases hreload
      | panelDismissed _ => cases hreload
      | tapTask _ _ => cases hreload
      | saveTask hbefore =>
          rw [screen_saveTask] at hscreen
          cases hbefore.symm.trans hscreen
      | gridDelete hbefore hdelete =>
          rcases TasksTab.createDeleteAction_cases hdelete with
            ⟨rfl, -⟩ | ⟨tasks, task, htasks, hrow, hdue, -⟩
          · exact ⟨hbefore, rfl⟩
          · have hcell : s.tasksVC.cellForItemAt _ = some (some task) :=
              TaskViewController.cellForItemAt_eq.2 ⟨tasks, htasks, hrow⟩
            have hnone : (s.context.dueDate task).isSome = false := by
              simpa only [AppEvent.reloads, AppEvent.reloadsTasks, hcell] using hreload
            cases hdue.symm.trans hnone
      | listDelete hbefore hdelete =>
          rcases TasksTab.deleteAction_cases hdelete with ⟨rfl, -⟩ | ⟨task, hcell, -⟩
          · exact ⟨hbefore, rfl⟩
          · have hcell' : s.tasksVC.cellForRowAt _ _ = some (some task) := hcell
            simp [AppEvent.reloads, AppEvent.reloadsTasks, hcell'] at hreload
      | @tasksBlock task _ hblocks =>
          have hnone : ((s.tasksVC.tasks.getD []).any fun shown => some shown = task) = false := by
            simpa only [AppEvent.reloads, AppEvent.reloadsTasks, hblocks] using hreload
          exact ⟨hscreen, removeToggled_of_not_any hnone⟩
      | noEdit hbefore => exact ⟨hbefore, rfl⟩
      | completedBlock _ => exact ⟨hscreen, rfl⟩
      -- the others belong to another screen
      | showCompleted _ _ => cases hscreen
      | showCalendar _ _ _ => cases hscreen
      | addTask _ => cases hscreen
      | gridEdit _ => cases hscreen
      | listEdit _ => cases hscreen
      | tapCompleted hbefore _ => cases hbefore.symm.trans hscreen
      | setIncomplete hbefore _ => cases hbefore.symm.trans hscreen
      | deleteCompleted hbefore _ => cases hbefore.symm.trans hscreen
      | clearCompleted hbefore => cases hbefore.symm.trans hscreen
      | search hbefore _ => cases hbefore.symm.trans hscreen
      | noSearch hbefore => cases hbefore.symm.trans hscreen
      | clearSearch hbefore => cases hbefore.symm.trans hscreen
      | selectDate hbefore => cases hbefore.symm.trans hscreen

end Steps

/-! ## Every cell is current -/

section Current

variable {κ : Type u} {style : CellStyle κ} {formatter : DateFormatter}
  {contains : Option String → String → Prop} {s t : Grids κ} {e : GridsEvent} {tab : Tab}

/-- The cell in a row is of the task that the row has now, and shows it as it is stored now. -/
def CellCurrent (style : CellStyle κ) (s : AppState) (tab : Tab) (row : ℕ)
    (cell : TaskCollectionViewCell κ) : Prop :=
  ∀ shown, s.tasksOn tab = some shown → ∃ id, shown[row]? = some id ∧
    ∀ task, s.context.task id = some task → cell.Shows style id task

theorem CellForItem.current {a : AppState} {row : ℕ} {cell : TaskCollectionViewCell κ}
    (h : CellForItem style a.context (a.tasksOn tab) row cell) :
    CellCurrent style a tab row cell := by
  intro shown hshown
  rcases h shown hshown with ⟨id, task, reused, hrow, hstored, rfl⟩
  refine ⟨id, hrow, fun stored htask => ?_⟩
  obtain rfl := hstored stored htask
  exact TaskCollectionViewCell.shows_setup style id task reused

theorem CellCurrent.step {a a' : AppState} {ev : AppEvent} {row : ℕ}
    {cell : TaskCollectionViewCell κ} (hcell : CellCurrent style a tab row cell) (hknown : Known a)
    (h : a.step formatter ev = some a') (hreload : ev.reloads a tab = false)
    (hscreen : a'.OnScreen tab) : CellCurrent style a' tab row cell := by
  intro shown' hshown'
  rcases tasksOn_of_step h hreload hshown' with ⟨shown, hshown, hprefix⟩
  rcases hcell shown hshown with ⟨id, hrow, hshows⟩
  have hrow' : shown'[row]? = some id := by
    rcases hprefix with ⟨more, rfl⟩
    rw [List.getElem?_append_left (List.getElem?_eq_some_iff.1 hrow).1, hrow]
  refine ⟨id, hrow', fun task htask => hshows task ?_⟩
  -- the object has not been inserted by the step
  have hlt := hknown tab shown hshown id (List.mem_of_getElem? hrow)
  rw [AppState.context_of_step h] at htask
  exact task_of_perform (keeps_of_step h hreload hscreen) hlt htask

/-- What a grid shows is current while the user sees it: every cell, and whether it says that there
are no tasks. What is saved in the panel is not shown before the panel goes. -/
structure Current (style : CellStyle κ) (tab : Tab) (s : Grids κ) : Prop where
  cells : s.app.OnScreen tab → ∀ row cell, (s.grid tab).cells[row]? = some (some cell) →
    CellCurrent style s.app tab row cell
  emptyView : s.app.OnScreen tab →
    (s.grid tab).backgroundView = if (s.grid tab).cells = [] then some tab.emptyText else none
  length : s.app.screen = tab.screen → (s.grid tab).cells.length = s.app.itemsOn tab

/-- Where no panel lies over the grid, it says that there are no tasks when the array is empty. -/
theorem Current.backgroundView (h : Current style tab s) (hscreen : s.app.screen = tab.screen) :
    (s.grid tab).backgroundView =
      if s.app.tasksOn tab = some [] then some tab.emptyText else none := by
  have hon : s.app.OnScreen tab := by
    cases tab with
    | tasks => exact Or.inl hscreen
    | completed => exact hscreen
  have hlength := h.length hscreen
  rw [AppState.itemsOn_eq] at hlength
  have hempty : (s.grid tab).cells = [] ↔ s.app.tasksOn tab = some [] := by
    rw [← List.length_eq_zero_iff, hlength]
    cases s.app.tasksOn tab <;> simp
  simp only [h.emptyView hon, hempty]

/-- Displaying a cell in a row, or taking it off, changes that row only. -/
theorem Current.setCell (h : Current style tab s) {tab' : Tab} {row : ℕ}
    {new : Option (TaskCollectionViewCell κ)}
    (hnew : ∀ cell, new = some cell → CellCurrent style s.app tab' row cell) :
    Current style tab (s.setCell tab' row new) := by
  by_cases htab : tab = tab'
  · subst htab
    refine ⟨fun hscreen row' cell hcell => ?_, fun hscreen => ?_, fun hscreen => ?_⟩
    · rw [Grids.grid_setCell_self] at hcell
      by_cases hrow : row = row'
      · subst hrow
        rcases List.getElem?_eq_some_iff.1 hcell with ⟨hlt, hget⟩
        rw [List.getElem_set_self] at hget
        exact hnew cell hget
      · rw [List.getElem?_set_ne hrow] at hcell
        exact h.cells hscreen row' cell hcell
    · rw [Grids.grid_setCell_self]
      simpa only [List.set_eq_nil_iff] using h.emptyView hscreen
    · rw [Grids.grid_setCell_self, List.length_set]
      exact h.length hscreen
  · constructor
    · rw [Grids.grid_setCell_of_ne htab]
      exact h.cells
    · rw [Grids.grid_setCell_of_ne htab]
      exact h.emptyView
    · rw [Grids.grid_setCell_of_ne htab]
      exact h.length

theorem Grid.Reloaded.current {a : AppState} {grid : Tab → Grid κ}
    (h : (grid tab).Reloaded style a tab) : Current style tab ⟨a, grid⟩ where
  cells := fun _ row cell hcell => (h.cells row cell hcell).current
  emptyView := by
    intro _
    have hempty : (grid tab).cells = [] ↔ a.tasksOn tab = some [] := by
      rw [← List.length_eq_zero_iff, h.length, AppState.itemsOn_eq]
      cases a.tasksOn tab <;> simp
    simp only [h.backgroundView, hempty]
  length := fun _ => h.length

theorem Current.step (h : Current style tab s) (hknown : Known s.app)
    (hstep : GridsStep style formatter contains s e t) : Current style tab t := by
  cases hstep with
  | @app ev app' grid' happ hgrid =>
      have hgrid := hgrid tab
      split at hgrid
      · exact hgrid.current
      · rename_i hreload
        have hreload : ev.reloads s.app tab = false := Bool.eq_false_of_not_eq_true hreload
        refine ⟨fun hscreen row cell hcell => ?_, fun hscreen => ?_, fun hscreen => ?_⟩
        · have hbefore := h.cells (onScreen_of_step happ.1 hreload hscreen) row cell (hgrid ▸ hcell)
          exact hbefore.step hknown happ.1 hreload hscreen
        · have hbefore := h.emptyView (onScreen_of_step happ.1 hreload hscreen)
          rwa [← hgrid] at hbefore
        · rcases tasksOn_eq_of_step happ.1 hreload hscreen with ⟨hscreen, htasks⟩
          have hbefore := h.length hscreen
          rwa [← hgrid, AppState.itemsOn_eq, ← htasks, ← AppState.itemsOn_eq] at hbefore
  | display _ hcell =>
      refine h.setCell fun cell hnew => ?_
      obtain rfl := Option.some.inj hnew
      exact hcell.current
  | endDisplaying => exact h.setCell fun _ hnew => by cases hnew

/-- Nothing is on the screen when the app starts. -/
theorem current_launch (context : ManagedObjectContext) (today : Date) :
    Current style tab (.launch formatter context today) := by
  have hoff : ¬ (AppState.launch formatter context today).OnScreen tab := by
    cases tab with
    | tasks => rintro (hscreen | ⟨_, hscreen⟩) <;> cases hscreen
    | completed => exact fun hscreen => by cases hscreen
  refine ⟨fun hscreen => absurd hscreen hoff, fun hscreen => absurd hscreen hoff, ?_⟩
  cases tab <;> exact fun hscreen => by cases hscreen

/-- What the event brings onto the screen or deletes is loaded again. -/
def GridsEvent.loads (tab : Tab) : GridsEvent → Bool
  | .app e => e.loads tab
  | _ => true

/-- The step of the app, if it is one. -/
theorem GridsStep.app_or_eq (h : GridsStep style formatter contains s e t) :
    (∃ ev, e = .app ev ∧ AppStep formatter contains s.app ev t.app) ∨ t.app = s.app := by
  cases h with
  | app happ _ => exact Or.inl ⟨_, rfl, happ⟩
  | display _ _ => exact Or.inr rfl
  | endDisplaying => exact Or.inr rfl

section Runs

variable {context : ManagedObjectContext} {today : Date} {es : List GridsEvent}

theorem known_current_of_run
    (hrun : Run (GridsStep style formatter contains) (.launch formatter context today) es t) :
    Known t.app ∧ Current style tab t := by
  refine hrun.invariant (P := fun s => Known s.app ∧ Current style tab s) (fun s e t h hstep => ?_)
    ⟨known_launch context today, current_launch context today⟩
  refine ⟨?_, h.2.step h.1 hstep⟩
  rcases hstep.app_or_eq with ⟨ev, -, happ⟩ | hsame
  · exact h.1.step happ
  · exact hsame ▸ h.1

theorem rowsExist_of_run
    (hrun : Run (GridsStep style formatter contains) (.launch formatter context today) es t)
    (hloads : ∀ e ∈ es, e.loads tab = true) : t.app.OnScreen tab → RowsExist t.app tab := by
  have hboth : Known t.app ∧ (t.app.OnScreen tab → RowsExist t.app tab) := by
    refine hrun.invariant_along
      (P := fun s => Known s.app ∧ (s.app.OnScreen tab → RowsExist s.app tab))
      (Q := fun _ e _ => e.loads tab = true) (fun s e t h hloads hstep => ?_)
      (Along.of_events hloads) ⟨known_launch context today, ?_⟩
    · rcases hstep.app_or_eq with ⟨ev, rfl, happ⟩ | hsame
      · exact ⟨h.1.step happ, rowsExist_step h.1 h.2 hloads happ⟩
      · exact hsame ▸ h
    · cases tab with
      | tasks => rintro (hscreen | ⟨_, hscreen⟩) <;> cases hscreen
      | completed => exact fun hscreen => by cases hscreen
  exact hboth.2

/-- In every run, every cell of the grid on the screen is of the task that is now in its row and
shows its title, date and check mark as they are stored, unless it has been deleted. The grid says
that there are no tasks exactly when it has no items, and with no panel over it exactly when the
array is empty. While what is brought onto the screen or deleted is loaded again, the task of every
cell is stored. -/
theorem grids_show_current
    (hrun : Run (GridsStep style formatter contains) (.launch formatter context today) es t)
    (tab : Tab) :
    Current style tab t ∧
      (t.app.screen = tab.screen → (t.grid tab).backgroundView =
        if t.app.tasksOn tab = some [] then some tab.emptyText else none) ∧
      ((∀ e ∈ es, e.loads tab = true) → t.app.OnScreen tab →
        ∀ (row : ℕ) (cell : TaskCollectionViewCell κ), (t.grid tab).cells[row]? = some (some cell) →
          ∃ tasks id task, t.app.tasksOn tab = some tasks ∧ tasks[row]? = some id ∧
            t.app.context.task id = some task ∧ cell.Shows style id task) := by
  have hcurrent : Current style tab t := (known_current_of_run hrun).2
  refine ⟨hcurrent, hcurrent.backgroundView, fun hloads hscreen row cell hcell => ?_⟩
  obtain ⟨tasks, htasks, -, hexist⟩ := rowsExist_of_run hrun hloads hscreen
  obtain ⟨id, hrow, hshows⟩ := hcurrent.cells hscreen row cell hcell tasks htasks
  obtain ⟨task, htask⟩ := Option.isSome_iff_exists.1 (hexist id (List.mem_of_getElem? hrow))
  exact ⟨tasks, id, task, htasks, hrow, htask, hshows task htask⟩

end Runs

end Current

/-! ## An example -/

/-- Colours by name; days without the name of the weekday. -/
def sampleStyle : CellStyle String where
  formattedDate := fun date => if date < 86400 then "01-Jan Thu" else "02-Jan Fri"
  color := some
  contrastColor := fun _ => "white"
  taskColor := fun _ => "mint"

def blankCell : TaskCollectionViewCell String :=
  ⟨none, none, none, none, none, none⟩

def sampleGridApp : AppState :=
  (AppState.launch (DateFormatter.gregorian 0) sampleContext 0).refreshTasks
    (DateFormatter.gregorian 0) (some [1, 0])

def sampleGrids : Grids String :=
  (Grids.launch (DateFormatter.gregorian 0) sampleContext 0).reload sampleStyle blankCell
    (.showTasks (some [1, 0])) sampleGridApp

/-- The task in the first row is ticked off. -/
def sampleTicked : Grids String :=
  sampleGrids.reload sampleStyle blankCell (.tapTask 0)
    { sampleGridApp with context := sampleContext.toggle 1, blocks := [.tasks (some 1)] }

/-- The cell of the second row is used again for the first one. -/
def sampleScrolled : Grids String :=
  ((sampleTicked.setCell .tasks 0 none).setCell .tasks 1 none).setCell .tasks 0
    (some (TaskCollectionViewCell.setup sampleStyle 1 ⟨some "call bank", some 3600, true⟩
      (TaskCollectionViewCell.setup sampleStyle 0 ⟨some "pay rent", some 90000, false⟩ blankCell)))

theorem sampleScrolled_run :
    Run (GridsStep sampleStyle (DateFormatter.gregorian 0) fun _ _ => True)
      (.launch (DateFormatter.gregorian 0) sampleContext 0)
      [.app (.showTasks (some [1, 0])), .app (.tapTask 0), .endDisplaying .tasks 0,
        .endDisplaying .tasks 1, .display .tasks 0] sampleScrolled := by
  have hshow : AppStep (DateFormatter.gregorian 0) (fun _ _ => True)
      (.launch (DateFormatter.gregorian 0) sampleContext 0) (.showTasks (some [1, 0]))
        sampleGridApp := by
    refine ⟨rfl, fun tasks heq => ?_⟩
    obtain rfl := Option.some.inj heq
    exact sampleContext_fetch
  have htap : AppStep (DateFormatter.gregorian 0) (fun _ _ => True) sampleGrids.app (.tapTask 0)
      { sampleGridApp with context := sampleContext.toggle 1, blocks := [.tasks (some 1)] } :=
    ⟨rfl, trivial⟩
  have hticked := (Run.single (GridsStep.reload (s := .launch _ _ _) hshow blankCell)).snoc
    (GridsStep.reload htap blankCell)
  have hstored : sampleTicked.app.context.task 1 = some ⟨some "call bank", some 3600, true⟩ := by
    decide +kernel
  refine ((hticked.snoc .endDisplaying).snoc .endDisplaying).snoc (.display (by decide +kernel) ?_)
  rintro _ ⟨⟩
  refine ⟨1, _, _, rfl, fun stored hsame => ?_, rfl⟩
  exact Option.some.inj (hstored.symm.trans hsame)

/-- The cell shows the call with its check mark. -/
theorem sampleScrolled_current : Current sampleStyle .tasks sampleScrolled ∧
    ∃ cell, (sampleScrolled.grid .tasks).cells[0]? = some (some cell) ∧
      cell.Shows sampleStyle 1 ⟨some "call bank", some 3600, true⟩ := by
  obtain ⟨hcurrent, -, hshows⟩ := grids_show_current sampleScrolled_run .tasks
  refine ⟨hcurrent, _, rfl, ?_⟩
  obtain ⟨tasks, id, task, htasks, hrow, htask, hcell⟩ :=
    hshows (by simp [GridsEvent.loads, AppEvent.loads]) (Or.inl rfl) 0 _ rfl
  have hstored : sampleScrolled.app.tasksOn .tasks = some [1, 0] ∧
      sampleScrolled.app.context.task 1 = some ⟨some "call bank", some 3600, true⟩ := by
    decide +kernel
  obtain rfl := Option.some.inj (hstored.1.symm.trans htasks)
  obtain rfl : 1 = id := Option.some.inj hrow
  obtain rfl := Option.some.inj (hstored.2.symm.trans htask)
  exact hcell

end TaskMaster
end IosProjects
