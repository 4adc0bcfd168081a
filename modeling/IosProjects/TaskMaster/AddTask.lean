import IosProjects.TaskMaster.GridRows
import IosProjects.TaskMaster.Sections

/-!
# AddTask — the text field and the date picker of the panel

`AddTaskViewController` asks its delegate method before each change of the text, which refuses what
would be longer than thirty characters, and it does not save an empty text. When it is presented for
a task it unwraps the due date and the title by force and fills itself with them.

So every task the app has saved has a title of one to thirty characters and a due date, and choosing
Edit in any row of the Tasks tab fills the panel with the task of that row while the fetches of the
tab are answered.
-/

namespace IosProjects
namespace TaskMaster

open IosProjects.Library

/-! ## The panel -/

/-- What is used of strings: the number of characters, and `replacingCharacters(in:with:)` for a
location and a length in the units of `NSString`. -/
structure TextSystem where
  count : String → ℕ
  replacingCharacters : ℕ → ℕ → String → String → String
  count_empty : count "" = 0

/-- `textField(_:shouldChangeCharactersIn:replacementString:)`. -/
def shouldChangeCharactersIn (T : TextSystem) (location length : ℕ) (string text : String) : Bool :=
  let newText := T.replacingCharacters location length string text
  T.count newText ≤ 30

/-- The app, and the text in the field of the panel and the date of its picker. -/
structure PanelState where
  app : AppState
  searchText : String
  dueDate : Date

/-- What `viewDidLoad()` puts into the field: the title of the task to edit, if there is one. -/
def AppState.openedText (s : AppState) : String :=
  match s.screen with
  | .panel (some editTask) => ((s.context.task editTask).bind Task.title).getD ""
  | _ => ""

/-- The date of the picker after `viewDidLoad()`: a new picker has the time it is made at. -/
def AppState.openedDate (now : Date) (s : AppState) : Date :=
  match s.screen with
  | .panel (some editTask) => (s.context.dueDate editTask).getD now
  | _ => now

/-- The event presents the panel. -/
def AppEvent.presents : AppEvent → Bool
  | .addTask | .gridEdit _ | .listEdit _ _ => true
  | _ => false

inductive PanelEvent where
  | app (event : AppEvent)
  | present (event : AppEvent) (now : Date)
  | change (location length : ℕ) (string : String)
  | clear
  | pickDate (date : Date)
  | saveTask
  deriving DecidableEq

inductive PanelStep (formatter : DateFormatter) (contains : Option String → String → Prop)
    (T : TextSystem) : PanelState → PanelEvent → PanelState → Prop where
  | present {s : PanelState} {e : AppEvent} {now : Date} {app' : AppState} :
      e.presents = true → AppStep formatter contains s.app e app' →
      PanelStep formatter contains T s (.present e now)
        { app := app', searchText := app'.openedText, dueDate := app'.openedDate now }
  | app {s : PanelState} {e : AppEvent} {app' : AppState} :
      e.presents = false → (∀ title dueDate, e ≠ .saveTask title dueDate) →
      AppStep formatter contains s.app e app' →
      PanelStep formatter contains T s (.app e) { s with app := app' }
  -- typing, pasting or deleting
  | change {s : PanelState} {editTask : Option ObjectID} {location length : ℕ} {string : String} :
      s.app.screen = .panel editTask →
      PanelStep formatter contains T s (.change location length string)
        { s with
          searchText :=
            if shouldChangeCharactersIn T location length string s.searchText then
              T.replacingCharacters location length string s.searchText
            else s.searchText }
  -- the button in the field
  | clear {s : PanelState} {editTask : Option ObjectID} :
      s.app.screen = .panel editTask →
      PanelStep formatter contains T s .clear { s with searchText := "" }
  | pickDate {s : PanelState} {editTask : Option ObjectID} {date : Date} :
      s.app.screen = .panel editTask →
      PanelStep formatter contains T s (.pickDate date) { s with dueDate := date }
  | saveTask {s : PanelState} {app' : AppState} :
      AppStep formatter contains s.app (.saveTask s.searchText s.dueDate) app' →
      PanelStep formatter contains T s .saveTask { s with app := app' }

def PanelState.launch (formatter : DateFormatter) (context : ManagedObjectContext) (today : Date) :
    PanelState where
  app := .launch formatter context today
  searchText := ""
  dueDate := today

/-! ## Titles and due dates -/

/-- A title of one to thirty characters. -/
def TitleOk (T : TextSystem) (title : String) : Prop :=
  title ≠ "" ∧ T.count title ≤ 30

/-- The task has such a title and a due date. -/
structure Task.WellFormed (T : TextSystem) (task : Task) : Prop where
  title : ∃ title, task.title = some title ∧ TitleOk T title
  dueDate : task.dueDate.isSome

def WellFormed (T : TextSystem) (context : ManagedObjectContext) : Prop :=
  ∀ id task, context.task id = some task → task.WellFormed T

/-- The due dates are in the years 1 to 9999. -/
def DueInYears (offset : ℚ) (context : ManagedObjectContext) : Prop :=
  ∀ id task, context.task id = some task → ∀ date, task.dueDate = some date → InYears offset date

/-- A task with what the change assigns, ticked or not, has the property. -/
def ContextChange.Assigns (P : Task → Prop) : ContextChange → Prop
  | .insert title dueDate | .assign _ title dueDate => ∀ done, P ⟨some title, some dueDate, done⟩
  | _ => True

section Every

variable {P : Task → Prop} {context : ManagedObjectContext}

theorem every_modify {id : ObjectID} {f : Task → Task} (hf : ∀ task, P task → P (f task))
    (h : ∀ id task, context.task id = some task → P task) :
    ∀ id' task, (context.modify id f).task id' = some task → P task := by
  intro id' task htask
  rw [ManagedObjectContext.task_modify] at htask
  split at htask
  · rcases Option.map_eq_some_iff.1 htask with ⟨old, hold, rfl⟩
    exact hf old (h id' old hold)
  · exact h id' task htask

/-- A property that flags do not matter to is kept where what is assigned has it. -/
theorem every_apply (hflag : ∀ task done, P task → P { task with isCompleted := done })
    {c : ContextChange} (hc : c.Assigns P) (h : ∀ id task, context.task id = some task → P task) :
    ∀ id task, (c.apply context).task id = some task → P task := by
  cases c with
  | insert title dueDate =>
      intro id task htask
      rw [ContextChange.apply, ManagedObjectContext.task_insert] at htask
      split at htask
      · obtain rfl := Option.some.inj htask
        exact hc false
      · exact h id task htask
  | assign id title dueDate => exact every_modify (fun task _ => hc task.isCompleted) h
  | toggle id => exact every_modify (fun task htask => hflag task _ htask) h
  | untick id => exact every_modify (fun task htask => hflag task _ htask) h
  | delete id =>
      intro id' task htask
      rw [ContextChange.apply, ManagedObjectContext.task_delete] at htask
      split at htask
      · cases htask
      · exact h id' task htask

theorem every_perform (hflag : ∀ task done, P task → P { task with isCompleted := done })
    {changes : List ContextChange} (hchanges : ∀ c ∈ changes, c.Assigns P)
    (h : ∀ id task, context.task id = some task → P task) :
    ∀ id task, (Changes.perform ContextChange.apply changes context).task id = some task →
      P task := by
  induction changes generalizing context with
  | nil => exact h
  | cons c changes ih =>
      exact ih (fun c' hc' => hchanges c' (List.mem_cons_of_mem c hc'))
        (every_apply hflag (hchanges c List.mem_cons_self) h)

/-- No event but saving in the panel assigns anything. -/
theorem assigns_of_ne_saveTask {s : AppState} {e : AppEvent}
    (he : ∀ title dueDate, e ≠ .saveTask title dueDate) : ∀ c ∈ e.changes s, c.Assigns P := by
  intro c hc
  rcases AppEvent.changes_cases hc with
    ⟨title, dueDate, rfl⟩ | ⟨_, _, rfl, _⟩ | ⟨_, _, rfl, _⟩ | ⟨_, rfl⟩
  · exact absurd rfl (he title dueDate)
  · trivial
  · trivial
  · trivial

theorem assigns_saveTask {s : AppState} {title : String} {dueDate : Date}
    (h : title ≠ "" → ∀ done, P ⟨some title, some dueDate, done⟩) :
    ∀ c ∈ AppEvent.changes s (.saveTask title dueDate), c.Assigns P := by
  intro c hc
  simp only [AppEvent.changes] at hc
  split at hc
  · cases hc
  · rename_i hne
    split at hc
    · obtain rfl := List.mem_singleton.1 hc
      exact h hne
    · obtain rfl := List.mem_singleton.1 hc
      exact h hne
    · cases hc

/-- So a step of the app keeps it. -/
theorem every_step {formatter : DateFormatter} {contains : Option String → String → Prop}
    {s s' : AppState} {e : AppEvent}
    (hflag : ∀ task done, P task → P { task with isCompleted := done })
    (h : ∀ id task, s.context.task id = some task → P task)
    (hchanges : ∀ c ∈ e.changes s, c.Assigns P) (hstep : AppStep formatter contains s e s') :
    ∀ id task, s'.context.task id = some task → P task := by
  rw [AppState.context_of_step hstep.1]
  exact every_perform hflag hchanges h

end Every

theorem Task.WellFormed.flag {T : TextSystem} {task : Task} (h : task.WellFormed T) (done : Bool) :
    ({ task with isCompleted := done } : Task).WellFormed T :=
  ⟨h.title, h.dueDate⟩

theorem AppState.openedText_ok {T : TextSystem} {s : AppState} (h : WellFormed T s.context) :
    T.count s.openedText ≤ 30 := by
  unfold AppState.openedText
  split
  · rename_i editTask _
    cases htask : s.context.task editTask with
    | none => simp [T.count_empty]
    | some task =>
        obtain ⟨title, htitle, hok⟩ := (h editTask task htask).title
        simpa [htitle] using hok.2
  · simp [T.count_empty]

theorem AppState.openedDate_inYears {offset : ℚ} {s : AppState} (h : DueInYears offset s.context)
    {now : Date} (hnow : InYears offset now) : InYears offset (s.openedDate now) := by
  unfold AppState.openedDate
  split
  · rename_i editTask _
    cases hdue : s.context.dueDate editTask with
    | none => exact hnow
    | some date =>
        rcases Option.bind_eq_some_iff.1 hdue with ⟨task, htask, hdate⟩
        exact h editTask task htask date hdate
  · exact hnow

/-! ## Runs -/

section Runs

variable {formatter : DateFormatter} {contains : Option String → String → Prop} {T : TextSystem}
  {context : ManagedObjectContext} {today : Date} {es : List PanelEvent} {s t : PanelState}

/-- The tasks are well formed, and the text in the field is short enough to be saved. -/
structure PanelOk (T : TextSystem) (s : PanelState) : Prop where
  wellFormed : WellFormed T s.app.context
  searchText : T.count s.searchText ≤ 30

theorem PanelOk.step {e : PanelEvent} (h : PanelOk T s)
    (hstep : PanelStep formatter contains T s e t) :
    PanelOk T t := by
  have hflag : ∀ task done, Task.WellFormed T task →
      Task.WellFormed T { task with isCompleted := done } := fun _ done htask => htask.flag done
  cases hstep with
  | @present e now app' hpresents happ =>
      have hother : ∀ title dueDate, e ≠ .saveTask title dueDate := by
        rintro title dueDate rfl
        cases hpresents
      have hwell : WellFormed T app'.context :=
        every_step hflag h.wellFormed (assigns_of_ne_saveTask hother) happ
      exact ⟨hwell, AppState.openedText_ok hwell⟩
  | app _ hother happ =>
      exact ⟨every_step hflag h.wellFormed (assigns_of_ne_saveTask hother) happ, h.searchText⟩
  | change _ =>
      refine ⟨h.wellFormed, ?_⟩
      dsimp only
      split
      · rename_i hshould
        exact of_decide_eq_true hshould
      · exact h.searchText
  | clear _ => exact ⟨h.wellFormed, by simp [T.count_empty]⟩
  | pickDate _ => exact ⟨h.wellFormed, h.searchText⟩
  | saveTask happ =>
      have hassigns : s.searchText ≠ "" → ∀ done,
          Task.WellFormed T ⟨some s.searchText, some s.dueDate, done⟩ :=
        fun hne _ => ⟨⟨_, rfl, hne, h.searchText⟩, rfl⟩
      exact ⟨every_step hflag h.wellFormed (assigns_saveTask hassigns) happ, h.searchText⟩

theorem panelOk_of_run (hcontext : WellFormed T context)
    (hrun : Run (PanelStep formatter contains T) (.launch formatter context today) es s) :
    PanelOk T s :=
  hrun.invariant (fun _ _ _ h hstep => h.step hstep)
    ⟨hcontext, by simp [PanelState.launch, T.count_empty]⟩

/-- Whatever is typed, pasted, saved, ticked and deleted: every task has a title of one to thirty
characters and a due date, as long as those stored before did. -/
theorem wellFormed_of_run (hcontext : WellFormed T context)
    (hrun : Run (PanelStep formatter contains T) (.launch formatter context today) es s) :
    WellFormed T s.app.context :=
  (panelOk_of_run hcontext hrun).wellFormed

end Runs

/-! ## What the Tasks tab shows -/

/-- The list has each task under the day it is due, and its keys are days. -/
structure Shown (offset : ℚ) (tab : TasksTab) : Prop where
  filed : Filed (DateFormatter.gregorian offset) tab
  dayKeys : DayKeys offset tab.vc.tasksByDate

section Shown

variable {offset : ℚ} {tab tab' : TasksTab} {context : ManagedObjectContext}

theorem exists_of_dateKey {formatter : DateFormatter} {task : ObjectID} {key : String}
    (h : dateKey formatter context task = some key) : (context.task task).isSome := by
  rcases Option.map_eq_some_iff.1 h with ⟨date, hdate, _⟩
  rcases Option.bind_eq_some_iff.1 hdate with ⟨attributes, htask, _⟩
  rw [htask]
  rfl

theorem shown_loaded {tasks : List ObjectID} (h : context.IsFetch false tasks)
    (hyears : DueInYears offset context) :
    Shown offset (TasksTab.loaded (DateFormatter.gregorian offset) context tasks) where
  filed := by
    intro key group hgroup
    let unfiled : TasksTab := ⟨context, ⟨none⟩, ⟨some tasks, ∅⟩⟩
    have hnodup : unfiled.listed.Nodup := h.nodup
    refine filed_grouped hnodup key group ?_
    rw [TasksTab.tasksByDate_grouped]
    exact hgroup
  dayKeys := by
    intro key hkey
    rcases mem_keys_group.1 hkey with ⟨id, _, hdate⟩
    rcases Option.map_eq_some_iff.1 hdate with ⟨date, hdue, rfl⟩
    rcases Option.bind_eq_some_iff.1 hdue with ⟨task, htask, hdate⟩
    exact ⟨date, hyears id task htask date hdate, rfl⟩

theorem DayKeys.thinned {d d' : Groups String ObjectID} (h : DayKeys offset d)
    (hthinned : Thinned d d') : DayKeys offset d' :=
  fun key hkey => h key (hthinned.mem_keys hkey)

/-- Flags do not matter. -/
theorem Shown.toggle (h : Shown offset tab) (task : ObjectID) :
    Shown offset { tab with context := tab.context.toggle task } := by
  have hkeeps := KeepsDates.toggle tab.context task
  have hexists : ∀ id, (tab.context.task id).isSome →
      ((tab.context.toggle task).task id).isSome := by
    intro id hid
    by_cases hsame : id = task <;> simpa [ManagedObjectContext.toggle, hsame] using hid
  refine ⟨?_, h.dayKeys⟩
  intro key tasks hlookup
  obtain ⟨hnodup, hkey⟩ := h.filed key tasks hlookup
  refine ⟨hnodup, fun id hid => ?_⟩
  rw [hkeeps.dateKey (hexists id (exists_of_dateKey (hkey id hid)))]
  exact hkey id hid

theorem Shown.toggleCheckbox (h : Shown offset tab) {row : ℕ} {task : Option ObjectID}
    (htap : tab.toggleCheckbox row = some (tab', task)) : Shown offset tab' := by
  unfold TasksTab.toggleCheckbox at htap
  split at htap
  · cases htap
    exact h
  split at htap
  · cases htap
  · cases htap
    exact h.toggle _

theorem Shown.deletion (h : Shown offset tab) {d : Deletion}
    (hstep : DeletionStep (DateFormatter.gregorian offset) tab d tab') : Shown offset tab' :=
  ⟨hstep.filed h.filed, h.dayKeys.thinned hstep.thinned⟩

end Shown

/-! ## Editing -/

def PanelEvent.loads : PanelEvent → Bool
  | .app e => e.loads .tasks
  | _ => true

/-- A date that comes with the event is in the years 1 to 9999. -/
def PanelEvent.InYears (offset : ℚ) : PanelEvent → Prop
  | .present _ now => TaskMaster.InYears offset now
  | .pickDate date => TaskMaster.InYears offset date
  | _ => True

/-- The event presents the panel for a task, whose title is in the field and whose due date in the
picker, and does nothing else. -/
def Presents (formatter : DateFormatter) (contains : Option String → String → Prop) (T : TextSystem)
    (s : PanelState) (e : AppEvent) (task : ObjectID) : Prop :=
  ∃ title dueDate, (s.app.context.task task).bind Task.title = some title ∧
    s.app.context.dueDate task = some dueDate ∧
    ∀ now t, PanelStep formatter contains T s (.present e now) t ↔
      t = ⟨{ s.app with screen := .panel (some task) }, title, dueDate⟩

section Editing

variable {offset : ℚ} {contains : Option String → String → Prop} {T : TextSystem}
  {context : ManagedObjectContext} {today : Date}

theorem shown_refreshTasks {s : AppState} {fetched : Option (List ObjectID)}
    (hyears : DueInYears offset s.context) (hloads : fetched.isSome = true)
    (hanswer : ∀ tasks, fetched = some tasks →
      (s.refreshTasks (DateFormatter.gregorian offset) fetched).context.IsFetchByDueDate
        false tasks) :
    Shown offset (s.refreshTasks (DateFormatter.gregorian offset) fetched).tasksTab := by
  obtain ⟨tasks, rfl⟩ := Option.isSome_iff_exists.1 hloads
  have hloaded : (s.refreshTasks (DateFormatter.gregorian offset) (some tasks)).tasksTab =
      TasksTab.loaded (DateFormatter.gregorian offset) s.context tasks :=
    TasksTab.refreshData_some (DateFormatter.gregorian offset) tasks s.tasksTab
  have hfetch : s.context.IsFetch false tasks := (hanswer tasks rfl).toIsFetch
  rw [hloaded]
  exact shown_loaded hfetch hyears

/-- While the Tasks tab is on the screen, its list is filed: it has been grouped anew since the last
event on another screen. -/
theorem shown_step {s s' : AppState} {e : AppEvent} (hyears : DueInYears offset s.context)
    (h : s.screen = .tasks → Shown offset s.tasksTab) (hloads : e.loads .tasks = true)
    (hstep : AppStep (DateFormatter.gregorian offset) contains s e s') :
    s'.screen = .tasks → Shown offset s'.tasksTab := by
  obtain ⟨hstep, hanswer⟩ := hstep
  cases AppState.does_of_step hstep with
  | showTasks _ => exact fun _ => shown_refreshTasks hyears hloads hanswer
  | viewTypeChanged _ => exact fun _ => shown_refreshTasks hyears hloads hanswer
  | panelDismissed _ => exact fun _ => shown_refreshTasks hyears hloads hanswer
  | tapTask hscreen htap => exact fun _ => (h hscreen).toggleCheckbox htap
  | gridDelete hscreen hdelete => exact fun _ => (h hscreen).deletion (d := .grid _) hdelete
  | listDelete hscreen hdelete => exact fun _ => (h hscreen).deletion (d := .list _ _ _) hdelete
  -- a block takes a task out of the grid and leaves the list alone
  | tasksBlock _ => exact fun hscreen => ⟨(h hscreen).filed, (h hscreen).dayKeys⟩
  | completedBlock _ => exact h
  | noEdit _ => exact h
  -- the others leave another screen behind
  | showCompleted _ _ => exact fun hscreen => by cases hscreen
  | showCalendar _ _ _ => exact fun hscreen => by cases hscreen
  | addTask _ => exact fun hscreen => by cases hscreen
  | gridEdit _ => exact fun hscreen => by cases hscreen
  | listEdit _ => exact fun hscreen => by cases hscreen
  | saveTask hpanel =>
      intro hscreen
      rw [screen_saveTask, hpanel] at hscreen
      cases hscreen
  | tapCompleted hscreen _ => exact fun htasks => by cases hscreen.symm.trans htasks
  | setIncomplete hscreen _ => exact fun htasks => by cases hscreen.symm.trans htasks
  | deleteCompleted hscreen _ => exact fun htasks => by cases hscreen.symm.trans htasks
  | clearCompleted hscreen => exact fun htasks => by cases hscreen.symm.trans htasks
  | noSearch hscreen => exact fun htasks => by cases hscreen.symm.trans htasks
  | search hscreen _ => exact fun htasks => by cases hscreen.symm.trans htasks
  | clearSearch hscreen => exact fun htasks => by cases hscreen.symm.trans htasks
  | selectDate hscreen => exact fun htasks => by cases hscreen.symm.trans htasks

/-- All dates are in the years 1 to 9999, and what the Tasks tab shows exists and is filed. -/
structure PanelDated (offset : ℚ) (s : PanelState) : Prop where
  context : DueInYears offset s.app.context
  dueDate : InYears offset s.dueDate
  known : Known s.app
  rows : s.app.OnScreen .tasks → RowsExist s.app .tasks
  shown : s.app.screen = .tasks → Shown offset s.app.tasksTab

theorem PanelDated.step {s t : PanelState} {e : PanelEvent} (h : PanelDated offset s)
    (hloads : e.loads = true) (hyears : e.InYears offset)
    (hstep : PanelStep (DateFormatter.gregorian offset) contains T s e t) :
    PanelDated offset t := by
  have hflag : ∀ (task : Task) (done : Bool),
      (∀ date, task.dueDate = some date → InYears offset date) →
      ∀ date, ({ task with isCompleted := done } : Task).dueDate = some date →
        InYears offset date := fun _ _ hdate => hdate
  cases hstep with
  | @present e now app' hpresents happ =>
      have hother : ∀ title dueDate, e ≠ .saveTask title dueDate := by
        rintro title dueDate rfl
        cases hpresents
      have hloads' : e.loads .tasks = true := by
        cases e <;> first | rfl | cases hpresents
      have hcontext : DueInYears offset app'.context :=
        every_step hflag h.context (assigns_of_ne_saveTask hother) happ
      exact ⟨hcontext, AppState.openedDate_inYears hcontext hyears, h.known.step happ,
        rowsExist_step h.known h.rows hloads' happ, shown_step h.context h.shown hloads' happ⟩
  | app _ hother happ =>
      exact ⟨every_step hflag h.context (assigns_of_ne_saveTask hother) happ, h.dueDate,
        h.known.step happ, rowsExist_step h.known h.rows hloads happ,
        shown_step h.context h.shown hloads happ⟩
  | change _ => exact { h with }
  | clear _ => exact { h with }
  | pickDate _ => exact { h with dueDate := hyears }
  | saveTask happ =>
      have hassigns : s.searchText ≠ "" → ∀ done date,
          (⟨some s.searchText, some s.dueDate, done⟩ : Task).dueDate = some date →
            InYears offset date := by
        rintro _ _ _ ⟨⟩
        exact h.dueDate
      exact ⟨every_step hflag h.context (assigns_saveTask hassigns) happ, h.dueDate,
        h.known.step happ, rowsExist_step h.known h.rows rfl happ,
        shown_step h.context h.shown rfl happ⟩

/-- A task that exists can be edited, its due date and its title are there. -/
theorem presents_of_wellFormed {formatter : DateFormatter} {s : PanelState}
    (h : WellFormed T s.app.context) {task : ObjectID} (htask : (s.app.context.task task).isSome)
    {e : AppEvent} (hpresents : e.presents = true)
    (he : s.app.step formatter e = s.app.presentEdit task) :
    Presents formatter contains T s e task := by
  obtain ⟨attributes, hattributes⟩ := Option.isSome_iff_exists.1 htask
  obtain ⟨title, htitle, _⟩ := (h task attributes hattributes).title
  obtain ⟨dueDate, hdate⟩ := Option.isSome_iff_exists.1 (h task attributes hattributes).dueDate
  have hdue : s.app.context.dueDate task = some dueDate := by
    rw [ManagedObjectContext.dueDate, hattributes, Option.bind_some, hdate]
  have hstep : s.app.step formatter e = some { s.app with screen := .panel (some task) } := by
    simp [he, AppState.presentEdit, hattributes, htitle, hdate]
  have hanswer : ∀ context, e.Answered contains context := by
    cases e <;> first | exact fun _ => trivial | cases hpresents
  have htext : ({ s.app with screen := .panel (some task) } : AppState).openedText = title := by
    simp [AppState.openedText, hattributes, htitle]
  have hopened (now : Date) :
      ({ s.app with screen := .panel (some task) } : AppState).openedDate now = dueDate := by
    simp [AppState.openedDate, hdue]
  refine ⟨title, dueDate, by simp [hattributes, htitle], hdue, fun now t => ⟨fun ht => ?_, ?_⟩⟩
  · cases ht with
    | present _ happ =>
        obtain rfl := Option.some.inj (hstep.symm.trans happ.1)
        rw [htext, hopened]
  · rintro rfl
    have hpresent : PanelStep formatter contains T s (.present e now) _ :=
      .present hpresents ⟨hstep, hanswer _⟩
    rwa [htext, hopened] at hpresent

/-- With dates in the years 1 to 9999, and as long as the fetches of the Tasks tab are answered: in
every row that the grid or the list announces there is a task, and choosing Edit there presents the
panel filled with it; neither of the two force-unwraps fails and no index is out of range. -/
theorem edit_presents {es : List PanelEvent} {s : PanelState} (hcontext : WellFormed T context)
    (hyears : DueInYears offset context) (htoday : InYears offset today)
    (hrun : Run (PanelStep (DateFormatter.gregorian offset) contains T)
      (.launch (DateFormatter.gregorian offset) context today) es s)
    (hdates : ∀ e ∈ es, e.InYears offset) (hloads : ∀ e ∈ es, e.loads = true)
    (hscreen : s.app.screen = .tasks) :
    (∀ row < s.app.tasksVC.numberOfItemsInSection, ∃ task,
        s.app.tasksVC.cellForItemAt row = some (some task) ∧
        Presents (DateFormatter.gregorian offset) contains T s (.gridEdit row) task) ∧
      ∀ (it : Iteration String ObjectID), ∀ section_ < s.app.tasksVC.numberOfSections, ∃ rows,
        s.app.tasksVC.numberOfRowsInSection (DateFormatter.gregorian offset) it section_ =
          some rows ∧
        ∀ row < rows, ∃ task, s.app.tasksVC.cellForRowAt section_ row = some (some task) ∧
          Presents (DateFormatter.gregorian offset) contains T s (.listEdit section_ row) task := by
  have hwell := (panelOk_of_run hcontext hrun).wellFormed
  have hdated : PanelDated offset s := by
    refine hrun.invariant_along (P := PanelDated offset)
      (Q := fun _ e _ => e.loads = true ∧ e.InYears offset)
      (fun _ _ _ h hQ hstep => h.step hQ.1 hQ.2 hstep)
      (Along.of_events fun e he => ⟨hloads e he, hdates e he⟩)
      ⟨hyears, htoday, known_launch context today, ?_, fun hlaunch => by cases hlaunch⟩
    rintro (hlaunch | ⟨_, hlaunch⟩) <;> cases hlaunch
  have hshown := hdated.shown hscreen
  obtain ⟨tasks, htasks, _, hexist⟩ := hdated.rows (Or.inl hscreen)
  constructor
  · intro row hrow
    simp only [AppState.tasksOn] at htasks
    simp only [TaskViewController.numberOfItemsInSection, htasks] at hrow
    have htask := List.getElem?_eq_getElem hrow
    have hexists := hexist _ (List.getElem_mem hrow)
    refine ⟨tasks[row], TaskViewController.cellForItemAt_eq.2 ⟨tasks, htasks, htask⟩, ?_⟩
    refine presents_of_wellFormed hwell hexists rfl ?_
    simp only [AppState.step, hscreen, if_true, AppState.gridEdit, htasks, htask]
  · intro it section_ hsection
    rw [← TaskViewController.length_sectionDates] at hsection
    have hkey := List.getElem?_eq_getElem hsection
    refine ⟨_, TaskViewController.numberOfRowsInSection_eq hshown.dayKeys it hkey,
      fun row hrow => ?_⟩
    have htask := List.getElem?_eq_getElem hrow
    have hcell := TaskViewController.cellForRowAt_eq hkey htask
    have hfiled := (hshown.filed _ _ (TaskViewController.lookup_of_sectionDates hkey)).2 _
      (List.getElem_mem hrow)
    refine ⟨_, hcell, presents_of_wellFormed hwell (exists_of_dateKey hfiled) rfl ?_⟩
    simp [AppState.step, hscreen, AppState.listEdit, hcell]

end Editing

/-- Strings of characters that take one unit each. -/
def plainText : TextSystem where
  count := String.length
  replacingCharacters := fun location length string text =>
    String.ofList
      (text.toList.take location ++ string.toList ++ text.toList.drop (location + length))
  count_empty := rfl

theorem sampleContext_wellFormed : WellFormed plainText sampleContext := by
  intro id task htask
  rcases sampleContext_task htask with ⟨_, rfl⟩ | ⟨_, rfl⟩ | ⟨_, rfl⟩
  · exact ⟨⟨_, rfl, by decide, by decide⟩, rfl⟩
  · exact ⟨⟨_, rfl, by decide, by decide⟩, rfl⟩
  · exact ⟨⟨_, rfl, by decide, by decide⟩, rfl⟩

theorem sampleContext_dueInYears : DueInYears 0 sampleContext := by
  intro id task htask
  rcases sampleContext_task htask with ⟨_, rfl⟩ | ⟨_, rfl⟩ | ⟨_, rfl⟩
  all_goals
    rintro _ ⟨⟩
    decide +kernel

/-- The sample store is on the screen. -/
def samplePanel : PanelState where
  app := (AppState.launch (DateFormatter.gregorian 0) sampleContext 0).refreshTasks
    (DateFormatter.gregorian 0) (some [1, 0])
  searchText := ""
  dueDate := 0

theorem samplePanel_run :
    Run (PanelStep (DateFormatter.gregorian 0) (fun _ _ => True) plainText)
      (.launch (DateFormatter.gregorian 0) sampleContext 0) [.app (.showTasks (some [1, 0]))]
      samplePanel := by
  have hshow : AppStep (DateFormatter.gregorian 0) (fun _ _ => True)
      (.launch (DateFormatter.gregorian 0) sampleContext 0) (.showTasks (some [1, 0]))
      samplePanel.app := by
    refine ⟨rfl, fun tasks heq => ?_⟩
    obtain rfl := Option.some.inj heq
    exact sampleContext_fetch
  exact Run.single (PanelStep.app rfl nofun hshow)

/-- The call is in the first row of the grid, the rent in the second section of the list. -/
theorem samplePanel_edits :
    (∀ now t, PanelStep (DateFormatter.gregorian 0) (fun _ _ => True) plainText samplePanel
        (.present (.gridEdit 0) now) t ↔
        t = ⟨{ samplePanel.app with screen := .panel (some 1) }, "call bank", 3600⟩) ∧
      ∃ rows, samplePanel.app.tasksVC.numberOfRowsInSection (DateFormatter.gregorian 0) default 1 =
          some rows ∧
        ∀ row < rows, ∃ task, samplePanel.app.tasksVC.cellForRowAt 1 row = some (some task) ∧
          Presents (DateFormatter.gregorian 0) (fun _ _ => True) plainText samplePanel
            (.listEdit 1 row) task := by
  have hcounts : 0 < samplePanel.app.tasksVC.numberOfItemsInSection ∧
      1 < samplePanel.app.tasksVC.numberOfSections := by decide +kernel
  obtain ⟨hgrid, hlist⟩ := edit_presents sampleContext_wellFormed sampleContext_dueInYears
    (by decide +kernel) samplePanel_run (by simp [PanelEvent.InYears])
    (by simp [PanelEvent.loads, AppEvent.loads]) rfl
  obtain ⟨task, hcell, title, dueDate, htitle, hdue, hpresents⟩ := hgrid 0 hcounts.1
  obtain rfl : 1 = task := Option.some.inj (Option.some.inj hcell)
  have hcall : (sampleContext.task 1).bind Task.title = some "call bank" ∧
      sampleContext.dueDate 1 = some 3600 := by decide +kernel
  obtain rfl := Option.some.inj (hcall.1.symm.trans htitle)
  obtain rfl := Option.some.inj (hcall.2.symm.trans hdue)
  exact ⟨hpresents, hlist default 1 hcounts.2⟩

/-- Bread is typed and saved. -/
def samplePanelBread : PanelState where
  app := AppState.saveTask "bread" 50 none { samplePanel.app with screen := .panel none }
  searchText := "bread"
  dueDate := 50

theorem samplePanelBread_run :
    Run (PanelStep (DateFormatter.gregorian 0) (fun _ _ => True) plainText)
      (.launch (DateFormatter.gregorian 0) sampleContext 0)
      [.app (.showTasks (some [1, 0])), .present .addTask 20, .change 0 0 "bread", .pickDate 50,
        .saveTask]
      samplePanelBread := by
  let opened : AppState := { samplePanel.app with screen := .panel none }
  have hopen : PanelStep (DateFormatter.gregorian 0) (fun _ _ => True) plainText samplePanel
      (.present .addTask 20) ⟨opened, "", 20⟩ := .present rfl ⟨rfl, trivial⟩
  have htype : PanelStep (DateFormatter.gregorian 0) (fun _ _ => True) plainText ⟨opened, "", 20⟩
      (.change 0 0 "bread") ⟨opened, "bread", 20⟩ := by
    have htyped : (if shouldChangeCharactersIn plainText 0 0 "bread" "" then
        plainText.replacingCharacters 0 0 "bread" "" else "") = "bread" := by decide +kernel
    have hchange := @PanelStep.change (DateFormatter.gregorian 0) (fun _ _ => True) plainText
      ⟨opened, "", 20⟩ none 0 0 "bread" rfl
    simpa only [htyped] using hchange
  have hpick : PanelStep (DateFormatter.gregorian 0) (fun _ _ => True) plainText
      ⟨opened, "bread", 20⟩ (.pickDate 50) ⟨opened, "bread", 50⟩ := .pickDate rfl
  have hsave : PanelStep (DateFormatter.gregorian 0) (fun _ _ => True) plainText
      ⟨opened, "bread", 50⟩ .saveTask samplePanelBread := .saveTask ⟨rfl, trivial⟩
  exact (((samplePanel_run.snoc hopen).snoc htype).snoc hpick).snoc hsave

theorem samplePanelBread_wellFormed : WellFormed plainText samplePanelBread.app.context :=
  wellFormed_of_run sampleContext_wellFormed samplePanelBread_run

end TaskMaster
end IosProjects
