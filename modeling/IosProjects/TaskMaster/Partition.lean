import IosProjects.TaskMaster.App

/-!
# Partition — the calendar finds every grouped task on its day and nowhere else

The dots of the calendar ask whether a day is a key of the grouping, its list asks for the value
under the key. Both see the sublist of the tasks due on that day, as long as the calendar has been
reloaded since the grouping.
-/

namespace IosProjects
namespace TaskMaster

open IosProjects.Library

/-! ## Due on a day -/

/-- The task has a due date on the day of `date`. Days are told apart by their texts. -/
def IsDueOn (formatter : DateFormatter) (context : ManagedObjectContext) (date : Date)
    (task : ObjectID) : Prop :=
  ∃ dueDate, context.dueDate task = some dueDate ∧
    formatter.formattedFullDate dueDate = formatter.formattedFullDate date

section Due

variable {formatter : DateFormatter} {context : ManagedObjectContext} {date : Date}
  {task : ObjectID}

theorem dateKey_eq_some_iff :
    dateKey formatter context task = some (formatter.formattedFullDate date) ↔
      IsDueOn formatter context date task := by
  rw [dateKey, Option.map_eq_some_iff]
  rfl

instance : DecidablePred (IsDueOn formatter context date) :=
  fun _ => decidable_of_iff _ dateKey_eq_some_iff

/-- In the Gregorian calendar these are the tasks whose due date lies on that day. -/
theorem isDueOn_gregorian {offset : ℚ} (hdate : 0 ≤ dayNumber offset date)
    (hdue : ∀ dueDate, context.dueDate task = some dueDate → 0 ≤ dayNumber offset dueDate) :
    IsDueOn (DateFormatter.gregorian offset) context date task ↔
      ∃ dueDate, context.dueDate task = some dueDate ∧
        dayNumber offset dueDate = dayNumber offset date := by
  constructor
  · rintro ⟨dueDate, htask, htext⟩
    exact ⟨dueDate, htask, (string_eq_string (hdue dueDate htask) hdate).1 htext⟩
  · rintro ⟨dueDate, htask, hday⟩
    exact ⟨dueDate, htask, (string_eq_string (hdue dueDate htask) hdate).2 hday⟩

/-- The group of a day holds the tasks due on it. -/
theorem members_dateKey (tasks : List ObjectID) :
    members (dateKey formatter context) tasks (formatter.formattedFullDate date) =
      tasks.filter fun task => IsDueOn formatter context date task := by
  apply List.filter_congr
  intro task _
  simp only [dateKey_eq_some_iff]

theorem length_filterMap_dateKey (tasks : List ObjectID) :
    (tasks.filterMap (dateKey formatter context)).length =
      (tasks.filter fun task => (context.dueDate task).isSome).length := by
  have hdated :
      ∀ task, (dateKey formatter context task).isSome = (context.dueDate task).isSome := by
    intro task
    rw [dateKey, Option.isSome_map]
  calc (tasks.filterMap (dateKey formatter context)).length
      = (tasks.filter fun task => (dateKey formatter context task).isSome).length := by
        rw [List.length_filterMap_eq_countP, List.countP_eq_length_filter]
    _ = (tasks.filter fun task => (context.dueDate task).isSome).length := by
        simp only [hdated]

end Due

/-! ## The calendar after a grouping -/

namespace CalendarViewController

/-- The calendar shows the grouping of the tasks. -/
structure Shows (formatter : DateFormatter) (context : ManagedObjectContext)
    (tasks : List ObjectID) (vc : CalendarViewController) : Prop where
  tasksByDate : vc.tasksByDate = some (group (dateKey formatter context) tasks)
  dateKeys : vc.dateKeys = some (group (dateKey formatter context) tasks).keys

variable {formatter : DateFormatter} {context : ManagedObjectContext} {tasks : List ObjectID}
  {vc : CalendarViewController}

/-- Reloading never traps once a day is selected. -/
theorem reloadData_groupTasksByDate (formatter : DateFormatter) (context : ManagedObjectContext)
    (tasks : List ObjectID) (shared : DataManager) {selectedDate : String}
    (hselected : vc.selectedDate = some selectedDate) :
    ∃ vc', vc.reloadData (shared.groupTasksByDate formatter context tasks) = some vc' ∧
      Shows formatter context tasks vc' := by
  rw [DataManager.groupTasksByDate_eq]
  simp only [reloadData, hselected, Option.bind_eq_bind, Option.bind_some, Option.pure_def]
  exact ⟨_, rfl, rfl, rfl⟩

/-- Selecting a day changes neither copy. -/
theorem Shows.didSelect (h : Shows formatter context tasks vc) (date : Date) :
    Shows formatter context tasks (vc.didSelect formatter date) :=
  ⟨h.tasksByDate, h.dateKeys⟩

theorem Shows.foldl_didSelect (h : Shows formatter context tasks vc) (dates : List Date) :
    Shows formatter context tasks
      (dates.foldl (fun vc date => vc.didSelect formatter date) vc) := by
  induction dates generalizing vc with
  | nil => exact h
  | cons date dates ih => exact ih (h.didSelect date)

theorem Shows.numberOfEventsFor_eq_one_iff (h : Shows formatter context tasks vc) (date : Date) :
    vc.numberOfEventsFor formatter date = 1 ↔
      ∃ task ∈ tasks, IsDueOn formatter context date task := by
  have hkey : formatter.formattedFullDate date ∈ (group (dateKey formatter context) tasks).keys ↔
      ∃ task ∈ tasks, IsDueOn formatter context date task := by
    simp only [mem_keys_group, dateKey_eq_some_iff]
  rw [← hkey]
  by_cases hmem : formatter.formattedFullDate date ∈ (group (dateKey formatter context) tasks).keys
  · simp [numberOfEventsFor, h.dateKeys, hmem]
  · simp [numberOfEventsFor, h.dateKeys, hmem]

theorem Shows.getTasks_eq (h : Shows formatter context tasks vc) (date : Date) :
    vc.getTasks (formatter.formattedFullDate date) =
      occupied (tasks.filter fun task => IsDueOn formatter context date task) := by
  calc vc.getTasks (formatter.formattedFullDate date)
      = (group (dateKey formatter context) tasks).lookup (formatter.formattedFullDate date) := by
        rw [getTasks, h.tasksByDate, Option.bind_some]
    _ = occupied (members (dateKey formatter context) tasks (formatter.formattedFullDate date)) :=
        lookup_group _ _ _
    _ = occupied (tasks.filter fun task => IsDueOn formatter context date task) := by
        rw [members_dateKey]

end CalendarViewController

/-- After the calendar has been reloaded over a grouping of `tasks`, and whatever days have been
selected since, a day has a dot exactly when a task is due on it; it has a list exactly then as
well, which is the sublist of the tasks due on it. The groups have as many tasks together as have a
due date, and the Tasks tab groups the same list into the same dictionary. With the formatter of the
app, the tasks due on a day are those whose due dates have its number. -/
theorem grouping_partitions (formatter : DateFormatter) (context : ManagedObjectContext)
    (tasks : List ObjectID) (shared : DataManager) (vc : CalendarViewController)
    {selectedDate : String} (hselected : vc.selectedDate = some selectedDate) :
    let grouped := shared.groupTasksByDate formatter context tasks
    ((∃ vc', vc.reloadData grouped = some vc' ∧
      ∀ (selected : List Date) (date : Date),
        let shown := selected.foldl (fun vc date => vc.didSelect formatter date) vc'
        let due := tasks.filter fun task => IsDueOn formatter context date task
        (shown.numberOfEventsFor formatter date = 1 ↔
          ∃ task ∈ tasks, IsDueOn formatter context date task) ∧
        (shown.getTasks (formatter.formattedFullDate date) = none ↔
          ¬ ∃ task ∈ tasks, IsDueOn formatter context date task) ∧
        ((∃ task ∈ tasks, IsDueOn formatter context date task) →
          shown.getTasks (formatter.formattedFullDate date) = some due ∧ due ≠ [])) ∧
      ∃ tasksByDate, grouped.tasksByDate = some tasksByDate ∧
        ∑ key ∈ tasksByDate.keys, ((tasksByDate.lookup key).getD []).length =
          (tasks.filter fun task => (context.dueDate task).isSome).length ∧
        ∀ tab : TaskViewController, tab.tasks = some tasks →
          (tab.groupTasksByDate formatter context).tasksByDate = tasksByDate) ∧
      ∀ (offset : ℚ) (date : Date), formatter = DateFormatter.gregorian offset →
        0 ≤ dayNumber offset date →
        (∀ task ∈ tasks, ∀ dueDate, context.dueDate task = some dueDate →
          0 ≤ dayNumber offset dueDate) →
        ∀ task ∈ tasks, IsDueOn formatter context date task ↔ ∃ dueDate,
          context.dueDate task = some dueDate ∧
            dayNumber offset dueDate = dayNumber offset date := by
  intro grouped
  refine ⟨⟨?_, ?_⟩, ?_⟩
  · rcases CalendarViewController.reloadData_groupTasksByDate formatter context tasks shared
      hselected with ⟨vc', hreload, hshows⟩
    refine ⟨vc', hreload, fun selected date => ?_⟩
    intro shown due
    have hshown : CalendarViewController.Shows formatter context tasks shown :=
      hshows.foldl_didSelect selected
    have hget := hshown.getTasks_eq date
    have hdue : due = [] ↔ ¬ ∃ task ∈ tasks, IsDueOn formatter context date task := by
      simp [due, List.filter_eq_nil_iff]
    refine ⟨hshown.numberOfEventsFor_eq_one_iff date, ?_, fun hsome => ?_⟩
    · rw [hget, occupied_eq_none]
      exact hdue
    · have hne : due ≠ [] := fun hnil => hdue.1 hnil hsome
      exact ⟨hget.trans (occupied_eq_some.2 ⟨rfl, hne⟩), hne⟩
  · refine ⟨group (dateKey formatter context) tasks, ?_, ?_, ?_⟩
    · exact congrArg DataManager.tasksByDate (DataManager.groupTasksByDate_eq _ _ _ _)
    · rw [sum_length_group, length_filterMap_dateKey]
    · intro tab htasks
      rw [TaskViewController.groupTasksByDate_eq, htasks, Option.getD_some]
  · rintro offset date rfl hdate hdue task htask
    exact isDueOn_gregorian hdate (hdue task htask)

/-- Two of three tasks are due on the first day. -/
theorem sample_grouping_partitions :
    let formatter := DateFormatter.gregorian 0
    let vc : CalendarViewController := ⟨none, none, some (formatter.formattedFullDate 90000), none⟩
    let shared : DataManager := ⟨none⟩
    ∃ vc', vc.reloadData (shared.groupTasksByDate formatter sampleContext [2, 0, 1]) = some vc' ∧
      vc'.numberOfEventsFor formatter 7200 = 1 ∧
      vc'.getTasks (formatter.formattedFullDate 7200) = some [2, 1] ∧
      ∀ task ∈ [2, 0, 1], IsDueOn formatter sampleContext 7200 task ↔ ∃ dueDate,
        sampleContext.dueDate task = some dueDate ∧ dayNumber 0 dueDate = dayNumber 0 7200 := by
  intro formatter vc shared
  obtain ⟨⟨⟨vc', hreload, hdays⟩, _⟩, hnumbers⟩ :=
    grouping_partitions formatter sampleContext [2, 0, 1] shared vc rfl
  have hdue : [2, 0, 1].filter (fun task => IsDueOn formatter sampleContext 7200 task) =
      [2, 1] := by
    decide +kernel
  have hsome : ∃ task ∈ [2, 0, 1], IsDueOn formatter sampleContext 7200 task := by decide +kernel
  rcases hdays [] 7200 with ⟨hdot, _, hlist⟩
  refine ⟨vc', hreload, hdot.2 hsome, (hlist hsome).1.trans (congrArg some hdue),
    hnumbers 0 7200 rfl (by decide +kernel) ?_⟩
  have hafter : ∀ task ∈ [2, 0, 1], ∀ dueDate ∈ sampleContext.dueDate task,
      0 ≤ dayNumber 0 dueDate := by decide +kernel
  exact hafter

end TaskMaster
end IosProjects
