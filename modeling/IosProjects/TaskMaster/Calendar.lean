import IosProjects.TaskMaster.Cache
import IosProjects.TaskMaster.Partition

/-!
# Calendar — when the calendar agrees with the store

The dictionary holds what the last rebuild filed, under keys that are still right when the calendar
can be shown. So what can go wrong is only that a task has been completed or un-completed since, or
was when the array was grouped.
-/

namespace IosProjects
namespace TaskMaster

open IosProjects.Library

/-! ## Reloading the calendar -/

/-- An incomplete task of the store, due on a day. -/
def DueOn (formatter : DateFormatter) (context : ManagedObjectContext) (day : String)
    (id : ObjectID) : Prop :=
  context.Marked false id ∧ dateKey formatter context id = some day

/-- For every day the calendar lists exactly the incomplete tasks due on it. -/
def CalendarAgrees (formatter : DateFormatter) (s : AppState) : Prop :=
  ∀ date : Date,
    match s.calendarVC.getTasks (formatter.formattedFullDate date) with
    | none => ∀ id, ¬ DueOn formatter s.context (formatter.formattedFullDate date) id
    | some tasks => tasks ≠ [] ∧ tasks.Nodup ∧
        ∀ id, id ∈ tasks ↔ DueOn formatter s.context (formatter.formattedFullDate date) id

/-- An incomplete task of the store, due on the day of `date` by its number. -/
def DueOnDay (offset : ℚ) (context : ManagedObjectContext) (date : Date) (id : ObjectID) : Prop :=
  context.Marked false id ∧ ∃ dueDate, context.dueDate id = some dueDate ∧
    dayNumber offset dueDate = dayNumber offset date

/-- The same for the formatter of the app, with days told apart by their numbers. -/
def CalendarAgreesByDay (offset : ℚ) (s : AppState) : Prop :=
  ∀ date : Date, 0 ≤ dayNumber offset date →
    match s.calendarVC.getTasks ((DateFormatter.gregorian offset).formattedFullDate date) with
    | none => ∀ id, ¬ DueOnDay offset s.context date id
    | some tasks => tasks ≠ [] ∧ tasks.Nodup ∧ ∀ id, id ∈ tasks ↔ DueOnDay offset s.context date id

/-- The tasks filed by the last rebuild are those that are incomplete, and have a due date, now. -/
def FiledCurrent (g : List (ObjectID × String)) (context : ManagedObjectContext) : Prop :=
  ∀ id, id ∈ g.map Prod.fst ↔ context.Marked false id ∧ (context.dueDate id).isSome

section Reload

variable {formatter : DateFormatter} {contains : Option String → String → Prop}
  {s s' : AppState} {g : List (ObjectID × String)}

theorem filedUnder_nodup (h : (g.map Prod.fst).Nodup) (key : String) : (filedUnder g key).Nodup :=
  h.sublist (List.filter_sublist.map Prod.fst)

/-- What a reloaded calendar lists. -/
theorem agrees_iff_filedUnder (h : CacheOk formatter s g)
    (hshow : AppStep formatter contains s .showCalendar s') :
    s'.context = s.context ∧ (∀ editTask, s.screen ≠ .panel editTask) ∧
      (CalendarAgrees formatter s' ↔ ∀ (date : Date) (id : ObjectID),
        (id, formatter.formattedFullDate date) ∈ g ↔
          DueOn formatter s.context (formatter.formattedFullDate date) id) := by
  cases AppState.does_of_step hshow.1
  rename_i calendarVC hpanel _ hreload
  refine ⟨rfl, hpanel, forall_congr' fun date => ?_⟩
  rcases CalendarViewController.getTasks_reloadData hreload (formatter.formattedFullDate date) with
    ⟨tasksByDate, hshared, hget⟩
  have hholds := h.holds
  rw [hshared] at hholds
  rw [hget, hholds]
  cases hunder : filedUnder g (formatter.formattedFullDate date) with
  | nil =>
      have hnone : ∀ id, (id, formatter.formattedFullDate date) ∉ g := by
        intro id hmem
        rw [← mem_filedUnder, hunder] at hmem
        simp at hmem
      simp only [occupied, hnone, false_iff]
  | cons first rest =>
      have hnodup := filedUnder_nodup h.ids_nodup (formatter.formattedFullDate date)
      rw [hunder] at hnodup
      simp only [occupied, ← mem_filedUnder, hunder]
      constructor
      · rintro ⟨_, _, hmem⟩
        exact hmem
      · intro hmem
        exact ⟨List.cons_ne_nil _ _, hnodup, hmem⟩

/-- A reloaded calendar agrees with the store exactly when the filed tasks are the incomplete
ones. -/
theorem agrees_iff (h : CacheOk formatter s g)
    (hshow : AppStep formatter contains s .showCalendar s') :
    CalendarAgrees formatter s' ↔ FiledCurrent g s.context := by
  obtain ⟨_, hpanel, hagrees⟩ := agrees_iff_filedUnder h hshow
  rw [hagrees]
  -- an incomplete task exists, so the key it was filed under is still its own
  have hkey : ∀ {id key}, (id, key) ∈ g → s.context.Marked false id →
      dateKey formatter s.context id = some key := by
    intro id key hmem hmarked
    refine h.current hpanel id key hmem ?_
    rcases Option.map_eq_some_iff.1 hmarked with ⟨task, htask, _⟩
    rw [htask]
    rfl
  constructor
  · intro hdays id
    constructor
    · intro hid
      rcases List.mem_map.1 hid with ⟨⟨id, key⟩, hmem, rfl⟩
      -- every key is the text of some day, and the calendar agrees on that day
      rcases h.text id key hmem with ⟨date, rfl⟩
      obtain ⟨hmarked, hdue⟩ := (hdays date id).1 hmem
      rcases Option.map_eq_some_iff.1 hdue with ⟨dueDate, hdueDate, _⟩
      exact ⟨hmarked, by rw [hdueDate]; rfl⟩
    · rintro ⟨hmarked, hdue⟩
      rcases Option.isSome_iff_exists.1 hdue with ⟨dueDate, hdueDate⟩
      have hon : DueOn formatter s.context (formatter.formattedFullDate dueDate) id :=
        ⟨hmarked, by rw [dateKey, hdueDate]; rfl⟩
      exact List.mem_map.2 ⟨_, (hdays dueDate id).2 hon, rfl⟩
  · intro hfiled date id
    constructor
    · intro hmem
      have hmarked := ((hfiled id).1 (List.mem_map.2 ⟨_, hmem, rfl⟩)).1
      exact ⟨hmarked, hkey hmem hmarked⟩
    · rintro ⟨hmarked, hdue⟩
      rcases Option.map_eq_some_iff.1 hdue with ⟨dueDate, hdueDate, _⟩
      have hid := (hfiled id).2 ⟨hmarked, by rw [hdueDate]; rfl⟩
      rcases List.mem_map.1 hid with ⟨⟨id, key⟩, hmem, rfl⟩
      have hsame : key = formatter.formattedFullDate date :=
        Option.some.inj ((hkey hmem hmarked).symm.trans hdue)
      rwa [hsame] at hmem

theorem run_cacheOk {context : ManagedObjectContext} {today : Date} {es : List AppEvent}
    {state : AppState × List (ObjectID × String)}
    (hrun : Run (withHistory (AppStep formatter contains) (recordFiled formatter))
      (AppState.launch formatter context today, []) es state) :
    CacheOk formatter state.1 state.2 := by
  refine hrun.invariant (P := fun state => CacheOk formatter state.1 state.2) ?_
    (CacheOk.launch context today)
  intro state e state' h hstep
  rw [hstep.2]
  exact h.step hstep.1

end Reload

/-- Where all due dates, and the keys of the dictionary, are of days from the year 1 on, agreeing is
agreeing day by day. -/
theorem agrees_gregorian_iff {offset : ℚ} {s : AppState}
    (hdates : ∀ id dueDate, s.context.dueDate id = some dueDate → 0 ≤ dayNumber offset dueDate)
    (hkeys : ∀ key tasks, s.calendarVC.getTasks key = some tasks → ∃ date,
      0 ≤ dayNumber offset date ∧ key = (DateFormatter.gregorian offset).formattedFullDate date) :
    CalendarAgrees (DateFormatter.gregorian offset) s ↔ CalendarAgreesByDay offset s := by
  have hdue : ∀ date, 0 ≤ dayNumber offset date → ∀ id,
      (DueOn (DateFormatter.gregorian offset) s.context
          ((DateFormatter.gregorian offset).formattedFullDate date) id ↔
        DueOnDay offset s.context date id) := fun date hdate id =>
    and_congr_right fun _ => dateKey_eq_some_iff.trans (isDueOn_gregorian hdate (hdates id))
  constructor
  · intro h date hdate
    have hday := h date
    simpa only [hdue date hdate] using hday
  · intro h date
    cases hshown :
      s.calendarVC.getTasks ((DateFormatter.gregorian offset).formattedFullDate date) with
    | none =>
        rintro id ⟨hmarked, hkey⟩
        -- the text is that of the due date of the task
        rcases Option.map_eq_some_iff.1 hkey with ⟨dueDate, hdueDate, htext⟩
        have hday := h dueDate (hdates id dueDate hdueDate)
        have hsame : (DateFormatter.gregorian offset).formattedFullDate dueDate =
            (DateFormatter.gregorian offset).formattedFullDate date := htext
        rw [hsame, hshown] at hday
        exact hday id ⟨hmarked, dueDate, hdueDate, rfl⟩
    | some tasks =>
        obtain ⟨date', hdate', htext⟩ := hkeys _ tasks hshown
        have hday := h date' hdate'
        rw [← htext, hshown] at hday
        rw [htext]
        simpa only [hdue date' hdate'] using hday

/-- Along every run of the app, the calendar agrees with the store whenever it reloads without a
pending block, if and only if the tasks filed by the last rebuild are then the incomplete ones. With
the formatter of the app, days are told apart by their numbers from the year 1 on. -/
theorem calendar_agrees_iff (formatter : DateFormatter) (contains : Option String → String → Prop)
    (context : ManagedObjectContext) (today : Date) (es : List AppEvent) :
    (Along (withHistory (AppStep formatter contains) (recordFiled formatter))
          (AppState.launch formatter context today, []) es
          (fun state e state' => e = .showCalendar → state.1.blocks = [] →
            CalendarAgrees formatter state'.1) ↔
        Along (withHistory (AppStep formatter contains) (recordFiled formatter))
          (AppState.launch formatter context today, []) es
          (fun state e _ => e = .showCalendar → state.1.blocks = [] →
            FiledCurrent state.2 state.1.context)) ∧
      ∀ (offset : ℚ) (s : AppState),
        (∀ id dueDate, s.context.dueDate id = some dueDate → 0 ≤ dayNumber offset dueDate) →
        (∀ key tasks, s.calendarVC.getTasks key = some tasks → ∃ date,
          0 ≤ dayNumber offset date ∧
            key = (DateFormatter.gregorian offset).formattedFullDate date) →
        (CalendarAgrees (DateFormatter.gregorian offset) s ↔ CalendarAgreesByDay offset s) := by
  refine ⟨?_, fun _ _ hdates hkeys => agrees_gregorian_iff hdates hkeys⟩
  apply Along.congr
  intro before state e state' hrun _ hstep
  refine forall_congr' fun hshow => forall_congr' fun _ => ?_
  subst hshow
  exact agrees_iff (run_cacheOk hrun) hstep.1

/-- The sample app after its Tasks tab was shown and the first task ticked off. -/
def tickedOff : AppState :=
  let shown := (AppState.launch (DateFormatter.gregorian 0) sampleContext 0).refreshTasks
    (DateFormatter.gregorian 0) (some [1, 0])
  { shown with
    context := sampleContext.toggle 1
    blocks := [.tasks (some 1)] }

/-- The same after the block has run. -/
def takenOff : AppState :=
  { tickedOff.withTasksTab (tickedOff.tasksTab.checkboxBlock (some 1)) with blocks := [] }

theorem takenOff_run :
    Run (withHistory (AppStep (DateFormatter.gregorian 0) fun _ _ => True)
        (recordFiled (DateFormatter.gregorian 0)))
      (AppState.launch (DateFormatter.gregorian 0) sampleContext 0, [])
      [.showTasks (some [1, 0]), .tapTask 0, .runBlock]
      (takenOff, filed (DateFormatter.gregorian 0) sampleContext [1, 0]) := by
  have hanswered : ∀ tasks, some [1, 0] = some tasks →
      sampleContext.IsFetchByDueDate false tasks := by
    intro tasks htasks
    obtain rfl := Option.some.inj htasks
    exact sampleContext_fetch
  refine Run.snoc (t := (tickedOff, filed (DateFormatter.gregorian 0) sampleContext [1, 0]))
    (Run.snoc (t := (_, filed (DateFormatter.gregorian 0) sampleContext [1, 0]))
      (Run.single (t := ((AppState.launch (DateFormatter.gregorian 0) sampleContext 0).refreshTasks
        (DateFormatter.gregorian 0) (some [1, 0]), _)) ?_) ?_) ?_
  · exact ⟨⟨rfl, hanswered⟩, rfl⟩
  · exact ⟨⟨rfl, trivial⟩, rfl⟩
  · exact ⟨⟨rfl, trivial⟩, rfl⟩

/-- A task that is ticked off stays in the calendar until the Tasks tab is shown again. -/
theorem ticked_task_stays_in_calendar :
    ¬ ∀ (es : List AppEvent) (s s' : AppState),
      Run (AppStep (DateFormatter.gregorian 0) fun _ _ => True)
        (AppState.launch (DateFormatter.gregorian 0) sampleContext 0) es s →
      AppStep (DateFormatter.gregorian 0) (fun _ _ => True) s .showCalendar s' →
      s.blocks = [] → CalendarAgrees (DateFormatter.gregorian 0) s' := by
  intro h
  have hshow : AppStep (DateFormatter.gregorian 0) (fun _ _ => True) takenOff .showCalendar _ :=
    ⟨rfl, trivial⟩
  have hcurrent := (agrees_iff (run_cacheOk takenOff_run) hshow).1
    (h _ _ _ takenOff_run.forget_history hshow rfl) 1
  revert hcurrent
  decide +kernel

end TaskMaster
end IosProjects
