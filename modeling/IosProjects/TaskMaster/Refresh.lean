import IosProjects.TaskMaster.Calendar

/-!
# Refresh — the calendar after a refresh of the Tasks tab

A refresh that fetches files exactly the incomplete tasks. They stay the incomplete ones until a
checkbox is tapped or the Completed tab changes a task; deleting and editing on the Tasks tab
rebuild the dictionary from an array that is right. So the calendar agrees with the store as long as
only such events have followed the refresh.
-/

namespace IosProjects
namespace TaskMaster

open IosProjects.Library

/-! ## Events -/

/-- The Tasks tab refreshes, and its fetch returns. -/
def AppEvent.refreshes : AppEvent → Bool
  | .showTasks (some _) | .viewTypeChanged (some _) | .panelDismissed (some _) => true
  | _ => false

/-- No task is completed, un-completed or deleted but by the Tasks tab, no block runs, and what the
Tasks tab fetches is returned. -/
def AppEvent.steady : AppEvent → Bool
  | .tapTask _ | .tapCompleted _ | .setIncomplete _ | .deleteCompleted _ | .clearCompleted _ _
  | .runBlock => false
  | .showTasks none | .viewTypeChanged none | .panelDismissed none | .listDelete _ _ none => false
  | _ => true

/-! ## What a refresh establishes -/

/-- The Tasks tab has the incomplete tasks in its array, and so has the dictionary. -/
structure UpToDate (s : AppState) (g : List (ObjectID × String)) : Prop where
  loaded : ∃ tasks, s.tasksVC.tasks = some tasks ∧ s.context.IsFetch false tasks
  filed : FiledCurrent g s.context

section Filing

variable {formatter : DateFormatter} {context : ManagedObjectContext} {tasks : List ObjectID}

/-- Filing a fetched array is filing the incomplete tasks. -/
theorem filedCurrent_filed (h : context.IsFetch false tasks) :
    FiledCurrent (filed formatter context tasks) context := by
  intro id
  have hkey : (dateKey formatter context id).isSome = (context.dueDate id).isSome := by
    rw [dateKey, Option.isSome_map]
  rw [filed_ids, List.mem_filter, h.mem_iff, hkey]

theorem isFetch_delete (h : context.IsFetch false tasks) {row : ℕ} {task : ObjectID}
    (hrow : tasks[row]? = some task) :
    (context.delete task).IsFetch false (tasks.eraseIdx row) where
  nodup := h.nodup.sublist (List.eraseIdx_sublist tasks row)
  mem_iff := by
    intro id
    calc id ∈ tasks.eraseIdx row
        ↔ id ∈ tasks.erase task := by rw [eraseIdx_eq_erase h.nodup hrow]
      _ ↔ id ≠ task ∧ id ∈ tasks := h.nodup.mem_erase_iff
      _ ↔ (context.delete task).Marked false id := by
          rw [h.mem_iff, ManagedObjectContext.marked_delete]

end Filing

section Steady

variable {formatter : DateFormatter} {contains : Option String → String → Prop}
  {s s' : AppState} {g : List (ObjectID × String)} {e : AppEvent}

theorem UpToDate.congr (h : UpToDate s g) (hcontext : s'.context = s.context)
    (htasks : s'.tasksVC.tasks = s.tasksVC.tasks) : UpToDate s' g where
  loaded := by
    rw [hcontext, htasks]
    exact h.loaded
  filed := by
    rw [hcontext]
    exact h.filed

/-- After a rebuild from the incomplete tasks. -/
theorem upToDate_filed {tasks : List ObjectID} (htasks : s.tasksVC.tasks = some tasks)
    (hfetch : s.context.IsFetch false tasks) :
    UpToDate s (filed formatter s.context (s.tasksVC.tasks.getD [])) where
  loaded := ⟨tasks, htasks, hfetch⟩
  filed := by
    rw [htasks]
    exact filedCurrent_filed hfetch

theorem refreshTasks_loaded (formatter : DateFormatter) {tasks : List ObjectID}
    (hfetch : s.context.IsFetch false tasks) :
    (s.refreshTasks formatter (some tasks)).tasksVC.tasks = some tasks ∧
      (s.refreshTasks formatter (some tasks)).context.IsFetch false tasks := by
  simp only [AppState.refreshTasks, AppState.withTasksTab, AppState.tasksTab,
    TasksTab.refreshData_some, TasksTab.loaded]
  exact ⟨trivial, hfetch⟩

/-- Whatever the state before, a refresh that fetches brings everything up to date. -/
theorem UpToDate.of_refreshes (hrefreshes : e.refreshes)
    (hstep : AppStep formatter contains s e s') :
    UpToDate s' (recordFiled formatter s e s' g) := by
  -- the three refreshing events end in the same handler
  have hrefreshed : ∀ tasks, s' = s.refreshTasks formatter (some tasks) →
      s'.context.IsFetchByDueDate false tasks → e.regroups s s' = s'.tasksVC.tasks.isSome →
      UpToDate s' (recordFiled formatter s e s' g) := by
    rintro tasks rfl hanswer hregroups
    have hloaded := refreshTasks_loaded (s := s) formatter hanswer.toIsFetch
    rw [recordFiled, if_pos (by rw [hregroups, hloaded.1]; rfl)]
    exact upToDate_filed hloaded.1 hloaded.2
  have hanswered := hstep.2
  cases AppState.does_of_step hstep.1 with
  | @showTasks fetched _ =>
      cases fetched with
      | none => cases hrefreshes
      | some tasks => exact hrefreshed tasks rfl (hanswered tasks rfl) rfl
  | @viewTypeChanged fetched _ =>
      cases fetched with
      | none => cases hrefreshes
      | some tasks => exact hrefreshed tasks rfl (hanswered tasks rfl) rfl
  | @panelDismissed fetched _ _ =>
      cases fetched with
      | none => cases hrefreshes
      | some tasks => exact hrefreshed tasks rfl (hanswered tasks rfl) rfl
  | _ => cases hrefreshes

/-- In the panel nothing else happens than saving, and dismissing it refreshes. -/
theorem panel_or_refreshes {editTask : Option ObjectID} (hscreen : s.screen = .panel editTask)
    (hsteady : e.steady) (hstep : AppStep formatter contains s e s') :
    (∃ editTask, s'.screen = .panel editTask) ∨ e.refreshes := by
  obtain ⟨hstep, _⟩ := hstep
  cases e with
  | saveTask title dueDate =>
      simp only [AppState.step, hscreen, Option.some.injEq] at hstep
      refine Or.inl ⟨editTask, ?_⟩
      rw [← hstep, ← hscreen]
      unfold AppState.saveTask
      split
      · rfl
      · split <;> rfl
  | panelDismissed fetched =>
      cases fetched with
      | none => cases hsteady
      | some tasks => exact Or.inr rfl
  | runBlock => cases hsteady
  | tapTask row => cases hsteady
  | tapCompleted row => cases hsteady
  | setIncomplete row => cases hsteady
  | deleteCompleted row => cases hsteady
  | clearCompleted saved fetched => cases hsteady
  | _ => simp [AppState.step, hscreen] at hstep

/-- The grid's delete action takes the task out of both. -/
theorem UpToDate.gridDelete (h : UpToDate s g) {row : ℕ} {tab : TasksTab}
    (hdelete : s.tasksTab.createDeleteAction formatter row = some tab) :
    UpToDate (s.withTasksTab tab)
      (recordFiled formatter s (.gridDelete row) (s.withTasksTab tab) g) := by
  rcases TasksTab.createDeleteAction_cases hdelete with
    ⟨rfl, hcell⟩ | ⟨tasks, task, htasks, hrow, hdue, hcontext, htasks', _⟩
  · rw [recordFiled, if_neg (by simp [regroups_gridDelete_of_none hcell])]
    exact h
  · rw [recordFiled, if_pos (regroups_gridDelete htasks hrow hdue)]
    rcases h.loaded with ⟨loaded, hloaded, hfetch⟩
    obtain rfl : loaded = tasks := Option.some.inj (hloaded.symm.trans htasks)
    refine upToDate_filed htasks' ?_
    have hcontext' : (s.withTasksTab tab).context = s.context.delete task := hcontext
    rw [hcontext']
    exact isFetch_delete hfetch hrow

/-- The list's delete action fetches again. -/
theorem UpToDate.listDelete (h : UpToDate s g) {section_ row : ℕ} {tasks : List ObjectID}
    {tab : TasksTab}
    (hdelete : s.tasksTab.deleteAction formatter (some tasks) section_ row = some tab)
    (hfetch : tab.context.IsFetchByDueDate false tasks) :
    UpToDate (s.withTasksTab tab)
      (recordFiled formatter s (.listDelete section_ row (some tasks)) (s.withTasksTab tab) g) := by
  rcases TasksTab.deleteAction_cases hdelete with ⟨rfl, hcell⟩ | ⟨task, hcell, _, htasks, _, _⟩
  · rw [recordFiled, if_neg (by simp [regroups_listDelete_of_none hcell])]
    exact h
  · have hregroups : (AppEvent.listDelete section_ row (some tasks)).regroups s
        (s.withTasksTab tab) = true := by
      rw [regroups_listDelete hcell]
      exact Option.isSome_iff_exists.2 ⟨tasks, htasks⟩
    rw [recordFiled, if_pos hregroups]
    exact upToDate_filed htasks hfetch.toIsFetch

/-- The panel is open, where the calendar cannot be shown, or everything is up to date. -/
def Ready (s : AppState) (g : List (ObjectID × String)) : Prop :=
  (∃ editTask, s.screen = .panel editTask) ∨ UpToDate s g

theorem Ready.step (hok : CacheOk formatter s g) (h : Ready s g) (hsteady : e.steady)
    (hstep : AppStep formatter contains s e s') :
    Ready s' (recordFiled formatter s e s' g) := by
  rcases h with ⟨editTask, hscreen⟩ | h
  · rcases panel_or_refreshes hscreen hsteady hstep with hpanel | hrefreshes
    · exact Or.inl hpanel
    · exact Or.inr (UpToDate.of_refreshes hrefreshes hstep)
  by_cases hrefreshes : e.refreshes
  · exact Or.inr (UpToDate.of_refreshes hrefreshes hstep)
  -- most steady events touch neither the context nor the array
  have hkept : e.regroups s s' = false → s'.context = s.context →
      s'.tasksVC.tasks = s.tasksVC.tasks → Ready s' (recordFiled formatter s e s' g) := by
    intro hregroups hcontext htasks
    refine Or.inr ?_
    rw [recordFiled, if_neg (by simp [hregroups])]
    exact h.congr hcontext htasks
  have hanswered := hstep.2
  cases AppState.does_of_step hstep.1 with
  | @showTasks fetched _ => cases fetched <;> simp [AppEvent.steady, AppEvent.refreshes] at *
  | @viewTypeChanged fetched _ => cases fetched <;> simp [AppEvent.steady, AppEvent.refreshes] at *
  | @panelDismissed fetched _ _ => cases fetched <;> simp [AppEvent.steady, AppEvent.refreshes] at *
  | @showCompleted fetched fetched' _ _ =>
      have hinherited : s.completedTab.vc.tasks = none := hok.inherited
      exact hkept rfl (CompletedTab.viewDidAppear_of_nil hinherited formatter fetched fetched').1
        rfl
  | showCalendar _ _ _ => exact hkept rfl rfl rfl
  | addTask _ => exact Or.inl ⟨none, rfl⟩
  | noEdit _ => exact hkept rfl rfl rfl
  | @gridEdit _ editTask _ => exact Or.inl ⟨editTask, rfl⟩
  | @listEdit _ _ editTask _ => exact Or.inl ⟨editTask, rfl⟩
  | saveTask hscreen =>
      rcases panel_or_refreshes hscreen hsteady hstep with hpanel | hrefreshes
      · exact Or.inl hpanel
      · cases hrefreshes
  | gridDelete _ hdelete => exact Or.inr (h.gridDelete hdelete)
  | @listDelete _ _ fetched _ _ hdelete =>
      cases fetched with
      | none => cases hsteady
      | some tasks => exact Or.inr (h.listDelete hdelete (hanswered tasks rfl))
  | noSearch _ => exact hkept rfl rfl rfl
  -- a search only sets the array of the Completed tab
  | @search _ fetched _ _ => refine hkept rfl ?_ ?_ <;> cases fetched <;> rfl
  | @clearSearch fetched _ => refine hkept rfl ?_ ?_ <;> cases fetched <;> rfl
  | selectDate _ => exact hkept rfl rfl rfl
  | _ => cases hsteady

/-- From a refresh on, as long as the events are steady. -/
theorem Ready.run {context : ManagedObjectContext} {today : Date} {before after : List AppEvent}
    (hrefreshes : e.refreshes) (hsteady : ∀ e ∈ after, e.steady)
    {state : AppState × List (ObjectID × String)}
    (hrun : Run (withHistory (AppStep formatter contains) (recordFiled formatter))
      (AppState.launch formatter context today, []) (before ++ e :: after) state) :
    Ready state.1 state.2 := by
  induction after using List.reverseRecOn generalizing state with
  | nil =>
      rcases hrun.snoc_inv with ⟨_, _, hstep, hrecord⟩
      rw [hrecord]
      exact Or.inr (UpToDate.of_refreshes hrefreshes hstep)
  | append_singleton after e' ih =>
      rw [← List.cons_append, ← List.append_assoc] at hrun
      rcases hrun.snoc_inv with ⟨_, hbefore, hstep, hrecord⟩
      rw [hrecord]
      have hready := ih (fun e he => hsteady e (List.mem_append_left _ he)) hbefore
      exact hready.step (run_cacheOk hbefore) (hsteady e' (by simp)) hstep

/-- In every run, the calendar agrees with the store when it reloads after a refresh of the Tasks
tab that was only followed by steady events. -/
theorem calendar_agrees_after_refresh {context : ManagedObjectContext} {today : Date}
    {before after : List AppEvent} (hrefreshes : e.refreshes) (hsteady : ∀ e ∈ after, e.steady)
    (hrun : Run (AppStep formatter contains) (AppState.launch formatter context today)
      (before ++ e :: after) s)
    (hshow : AppStep formatter contains s .showCalendar s') : CalendarAgrees formatter s' := by
  rcases hrun.with_history (recordFiled formatter) [] with ⟨g, hhistory⟩
  have hok := run_cacheOk hhistory
  rcases Ready.run hrefreshes hsteady hhistory with ⟨editTask, hscreen⟩ | hready
  · exact absurd hscreen ((agrees_iff_filedUnder hok hshow).2.1 editTask)
  · exact (agrees_iff hok hshow).2 hready.filed

end Steady

end TaskMaster
end IosProjects
