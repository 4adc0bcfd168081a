import IosProjects.TaskMaster.Cache
import IosProjects.TaskMaster.ContextChanges
import IosProjects.TaskMaster.Reloads

/-!
# GridRows — the tasks in the rows of the two grids

The arrays behind the grids hold references, and a task may be deleted elsewhere while an array
keeps its reference. Identifiers are never used again, so such a reference stays dead. While what a
tab fetches is returned, the grid on the screen has no such reference: every handler that deletes a
task takes it out of the array in sight.
-/

namespace IosProjects
namespace TaskMaster

open IosProjects.Library

/-! ## The tabs with a grid -/

inductive Tab where
  | tasks
  | completed
  deriving DecidableEq, Repr

/-- The screen on which nothing lies over the grid. -/
def Tab.screen : Tab → Screen
  | .tasks => .tasks
  | .completed => .completed

/-- The array behind a grid. -/
def AppState.tasksOn (s : AppState) : Tab → Option (List ObjectID)
  | .tasks => s.tasksVC.tasks
  | .completed => s.completedTasks

/-- The user sees the grid, if the tab shows it; the panel leaves the Tasks tab in sight. -/
def AppState.OnScreen (s : AppState) : Tab → Prop
  | .tasks => s.screen = .tasks ∨ ∃ editTask, s.screen = .panel editTask
  | .completed => s.screen = .completed

def AppEvent.reloads (e : AppEvent) (s : AppState) : Tab → Bool
  | .tasks => e.reloadsTasks s
  | .completed => e.reloadsCompleted s

/-- The event brings the tab onto the screen and loads it. -/
def AppEvent.shows : AppEvent → Tab → Bool
  | .showTasks _, .tasks | .viewTypeChanged _, .tasks | .panelDismissed _, .tasks => true
  | .showCompleted _ _, .completed => true
  | _, _ => false

/-- What the event brings onto the screen or deletes is loaded again, and the fetch for that
succeeds. -/
def AppEvent.loads : AppEvent → Tab → Bool
  | .showTasks fetched, .tasks | .viewTypeChanged fetched, .tasks
  | .panelDismissed fetched, .tasks | .listDelete _ _ fetched, .tasks => fetched.isSome
  | .showCompleted fetched fetched', .completed => fetched.isSome || fetched'.isSome
  | .clearCompleted saved fetched, .completed => saved && fetched.isSome
  | _, _ => true

theorem screen_saveTask (title : String) (dueDate : Date) (editTask : Option ObjectID)
    (s : AppState) : (s.saveTask title dueDate editTask).screen = s.screen := by
  unfold AppState.saveTask
  split
  · rfl
  · cases editTask <;> rfl

section OnScreen

variable {s s' : AppState} {tab : Tab}

theorem AppState.OnScreen.eq_tasks (h : s.OnScreen tab) (hscreen : s.screen = .tasks) :
    tab = .tasks := by
  cases tab with
  | tasks => rfl
  | completed => cases hscreen.symm.trans h

theorem AppState.OnScreen.eq_tasks_of_panel (h : s.OnScreen tab) {editTask : Option ObjectID}
    (hscreen : s.screen = .panel editTask) : tab = .tasks := by
  cases tab with
  | tasks => rfl
  | completed => cases hscreen.symm.trans h

theorem AppState.OnScreen.eq_completed (h : s.OnScreen tab) (hscreen : s.screen = .completed) :
    tab = .completed := by
  cases tab with
  | completed => rfl
  | tasks =>
      rcases h with h | ⟨editTask, h⟩
      · cases hscreen.symm.trans h
      · cases hscreen.symm.trans h

/-- A grid on the screen was there before, or has just been brought onto it. -/
theorem onScreen_or_shows {formatter : DateFormatter} {e : AppEvent}
    (h : s.step formatter e = some s') (hscreen : s'.OnScreen tab) :
    s.OnScreen tab ∨ e.shows tab = true := by
  cases AppState.does_of_step h with
  | showTasks _ =>
      obtain rfl := hscreen.eq_tasks rfl
      exact Or.inr rfl
  | viewTypeChanged _ =>
      obtain rfl := hscreen.eq_tasks rfl
      exact Or.inr rfl
  | panelDismissed _ =>
      obtain rfl := hscreen.eq_tasks rfl
      exact Or.inr rfl
  | showCompleted _ _ =>
      obtain rfl := hscreen.eq_completed rfl
      exact Or.inr rfl
  | showCalendar _ _ _ =>
      cases tab with
      | tasks => rcases hscreen with hscreen | ⟨_, hscreen⟩ <;> cases hscreen
      | completed => cases hscreen
  -- the panel comes over the Tasks tab
  | addTask hbefore =>
      obtain rfl := hscreen.eq_tasks_of_panel rfl
      exact Or.inl (Or.inl hbefore)
  | gridEdit hbefore =>
      obtain rfl := hscreen.eq_tasks_of_panel rfl
      exact Or.inl (Or.inl hbefore)
  | listEdit hbefore =>
      obtain rfl := hscreen.eq_tasks_of_panel rfl
      exact Or.inl (Or.inl hbefore)
  | saveTask hbefore =>
      obtain rfl := hscreen.eq_tasks_of_panel ((screen_saveTask _ _ _ _).trans hbefore)
      exact Or.inl (Or.inr ⟨_, hbefore⟩)
  | _ => exact Or.inl hscreen

theorem AppEvent.reloads_of_shows {e : AppEvent} (h : e.shows tab = true) :
    e.reloads s tab = true := by
  cases e <;> cases tab <;> first | rfl | cases h

end OnScreen

/-! ## Tasks that exist -/

section Exist

variable {context : ManagedObjectContext} {changes : List ContextChange} {id : ObjectID}

theorem ContextChange.nextID_le (c : ContextChange) :
    context.nextID ≤ (c.apply context).nextID := by
  cases c with
  | insert title dueDate => exact Nat.le_succ _
  | delete task => exact le_rfl
  | assign task title dueDate => exact (ManagedObjectContext.nextID_modify task _).ge
  | toggle task => exact (ManagedObjectContext.nextID_modify task _).ge
  | untick task => exact (ManagedObjectContext.nextID_modify task _).ge

/-- An object stays until it is deleted. -/
theorem ContextChange.isSome_apply {c : ContextChange} (hc : c ≠ .delete id)
    (h : (context.task id).isSome) : ((c.apply context).task id).isSome := by
  cases c with
  | insert title dueDate => by_cases hid : id = context.nextID <;> simp [apply, hid, h]
  | delete task =>
      have hid : id ≠ task := fun hid => hc (hid ▸ rfl)
      simpa [apply, hid] using h
  | assign task title dueDate => by_cases hid : id = task <;> simpa [apply, hid] using h
  | toggle task =>
      by_cases hid : id = task <;> simpa [apply, ManagedObjectContext.toggle, hid] using h
  | untick task => by_cases hid : id = task <;> simpa [apply, hid] using h

theorem nextID_le_perform :
    context.nextID ≤ (Changes.perform ContextChange.apply changes context).nextID := by
  induction changes generalizing context with
  | nil => exact le_rfl
  | cons c changes ih => exact c.nextID_le.trans ih

theorem isSome_perform (hkept : .delete id ∉ changes) (h : (context.task id).isSome) :
    ((Changes.perform ContextChange.apply changes context).task id).isSome := by
  induction changes generalizing context with
  | nil => exact h
  | cons c changes ih =>
      obtain ⟨hc, hchanges⟩ := not_or.1 (mt List.mem_cons.2 hkept)
      exact ih hchanges (ContextChange.isSome_apply (Ne.symm hc) h)

end Exist

/-! ## The arrays -/

/-- There is an array, without duplicates, of tasks that exist. -/
def RowsExist (s : AppState) (tab : Tab) : Prop :=
  ∃ tasks, s.tasksOn tab = some tasks ∧ tasks.Nodup ∧ ∀ id ∈ tasks, (s.context.task id).isSome

/-- Where the array behind a grid comes from after a step. -/
inductive Rearranged (e : AppEvent) (s s' : AppState) (tab : Tab) : Prop
  | fetched : RowsExist s' tab → Rearranged e s s' tab
  -- what is deleted from the grid in sight leaves the array
  | left : Option.Rel List.Sublist (s'.tasksOn tab) (s.tasksOn tab) →
      (s.OnScreen tab → e.loads tab = true → RowsExist s tab →
        ∀ id, .delete id ∈ e.changes s → ∀ tasks', s'.tasksOn tab = some tasks' → id ∉ tasks') →
      Rearranged e s s' tab
  | inserted {title : String} {dueDate : Date} : e.changes s = [.insert title dueDate] →
      s'.tasksOn tab = (s.tasksOn tab).map (· ++ [s.context.nextID]) → Rearranged e s s' tab

section Steps

variable {formatter : DateFormatter} {contains : Option String → String → Prop} {s s' : AppState}
  {e : AppEvent} {tab : Tab}

theorem RowsExist.of_fetch {tasks : List ObjectID} {done : Bool}
    (htasks : s'.tasksOn tab = some tasks) (hnodup : tasks.Nodup)
    (hmarked : ∀ id ∈ tasks, s'.context.Marked done id) : RowsExist s' tab := by
  refine ⟨tasks, htasks, hnodup, fun id hid => ?_⟩
  rcases Option.map_eq_some_iff.1 (hmarked id hid) with ⟨task, htask, _⟩
  exact htask ▸ rfl

theorem RowsExist.of_isFetch {tasks : List ObjectID} {done : Bool}
    (htasks : s'.tasksOn tab = some tasks) (hfetch : s'.context.IsFetch done tasks) :
    RowsExist s' tab :=
  .of_fetch htasks hfetch.nodup fun id hid => (hfetch.mem_iff id).1 hid

/-- The array is as it was, and the grid in sight loses nothing. -/
theorem Rearranged.same (htasks : s'.tasksOn tab = s.tasksOn tab)
    (hkept : s.OnScreen tab → ∀ id, .delete id ∉ e.changes s) : Rearranged e s s' tab :=
  .left (htasks ▸ sublist_refl _) fun hscreen _ _ id hdelete => absurd hdelete (hkept hscreen id)

/-- An array that is fetched, or stays because the fetch fails. -/
theorem Rearranged.of_or {fetched : Option (List ObjectID)}
    (htasks : s'.tasksOn tab = fetched.or (s.tasksOn tab))
    (hfetched : ∀ tasks, fetched = some tasks → s'.tasksOn tab = some tasks → RowsExist s' tab)
    (hkept : fetched = none → s.OnScreen tab → ∀ id, .delete id ∉ e.changes s) :
    Rearranged e s s' tab := by
  cases fetched with
  | none => exact .same htasks (hkept rfl)
  | some tasks => exact .fetched (hfetched tasks rfl htasks)

theorem AppState.tasksOn_refreshTasks (fetched : Option (List ObjectID)) :
    (s.refreshTasks formatter fetched).tasksOn .tasks = fetched.or (s.tasksOn .tasks) := by
  have hvc : (s.refreshTasks formatter fetched).tasksVC =
      (s.tasksVC.loadTasks fetched).groupTasksByDate formatter s.context := rfl
  rw [tasksOn, hvc, TaskViewController.groupTasksByDate_eq]
  cases fetched <;> rfl

/-- A row is taken out of the array, and at most its task is deleted. -/
theorem Rearranged.eraseIdx (row : ℕ)
    (htasks : s'.tasksOn tab = (s.tasksOn tab).map fun tasks => tasks.eraseIdx row)
    (hdeletes : ∀ id, .delete id ∈ e.changes s →
      ((s.tasksOn tab).bind fun tasks => tasks[row]?) = some id) : Rearranged e s s' tab := by
  refine .left ?_ ?_
  · rw [htasks]
    cases s.tasksOn tab with
    | none => exact .none
    | some tasks => exact .some (List.eraseIdx_sublist tasks row)
  · rintro _ _ ⟨tasks, hbefore, hnodup, _⟩ id hdelete tasks' htasks'
    have hrow := hdeletes id hdelete
    rw [hbefore, Option.bind_some] at hrow
    rw [htasks, hbefore, Option.map_some, eraseIdx_eq_erase hnodup hrow] at htasks'
    obtain rfl := Option.some.inj htasks'
    exact hnodup.not_mem_erase

/-- An item of the menu. -/
theorem Rearranged.menu {change : ObjectID → ManagedObjectContext → ManagedObjectContext} {row : ℕ}
    {after : CompletedTab} (hmenu : s.completedTab.menuAction change row = some after)
    (hdeletes : ∀ id, .delete id ∈ e.changes s → s.completedInRow row = some id)
    (hscreen : s.screen = .completed) : Rearranged e s (s.withCompletedTab after) tab := by
  cases tab with
  | tasks => exact .same rfl fun htasks => by cases htasks.eq_completed hscreen
  | completed => exact .eraseIdx row (CompletedTab.completedTasks_menuAction hmenu) hdeletes

theorem delete_mem_gridDelete {row : ℕ} {id : ObjectID} :
    .delete id ∈ AppEvent.changes s (.gridDelete row) ↔
      s.taskInRow row = some id ∧ (s.context.dueDate id).isSome := by
  simp only [AppEvent.changes, Option.mem_toList, Option.bind_eq_some_iff]
  constructor
  · rintro ⟨task, hrow, hdelete⟩
    obtain ⟨hdue, hdelete⟩ := Option.ite_none_right_eq_some.1 hdelete
    cases hdelete
    exact ⟨hrow, hdue⟩
  · rintro ⟨hrow, hdue⟩
    exact ⟨id, hrow, if_pos hdue⟩

theorem Rearranged.gridDelete {row : ℕ} {after : TasksTab} (hscreen : s.screen = .tasks)
    (hdelete : s.tasksTab.createDeleteAction formatter row = some after) :
    Rearranged (.gridDelete row) s (s.withTasksTab after) tab := by
  cases tab with
  | completed => exact .same rfl fun hcompleted => by cases hcompleted.eq_tasks hscreen
  | tasks =>
      rcases TasksTab.createDeleteAction_cases hdelete with
        ⟨rfl, hdue⟩ | ⟨tasks, task, htasks, hrow, _, _, hafter, _⟩
      · refine .same rfl fun _ id hid => ?_
        obtain ⟨hrow, hdate⟩ := delete_mem_gridDelete.1 hid
        rcases Option.bind_eq_some_iff.1 hrow with ⟨tasks, htasks, hrow⟩
        have hnone : s.context.dueDate id = none :=
          hdue id (TaskViewController.cellForItemAt_eq.2 ⟨tasks, htasks, hrow⟩)
        simp [hnone] at hdate
      · have hbefore : s.tasksOn .tasks = some tasks := htasks
        refine .eraseIdx row ?_ fun id hid => (delete_mem_gridDelete.1 hid).1
        rw [hbefore]
        exact hafter

theorem Rearranged.listDelete {section_ row : ℕ} {fetched : Option (List ObjectID)}
    {after : TasksTab} (hscreen : s.screen = .tasks)
    (hdelete : s.tasksTab.deleteAction formatter fetched section_ row = some after)
    (hanswer : ∀ tasks, fetched = some tasks → after.context.IsFetchByDueDate false tasks) :
    Rearranged (.listDelete section_ row fetched) s (s.withTasksTab after) tab := by
  cases tab with
  | completed => exact .same rfl fun hcompleted => by cases hcompleted.eq_tasks hscreen
  | tasks =>
      rcases TasksTab.deleteAction_cases hdelete with ⟨rfl, hcell⟩ | ⟨_, _, _, hafter, _⟩
      · have hcell' : s.tasksVC.cellForRowAt section_ row = some none := hcell
        exact .same rfl fun _ id => by simp [AppEvent.changes, hcell']
      · cases fetched with
        | none =>
            have hsame : (s.withTasksTab after).tasksOn .tasks = s.tasksOn .tasks := hafter
            exact .left (hsame ▸ sublist_refl _) fun _ hloads => by cases hloads
        | some tasks =>
            exact .fetched (.of_isFetch hafter (hanswer tasks rfl).toIsFetch)

theorem Rearranged.clearCompleted {saved : Bool} {fetched : Option (List ObjectID)}
    (hscreen : s.screen = .completed)
    (hanswer : ∀ tasks, fetched = some tasks →
      (s.completedTab.deleteCompletedTasks saved fetched).context.IsFetch true tasks) :
    Rearranged (.clearCompleted saved fetched) s
      (s.withCompletedTab (s.completedTab.deleteCompletedTasks saved fetched)) tab := by
  cases tab with
  | tasks => exact .same rfl fun htasks => by cases htasks.eq_completed hscreen
  | completed =>
      have hafter : (s.withCompletedTab (s.completedTab.deleteCompletedTasks saved fetched)).tasksOn
          .completed = (s.completedTab.deleteCompletedTasks saved fetched).completedTasks := rfl
      cases hshown : s.completedTab.completedTasks with
      | none =>
          have hbefore : s.completedTasks = none := hshown
          have hsame : s.completedTab.deleteCompletedTasks saved fetched = s.completedTab := by
            simp [CompletedTab.deleteCompletedTasks, hshown]
          refine .same (hafter.trans (congrArg CompletedTab.completedTasks hsame)) fun _ id => ?_
          simp [AppEvent.changes, hbefore]
      | some tasks =>
          cases saved with
          | false =>
              refine .left ?_ fun _ hloads => by cases hloads
              rw [hafter, CompletedTab.deleteCompletedTasks_completedTasks _ _ (by simp)]
              exact sublist_refl _
          | true =>
              cases fetched with
              | none =>
                  refine .left ?_ fun _ hloads => by cases hloads
                  have hsame : (s.completedTab.deleteCompletedTasks true none).completedTasks =
                      s.completedTab.completedTasks := by
                    simp [CompletedTab.deleteCompletedTasks, CompletedTab.loadTasks, hshown]
                  rw [hafter, hsame]
                  exact sublist_refl _
              | some left =>
                  refine .fetched (.of_isFetch ?_ (hanswer left rfl))
                  rw [hafter]
                  simp [CompletedTab.deleteCompletedTasks, hshown, CompletedTab.loadTasks]

theorem Rearranged.saveTask {title : String} {dueDate : Date} {editTask : Option ObjectID}
    (hscreen : s.screen = .panel editTask) :
    Rearranged (.saveTask title dueDate) s (s.saveTask title dueDate editTask) tab := by
  have hdeletes : ∀ id, .delete id ∉ AppEvent.changes s (.saveTask title dueDate) := by
    intro id
    cases editTask <;> by_cases htitle : title = "" <;> simp [AppEvent.changes, htitle, hscreen]
  by_cases htitle : title = ""
  · refine .same ?_ fun _ => hdeletes
    simp only [AppState.saveTask, htitle, if_true]
  cases editTask with
  | some task =>
      refine .same ?_ fun _ => hdeletes
      simp only [AppState.saveTask, htitle, if_false]
      cases tab <;> rfl
  | none =>
      cases tab with
      | tasks =>
          have hinsert :
              AppEvent.changes s (.saveTask title dueDate) = [.insert title dueDate] := by
            simp [AppEvent.changes, htitle, hscreen]
          refine .inserted hinsert ?_
          simp only [AppState.saveTask, htitle, if_false]
          rfl
      | completed =>
          refine .same ?_ fun _ => hdeletes
          simp only [AppState.saveTask, htitle, if_false]
          rfl

/-- What a step does to the array behind a grid. -/
theorem rearranged_of_step (h : AppStep formatter contains s e s') : Rearranged e s s' tab := by
  obtain ⟨hstep, hanswer⟩ := h
  have hrefresh : ∀ (fetched : Option (List ObjectID)) (e : AppEvent),
      (∀ tasks, fetched = some tasks →
        (s.refreshTasks formatter fetched).context.IsFetchByDueDate false tasks) →
      (∀ id, .delete id ∉ e.changes s) →
      Rearranged e s (s.refreshTasks formatter fetched) tab := by
    intro fetched e hanswer hkept
    cases tab with
    | completed => exact .same rfl fun _ => hkept
    | tasks =>
        exact .of_or (AppState.tasksOn_refreshTasks fetched)
          (fun tasks hfetched htasks => .of_isFetch htasks (hanswer tasks hfetched).toIsFetch)
          fun _ _ => hkept
  cases AppState.does_of_step hstep with
  | showTasks _ => exact hrefresh _ _ hanswer (by simp [AppEvent.changes])
  | viewTypeChanged _ => exact hrefresh _ _ hanswer (by simp [AppEvent.changes])
  | panelDismissed _ => exact hrefresh _ _ hanswer (by simp [AppEvent.changes])
  | saveTask hscreen => exact .saveTask hscreen
  | gridDelete hscreen hdelete => exact .gridDelete hscreen hdelete
  | listDelete hscreen hdelete => exact .listDelete hscreen hdelete hanswer
  | setIncomplete hscreen hmenu => exact .menu hmenu (by simp [AppEvent.changes]) hscreen
  | deleteCompleted hscreen hmenu =>
      refine .menu hmenu (fun id hid => ?_) hscreen
      rcases Option.map_eq_some_iff.1 (Option.mem_toList.1 hid) with ⟨task, hrow, htask⟩
      cases htask
      exact hrow
  | clearCompleted hscreen => exact .clearCompleted hscreen hanswer
  | tapTask _ htap =>
      refine .same ?_ (by simp [AppEvent.changes])
      cases tab with
      | tasks => exact congrArg TaskViewController.tasks (TasksTab.vc_toggleCheckbox htap)
      | completed => rfl
  | tapCompleted _ htap =>
      refine .same ?_ (by simp [AppEvent.changes])
      cases tab with
      | tasks => rfl
      | completed => exact CompletedTab.completedTasks_toggleCheckbox htap
  | @showCompleted fetched fetched' _ _ =>
      cases tab with
      | tasks => exact .same rfl (by simp [AppEvent.changes])
      | completed =>
          refine .of_or
            (CompletedTab.completedTasks_viewDidAppear formatter fetched fetched' s.completedTab)
            (fun tasks hfetched htasks => ?_) fun _ _ => by simp [AppEvent.changes]
          cases fetched' with
          | none => exact .of_isFetch htasks (hanswer.1 tasks hfetched)
          | some tasks' => exact .of_isFetch htasks (hanswer.2 tasks hfetched)
  | search _ _ =>
      cases tab with
      | tasks => exact .same rfl (by simp [AppEvent.changes])
      | completed =>
          refine .of_or (CompletedTab.completedTasks_loadTasks _ s.completedTab)
            (fun tasks hfetched htasks => ?_) fun _ _ => by simp [AppEvent.changes]
          obtain ⟨hnodup, hmem⟩ := hanswer tasks hfetched
          exact .of_fetch htasks hnodup fun id hid => ((hmem id).1 hid).1
  | clearSearch _ =>
      cases tab with
      | tasks => exact .same rfl (by simp [AppEvent.changes])
      | completed =>
          exact .of_or (CompletedTab.completedTasks_loadTasks _ s.completedTab)
            (fun tasks hfetched htasks => .of_isFetch htasks (hanswer tasks hfetched))
            fun _ _ => by simp [AppEvent.changes]
  -- a block takes a task out of the array of its tab
  | tasksBlock _ =>
      cases tab with
      | tasks =>
          exact .left (sublist_removeToggled _ _) fun _ _ _ id hid => by cases hid
      | completed => exact .same rfl (by simp [AppEvent.changes])
  | completedBlock _ =>
      cases tab with
      | tasks => exact .same rfl (by simp [AppEvent.changes])
      | completed =>
          exact .left (sublist_removeToggled _ _) fun _ _ _ id hid => by cases hid
  -- the others touch neither array
  | showCalendar _ _ _ => exact .same (by cases tab <;> rfl) (by simp [AppEvent.changes])
  | addTask _ => exact .same (by cases tab <;> rfl) (by simp [AppEvent.changes])
  | noEdit _ => exact .same rfl (by simp [AppEvent.changes])
  | gridEdit _ => exact .same (by cases tab <;> rfl) (by simp [AppEvent.changes])
  | listEdit _ => exact .same (by cases tab <;> rfl) (by simp [AppEvent.changes])
  | noSearch _ => exact .same rfl (by simp [AppEvent.changes])
  | selectDate _ => exact .same (by cases tab <;> rfl) (by simp [AppEvent.changes])

/-- The references in the arrays have been given out. -/
def Known (s : AppState) : Prop :=
  ∀ tab tasks, s.tasksOn tab = some tasks → ∀ id ∈ tasks, id < s.context.nextID

theorem RowsExist.lt_nextID (h : RowsExist s tab) {tasks : List ObjectID}
    (htasks : s.tasksOn tab = some tasks) : ∀ id ∈ tasks, id < s.context.nextID := by
  obtain ⟨tasks', htasks', _, hexist⟩ := h
  obtain rfl := Option.some.inj (htasks'.symm.trans htasks)
  intro id hid
  obtain ⟨task, htask⟩ := Option.isSome_iff_exists.1 (hexist id hid)
  exact ManagedObjectContext.task_eq_some_lt htask

theorem Known.step (h : Known s) (hstep : AppStep formatter contains s e s') : Known s' := by
  have hcontext := AppState.context_of_step hstep.1
  have hnext : s.context.nextID ≤ s'.context.nextID := hcontext ▸ nextID_le_perform
  intro tab tasks' htasks' id hid
  have hchange : Rearranged e s s' tab := rearranged_of_step hstep
  cases hchange with
  | fetched hrows => exact hrows.lt_nextID htasks' id hid
  | left hsublist _ =>
      rw [htasks', rel_some_left] at hsublist
      obtain ⟨tasks, htasks, hsublist⟩ := hsublist
      exact (h tab tasks htasks id (hsublist.subset hid)).trans_le hnext
  | inserted hinsert hafter =>
      rw [htasks'] at hafter
      rcases Option.map_eq_some_iff.1 hafter.symm with ⟨tasks, htasks, rfl⟩
      rcases List.mem_append.1 hid with hid | hid
      · exact (h tab tasks htasks id hid).trans_le hnext
      · obtain rfl := List.mem_singleton.1 hid
        rw [hcontext, hinsert]
        exact Nat.lt_succ_self _

theorem known_launch (context : ManagedObjectContext) (today : Date) :
    Known (.launch formatter context today) := by
  intro tab tasks htasks
  cases tab <;> cases htasks

/-- A tab that is brought onto the screen and loaded has a row for each task it has fetched. -/
theorem rowsExist_of_shows (hstep : AppStep formatter contains s e s') (hshows : e.shows tab = true)
    (hloads : e.loads tab = true) : RowsExist s' tab := by
  obtain ⟨hstep, hanswer⟩ := hstep
  have hrefresh : ∀ fetched : Option (List ObjectID), fetched.isSome = true →
      (∀ tasks, fetched = some tasks →
        (s.refreshTasks formatter fetched).context.IsFetchByDueDate false tasks) →
      RowsExist (s.refreshTasks formatter fetched) .tasks := by
    intro fetched hfetched hanswer
    obtain ⟨tasks, rfl⟩ := Option.isSome_iff_exists.1 hfetched
    exact .of_isFetch (AppState.tasksOn_refreshTasks (some tasks)) (hanswer tasks rfl).toIsFetch
  cases AppState.does_of_step hstep with
  | showTasks _ =>
      cases tab with
      | tasks => exact hrefresh _ hloads hanswer
      | completed => cases hshows
  | viewTypeChanged _ =>
      cases tab with
      | tasks => exact hrefresh _ hloads hanswer
      | completed => cases hshows
  | panelDismissed _ =>
      cases tab with
      | tasks => exact hrefresh _ hloads hanswer
      | completed => cases hshows
  | @showCompleted fetched fetched' _ _ =>
      cases tab with
      | tasks => cases hshows
      | completed =>
          have hafter :=
            CompletedTab.completedTasks_viewDidAppear formatter fetched fetched' s.completedTab
          cases fetched' with
          | some tasks => exact .of_isFetch hafter (hanswer.2 tasks rfl)
          | none =>
              cases fetched with
              | some tasks => exact .of_isFetch hafter (hanswer.1 tasks rfl)
              | none => cases hloads
  | _ => cases hshows

/-- While what a tab fetches is returned, the rows of the grid on the screen exist. -/
theorem rowsExist_step (hknown : Known s) (h : s.OnScreen tab → RowsExist s tab)
    (hloads : e.loads tab = true) (hstep : AppStep formatter contains s e s') :
    s'.OnScreen tab → RowsExist s' tab := by
  intro hscreen
  rcases onScreen_or_shows hstep.1 hscreen with hbefore | hshows
  swap
  · exact rowsExist_of_shows hstep hshows hloads
  have hrows := h hbefore
  obtain ⟨tasks, htasks, hnodup, hexist⟩ := hrows
  have hcontext := AppState.context_of_step hstep.1
  have hchange : Rearranged e s s' tab := rearranged_of_step hstep
  cases hchange with
  | fetched hrows' => exact hrows'
  | left hsublist hdeleted =>
      rw [htasks, rel_some_right] at hsublist
      obtain ⟨tasks', htasks', hsublist⟩ := hsublist
      refine ⟨tasks', htasks', hnodup.sublist hsublist, fun id hid => ?_⟩
      rw [hcontext]
      refine isSome_perform (fun hdelete => ?_) (hexist id (hsublist.subset hid))
      exact hdeleted hbefore hloads (h hbefore) id hdelete tasks' htasks' hid
  | inserted hinsert hafter =>
      rw [htasks, Option.map_some] at hafter
      have hfresh : s.context.nextID ∉ tasks := fun hmem =>
        lt_irrefl _ (hknown tab tasks htasks _ hmem)
      refine ⟨_, hafter, hnodup.append (List.nodup_singleton _) ?_, fun id hid => ?_⟩
      · simpa using hfresh
      · rw [hcontext, hinsert]
        rcases List.mem_append.1 hid with hid | hid
        · exact isSome_perform (by simp) (hexist id hid)
        · obtain rfl := List.mem_singleton.1 hid
          simp [Changes.perform, ContextChange.apply]

end Steps

end TaskMaster
end IosProjects
