import IosProjects.TaskMaster.App

/-!
# Cache — what the shared dictionary holds

The calendar reads `DataManager.shared`, which only the Tasks tab rebuilds: when it refreshes and
when it deletes. A history variable keeps what the last rebuild filed, each task with its key. The
invariant `CacheOk` says that the dictionary still holds exactly that, and that outside the panel a
filed task that still exists still has its key.
-/

namespace IosProjects
namespace TaskMaster

open IosProjects.Library

/-! ## What a rebuild files -/

/-- The tasks with a due date, with the keys they are filed under. -/
def filed (formatter : DateFormatter) (context : ManagedObjectContext) (tasks : List ObjectID) :
    List (ObjectID × String) :=
  tasks.filterMap fun id => (dateKey formatter context id).map fun key => (id, key)

/-- The tasks filed under a key. -/
def filedUnder (g : List (ObjectID × String)) (key : String) : List ObjectID :=
  (g.filter fun entry => entry.2 = key).map Prod.fst

/-- Whether the event, from `s` to `s'`, rebuilds the dictionary of `DataManager`. -/
def AppEvent.regroups (s s' : AppState) : AppEvent → Bool
  | .showTasks _ | .viewTypeChanged _ | .panelDismissed _ => s'.tasksVC.tasks.isSome
  | .gridDelete row =>
      match s.tasksVC.cellForItemAt row with
      | some (some task) => (s.context.dueDate task).isSome
      | _ => false
  | .listDelete section_ row _ =>
      match s.tasksVC.cellForRowAt section_ row with
      | some (some _) => s'.tasksVC.tasks.isSome
      | _ => false
  | _ => false

/-- The history variable: what the last rebuild filed. -/
def recordFiled (formatter : DateFormatter) (s : AppState) (e : AppEvent) (s' : AppState)
    (g : List (ObjectID × String)) : List (ObjectID × String) :=
  if e.regroups s s' then filed formatter s'.context (s'.tasksVC.tasks.getD []) else g

section Regroups

variable {s s' : AppState}

theorem regroups_gridDelete_of_none {row : ℕ}
    (h : ∀ task, s.tasksVC.cellForItemAt row = some (some task) → s.context.dueDate task = none) :
    (AppEvent.gridDelete row).regroups s s' = false := by
  simp only [AppEvent.regroups]
  split
  · rename_i task hcell
    rw [h task hcell]
    rfl
  · rfl

theorem regroups_gridDelete {row : ℕ} {tasks : List ObjectID} {task : ObjectID}
    (htasks : s.tasksVC.tasks = some tasks) (hrow : tasks[row]? = some task)
    (hdue : (s.context.dueDate task).isSome) : (AppEvent.gridDelete row).regroups s s' = true := by
  simpa [AppEvent.regroups, TaskViewController.cellForItemAt, htasks, hrow] using hdue

theorem regroups_listDelete_of_none {section_ row : ℕ} {fetched : Option (List ObjectID)}
    (h : s.tasksVC.cellForRowAt section_ row = some none) :
    (AppEvent.listDelete section_ row fetched).regroups s s' = false := by
  simp only [AppEvent.regroups, h]

theorem regroups_listDelete {section_ row : ℕ} {fetched : Option (List ObjectID)} {task : ObjectID}
    (h : s.tasksVC.cellForRowAt section_ row = some (some task)) :
    (AppEvent.listDelete section_ row fetched).regroups s s' = s'.tasksVC.tasks.isSome := by
  simp only [AppEvent.regroups, h]

end Regroups

section Filed

variable {formatter : DateFormatter} {context : ManagedObjectContext} {tasks : List ObjectID}

theorem mem_filed {id : ObjectID} {key : String} :
    (id, key) ∈ filed formatter context tasks ↔
      id ∈ tasks ∧ dateKey formatter context id = some key := by
  simp only [filed, List.mem_filterMap, Option.map_eq_some_iff, Prod.mk.injEq]
  constructor
  · rintro ⟨_, hmem, _, hkey, rfl, rfl⟩
    exact ⟨hmem, hkey⟩
  · rintro ⟨hmem, hkey⟩
    exact ⟨id, hmem, key, hkey, rfl, rfl⟩

theorem mem_filedUnder {g : List (ObjectID × String)} {id : ObjectID} {key : String} :
    id ∈ filedUnder g key ↔ (id, key) ∈ g := by
  simp only [filedUnder, List.mem_map, List.mem_filter, decide_eq_true_eq]
  constructor
  · rintro ⟨⟨_, _⟩, ⟨hmem, rfl⟩, rfl⟩
    exact hmem
  · intro hmem
    exact ⟨(id, key), ⟨hmem, rfl⟩, rfl⟩

theorem filed_ids (tasks : List ObjectID) :
    (filed formatter context tasks).map Prod.fst =
      tasks.filter fun id => (dateKey formatter context id).isSome := by
  induction tasks with
  | nil => rfl
  | cons id tasks ih =>
      simp only [filed] at ih ⊢
      cases hkey : dateKey formatter context id <;> simp [hkey, ih]

theorem filed_nodup (h : tasks.Nodup) : ((filed formatter context tasks).map Prod.fst).Nodup := by
  rw [filed_ids]
  exact h.filter _

/-- A rebuilt dictionary holds what was filed. -/
theorem lookup_filed (key : String) :
    (group (dateKey formatter context) tasks).lookup key =
      occupied (filedUnder (filed formatter context tasks) key) := by
  rw [lookup_group]
  congr 1
  induction tasks with
  | nil => rfl
  | cons id tasks ih =>
      simp only [members, filed, filedUnder] at ih ⊢
      cases hid : dateKey formatter context id with
      | none => simpa [hid] using ih
      | some key' => by_cases hkey : key' = key <;> simp [hid, hkey, ih]

end Filed

/-! ## Changes that keep due dates -/

/-- No object is new, and the objects that are left have their old due dates. -/
structure KeepsDates (context context' : ManagedObjectContext) : Prop where
  nextID : context'.nextID = context.nextID
  task : ∀ id, (context'.task id).isSome → (context.task id).isSome
  dueDate : ∀ id, (context'.task id).isSome → context'.dueDate id = context.dueDate id

namespace KeepsDates

variable {context context' context'' : ManagedObjectContext}

theorem refl (context : ManagedObjectContext) : KeepsDates context context where
  nextID := rfl
  task := fun _ h => h
  dueDate := fun _ _ => rfl

theorem of_eq (h : context' = context) : KeepsDates context context' := by
  rw [h]
  exact refl context

theorem trans (h : KeepsDates context context') (h' : KeepsDates context' context'') :
    KeepsDates context context'' where
  nextID := h'.nextID.trans h.nextID
  task := fun id hid => h.task id (h'.task id hid)
  dueDate := fun id hid => (h'.dueDate id hid).trans (h.dueDate id (h'.task id hid))

theorem delete (context : ManagedObjectContext) (id : ObjectID) :
    KeepsDates context (context.delete id) where
  nextID := rfl
  task := by
    intro id' hid'
    rw [ManagedObjectContext.task_delete] at hid'
    split at hid'
    · simp at hid'
    · exact hid'
  dueDate := by
    intro id' hid'
    apply ManagedObjectContext.dueDate_delete_of_ne
    intro heq
    simp [heq] at hid'

theorem of_delete {id : ObjectID} (h : context' = context.delete id) :
    KeepsDates context context' := by
  rw [h]
  exact delete context id

theorem deleteAll (context : ManagedObjectContext) (ids : List ObjectID) :
    KeepsDates context (ids.foldl ManagedObjectContext.delete context) := by
  induction ids generalizing context with
  | nil => exact refl context
  | cons id ids ih => exact (delete context id).trans (ih _)

/-- Assigning a flag keeps the due date. -/
theorem modify (context : ManagedObjectContext) (id : ObjectID) {f : Task → Task}
    (hf : ∀ task, (f task).dueDate = task.dueDate) : KeepsDates context (context.modify id f) where
  nextID := ManagedObjectContext.nextID_modify id f
  task := by
    intro id' hid'
    by_cases h : id' = id
    · simpa [h] using hid'
    · simpa [h] using hid'
  dueDate := by
    intro id' _
    by_cases h : id' = id
    · subst h
      cases htask : context.task id' <;> simp [ManagedObjectContext.dueDate, htask, hf]
    · simp [ManagedObjectContext.dueDate, h]

theorem toggle (context : ManagedObjectContext) (id : ObjectID) :
    KeepsDates context (context.toggle id) :=
  modify context id fun _ => rfl

theorem dateKey (h : KeepsDates context context') {formatter : DateFormatter} {id : ObjectID}
    (hid : (context'.task id).isSome) :
    TaskMaster.dateKey formatter context' id = TaskMaster.dateKey formatter context id := by
  rw [TaskMaster.dateKey, TaskMaster.dateKey, h.dueDate id hid]

end KeepsDates

/-! ## What the handlers leave alone -/

/-- A handler that neither regroups nor loads the Tasks tab. -/
structure Leaves (tab tab' : TasksTab) : Prop where
  shared : tab'.shared = tab.shared
  tasks : Option.Rel List.Sublist tab'.vc.tasks tab.vc.tasks
  context : KeepsDates tab.context tab'.context

theorem sublist_refl (tasks : Option (List ObjectID)) : Option.Rel List.Sublist tasks tasks := by
  cases tasks with
  | none => exact Option.Rel.none
  | some tasks => exact Option.Rel.some (List.Sublist.refl tasks)

theorem sublist_removeToggled (task : Option ObjectID) (tasks : Option (List ObjectID)) :
    Option.Rel List.Sublist (removeToggled task tasks) tasks := by
  cases tasks with
  | none => exact Option.Rel.none
  | some tasks =>
      refine Option.Rel.some ?_
      dsimp only
      split
      · exact List.Sublist.refl tasks
      · exact List.eraseIdx_sublist tasks _

namespace Leaves

theorem refl (tab : TasksTab) : Leaves tab tab where
  shared := rfl
  tasks := sublist_refl _
  context := KeepsDates.refl _

theorem tasksToggle {tab tab' : TasksTab} {row : ℕ} {task : Option ObjectID}
    (h : tab.toggleCheckbox row = some (tab', task)) : Leaves tab tab' := by
  unfold TasksTab.toggleCheckbox at h
  split at h
  · cases h
    exact refl tab
  split at h
  · cases h
  · cases h
    exact ⟨rfl, sublist_refl _, KeepsDates.toggle _ _⟩

theorem tasksBlock (task : Option ObjectID) (tab : TasksTab) :
    Leaves tab (tab.checkboxBlock task) where
  shared := rfl
  tasks := sublist_removeToggled task tab.vc.tasks
  context := KeepsDates.refl _

theorem completedToggle {tab tab' : CompletedTab} {row : ℕ} {task : Option ObjectID}
    (h : tab.toggleCheckbox row = some (tab', task)) : Leaves tab.toTasksTab tab'.toTasksTab := by
  unfold CompletedTab.toggleCheckbox at h
  split at h
  · cases h
  split at h
  · cases h
  · cases h
    exact ⟨rfl, sublist_refl _, KeepsDates.toggle _ _⟩

theorem menuAction {change : ObjectID → ManagedObjectContext → ManagedObjectContext}
    (hchange : ∀ id context, KeepsDates context (change id context)) {tab tab' : CompletedTab}
    {row : ℕ} (h : tab.menuAction change row = some tab') :
    Leaves tab.toTasksTab tab'.toTasksTab := by
  unfold CompletedTab.menuAction at h
  split at h
  · cases h
    exact refl _
  split at h
  · cases h
  · cases h
    exact ⟨rfl, sublist_refl _, hchange _ _⟩

theorem loadTasks (fetched : Option (List ObjectID)) (tab : CompletedTab) :
    Leaves tab.toTasksTab (tab.loadTasks fetched).toTasksTab := by
  cases fetched <;> exact refl _

theorem deleteCompletedTasks (saved : Bool) (fetched : Option (List ObjectID))
    (tab : CompletedTab) :
    Leaves tab.toTasksTab (tab.deleteCompletedTasks saved fetched).toTasksTab := by
  cases htasks : tab.completedTasks with
  | none =>
      simp only [CompletedTab.deleteCompletedTasks, htasks]
      exact refl _
  | some tasks =>
      have hdelete := KeepsDates.deleteAll tab.context tasks
      cases saved <;> cases fetched <;>
        simp only [CompletedTab.deleteCompletedTasks, htasks, CompletedTab.loadTasks] <;>
        exact ⟨rfl, sublist_refl _, hdelete⟩

end Leaves

/-! ## The invariant -/

/-- The dictionary holds what was filed. -/
def Holds (g : List (ObjectID × String)) : Option (Groups String ObjectID) → Prop
  | none => g = []
  | some tasksByDate => ∀ key, tasksByDate.lookup key = occupied (filedUnder g key)

/-- The app with the history of its last rebuild. -/
structure CacheOk (formatter : DateFormatter) (s : AppState) (g : List (ObjectID × String)) :
    Prop where
  inherited : s.completedVC.tasks = none
  nodup : ∀ tasks, s.tasksVC.tasks = some tasks → tasks.Nodup
  given : ∀ tasks, s.tasksVC.tasks = some tasks → ∀ id ∈ tasks, id < s.context.nextID
  loaded : s.tasksVC.tasks = none → s.shared.tasksByDate = none
  holds : Holds g s.shared.tasksByDate
  ids_nodup : (g.map Prod.fst).Nodup
  text : ∀ id key, (id, key) ∈ g → ∃ date, formatter.string date = key
  -- editing happens in the panel, and dismissing it rebuilds
  current : (∀ editTask, s.screen ≠ .panel editTask) → ∀ id key, (id, key) ∈ g →
    (s.context.task id).isSome → dateKey formatter s.context id = some key

namespace CacheOk

variable {formatter : DateFormatter} {s s' : AppState} {g : List (ObjectID × String)}

theorem launch (context : ManagedObjectContext) (today : Date) :
    CacheOk formatter (AppState.launch formatter context today) [] where
  inherited := rfl
  nodup := by simp [AppState.launch]
  given := by simp [AppState.launch]
  loaded := fun _ => rfl
  holds := rfl
  ids_nodup := List.nodup_nil
  text := by simp
  current := by simp

/-- A rebuild establishes the invariant, whatever was filed before. -/
theorem regrouped {tasks : List ObjectID} (hinherited : s'.completedVC.tasks = none)
    (htasks : s'.tasksVC.tasks = some tasks) (hnodup : tasks.Nodup)
    (hgiven : ∀ id ∈ tasks, id < s'.context.nextID)
    (hshared : s'.shared = ⟨some (group (dateKey formatter s'.context) tasks)⟩) :
    CacheOk formatter s' (filed formatter s'.context (s'.tasksVC.tasks.getD [])) where
  inherited := hinherited
  nodup := by
    intro tasks' htasks'
    obtain rfl : tasks = tasks' := Option.some.inj (htasks.symm.trans htasks')
    exact hnodup
  given := by
    intro tasks' htasks'
    obtain rfl : tasks = tasks' := Option.some.inj (htasks.symm.trans htasks')
    exact hgiven
  loaded := by simp [htasks]
  holds := by
    rw [hshared, htasks, Option.getD_some]
    exact fun key => lookup_filed key
  ids_nodup := by
    rw [htasks, Option.getD_some]
    exact filed_nodup hnodup
  text := by
    intro id key hmem
    rcases Option.map_eq_some_iff.1 (mem_filed.1 hmem).2 with ⟨date, _, hdate⟩
    exact ⟨date, hdate⟩
  current := fun _ id key hmem _ => (mem_filed.1 hmem).2

/-- A step that leaves the dictionary and the due dates alone keeps the invariant. -/
theorem kept (h : CacheOk formatter s g) (hinherited : s'.completedVC.tasks = none)
    (hshared : s'.shared = s.shared) (hcontext : KeepsDates s.context s'.context)
    (htasks : Option.Rel List.Sublist s'.tasksVC.tasks s.tasksVC.tasks)
    (hscreen : (∀ editTask, s'.screen ≠ .panel editTask) →
      (∀ editTask, s.screen ≠ .panel editTask) ∨ g = []) :
    CacheOk formatter s' g where
  inherited := hinherited
  nodup := by
    intro tasks' htasks'
    rw [htasks'] at htasks
    cases hold : s.tasksVC.tasks with
    | none => simp [hold] at htasks
    | some tasks =>
        rw [hold, Option.rel_some_some] at htasks
        exact (h.nodup tasks hold).sublist htasks
  given := by
    intro tasks' htasks' id hid
    rw [htasks'] at htasks
    cases hold : s.tasksVC.tasks with
    | none => simp [hold] at htasks
    | some tasks =>
        rw [hold, Option.rel_some_some] at htasks
        rw [hcontext.nextID]
        exact h.given tasks hold id (htasks.subset hid)
  loaded := by
    intro hnone
    rw [hnone] at htasks
    rw [hshared]
    refine h.loaded ?_
    cases hold : s.tasksVC.tasks with
    | none => rfl
    | some tasks => simp [hold] at htasks
  holds := by
    rw [hshared]
    exact h.holds
  ids_nodup := h.ids_nodup
  text := h.text
  current := by
    intro hpanel id key hmem hid
    rw [hcontext.dateKey hid]
    rcases hscreen hpanel with hpanel | rfl
    · exact h.current hpanel id key hmem (hcontext.task id hid)
    · simp at hmem

/-- Saving in the panel puts off what `current` says. -/
theorem saveTask (h : CacheOk formatter s g) {editTask : Option ObjectID}
    (hscreen : s.screen = .panel editTask) (title : String) (dueDate : Date) :
    CacheOk formatter (s.saveTask title dueDate editTask) g := by
  unfold AppState.saveTask
  split
  · exact h
  cases editTask with
  | some task =>
      exact {
        inherited := h.inherited
        nodup := h.nodup
        given := by simpa using h.given
        loaded := h.loaded
        holds := h.holds
        ids_nodup := h.ids_nodup
        text := h.text
        current := fun hpanel => (hpanel _ hscreen).elim }
  | none =>
      exact {
        inherited := h.inherited
        nodup := by
          intro tasks' htasks'
          rcases Option.map_eq_some_iff.1 htasks' with ⟨tasks, htasks, rfl⟩
          -- a new task gets an id that no listed task has
          have hfresh : s.context.nextID ∉ tasks := fun hmem =>
            lt_irrefl _ (h.given tasks htasks _ hmem)
          simpa using List.nodup_append.2 ⟨h.nodup tasks htasks, List.nodup_singleton _, by
            intro a ha b hb hab
            obtain rfl := List.mem_singleton.1 hb
            exact hfresh (hab ▸ ha)⟩
        given := by
          intro tasks' htasks' id hid
          rcases Option.map_eq_some_iff.1 htasks' with ⟨tasks, htasks, rfl⟩
          rcases List.mem_append.1 hid with hid | hid
          · exact (h.given tasks htasks id hid).trans (Nat.lt_succ_self _)
          · obtain rfl := List.mem_singleton.1 hid
            exact Nat.lt_succ_self _
        loaded := fun hnone => h.loaded (Option.map_eq_none_iff.1 hnone)
        holds := h.holds
        ids_nodup := h.ids_nodup
        text := h.text
        current := fun hpanel => (hpanel _ hscreen).elim }

/-- Refreshing the Tasks tab rebuilds, unless no fetch has succeeded yet. -/
theorem refreshTasks (h : CacheOk formatter s g) {fetched : Option (List ObjectID)}
    (hfetch : ∀ tasks, fetched = some tasks → s.context.IsFetchByDueDate false tasks) :
    CacheOk formatter (s.refreshTasks formatter fetched)
      (if (s.refreshTasks formatter fetched).tasksVC.tasks.isSome then
        filed formatter (s.refreshTasks formatter fetched).context
          ((s.refreshTasks formatter fetched).tasksVC.tasks.getD [])
      else g) := by
  -- whether the array was fetched now or kept from an earlier fetch, it is grouped
  have hloaded : ∀ tasks, (∀ id ∈ tasks, id < s.context.nextID) → tasks.Nodup →
      s.tasksTab.refreshData formatter fetched =
        TasksTab.loaded formatter s.context tasks →
      CacheOk formatter (s.refreshTasks formatter fetched)
        (if (s.refreshTasks formatter fetched).tasksVC.tasks.isSome then
          filed formatter (s.refreshTasks formatter fetched).context
            ((s.refreshTasks formatter fetched).tasksVC.tasks.getD [])
        else g) := by
    intro tasks hgiven hnodup hrefresh
    have htasks : (s.refreshTasks formatter fetched).tasksVC.tasks = some tasks := by
      simp only [AppState.refreshTasks, hrefresh]
      rfl
    rw [if_pos (by rw [htasks]; rfl)]
    refine regrouped h.inherited htasks hnodup ?_ ?_
    · simp only [AppState.refreshTasks, hrefresh]
      exact hgiven
    · simp only [AppState.refreshTasks, hrefresh]
      rfl
  cases fetched with
  | some tasks =>
      have hanswer := hfetch tasks rfl
      exact hloaded tasks hanswer.toIsFetch.lt_nextID hanswer.nodup
        (TasksTab.refreshData_some _ _ _)
  | none =>
      cases htasks : s.tasksVC.tasks with
      | some tasks =>
          refine hloaded tasks (h.given tasks htasks) (h.nodup tasks htasks) ?_
          simp [AppState.tasksTab, TasksTab.refreshData, TaskViewController.loadTasks,
            TaskViewController.groupTasksByDate_eq, htasks, DataManager.groupTasksByDate_eq,
            TasksTab.loaded]
      | none =>
          -- no fetch has succeeded yet, so nothing has been filed either
          have hempty : g = [] := by
            have hholds := h.holds
            rwa [h.loaded htasks] at hholds
          have hnone : (s.refreshTasks formatter none).tasksVC.tasks = none := by
            simp [AppState.refreshTasks, AppState.withTasksTab, AppState.tasksTab,
              TasksTab.refreshData, TaskViewController.loadTasks,
              TaskViewController.groupTasksByDate_eq, htasks]
          have hshared : (s.refreshTasks formatter none).shared = s.shared := by
            simp [AppState.refreshTasks, AppState.withTasksTab, AppState.tasksTab,
              TasksTab.refreshData, TaskViewController.loadTasks,
              TaskViewController.groupTasksByDate_eq, htasks]
          rw [if_neg (by simp [hnone])]
          refine h.kept h.inherited hshared (KeepsDates.refl _) ?_ fun _ => Or.inr hempty
          rw [hnone, htasks]
          exact Option.Rel.none

/-- Whatever happens on the Completed tab. -/
theorem completed (h : CacheOk formatter s g) {tab : CompletedTab}
    (hleaves : Leaves s.completedTab.toTasksTab tab.toTasksTab) :
    CacheOk formatter (s.withCompletedTab tab) g := by
  have hinherited : tab.vc.tasks = none := by
    have htasks := hleaves.tasks
    have hnone : s.completedTab.vc.tasks = none := h.inherited
    rw [hnone] at htasks
    cases hvc : tab.vc.tasks with
    | none => rfl
    | some tasks => simp [hvc] at htasks
  exact h.kept hinherited hleaves.shared hleaves.context (sublist_refl _) Or.inl

/-- Only the history of a rebuild is recorded. -/
theorem record_kept {e : AppEvent} (hregroups : e.regroups s s' = false)
    (h : CacheOk formatter s' g) : CacheOk formatter s' (recordFiled formatter s e s' g) := by
  simpa [recordFiled, hregroups] using h

/-- The grid's delete action rebuilds when it deletes. -/
theorem gridDelete (h : CacheOk formatter s g) {row : ℕ} {tab : TasksTab}
    (hdelete : s.tasksTab.createDeleteAction formatter row = some tab) :
    CacheOk formatter (s.withTasksTab tab)
      (recordFiled formatter s (.gridDelete row) (s.withTasksTab tab) g) := by
  rcases TasksTab.createDeleteAction_cases hdelete with
    ⟨rfl, hcell⟩ | ⟨tasks, task, htasks, hrow, hdue, hcontext, htasks', hshared⟩
  · exact record_kept (regroups_gridDelete_of_none hcell) h
  · rw [recordFiled, if_pos (regroups_gridDelete htasks hrow hdue)]
    have hsublist := List.eraseIdx_sublist tasks row
    refine regrouped h.inherited htasks' ((h.nodup tasks htasks).sublist hsublist) ?_ hshared
    intro id hid
    have hnext : tab.context.nextID = s.context.nextID :=
      (KeepsDates.of_delete hcontext).nextID
    exact hnext ▸ h.given tasks htasks id (hsublist.subset hid)

/-- So does the swipe action of the list, with what the fetch returns. -/
theorem listDelete (h : CacheOk formatter s g) {section_ row : ℕ}
    {fetched : Option (List ObjectID)} {tab : TasksTab}
    (hdelete : s.tasksTab.deleteAction formatter fetched section_ row = some tab)
    (hfetch : ∀ tasks, fetched = some tasks → tab.context.IsFetchByDueDate false tasks) :
    CacheOk formatter (s.withTasksTab tab)
      (recordFiled formatter s (.listDelete section_ row fetched) (s.withTasksTab tab) g) := by
  rcases TasksTab.deleteAction_cases hdelete with
    ⟨rfl, hcell⟩ | ⟨task, hcell, hcontext, htasks, hunloaded, hloaded⟩
  · exact record_kept (regroups_listDelete_of_none hcell) h
  have hkeeps := KeepsDates.of_delete hcontext
  cases htab : tab.vc.tasks with
  | none =>
      -- Neither this fetch nor an earlier one has succeeded, so there is nothing to regroup.
      have hnone : s.tasksVC.tasks = none := (Option.or_eq_none_iff.1 (htasks ▸ htab)).2
      refine record_kept ?_ (h.kept h.inherited (hunloaded htab) hkeeps ?_ Or.inl)
      · rw [regroups_listDelete hcell]
        exact Option.isSome_eq_false_iff.2 (Option.isNone_iff_eq_none.2 htab)
      · have htab' : (s.withTasksTab tab).tasksVC.tasks = none := htab
        rw [hnone, htab']
        exact Option.Rel.none
  | some tasks =>
      have hregroups : (AppEvent.listDelete section_ row fetched).regroups s
          (s.withTasksTab tab) = true := by
        rw [regroups_listDelete hcell]
        exact Option.isSome_iff_exists.2 ⟨tasks, htab⟩
      rw [recordFiled, if_pos hregroups]
      rw [htab] at htasks
      cases fetched with
      | some fetched =>
          obtain rfl : tasks = fetched := Option.some.inj htasks
          have hanswer := hfetch tasks rfl
          exact regrouped h.inherited htab hanswer.nodup hanswer.toIsFetch.lt_nextID
            (hloaded tasks htab)
      | none =>
          -- The fetch failed: the old array is regrouped.
          have hold : s.tasksVC.tasks = some tasks := htasks.symm
          refine regrouped h.inherited htab (h.nodup tasks hold) ?_ (hloaded tasks htab)
          exact fun id hid => hkeeps.nextID ▸ h.given tasks hold id hid

theorem present (h : CacheOk formatter s g) (editTask : Option ObjectID) :
    CacheOk formatter { s with screen := .panel editTask } g :=
  h.kept h.inherited rfl (KeepsDates.refl _) (sublist_refl _) fun hpanel => (hpanel _ rfl).elim

/-- Every step keeps the invariant. -/
theorem step {contains : Option String → String → Prop} (h : CacheOk formatter s g) {e : AppEvent}
    (hstep : AppStep formatter contains s e s') :
    CacheOk formatter s' (recordFiled formatter s e s' g) := by
  have hanswered := hstep.2
  cases AppState.does_of_step hstep.1 with
  | showTasks _ => exact h.refreshTasks hanswered
  | viewTypeChanged _ => exact h.refreshTasks hanswered
  | panelDismissed _ => exact h.refreshTasks hanswered
  | @showCompleted fetched fetched' hpanel _ =>
      -- the inherited array is never loaded, so the superclass groups nothing
      have hinherited : s.completedTab.vc.tasks = none := h.inherited
      obtain ⟨hcontext, hshared, htasks⟩ :=
        CompletedTab.viewDidAppear_of_nil hinherited formatter fetched fetched'
      exact record_kept rfl (h.kept htasks hshared (KeepsDates.of_eq hcontext) (sublist_refl _)
        fun _ => Or.inl hpanel)
  | showCalendar hpanel _ _ =>
      exact record_kept rfl (h.kept h.inherited rfl (KeepsDates.refl _) (sublist_refl _)
        fun _ => Or.inl hpanel)
  | addTask _ => exact record_kept rfl (h.present none)
  | noEdit _ => exact record_kept rfl h
  | @gridEdit _ editTask _ => exact record_kept rfl (h.present editTask)
  | @listEdit _ _ editTask _ => exact record_kept rfl (h.present editTask)
  | saveTask hscreen => exact record_kept rfl (h.saveTask hscreen _ _)
  | tapTask _ htap =>
      have hleaves := Leaves.tasksToggle htap
      exact record_kept rfl (h.kept h.inherited hleaves.shared hleaves.context hleaves.tasks Or.inl)
  | gridDelete _ hdelete => exact h.gridDelete hdelete
  | listDelete _ hdelete => exact h.listDelete hdelete hanswered
  | tapCompleted _ htap =>
      have hok := h.completed (Leaves.completedToggle htap)
      exact record_kept rfl (hok.kept hok.inherited rfl (KeepsDates.refl _) (sublist_refl _) Or.inl)
  | setIncomplete _ hmenu =>
      have hflag :
          ∀ task : Task, ({ task with isCompleted := false } : Task).dueDate = task.dueDate :=
        fun _ => rfl
      exact record_kept rfl (h.completed
        (Leaves.menuAction (fun id context => KeepsDates.modify context id hflag) hmenu))
  | deleteCompleted _ hmenu =>
      exact record_kept rfl (h.completed
        (Leaves.menuAction (fun id context => KeepsDates.delete context id) hmenu))
  | clearCompleted _ => exact record_kept rfl (h.completed (Leaves.deleteCompletedTasks _ _ _))
  | noSearch _ => exact record_kept rfl h
  | search _ _ => exact record_kept rfl (h.completed (Leaves.loadTasks _ _))
  | clearSearch _ => exact record_kept rfl (h.completed (Leaves.loadTasks _ _))
  | selectDate _ =>
      exact record_kept rfl
        (h.kept h.inherited rfl (KeepsDates.refl _) (sublist_refl _) Or.inl)
  | @tasksBlock task _ _ =>
      have hleaves := Leaves.tasksBlock task s.tasksTab
      exact record_kept rfl
        (h.kept h.inherited rfl (KeepsDates.refl _) hleaves.tasks Or.inl)
  | completedBlock _ =>
      exact record_kept rfl
        (h.kept h.inherited rfl (KeepsDates.refl _) (sublist_refl _) Or.inl)

end CacheOk

end TaskMaster
end IosProjects
