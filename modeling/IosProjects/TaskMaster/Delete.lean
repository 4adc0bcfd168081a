import Mathlib.Data.Prod.Lex
import IosProjects.Library.Run
import IosProjects.TaskMaster.ListView

/-!
# Delete — the two ways of deleting a displayed task

The grid deletes through a context menu: it finds the task by its row, takes it out of one group and
removes it from `tasks` in place. The list deletes by swipe: it finds the task in a section, removes
it twice from its group and fetches again. From a loaded tab both lead to the tab that a refresh of
the smaller store would load.
-/

namespace IosProjects
namespace TaskMaster

open IosProjects.Library

/-! ## The two handlers -/

/-- How the grid's handler takes a task out of its group. -/
def removeFromDay (dateString : String) (deleteItem : ObjectID)
    (tasksByDate : Groups String ObjectID) : Groups String ObjectID :=
  match tasksByDate.lookup dateString with
  | none => tasksByDate
  | some tasksOnDueDate =>
      match tasksOnDueDate.idxOf? deleteItem with
      | none => tasksByDate
      | some taskIndex =>
          let tasksOnDueDate := tasksOnDueDate.eraseIdx taskIndex
          let tasksByDate := tasksByDate.insert dateString tasksOnDueDate
          if tasksOnDueDate.isEmpty then tasksByDate.erase dateString else tasksByDate

/-- How the swipe handler takes the task in row `row` out of its section. -/
def removeFromSection (sectionDateString : String) (row : ℕ) (deleteItem : ObjectID)
    (tasksForSection : List ObjectID) (tasksByDate : Groups String ObjectID) :
    Groups String ObjectID :=
  let tasksForSection := tasksForSection.eraseIdx row
  let tasksByDate := tasksByDate.insert sectionDateString tasksForSection
  -- the task is looked for again by identity, in what is left
  let tasksByDate :=
    match tasksByDate.lookup sectionDateString with
    | none => tasksByDate
    | some tasksOnDueDate =>
        match tasksOnDueDate.idxOf? deleteItem with
        | none => tasksByDate
        | some taskIndex =>
            tasksByDate.insert sectionDateString (tasksOnDueDate.eraseIdx taskIndex)
  if tasksForSection.isEmpty then tasksByDate.erase sectionDateString else tasksByDate

namespace TasksTab

/-- The handler of `createDeleteAction(for:)`; `none` is a trap. -/
def createDeleteAction (formatter : DateFormatter) (row : ℕ) (tab : TasksTab) : Option TasksTab :=
  match tab.vc.tasks with
  | none => some tab
  | some tasks =>
      match tasks[row]? with
      | none => none
      | some deleteItem =>
          match tab.context.dueDate deleteItem with
          | none => some tab
          | some dueDate =>
              let dateString := formatter.formattedFullDate dueDate
              let context := tab.context.delete deleteItem
              let tasks := tasks.eraseIdx row
              some {
                context := context
                -- the calendar is regrouped from the array, without a new fetch
                shared := tab.shared.groupTasksByDate formatter context tasks
                vc := ⟨some tasks, removeFromDay dateString deleteItem tab.vc.tasksByDate⟩ }

/-- The handler of the swipe action for a row of a section, given what the fetch after the deletion
returns; `none` is a trap. -/
def deleteAction (formatter : DateFormatter) (fetched : Option (List ObjectID))
    (section_ row : ℕ) (tab : TasksTab) : Option TasksTab :=
  match tab.vc.sectionDates[section_]? with
  | none => none
  | some sectionDateString =>
      match tab.vc.tasksByDate.lookup sectionDateString with
      | none => some tab
      | some tasksForSection =>
          match tasksForSection[row]? with
          | none => none
          | some deleteItem =>
              let tasksByDate := removeFromSection sectionDateString row deleteItem tasksForSection
                tab.vc.tasksByDate
              let context := tab.context.delete deleteItem
              let vc := TaskViewController.loadTasks fetched ⟨tab.vc.tasks, tasksByDate⟩
              some {
                context := context
                shared :=
                  match vc.tasks with
                  | none => tab.shared
                  | some tasks => tab.shared.groupTasksByDate formatter context tasks
                vc := vc }

/-- The grid's handler leaves the tab alone, or it deletes the task in the row and regroups the rest
of the array for the calendar. -/
theorem createDeleteAction_cases {formatter : DateFormatter} {row : ℕ} {tab tab' : TasksTab}
    (h : tab.createDeleteAction formatter row = some tab') :
    (tab' = tab ∧ ∀ task, tab.vc.cellForItemAt row = some (some task) →
        tab.context.dueDate task = none) ∨
      ∃ tasks task, tab.vc.tasks = some tasks ∧ tasks[row]? = some task ∧
        (tab.context.dueDate task).isSome ∧ tab'.context = tab.context.delete task ∧
        tab'.vc.tasks = some (tasks.eraseIdx row) ∧
        tab'.shared = ⟨some (group (dateKey formatter tab'.context) (tasks.eraseIdx row))⟩ := by
  unfold createDeleteAction at h
  cases htasks : tab.vc.tasks with
  | none =>
      simp only [htasks, Option.some.injEq] at h
      exact Or.inl ⟨h.symm, by simp [TaskViewController.cellForItemAt, htasks]⟩
  | some tasks =>
      cases hrow : tasks[row]? with
      | none => simp [htasks, hrow] at h
      | some task =>
          cases hdue : tab.context.dueDate task with
          | none =>
              simp only [htasks, hrow, hdue, Option.some.injEq] at h
              refine Or.inl ⟨h.symm, ?_⟩
              simpa [TaskViewController.cellForItemAt, htasks, hrow] using hdue
          | some dueDate =>
              simp only [htasks, hrow, hdue, Option.some.injEq] at h
              subst h
              exact Or.inr ⟨tasks, task, rfl, hrow, by rw [hdue]; rfl, rfl, rfl,
                DataManager.groupTasksByDate_eq _ _ _ tab.shared⟩

/-- So does the swipe handler, with what its fetch leaves in the array. -/
theorem deleteAction_cases {formatter : DateFormatter} {fetched : Option (List ObjectID)}
    {section_ row : ℕ} {tab tab' : TasksTab}
    (h : tab.deleteAction formatter fetched section_ row = some tab') :
    (tab' = tab ∧ tab.vc.cellForRowAt section_ row = some none) ∨
      ∃ task, tab.vc.cellForRowAt section_ row = some (some task) ∧
        tab'.context = tab.context.delete task ∧ tab'.vc.tasks = fetched.or tab.vc.tasks ∧
        (tab'.vc.tasks = none → tab'.shared = tab.shared) ∧
        ∀ tasks, tab'.vc.tasks = some tasks →
          tab'.shared = ⟨some (group (dateKey formatter tab'.context) tasks)⟩ := by
  unfold deleteAction at h
  cases hsection : tab.vc.sectionDates[section_]? with
  | none => simp [hsection] at h
  | some key =>
      cases hlookup : tab.vc.tasksByDate.lookup key with
      | none =>
          simp only [hsection, hlookup, Option.some.injEq] at h
          exact Or.inl ⟨h.symm, by simp [TaskViewController.cellForRowAt, hsection, hlookup]⟩
      | some tasksForSection =>
          cases hrow : tasksForSection[row]? with
          | none => simp [hsection, hlookup, hrow] at h
          | some task =>
              simp only [hsection, hlookup, hrow, Option.some.injEq] at h
              subst h
              refine Or.inr ⟨task, ?_, rfl, ?_, ?_, ?_⟩
              · simp [TaskViewController.cellForRowAt, hsection, hlookup, hrow]
              · cases fetched <;> rfl
              · intro hnone
                simp only at hnone ⊢
                rw [hnone]
              · intro tasks htasks
                simp only at htasks ⊢
                rw [htasks]
                exact DataManager.groupTasksByDate_eq _ _ _ tab.shared

end TasksTab

theorem insert_erase (key : String) (tasks : List ObjectID) (d : Groups String ObjectID) :
    (d.insert key tasks).erase key = d.erase key := by
  apply Finmap.ext_lookup
  intro key'
  by_cases h : key' = key
  · subst h
    simp
  · simp [Finmap.lookup_erase_ne h, Finmap.lookup_insert_of_ne _ h]

/-- The grid's handler drops the task from its group. -/
theorem removeFromDay_eq {key : String} {task : ObjectID} {tasks : List ObjectID}
    {d : Groups String ObjectID} (hlookup : d.lookup key = some tasks) (htask : task ∈ tasks) :
    removeFromDay key task d = dropMember key task d := by
  have herase := List.erase_eq_eraseIdx tasks task
  unfold removeFromDay dropMember
  rw [hlookup]
  cases hindex : tasks.idxOf? task with
  | none => exact (List.idxOf?_eq_none_iff.1 hindex htask).elim
  | some taskIndex =>
      rw [hindex] at herase
      by_cases hempty : tasks.eraseIdx taskIndex = []
      · simp [hindex, herase, hempty, insert_erase]
      · simp [hindex, herase, hempty]

/-- So does the swipe handler; the second removal finds nothing, since no task is listed twice. -/
theorem removeFromSection_eq {key : String} {row : ℕ} {task : ObjectID} {tasks : List ObjectID}
    {d : Groups String ObjectID} (hlookup : d.lookup key = some tasks) (hnodup : tasks.Nodup)
    (hrow : tasks[row]? = some task) :
    removeFromSection key row task tasks d = dropMember key task d := by
  have hgone : (tasks.erase task).idxOf? task = none :=
    List.idxOf?_eq_none_iff.2 hnodup.not_mem_erase
  unfold removeFromSection dropMember
  rw [hlookup, eraseIdx_eq_erase hnodup hrow]
  simp only [Finmap.lookup_insert, hgone]
  by_cases hempty : tasks.erase task = []
  · simp [hempty, insert_erase]
  · simp [hempty]

/-! ## Both handlers on a loaded tab -/

section Loaded

variable {formatter : DateFormatter} {context : ManagedObjectContext} {tasks : List ObjectID}
  {task : ObjectID}

/-- The other tasks keep their days. -/
theorem group_delete (hnodup : tasks.Nodup) :
    group (dateKey formatter context) (tasks.erase task) =
      group (dateKey formatter (context.delete task)) (tasks.erase task) := by
  apply group_congr
  intro id hid
  have hne : id ≠ task := ((hnodup.mem_erase_iff).1 hid).1
  rw [dateKey, dateKey, ManagedObjectContext.dueDate_delete_of_ne hne]

theorem lookup_loaded {key : String} (htask : task ∈ tasks)
    (hkey : dateKey formatter context task = some key) :
    (group (dateKey formatter context) tasks).lookup key =
      some (members (dateKey formatter context) tasks key) := by
  rw [lookup_group, occupied_eq_some]
  exact ⟨rfl, List.ne_nil_of_mem (mem_members.2 ⟨htask, hkey⟩)⟩

/-- The grid's handler loads the store without the task in the row. -/
theorem createDeleteAction_loaded (hnodup : tasks.Nodup) {row : ℕ} {dueDate : Date}
    (hrow : tasks[row]? = some task) (hdue : context.dueDate task = some dueDate) :
    (TasksTab.loaded formatter context tasks).createDeleteAction formatter row =
      some (TasksTab.loaded formatter (context.delete task) (tasks.erase task)) := by
  have htask : task ∈ tasks := List.mem_of_getElem? hrow
  have hkey : dateKey formatter context task = some (formatter.string dueDate) := by
    rw [dateKey, hdue, Option.map_some]
  have hgroups : removeFromDay (formatter.string dueDate) task
      (group (dateKey formatter context) tasks) =
        group (dateKey formatter (context.delete task)) (tasks.erase task) :=
    calc removeFromDay (formatter.string dueDate) task (group (dateKey formatter context) tasks)
        = dropMember (formatter.string dueDate) task (group (dateKey formatter context) tasks) :=
          removeFromDay_eq (lookup_loaded htask hkey) (mem_members.2 ⟨htask, hkey⟩)
      _ = group (dateKey formatter context) (tasks.erase task) := dropMember_group htask hkey
      _ = group (dateKey formatter (context.delete task)) (tasks.erase task) :=
          group_delete hnodup
  simp [TasksTab.createDeleteAction, TasksTab.loaded, hrow, hdue, hgroups,
    DateFormatter.formattedFullDate, DataManager.groupTasksByDate_eq,
    eraseIdx_eq_erase hnodup hrow]

/-- What a row of the list shows. -/
theorem cellForRowAt_loaded {section_ row : ℕ}
    (hcell : (TasksTab.loaded formatter context tasks).vc.cellForRowAt section_ row =
      some (some task)) :
    ∃ key, (TasksTab.loaded formatter context tasks).vc.sectionDates[section_]? = some key ∧
      (members (dateKey formatter context) tasks key)[row]? = some task := by
  unfold TaskViewController.cellForRowAt at hcell
  cases hsection : (TasksTab.loaded formatter context tasks).vc.sectionDates[section_]? with
  | none => simp [hsection] at hcell
  | some key =>
      refine ⟨key, rfl, ?_⟩
      have hlookup : (TasksTab.loaded formatter context tasks).vc.tasksByDate.lookup key =
          occupied (members (dateKey formatter context) tasks key) := lookup_group _ _ _
      cases hmembers : members (dateKey formatter context) tasks key with
      | nil => simp [hsection, hlookup, hmembers, occupied] at hcell
      | cons first rest =>
          simp only [hsection, hlookup, hmembers, occupied, Option.bind_eq_bind,
            Option.bind_some] at hcell
          cases hrow : (first :: rest)[row]? with
          | none => simp [hrow] at hcell
          | some shown => simpa [hrow] using hcell

/-- The swipe handler does the same when the fetch returns the rest of the array. -/
theorem deleteAction_loaded (hnodup : tasks.Nodup) {section_ row : ℕ}
    (hcell : (TasksTab.loaded formatter context tasks).vc.cellForRowAt section_ row =
      some (some task)) :
    (TasksTab.loaded formatter context tasks).deleteAction formatter (some (tasks.erase task))
        section_ row =
      some (TasksTab.loaded formatter (context.delete task) (tasks.erase task)) := by
  rcases cellForRowAt_loaded hcell with ⟨key, hsection, hrow⟩
  have hmem := mem_members.1 (List.mem_of_getElem? hrow)
  have hlookup := lookup_loaded hmem.1 hmem.2
  have hgroups : removeFromSection key row task (members (dateKey formatter context) tasks key)
      (group (dateKey formatter context) tasks) =
        group (dateKey formatter (context.delete task)) (tasks.erase task) :=
    calc removeFromSection key row task (members (dateKey formatter context) tasks key)
          (group (dateKey formatter context) tasks)
        = dropMember key task (group (dateKey formatter context) tasks) :=
          removeFromSection_eq hlookup (hnodup.filter _) hrow
      _ = group (dateKey formatter context) (tasks.erase task) :=
          dropMember_group hmem.1 hmem.2
      _ = group (dateKey formatter (context.delete task)) (tasks.erase task) :=
          group_delete hnodup
  have hlookup' : (TasksTab.loaded formatter context tasks).vc.tasksByDate.lookup key =
      some (members (dateKey formatter context) tasks key) := hlookup
  have hgroups' : removeFromSection key row task (members (dateKey formatter context) tasks key)
      (TasksTab.loaded formatter context tasks).vc.tasksByDate =
        group (dateKey formatter (context.delete task)) (tasks.erase task) := hgroups
  simp only [TasksTab.deleteAction, hsection, hlookup', hrow, hgroups',
    TaskViewController.loadTasks, DataManager.groupTasksByDate_eq]
  rfl

end Loaded

/-! ## Fetches that keep their order -/

/-- How the store answers the fetch of `loadTasks`: deleting a task does not change the order of
two others with equal due dates. -/
structure Fetching where
  fetch : ManagedObjectContext → List ObjectID
  isFetch : ∀ context : ManagedObjectContext, context.IsFetchByDueDate false (fetch context)
  ties : ∀ (context : ManagedObjectContext) (id a b : ObjectID), a ≠ id → b ≠ id →
    a ∈ fetch context → b ∈ fetch context → context.sortKey a = context.sortKey b →
    (fetch context).idxOf a < (fetch context).idxOf b →
    (fetch (context.delete id)).idxOf a < (fetch (context.delete id)).idxOf b

namespace Fetching

variable (fetching : Fetching) {context : ManagedObjectContext}

theorem mem_fetch_delete {id a : ObjectID} :
    a ∈ fetching.fetch (context.delete id) ↔ a ≠ id ∧ a ∈ fetching.fetch context := by
  rw [(fetching.isFetch _).mem_iff, ManagedObjectContext.marked_delete,
    ← (fetching.isFetch context).mem_iff]

theorem sortKey_delete {id a : ObjectID} (h : a ≠ id) :
    (context.delete id).sortKey a = context.sortKey a := by
  simp only [ManagedObjectContext.sortKey, ManagedObjectContext.dueDate_delete_of_ne h]

/-- Two other tasks are fetched in the same order after a deletion. -/
theorem idxOf_fetch_delete {id a b : ObjectID} (ha : a ≠ id) (hb : b ≠ id)
    (hbmem : b ∈ fetching.fetch context)
    (hab : (fetching.fetch context).idxOf a < (fetching.fetch context).idxOf b) :
    (fetching.fetch (context.delete id)).idxOf a <
      (fetching.fetch (context.delete id)).idxOf b := by
  have hamem : a ∈ fetching.fetch context :=
    List.idxOf_lt_length_iff.1 (hab.trans (List.idxOf_lt_length_iff.2 hbmem))
  have hle : context.sortKey a ≤ context.sortKey b :=
    of_idxOf_lt (fetching.isFetch context).sorted hbmem hab
  rcases hle.lt_or_eq with hlt | heq
  · by_contra hge
    -- a different order now would contradict the sort, which the deletion has not changed
    have hamem' := (mem_fetch_delete fetching).2 ⟨ha, hamem⟩
    rcases (not_lt.1 hge).lt_or_eq with hba | hba
    · have hle' := of_idxOf_lt (fetching.isFetch (context.delete id)).sorted hamem' hba
      rw [sortKey_delete ha, sortKey_delete hb] at hle'
      exact absurd hlt (not_lt.2 hle')
    · have hsame : b = a := (List.idxOf_inj ((mem_fetch_delete fetching).2 ⟨hb, hbmem⟩)).1 hba
      rw [hsame] at hlt
      exact lt_irrefl _ hlt
  · exact fetching.ties context id a b ha hb hamem hbmem heq hab

/-- Fetching after a deletion gives the earlier answer without the task. -/
theorem fetch_delete (context : ManagedObjectContext) (id : ObjectID) :
    fetching.fetch (context.delete id) = (fetching.fetch context).erase id := by
  have hnodup := (fetching.isFetch context).nodup
  have hnodup' := (fetching.isFetch (context.delete id)).nodup
  have hperm : (fetching.fetch (context.delete id)).Perm ((fetching.fetch context).erase id) := by
    apply (List.perm_ext_iff_of_nodup hnodup' (hnodup.erase id)).2
    intro a
    rw [mem_fetch_delete, hnodup.mem_erase_iff]
  have hfetched := pairwise_idxOf_lt hnodup'
  have herased : ((fetching.fetch context).erase id).Pairwise fun a b =>
      (fetching.fetch (context.delete id)).idxOf a <
        (fetching.fetch (context.delete id)).idxOf b := by
    refine ((pairwise_idxOf_lt hnodup).sublist List.erase_sublist).imp_of_mem ?_
    intro a b ha hb hab
    have ha' := hnodup.mem_erase_iff.1 ha
    have hb' := hnodup.mem_erase_iff.1 hb
    exact idxOf_fetch_delete fetching ha'.1 hb'.1 hb'.2 hab
  -- both lists are sorted by their position in the new answer
  refine List.Perm.eq_of_pairwise ?_ hfetched herased hperm
  intro a b _ _ hab hba
  exact absurd hab (not_lt.2 hba.le)

end Fetching

/-! ## Runs of deletions -/

section Runs

variable (formatter : DateFormatter) (fetching : Fetching)

/-- Deleting the displayed task `task`, through the grid or through the list. -/
inductive DeleteStep : TasksTab → ObjectID → TasksTab → Prop where
  | grid {tab tab' : TasksTab} {row : ℕ} {task : ObjectID} :
      tab.vc.cellForItemAt row = some (some task) →
      tab.createDeleteAction formatter row = some tab' → DeleteStep tab task tab'
  | list {tab tab' : TasksTab} {section_ row : ℕ} {task : ObjectID} :
      tab.vc.cellForRowAt section_ row = some (some task) →
      tab.deleteAction formatter (some (fetching.fetch (tab.context.delete task))) section_ row =
        some tab' →
      DeleteStep tab task tab'

/-- The tab a refresh leaves for a store. -/
def refreshed (context : ManagedObjectContext) (tab : TasksTab) : TasksTab :=
  TasksTab.refreshData formatter (some (fetching.fetch context)) { tab with context := context }

theorem refreshed_eq (context : ManagedObjectContext) (tab : TasksTab) :
    refreshed formatter fetching context tab =
      TasksTab.loaded formatter context (fetching.fetch context) :=
  TasksTab.refreshData_some _ _ _

/-- Every stored task has a due date. -/
def AllDated (context : ManagedObjectContext) : Prop :=
  ∀ id task, context.task id = some task → ∃ dueDate, task.dueDate = some dueDate

variable {formatter fetching} {context : ManagedObjectContext}

theorem AllDated.delete (h : AllDated context) (id : ObjectID) : AllDated (context.delete id) := by
  intro id' task htask
  rw [ManagedObjectContext.task_delete] at htask
  split at htask
  · simp at htask
  · exact h id' task htask

theorem AllDated.dueDate_of_mem (h : AllDated context) {task : ObjectID}
    (htask : task ∈ fetching.fetch context) : ∃ dueDate, context.dueDate task = some dueDate := by
  have hmarked := ((fetching.isFetch context).mem_iff task).1 htask
  rcases Option.map_eq_some_iff.1 hmarked with ⟨attributes, hattributes, _⟩
  rcases h task attributes hattributes with ⟨dueDate, hdue⟩
  exact ⟨dueDate, by simp [ManagedObjectContext.dueDate, hattributes, hdue]⟩

theorem fetch_of_cellForItemAt {tab : TasksTab} {row : ℕ} {task : ObjectID}
    (hcell : (refreshed formatter fetching context tab).vc.cellForItemAt row = some (some task)) :
    (fetching.fetch context)[row]? = some task := by
  rw [refreshed_eq] at hcell
  rcases TaskViewController.cellForItemAt_eq.1 hcell with ⟨tasks, htasks, hrow⟩
  obtain rfl := Option.some.inj htasks
  exact hrow

theorem grid_delete_refreshed (h : AllDated context) (tab : TasksTab) {row : ℕ} {task : ObjectID}
    (hcell : (refreshed formatter fetching context tab).vc.cellForItemAt row = some (some task)) :
    (refreshed formatter fetching context tab).createDeleteAction formatter row =
      some (refreshed formatter fetching (context.delete task) tab) := by
  have hrow := fetch_of_cellForItemAt hcell
  rcases h.dueDate_of_mem (List.mem_of_getElem? hrow) with ⟨dueDate, hdue⟩
  rw [refreshed_eq, refreshed_eq, fetching.fetch_delete]
  exact createDeleteAction_loaded (fetching.isFetch context).nodup hrow hdue

theorem list_delete_refreshed (tab : TasksTab) {section_ row : ℕ} {task : ObjectID}
    (hcell : (refreshed formatter fetching context tab).vc.cellForRowAt section_ row =
      some (some task)) :
    (refreshed formatter fetching context tab).deleteAction formatter
        (some (fetching.fetch (context.delete task))) section_ row =
      some (refreshed formatter fetching (context.delete task) tab) := by
  rw [refreshed_eq] at hcell
  rw [refreshed_eq, refreshed_eq, fetching.fetch_delete]
  exact deleteAction_loaded (fetching.isFetch context).nodup hcell

/-- One deletion leads from a refreshed tab to a refreshed tab. -/
theorem DeleteStep.refreshed_eq (h : AllDated context) {tab tab' : TasksTab} {task : ObjectID}
    (hstep : DeleteStep formatter fetching (refreshed formatter fetching context tab) task tab') :
    tab' = refreshed formatter fetching (context.delete task) tab := by
  cases hstep with
  | grid hcell hdelete =>
      rw [grid_delete_refreshed h tab hcell] at hdelete
      exact (Option.some.inj hdelete).symm
  | list hcell hdelete =>
      have hcontext : (refreshed formatter fetching context tab).context = context := rfl
      rw [hcontext, list_delete_refreshed tab hcell] at hdelete
      exact (Option.some.inj hdelete).symm

/-- Every task of the array is in some row of the list. -/
theorem exists_cell (h : AllDated context) (tab : TasksTab) {task : ObjectID}
    (htask : task ∈ fetching.fetch context) :
    ∃ section_ row, (refreshed formatter fetching context tab).vc.cellForRowAt section_ row =
      some (some task) := by
  rcases h.dueDate_of_mem htask with ⟨dueDate, hdue⟩
  have hkey : dateKey formatter context task = some (formatter.string dueDate) := by
    rw [dateKey, hdue, Option.map_some]
  rw [refreshed_eq]
  have hsection : formatter.string dueDate ∈
      (TasksTab.loaded formatter context (fetching.fetch context)).vc.sectionDates :=
    TaskViewController.mem_sectionDates.2 (mem_keys_group.2 ⟨task, htask, hkey⟩)
  rcases List.mem_iff_getElem?.1 hsection with ⟨section_, hsection⟩
  have hmem : task ∈ (TasksTab.loaded formatter context (fetching.fetch context)).vc.tasksOf
      (formatter.string dueDate) := by
    -- the row is the task's place in the group of its day
    have hlookup :
        (TasksTab.loaded formatter context (fetching.fetch context)).vc.tasksByDate.lookup
        (formatter.string dueDate) = _ := lookup_loaded htask hkey
    rw [TaskViewController.tasksOf, hlookup, Option.getD_some]
    exact mem_members.2 ⟨htask, hkey⟩
  rcases List.mem_iff_getElem?.1 hmem with ⟨row, hrow⟩
  exact ⟨section_, row, TaskViewController.cellForRowAt_eq hsection hrow⟩

/-- After any deletions the tab is the one a refresh of the remaining store leaves. -/
theorem run_refreshed (h : AllDated context) (tab : TasksTab) {deleted : List ObjectID}
    {tab' : TasksTab}
    (hrun : Run (DeleteStep formatter fetching) (refreshed formatter fetching context tab)
      deleted tab') :
    tab' = refreshed formatter fetching (deleted.foldl ManagedObjectContext.delete context) tab ∧
      AllDated (deleted.foldl ManagedObjectContext.delete context) := by
  refine Run.invariant_history (P := fun deleted tab' =>
    tab' = refreshed formatter fetching (deleted.foldl ManagedObjectContext.delete context) tab ∧
      AllDated (deleted.foldl ManagedObjectContext.delete context)) ⟨rfl, h⟩ ?_ hrun
  intro deleted tab' task tab'' _ ih hstep
  rw [List.foldl_append, List.foldl_cons, List.foldl_nil]
  refine ⟨?_, ih.2.delete task⟩
  rw [ih.1] at hstep
  exact hstep.refreshed_eq ih.2

theorem no_empty_group (tab : TasksTab) (key : String) :
    (refreshed formatter fetching context tab).vc.tasksByDate.lookup key ≠ some [] := by
  rw [refreshed_eq]
  intro hlookup
  have hgroup : (group (dateKey formatter context) (fetching.fetch context)).lookup key = some [] :=
    hlookup
  rw [lookup_group, occupied_eq_some] at hgroup
  exact hgroup.2 rfl

/-- After a refresh and any further deletions, a displayed task can be deleted in the grid and in
the list. From whichever row this is done, the tab is then what a refresh would load from the store
without the task, and the other tasks are as they were. -/
theorem delete_paths_agree (h : AllDated context) (tab : TasksTab) {deleted : List ObjectID}
    {tab' : TasksTab}
    (hrun : Run (DeleteStep formatter fetching) (refreshed formatter fetching context tab)
      deleted tab') {task : ObjectID}
    (htask : ∃ row, tab'.vc.cellForItemAt row = some (some task)) :
    let without := refreshed formatter fetching (tab'.context.delete task) tab'
    (∀ row, tab'.vc.cellForItemAt row = some (some task) →
        tab'.createDeleteAction formatter row = some without) ∧
      (∃ section_ row, tab'.vc.cellForRowAt section_ row = some (some task)) ∧
      (∀ section_ row, tab'.vc.cellForRowAt section_ row = some (some task) →
        tab'.deleteAction formatter (some (fetching.fetch (tab'.context.delete task)))
          section_ row =
          some without) ∧
      (∀ key, without.vc.tasksByDate.lookup key ≠ some []) ∧
      ∀ id, id ≠ task → without.context.task id = tab'.context.task id := by
  rcases run_refreshed h tab hrun with ⟨rfl, hdated⟩
  generalize deleted.foldl ManagedObjectContext.delete context = rest at *
  have hcontext : (refreshed formatter fetching rest tab).context = rest := rfl
  intro without
  have hwithout : without = refreshed formatter fetching (rest.delete task) tab := by
    calc without
        = refreshed formatter fetching (rest.delete task)
            (refreshed formatter fetching rest tab) := rfl
      _ = TasksTab.loaded formatter (rest.delete task) (fetching.fetch (rest.delete task)) :=
          refreshed_eq _ _ _ _
      _ = refreshed formatter fetching (rest.delete task) tab := (refreshed_eq _ _ _ _).symm
  rcases htask with ⟨row, hcell⟩
  have hmem : task ∈ fetching.fetch rest := List.mem_of_getElem? (fetch_of_cellForItemAt hcell)
  refine ⟨?_, exists_cell hdated tab hmem, ?_, ?_, ?_⟩
  · intro row hcell
    rw [hwithout]
    exact grid_delete_refreshed hdated tab hcell
  · intro section_ row hcell
    rw [hwithout, hcontext]
    exact list_delete_refreshed tab hcell
  · intro key
    rw [hwithout]
    exact no_empty_group tab key
  · intro id hid
    have hdelete := @ManagedObjectContext.task_delete rest task id
    rwa [if_neg hid] at hdelete

end Runs

/-! ## A fetch that breaks ties by creation -/

/-- The due date, then the order of creation. -/
def creationKey (context : ManagedObjectContext) (id : ObjectID) : WithBot Date ×ₗ ObjectID :=
  toLex (context.sortKey id, id)

def fetchByCreation (context : ManagedObjectContext) : List ObjectID :=
  sortAscending (creationKey context)
    ((List.range context.nextID).filter fun id => context.Marked false id)

theorem fetchByCreation_isFetch (context : ManagedObjectContext) :
    context.IsFetchByDueDate false (fetchByCreation context) where
  nodup := (sortAscending_perm _ _).nodup_iff.2 (List.nodup_range.filter _)
  mem_iff := by
    intro id
    rw [fetchByCreation, (sortAscending_perm _ _).mem_iff, List.mem_filter, decide_eq_true_eq]
    refine ⟨fun h => h.2, fun h => ⟨?_, h⟩⟩
    rcases Option.map_eq_some_iff.1 h with ⟨task, htask, _⟩
    exact List.mem_range.2 (ManagedObjectContext.task_eq_some_lt htask)
  sorted := by
    refine (sortAscending_pairwise (creationKey context) _).imp fun {a b} hab => ?_
    rcases (Prod.Lex.toLex_le_toLex.1 hab) with hlt | ⟨heq, _⟩
    · exact hlt.le
    · exact heq.le

/-- Sorting by due date and creation is one way the store may answer. -/
def Fetching.byCreation : Fetching where
  fetch := fetchByCreation
  isFetch := fetchByCreation_isFetch
  ties := by
    intro context id a b ha hb hamem hbmem hkey hab
    have hle : creationKey context a ≤ creationKey context b :=
      of_idxOf_lt (sortAscending_pairwise (creationKey context) _) hbmem hab
    have hage : a ≤ b := by
      rcases Prod.Lex.toLex_le_toLex.1 hle with hlt | ⟨_, hage⟩
      · exact absurd hkey hlt.ne
      · exact hage
    have hamem' : a ∈ fetchByCreation (context.delete id) := by
      rw [(fetchByCreation_isFetch _).mem_iff, ManagedObjectContext.marked_delete]
      exact ⟨ha, ((fetchByCreation_isFetch context).mem_iff a).1 hamem⟩
    by_contra hge
    rcases (not_lt.1 hge).lt_or_eq with hba | hba
    · -- the smaller store would order the two by age as well
      have hle' : creationKey (context.delete id) b ≤ creationKey (context.delete id) a :=
        of_idxOf_lt (sortAscending_pairwise (creationKey (context.delete id)) _) hamem' hba
      have hage' : b ≤ a := by
        rcases Prod.Lex.toLex_le_toLex.1 hle' with hlt | ⟨_, hage'⟩
        · rw [Fetching.sortKey_delete ha, Fetching.sortKey_delete hb, hkey] at hlt
          exact absurd hlt (lt_irrefl _)
        · exact hage'
      rw [le_antisymm hage hage'] at hab
      exact lt_irrefl _ hab
    · have hbmem' : b ∈ fetchByCreation (context.delete id) := by
        rw [(fetchByCreation_isFetch _).mem_iff, ManagedObjectContext.marked_delete]
        exact ⟨hb, ((fetchByCreation_isFetch context).mem_iff b).1 hbmem⟩
      have hsame : b = a := (List.idxOf_inj hbmem').1 hba
      rw [hsame] at hab
      exact lt_irrefl _ hab

theorem sampleContext_allDated : AllDated sampleContext := by
  intro id task htask
  rcases sampleContext_task htask with ⟨_, rfl⟩ | ⟨_, rfl⟩ | ⟨_, rfl⟩
  · exact ⟨90000, rfl⟩
  · exact ⟨3600, rfl⟩
  · exact ⟨0, rfl⟩

/-- The Tasks tab over the sample store, before anything is shown. -/
def sampleTab : TasksTab where
  context := sampleContext
  shared := ⟨none⟩
  vc := ⟨none, ∅⟩

/-- After deleting the first of the two open tasks in the grid, the other one can go either way. -/
theorem sample_delete_paths_agree :
    let tab := refreshed (DateFormatter.gregorian 0) Fetching.byCreation (sampleContext.delete 1)
      sampleTab
    let without := refreshed (DateFormatter.gregorian 0) Fetching.byCreation (tab.context.delete 0)
      tab
    (∀ row, tab.vc.cellForItemAt row = some (some 0) →
        tab.createDeleteAction (DateFormatter.gregorian 0) row = some without) ∧
      (∃ section_ row, tab.vc.cellForRowAt section_ row = some (some 0)) ∧
      (∀ section_ row, tab.vc.cellForRowAt section_ row = some (some 0) →
        tab.deleteAction (DateFormatter.gregorian 0)
          (some (Fetching.byCreation.fetch (tab.context.delete 0))) section_ row = some without) ∧
      (∀ key, without.vc.tasksByDate.lookup key ≠ some []) ∧
      ∀ id, id ≠ 0 → without.context.task id = tab.context.task id := by
  have hfirst : (refreshed (DateFormatter.gregorian 0) Fetching.byCreation sampleContext
      sampleTab).vc.cellForItemAt 0 = some (some 1) := by decide +kernel
  have hstep : Run (DeleteStep (DateFormatter.gregorian 0) Fetching.byCreation)
      (refreshed (DateFormatter.gregorian 0) Fetching.byCreation sampleContext sampleTab) [1]
      (refreshed (DateFormatter.gregorian 0) Fetching.byCreation (sampleContext.delete 1)
        sampleTab) :=
    Run.single (DeleteStep.grid hfirst
      (grid_delete_refreshed sampleContext_allDated sampleTab hfirst))
  exact delete_paths_agree sampleContext_allDated sampleTab hstep ⟨0, by decide +kernel⟩

end TaskMaster
end IosProjects
