import IosProjects.TaskMaster.App

/-!
# Sections — a section of the list is one day to every callback

Rows are counted in sections ordered by parsed dates; headers, cells and swipe actions look theirs
up in sections ordered by text. Deletions only thin out the groups, so the keys stay texts of days,
for which the two orders are the same.
-/

namespace IosProjects
namespace TaskMaster

open IosProjects.Library

/-! ## The other callbacks -/

namespace TaskViewController

/-- `tableView(_:titleForHeaderInSection:)`, with a formatter of its own; an index out of range
traps. -/
def titleForHeaderInSection (formatter : DateFormatter) (section_ : ℕ) (vc : TaskViewController) :
    Option (Option String) := do
  let sectionDateString ← vc.sectionDates[section_]?
  match formatter.date sectionDateString with
  | some sectionDate => return some (formatter.string sectionDate)
  | none => return none

/-- The `editTask` that the handler of the swipe's edit action gives the panel, if any; an index out
of range traps. -/
def editAction (section_ row : ℕ) (vc : TaskViewController) : Option (Option ObjectID) := do
  let sectionDateString ← vc.sectionDates[section_]?
  match vc.tasksByDate.lookup sectionDateString with
  | none => return none
  | some tasksForSection =>
      let task ← tasksForSection[row]?
      return some task

theorem editAction_eq_cellForRowAt (section_ row : ℕ) (vc : TaskViewController) :
    vc.editAction section_ row = vc.cellForRowAt section_ row := rfl

end TaskViewController

/-! ## Deletions thin out the groups -/

/-- A deletion by swipe, with the answer to the fetch after it, or through the grid's menu. -/
inductive Deletion where
  | list (section_ row : ℕ) (fetched : Option (List ObjectID))
  | grid (row : ℕ)

def DeletionStep (formatter : DateFormatter) (tab : TasksTab) (e : Deletion) (tab' : TasksTab) :
    Prop :=
  match e with
  | .list section_ row fetched => tab.deleteAction formatter fetched section_ row = some tab'
  | .grid row => tab.createDeleteAction formatter row = some tab'

theorem removeFromDay_thinned (key : String) (task : ObjectID) (d : Groups String ObjectID) :
    Thinned d (removeFromDay key task d) := by
  unfold removeFromDay
  cases hlookup : d.lookup key with
  | none => exact Thinned.refl d
  | some tasks =>
      dsimp only
      cases tasks.idxOf? task with
      | none => exact Thinned.refl d
      | some taskIndex =>
          have hinsert : Thinned d (d.insert key (tasks.eraseIdx taskIndex)) :=
            (Thinned.refl d).insert hlookup (List.eraseIdx_sublist _ _)
          dsimp only
          split
          · exact hinsert.erase key
          · exact hinsert

theorem removeFromSection_thinned {key : String} {tasks : List ObjectID}
    {d : Groups String ObjectID} (hlookup : d.lookup key = some tasks) (row : ℕ) (task : ObjectID) :
    Thinned d (removeFromSection key row task tasks d) := by
  have hrow : (tasks.eraseIdx row).Sublist tasks := List.eraseIdx_sublist _ _
  have hinsert : Thinned d (d.insert key (tasks.eraseIdx row)) :=
    (Thinned.refl d).insert hlookup hrow
  unfold removeFromSection
  simp only [Finmap.lookup_insert]
  cases (tasks.eraseIdx row).idxOf? task with
  | none =>
      dsimp only
      split
      · exact hinsert.erase key
      · exact hinsert
  | some taskIndex =>
      -- the same task once more, if it is listed twice
      have hagain : Thinned d ((d.insert key (tasks.eraseIdx row)).insert key
          ((tasks.eraseIdx row).eraseIdx taskIndex)) :=
        hinsert.insert hlookup ((List.eraseIdx_sublist _ _).trans hrow)
      dsimp only
      split
      · exact hagain.erase key
      · exact hagain

/-- What a deletion does: nothing, or one task goes from the context and from the group it is filed
in. -/
theorem DeletionStep.cases {formatter : DateFormatter} {tab tab' : TasksTab} {e : Deletion}
    (h : DeletionStep formatter tab e tab') :
    tab' = tab ∨
      (∃ task dueDate, tab.context.dueDate task = some dueDate ∧
        tab'.context = tab.context.delete task ∧
        tab'.vc.tasksByDate = removeFromDay (formatter.string dueDate) task tab.vc.tasksByDate) ∨
      ∃ key row tasks task, tab.vc.tasksByDate.lookup key = some tasks ∧ tasks[row]? = some task ∧
        tab'.context = tab.context.delete task ∧
        tab'.vc.tasksByDate = removeFromSection key row task tasks tab.vc.tasksByDate := by
  cases e with
  | list section_ row fetched =>
      simp only [DeletionStep, TasksTab.deleteAction] at h
      cases hsection : tab.vc.sectionDates[section_]? with
      | none => simp [hsection] at h
      | some key =>
          cases hlookup : tab.vc.tasksByDate.lookup key with
          | none =>
              simp only [hsection, hlookup, Option.some.injEq] at h
              exact Or.inl h.symm
          | some tasks =>
              cases hrow : tasks[row]? with
              | none => simp [hsection, hlookup, hrow] at h
              | some task =>
                  simp only [hsection, hlookup, hrow, Option.some.injEq] at h
                  subst h
                  refine Or.inr (Or.inr ⟨key, row, tasks, task, hlookup, hrow, rfl, ?_⟩)
                  cases fetched <;> rfl
  | grid row =>
      simp only [DeletionStep, TasksTab.createDeleteAction] at h
      cases htasks : tab.vc.tasks with
      | none =>
          simp only [htasks, Option.some.injEq] at h
          exact Or.inl h.symm
      | some tasks =>
          cases hrow : tasks[row]? with
          | none => simp [htasks, hrow] at h
          | some task =>
              cases hdue : tab.context.dueDate task with
              | none =>
                  simp only [htasks, hrow, hdue, Option.some.injEq] at h
                  exact Or.inl h.symm
              | some dueDate =>
                  simp only [htasks, hrow, hdue, Option.some.injEq] at h
                  subst h
                  exact Or.inr (Or.inl ⟨task, dueDate, hdue, rfl, rfl⟩)

theorem DeletionStep.thinned {formatter : DateFormatter} {tab tab' : TasksTab} {e : Deletion}
    (h : DeletionStep formatter tab e tab') : Thinned tab.vc.tasksByDate tab'.vc.tasksByDate := by
  rcases h.cases with rfl | ⟨task, dueDate, _, _, hgroups⟩ |
    ⟨key, row, tasks, task, hlookup, _, _, hgroups⟩
  · exact Thinned.refl _
  · rw [hgroups]
    exact removeFromDay_thinned _ _ _
  · rw [hgroups]
    exact removeFromSection_thinned hlookup row task

theorem run_thinned {formatter : DateFormatter} {tab tab' : TasksTab} {es : List Deletion}
    (hrun : Run (DeletionStep formatter) tab es tab') :
    Thinned tab.vc.tasksByDate tab'.vc.tasksByDate := by
  induction hrun with
  | nil => exact Thinned.refl _
  | snoc _ hlast ih => exact ih.trans hlast.thinned

/-! ## Listed tasks keep their due dates -/

/-- No group lists a task twice, and every task is listed under the text of its due date. -/
def Filed (formatter : DateFormatter) (tab : TasksTab) : Prop :=
  ∀ key tasks, tab.vc.tasksByDate.lookup key = some tasks →
    tasks.Nodup ∧ ∀ task ∈ tasks, dateKey formatter tab.context task = some key

section Filed

variable {formatter : DateFormatter} {tab tab' : TasksTab} {task : ObjectID}

/-- Deleting a task that is listed nowhere any more does not change the due date of a listed one. -/
theorem Filed.of_thinned (h : Filed formatter tab)
    (hthinned : Thinned tab.vc.tasksByDate tab'.vc.tasksByDate)
    (hcontext : tab'.context = tab.context.delete task)
    (hgone : ∀ key tasks, tab'.vc.tasksByDate.lookup key = some tasks → task ∉ tasks) :
    Filed formatter tab' := by
  intro key tasks hlookup
  rcases hthinned key tasks hlookup with ⟨before, hbefore, hsub⟩
  have hfiled := h key before hbefore
  refine ⟨hfiled.1.sublist hsub, fun id hid => ?_⟩
  have hne : id ≠ task := by
    rintro rfl
    exact hgone key tasks hlookup hid
  calc dateKey formatter tab'.context id
      = dateKey formatter tab.context id := by
        rw [hcontext, dateKey, ManagedObjectContext.dueDate_delete_of_ne hne, ← dateKey]
    _ = some key := hfiled.2 id (hsub.subset hid)

/-- A task is listed under its own key only. -/
theorem Filed.not_mem_of_ne (h : Filed formatter tab) {key key' : String} {tasks : List ObjectID}
    (hkey : dateKey formatter tab.context task = some key) (hne : key' ≠ key)
    (hlookup : tab.vc.tasksByDate.lookup key' = some tasks) : task ∉ tasks := by
  intro hmem
  have hkey' := (h key' tasks hlookup).2 task hmem
  rw [hkey] at hkey'
  exact hne (Option.some.inj hkey').symm

/-- Dropping a task from the group of its day takes it out of the list. -/
theorem Filed.not_mem_dropMember (h : Filed formatter tab) {key : String}
    (hkey : dateKey formatter tab.context task = some key) (key' : String) (tasks : List ObjectID)
    (hlookup : (dropMember key task tab.vc.tasksByDate).lookup key' = some tasks) :
    task ∉ tasks := by
  unfold dropMember at hlookup
  cases hday : tab.vc.tasksByDate.lookup key with
  | none =>
      rw [hday] at hlookup
      refine h.not_mem_of_ne hkey ?_ hlookup
      rintro rfl
      simp [hday] at hlookup
  | some tasksOnDueDate =>
      simp only [hday] at hlookup
      by_cases hne : key' = key
      · subst hne
        split at hlookup
        · simp at hlookup
        · obtain rfl : tasksOnDueDate.erase task = tasks := by simpa using hlookup
          exact (h key' _ hday).1.not_mem_erase
      · refine h.not_mem_of_ne hkey hne ?_
        split at hlookup
        · rwa [Finmap.lookup_erase_ne hne] at hlookup
        · rwa [Finmap.lookup_insert_of_ne _ hne] at hlookup

theorem Filed.not_mem_removeFromDay (h : Filed formatter tab) {key : String}
    (hkey : dateKey formatter tab.context task = some key) (key' : String) (tasks : List ObjectID)
    (hlookup : (removeFromDay key task tab.vc.tasksByDate).lookup key' = some tasks) :
    task ∉ tasks := by
  by_cases hlisted : ∃ tasksOnDueDate,
      tab.vc.tasksByDate.lookup key = some tasksOnDueDate ∧ task ∈ tasksOnDueDate
  · rcases hlisted with ⟨tasksOnDueDate, hday, hmem⟩
    rw [removeFromDay_eq hday hmem] at hlookup
    exact h.not_mem_dropMember hkey key' tasks hlookup
  · -- the menu was opened for a task that the list does not show
    rcases removeFromDay_thinned key task tab.vc.tasksByDate key' tasks hlookup with
      ⟨before, hbefore, hsub⟩
    intro hmem
    have hkey' := (h key' before hbefore).2 task (hsub.subset hmem)
    rw [hkey] at hkey'
    obtain rfl := Option.some.inj hkey'
    exact hlisted ⟨before, hbefore, hsub.subset hmem⟩

theorem DeletionStep.filed {e : Deletion} (hstep : DeletionStep formatter tab e tab')
    (h : Filed formatter tab) : Filed formatter tab' := by
  have hthinned := hstep.thinned
  rcases hstep.cases with rfl | ⟨task, dueDate, hdue, hcontext, hgroups⟩ |
    ⟨key, row, tasks, task, hlookup, hrow, hcontext, hgroups⟩
  · exact h
  · have hkey : dateKey formatter tab.context task = some (formatter.string dueDate) := by
      rw [dateKey, hdue, Option.map_some]
    refine h.of_thinned hthinned hcontext ?_
    rw [hgroups]
    exact h.not_mem_removeFromDay hkey
  · have hfiled := h key tasks hlookup
    have hkey := hfiled.2 task (List.mem_of_getElem? hrow)
    refine h.of_thinned hthinned hcontext ?_
    rw [hgroups, removeFromSection_eq hlookup hfiled.1 hrow]
    exact h.not_mem_dropMember hkey

end Filed

/-! ## Runs of deletions from a grouped list -/

section Grouped

variable {offset : ℚ}

/-- The tab after `groupTasksByDate()`. -/
def TasksTab.grouped (formatter : DateFormatter) (tab : TasksTab) : TasksTab :=
  { tab with vc := tab.vc.groupTasksByDate formatter tab.context }

/-- The tasks that `groupTasksByDate()` goes through. -/
def TasksTab.listed (tab : TasksTab) : List ObjectID :=
  tab.vc.tasks.getD []

theorem TasksTab.tasksByDate_grouped (formatter : DateFormatter) (tab : TasksTab) :
    (tab.grouped formatter).vc.tasksByDate = group (dateKey formatter tab.context) tab.listed := by
  rw [TasksTab.grouped, TaskViewController.groupTasksByDate_eq]
  rfl

variable {formatter : DateFormatter} {tab tab' : TasksTab} {es : List Deletion}

theorem filed_grouped (hnodup : tab.listed.Nodup) : Filed formatter (tab.grouped formatter) := by
  intro key tasks hlookup
  rw [TasksTab.tasksByDate_grouped, lookup_group, occupied_eq_some] at hlookup
  obtain ⟨rfl, _⟩ := hlookup
  exact ⟨hnodup.filter _, fun task htask => (mem_members.1 htask).2⟩

theorem run_filed (hnodup : tab.listed.Nodup)
    (hrun : Run (DeletionStep formatter) (tab.grouped formatter) es tab') : Filed formatter tab' :=
  hrun.invariant (fun _ _ _ hfiled hstep => hstep.filed hfiled) (filed_grouped hnodup)

/-- No due date changes while its task exists. -/
theorem run_dueDate (hrun : Run (DeletionStep formatter) tab es tab') {task : ObjectID}
    {date : Date} (hdue : tab'.context.dueDate task = some date) :
    tab.context.dueDate task = some date := by
  induction hrun with
  | nil => exact hdue
  | snoc _ hlast ih =>
      apply ih
      have hkept : ∀ id (context : ManagedObjectContext),
          (context.delete id).dueDate task = some date → context.dueDate task = some date := by
        intro id context hdate
        by_cases hid : task = id
        · subst hid
          simp [ManagedObjectContext.dueDate] at hdate
        · rwa [ManagedObjectContext.dueDate_delete_of_ne hid] at hdate
      rcases hlast.cases with rfl | ⟨id, _, _, hcontext, _⟩ | ⟨_, _, _, id, _, _, hcontext, _⟩
      · exact hdue
      · exact hkept id _ (hcontext ▸ hdue)
      · exact hkept id _ (hcontext ▸ hdue)

/-- The keys stay texts of days. -/
theorem run_dayKeys
    (hyears : ∀ task ∈ tab.listed, ∀ date, tab.context.dueDate task = some date →
      InYears offset date)
    (hrun : Run (DeletionStep (DateFormatter.gregorian offset))
      (tab.grouped (DateFormatter.gregorian offset)) es tab') :
    DayKeys offset tab'.vc.tasksByDate := by
  intro key hkey
  have hgrouped := (run_thinned hrun).mem_keys hkey
  rw [TasksTab.tasksByDate_grouped] at hgrouped
  rcases mem_keys_group.1 hgrouped with ⟨task, htask, hdate⟩
  rcases Option.map_eq_some_iff.1 hdate with ⟨date, hdue, rfl⟩
  exact ⟨date, hyears task htask date hdue, rfl⟩

/-- Every row of the list shows a task that was due on the day of its section. -/
theorem run_listed (hrun : Run (DeletionStep formatter) (tab.grouped formatter) es tab')
    {key : String} {row : ℕ} {task : ObjectID} (hrow : (tab'.vc.tasksOf key)[row]? = some task) :
    ∃ date, tab.context.dueDate task = some date ∧ formatter.string date = key := by
  have hmem : task ∈ tab'.vc.tasksOf key := List.mem_of_getElem? hrow
  have hthinned := run_thinned hrun
  rw [TasksTab.tasksByDate_grouped] at hthinned
  cases hlookup : tab'.vc.tasksByDate.lookup key with
  | none => simp [TaskViewController.tasksOf, hlookup] at hmem
  | some tasks =>
      rw [TaskViewController.tasksOf, hlookup, Option.getD_some] at hmem
      have hmember := (hthinned.members_of_group hlookup).subset hmem
      exact Option.map_eq_some_iff.1 (mem_members.1 hmember).2

/-- Such a task has that due date still, unless the grouped array listed one twice. -/
theorem run_listed_dueDate (hnodup : tab.listed.Nodup)
    (hrun : Run (DeletionStep formatter) (tab.grouped formatter) es tab') {key : String} {row : ℕ}
    {task : ObjectID} (hrow : (tab'.vc.tasksOf key)[row]? = some task) :
    tab'.context.dueDate task = tab.context.dueDate task := by
  have hmem : task ∈ tab'.vc.tasksOf key := List.mem_of_getElem? hrow
  cases hlookup : tab'.vc.tasksByDate.lookup key with
  | none => simp [TaskViewController.tasksOf, hlookup] at hmem
  | some tasks =>
      rw [TaskViewController.tasksOf, hlookup, Option.getD_some] at hmem
      have hkey := (run_filed hnodup hrun key tasks hlookup).2 task hmem
      rcases Option.map_eq_some_iff.1 hkey with ⟨date, hdue, _⟩
      have hbefore : tab.context.dueDate task = some date := run_dueDate hrun hdue
      rw [hdue, hbefore]

end Grouped

/-! ## One section, one day -/

theorem TaskViewController.titleForHeaderInSection_eq {offset : ℚ} {vc : TaskViewController}
    (h : DayKeys offset vc.tasksByDate) {section_ : ℕ} {key : String}
    (hsection : vc.sectionDates[section_]? = some key) :
    vc.titleForHeaderInSection (DateFormatter.gregorian offset) section_ = some (some key) := by
  have hkey : key ∈ vc.tasksByDate.keys :=
    TaskViewController.mem_sectionDates.1 (List.mem_of_getElem? hsection)
  rcases h key hkey with ⟨date, _, rfl⟩
  simp [titleForHeaderInSection, hsection, date_string, string_midnight]

theorem lookup_removeFromSection_of_ne {key key' : String} (hne : key' ≠ key) (row : ℕ)
    (task : ObjectID) (tasks : List ObjectID) (d : Groups String ObjectID) :
    (removeFromSection key row task tasks d).lookup key' = d.lookup key' := by
  unfold removeFromSection
  simp only [Finmap.lookup_insert]
  cases (tasks.eraseIdx row).idxOf? task <;> split <;>
    simp [Finmap.lookup_erase_ne hne, Finmap.lookup_insert_of_ne _ hne]

/-- What the cell, the edit action and the delete action of a row take for the task in it. -/
structure ActsOn (formatter : DateFormatter) (tab : TasksTab) (section_ row : ℕ) (key : String)
    (task : ObjectID) : Prop where
  cell : tab.vc.cellForRowAt section_ row = some (some task)
  edit : tab.vc.editAction section_ row = some (some task)
  /-- Whatever is fetched afterwards, the task is deleted and the other days are left alone. -/
  delete : ∀ fetched, ∃ after, tab.deleteAction formatter fetched section_ row = some after ∧
    after.context = tab.context.delete task ∧
    (∀ other, other ≠ key → after.vc.tasksByDate.lookup other = tab.vc.tasksByDate.lookup other) ∧
    ((tab.vc.tasksOf key).Nodup → after.vc.tasksOf key = (tab.vc.tasksOf key).eraseIdx row)

theorem actsOn (formatter : DateFormatter) {tab : TasksTab} {section_ row : ℕ} {key : String}
    {task : ObjectID} (hsection : tab.vc.sectionDates[section_]? = some key)
    (hrow : (tab.vc.tasksOf key)[row]? = some task) :
    ActsOn formatter tab section_ row key task where
  cell := TaskViewController.cellForRowAt_eq hsection hrow
  edit := by
    rw [TaskViewController.editAction_eq_cellForRowAt]
    exact TaskViewController.cellForRowAt_eq hsection hrow
  delete := by
    intro fetched
    have hlookup := TaskViewController.lookup_of_sectionDates hsection
    have hdelete : ∃ after, tab.deleteAction formatter fetched section_ row = some after ∧
        after.context = tab.context.delete task ∧
        after.vc.tasksByDate =
          removeFromSection key row task (tab.vc.tasksOf key) tab.vc.tasksByDate := by
      simp only [TasksTab.deleteAction, hsection, hlookup, hrow]
      exact ⟨_, rfl, rfl, by cases fetched <;> rfl⟩
    rcases hdelete with ⟨after, hafter, hcontext, hgroups⟩
    refine ⟨after, hafter, hcontext, fun other hother => ?_, fun hnodup => ?_⟩
    · rw [hgroups]
      exact lookup_removeFromSection_of_ne hother _ _ _ _
    · have hafter := removeFromSection_eq hlookup hnodup hrow
      rw [TaskViewController.tasksOf, hgroups, hafter, lookup_dropMember_self hlookup,
        eraseIdx_eq_erase hnodup hrow]

/-- After grouping tasks due in the years 1 to 9999 and any deletions, no key fails to parse, and a
section has the same key wherever it is looked up: its header is that key, and its rows are counted
and looked up in the group of that key, whose tasks are due on that day and are also the ones that
edit and delete act on. -/
theorem sections_agree (offset : ℚ) (it : Iteration String ObjectID) {tab tab' : TasksTab}
    (hyears : ∀ task ∈ tab.listed, ∀ date, tab.context.dueDate task = some date →
      InYears offset date)
    {es : List Deletion}
    (hrun : Run (DeletionStep (DateFormatter.gregorian offset))
      (tab.grouped (DateFormatter.gregorian offset)) es tab') :
    let formatter := DateFormatter.gregorian offset
    (∀ key ∈ tab'.vc.tasksByDate.keys, (formatter.date key).isSome) ∧
      ∀ section_ < tab'.vc.numberOfSections, ∃ key tasks,
        (∃ sorted, tab'.vc.sortedTasksByDate formatter it = some sorted ∧
          sorted[section_]? = some key) ∧
        tab'.vc.sectionDates[section_]? = some key ∧
        tab'.vc.titleForHeaderInSection formatter section_ = some (some key) ∧
        tab'.vc.tasksByDate.lookup key = some tasks ∧
        tab'.vc.numberOfRowsInSection formatter it section_ = some tasks.length ∧
        ∀ row < tasks.length, ∃ task date, tasks[row]? = some task ∧
          ActsOn formatter tab' section_ row key task ∧
          tab.context.dueDate task = some date ∧ formatter.string date = key ∧
          (tab.listed.Nodup → tab'.context.dueDate task = some date) := by
  intro formatter
  have hkeys : DayKeys offset tab'.vc.tasksByDate := run_dayKeys hyears hrun
  refine ⟨fun key hkey => ?_, fun section_ hsection => ?_⟩
  · rcases hkeys key hkey with ⟨date, _, rfl⟩
    rw [date_string]
    rfl
  · rw [← TaskViewController.length_sectionDates] at hsection
    have hkey := List.getElem?_eq_getElem hsection
    refine ⟨_, tab'.vc.tasksOf tab'.vc.sectionDates[section_],
      ⟨_, TaskViewController.sortedTasksByDate_eq hkeys it, hkey⟩, hkey,
      TaskViewController.titleForHeaderInSection_eq hkeys hkey,
      TaskViewController.lookup_of_sectionDates hkey,
      TaskViewController.numberOfRowsInSection_eq hkeys it hkey, fun row hrow => ?_⟩
    have htask := List.getElem?_eq_getElem hrow
    rcases run_listed hrun htask with ⟨date, hdue, hdate⟩
    refine ⟨_, date, htask, actsOn formatter hkey htask, hdue, hdate, fun hnodup => ?_⟩
    rw [run_listed_dueDate hnodup hrun htask]
    exact hdue

/-- Two days are listed, and the task of the first one is deleted in the grid. -/
theorem sample_sections_agree :
    let formatter := DateFormatter.gregorian 0
    let tab' : TasksTab := TasksTab.loaded formatter (sampleContext.delete 1) [0]
    tab'.vc.titleForHeaderInSection formatter 0 = some (some "2001-01-02") ∧
      tab'.vc.numberOfRowsInSection formatter default 0 = some 1 ∧
      ActsOn formatter tab' 0 0 "2001-01-02" 0 := by
  intro formatter tab'
  have hdue : sampleContext.dueDate 1 = some 3600 := by decide +kernel
  have hstep : DeletionStep formatter (TasksTab.loaded formatter sampleContext [1, 0]) (.grid 0)
      tab' :=
    createDeleteAction_loaded (by decide) rfl hdue
  have hyears : ∀ task ∈ (TasksTab.loaded formatter sampleContext [1, 0]).listed, ∀ date,
      sampleContext.dueDate task = some date → InYears 0 date := by
    intro task _ date hdue
    rcases Option.bind_eq_some_iff.1 hdue with ⟨attributes, hattributes, hdate⟩
    rcases sampleContext_task hattributes with ⟨_, rfl⟩ | ⟨_, rfl⟩ | ⟨_, rfl⟩ <;>
      · obtain rfl := Option.some.inj hdate
        decide +kernel
  have hgrouped : (TasksTab.loaded formatter sampleContext [1, 0]).grouped formatter =
      TasksTab.loaded formatter sampleContext [1, 0] := by
    rw [TasksTab.grouped, TaskViewController.groupTasksByDate_eq]
    rfl
  have hrun : Run (DeletionStep formatter)
      ((TasksTab.loaded formatter sampleContext [1, 0]).grouped formatter)
      [.grid 0] tab' := by
    rw [hgrouped]
    exact Run.single hstep
  have hfirst : tab'.vc.sectionDates[0]? = some "2001-01-02" := by decide +kernel
  have hcount : 0 < tab'.vc.numberOfSections := by decide +kernel
  rcases (sections_agree 0 default hyears hrun).2 0 hcount with
    ⟨key, tasks, _, hkey, hheader, hlookup, hrows, hacts⟩
  rw [hfirst] at hkey
  obtain rfl := Option.some.inj hkey
  have hgroup : tab'.vc.tasksByDate.lookup "2001-01-02" = some [0] := by decide +kernel
  rw [hgroup] at hlookup
  obtain rfl := Option.some.inj hlookup
  rcases hacts 0 (by decide) with ⟨task, _, htask, hact, _⟩
  obtain rfl : 0 = task := Option.some.inj htask
  exact ⟨hheader, hrows, hact⟩

end TaskMaster
end IosProjects
