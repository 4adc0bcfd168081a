import IosProjects.TaskMaster.TaskView

/-!
# ListView — the list shows what the grid shows

The list orders its sections twice: as strings when it looks up a cell, and as parsed dates when it
counts the rows of a section. For keys that are texts of days both orders agree, so reading the list
section by section concatenates the groups in the order of the texts. A fetch sorted by due date is
sorted by text as well, and the concatenation is the fetch.
-/

namespace IosProjects
namespace TaskMaster

open IosProjects.Library

variable {offset : ℚ}

/-! ## Section orders -/

/-- Every key is the text of a date in the years 1 to 9999. -/
def DayKeys (offset : ℚ) (tasksByDate : Groups String ObjectID) : Prop :=
  ∀ key ∈ tasksByDate.keys,
    ∃ date, InYears offset date ∧ (DateFormatter.gregorian offset).string date = key

theorem parsed_lt_parsed {d e : Date} (hd : InYears offset d) (he : InYears offset e)
    (h : (DateFormatter.gregorian offset).string d < (DateFormatter.gregorian offset).string e) :
    (DateFormatter.gregorian offset).parsed ((DateFormatter.gregorian offset).string d) <
      (DateFormatter.gregorian offset).parsed ((DateFormatter.gregorian offset).string e) := by
  have hday := (string_lt_string hd he).1 h
  rw [parsed_string, parsed_string]
  exact WithBot.coe_lt_coe.2 (midnight_lt_midnight.2 hday)

namespace TaskViewController

variable {vc : TaskViewController}

theorem mem_sectionDates {key : String} : key ∈ vc.sectionDates ↔ key ∈ vc.tasksByDate.keys :=
  Finset.mem_sort _

theorem sectionDates_pairwise (vc : TaskViewController) : vc.sectionDates.Pairwise (· < ·) :=
  (Finset.sortedLT_sort _).pairwise

theorem length_sectionDates (vc : TaskViewController) :
    vc.sectionDates.length = vc.numberOfSections :=
  Finset.length_sort _

/-- The keys in iteration order. -/
theorem keys_perm (it : Iteration String ObjectID) (vc : TaskViewController) :
    ((it.entries vc.tasksByDate).map Sigma.fst).Perm vc.sectionDates := by
  have hkeys : ((it.entries vc.tasksByDate).map Sigma.fst).Nodup :=
    List.pairwise_map.2 (it.pairwise_keys _)
  have hsections : vc.sectionDates.Nodup := Finset.sort_nodup _ _
  apply (List.perm_ext_iff_of_nodup hkeys hsections).2
  intro key
  rw [mem_sectionDates, Finmap.mem_keys, Finmap.mem_iff]
  constructor
  · intro h
    rcases List.mem_map.1 h with ⟨entry, hentry, rfl⟩
    exact ⟨entry.2, it.mem_entries.1 hentry⟩
  · rintro ⟨tasks, hlookup⟩
    exact List.mem_map.2 ⟨⟨key, tasks⟩, it.mem_entries.2 hlookup, rfl⟩

/-- Sorting the keys as dates gives the same sections as sorting them as strings. -/
theorem sortedTasksByDate_eq (h : DayKeys offset vc.tasksByDate)
    (it : Iteration String ObjectID) :
    vc.sortedTasksByDate (DateFormatter.gregorian offset) it = some vc.sectionDates := by
  have hperm := keys_perm it vc
  have hdate : ∀ key ∈ vc.sectionDates,
      ∃ date, InYears offset date ∧ (DateFormatter.gregorian offset).string date = key :=
    fun key hkey => h key (mem_sectionDates.1 hkey)
  -- the keys are ISO texts, whose order is that of the days they name
  have hsorted : vc.sectionDates.Pairwise fun a b =>
      (DateFormatter.gregorian offset).parsed a < (DateFormatter.gregorian offset).parsed b := by
    refine (sectionDates_pairwise vc).imp_of_mem fun {a b} ha hb hab => ?_
    rcases hdate a ha with ⟨d, hd, rfl⟩
    rcases hdate b hb with ⟨e, he, rfl⟩
    exact parsed_lt_parsed hd he hab
  have hall : ((it.entries vc.tasksByDate).map Sigma.fst).all
      (fun key => ((DateFormatter.gregorian offset).date key).isSome) = true := by
    apply List.all_eq_true.2
    intro key hkey
    rcases hdate key (hperm.mem_iff.1 hkey) with ⟨d, _, rfl⟩
    rw [date_string]
    rfl
  have hnodup : (((it.entries vc.tasksByDate).map Sigma.fst).map
      (DateFormatter.gregorian offset).parsed).Nodup :=
    (hperm.map _).nodup_iff.2 (List.pairwise_map.2 (hsorted.imp ne_of_lt))
  have hsort := eq_sortAscending hnodup hperm.symm (hsorted.imp le_of_lt)
  unfold sortedTasksByDate
  generalize (it.entries vc.tasksByDate).map Sigma.fst = keys at *
  -- up to one key the sort compares nothing, so the source never parses a date
  match keys with
  | [] => simp [hsort, sortAscending]
  | [key] => simp [hsort, sortAscending]
  | key :: key' :: keys => simp [hall, hsort]

/-! ## Reading the cells -/

/-- The tasks of a section. -/
def tasksOf (vc : TaskViewController) (key : String) : List ObjectID :=
  (vc.tasksByDate.lookup key).getD []

theorem lookup_of_sectionDates {section_ : ℕ} {key : String}
    (h : vc.sectionDates[section_]? = some key) :
    vc.tasksByDate.lookup key = some (vc.tasksOf key) := by
  have hkey : key ∈ vc.tasksByDate.keys := mem_sectionDates.1 (List.mem_of_getElem? h)
  rcases Finmap.mem_iff.1 (Finmap.mem_keys.1 hkey) with ⟨tasks, hlookup⟩
  rw [tasksOf, hlookup, Option.getD_some]

theorem numberOfRowsInSection_eq (h : DayKeys offset vc.tasksByDate)
    (it : Iteration String ObjectID) {section_ : ℕ} {key : String}
    (hsection : vc.sectionDates[section_]? = some key) :
    vc.numberOfRowsInSection (DateFormatter.gregorian offset) it section_ =
      some (vc.tasksOf key).length := by
  simp [numberOfRowsInSection, sortedTasksByDate_eq h it, hsection,
    lookup_of_sectionDates hsection]

theorem cellForRowAt_eq {section_ row : ℕ} {key : String} {task : ObjectID}
    (hsection : vc.sectionDates[section_]? = some key)
    (hrow : (vc.tasksOf key)[row]? = some task) :
    vc.cellForRowAt section_ row = some (some task) := by
  simp [cellForRowAt, hsection, lookup_of_sectionDates hsection, hrow]

/-- Reading the list never traps; it concatenates the sections. -/
theorem readList_eq (h : DayKeys offset vc.tasksByDate) (it : Iteration String ObjectID) :
    vc.readList (DateFormatter.gregorian offset) it =
      some ((vc.sectionDates.flatMap vc.tasksOf).map some) := by
  have hsections : (List.range vc.numberOfSections).mapM (fun section_ => do
      let rows ← vc.numberOfRowsInSection (DateFormatter.gregorian offset) it section_
      (List.range rows).mapM fun row => vc.cellForRowAt section_ row) =
        some (vc.sectionDates.map fun key => (vc.tasksOf key).map some) := by
    rw [← length_sectionDates, ← List.length_map (fun key => (vc.tasksOf key).map some)]
    apply mapM_range_eq_some
    intro section_ cells hcells
    rw [List.getElem?_map] at hcells
    rcases Option.map_eq_some_iff.1 hcells with ⟨key, hkey, rfl⟩
    rw [numberOfRowsInSection_eq h it hkey, Option.bind_eq_bind, Option.bind_some,
      ← List.length_map some]
    apply mapM_range_eq_some
    intro row cell hcell
    rw [List.getElem?_map] at hcell
    rcases Option.map_eq_some_iff.1 hcell with ⟨task, htask, rfl⟩
    exact cellForRowAt_eq hkey htask
  rw [readList, hsections]
  simp [List.flatMap_def, List.map_flatten, Function.comp_def]

end TaskViewController

/-! ## The list after a refresh -/

section Refreshed

variable {context : ManagedObjectContext} {tasks : List ObjectID}

/-- Every fetched task has a due date in the years 1 to 9999. -/
def Dated (offset : ℚ) (context : ManagedObjectContext) (tasks : List ObjectID) : Prop :=
  ∀ task ∈ tasks, ∃ date, context.dueDate task = some date ∧ InYears offset date

theorem Dated.dayKeys (h : Dated offset context tasks) :
    DayKeys offset (group (dateKey (DateFormatter.gregorian offset) context) tasks) := by
  intro key hkey
  rcases mem_keys_group.1 hkey with ⟨task, htask, hdate⟩
  rcases h task htask with ⟨date, hdue, hyears⟩
  rw [dateKey, hdue, Option.map_some, Option.some.injEq] at hdate
  exact ⟨date, hyears, hdate⟩

/-- The text of the due date, for a task that has one. -/
def dayText (formatter : DateFormatter) (context : ManagedObjectContext) (task : ObjectID) :
    String :=
  (dateKey formatter context task).getD ""

theorem Dated.dateKey_eq (h : Dated offset context tasks) {task : ObjectID} (htask : task ∈ tasks) :
    dateKey (DateFormatter.gregorian offset) context task =
      some (dayText (DateFormatter.gregorian offset) context task) := by
  rcases h task htask with ⟨date, hdue, _⟩
  simp [dayText, dateKey, hdue]

/-- A fetch sorted by due date is sorted by text. -/
theorem Dated.sorted (h : Dated offset context tasks)
    (hsorted : tasks.Pairwise fun a b => context.sortKey a ≤ context.sortKey b) :
    tasks.Pairwise fun a b => dayText (DateFormatter.gregorian offset) context a ≤
      dayText (DateFormatter.gregorian offset) context b := by
  refine hsorted.imp_of_mem fun {a b} ha hb hab => ?_
  rcases h a ha with ⟨d, hd, hdyears⟩
  rcases h b hb with ⟨e, he, heyears⟩
  have hde : d ≤ e := by
    simpa [ManagedObjectContext.sortKey, hd, he] using hab
  simpa [dayText, dateKey, hd, he] using string_le_string hdyears heyears hde

/-- The sections of a loaded tab concatenate to the fetch. -/
theorem flatMap_tasksOf (h : Dated offset context tasks)
    (hsorted : tasks.Pairwise fun a b => context.sortKey a ≤ context.sortKey b) :
    let vc := (TasksTab.loaded (DateFormatter.gregorian offset) context tasks).vc
    vc.sectionDates.flatMap vc.tasksOf = tasks := by
  intro vc
  have hmem : ∀ task ∈ tasks,
      dayText (DateFormatter.gregorian offset) context task ∈ vc.sectionDates := fun task htask =>
    TaskViewController.mem_sectionDates.2 (mem_keys_group.2 ⟨task, htask, h.dateKey_eq htask⟩)
  have hread := flatMap_filter_key (TaskViewController.sectionDates_pairwise vc)
    (h.sorted hsorted) hmem
  refine Eq.trans (List.flatMap_congr fun key _ => ?_) hread
  have hlookup : vc.tasksOf key =
      members (dateKey (DateFormatter.gregorian offset) context) tasks key := by
    change ((group (dateKey (DateFormatter.gregorian offset) context) tasks).lookup key).getD [] = _
    rw [lookup_group]
    cases members (dateKey (DateFormatter.gregorian offset) context) tasks key <;> rfl
  rw [hlookup, members]
  apply List.filter_congr
  intro task htask
  simp only [h.dateKey_eq htask, Option.some.injEq]

end Refreshed

/-- Right after a refresh, the list read section by section shows what the grid shows: the fetched
array. -/
theorem list_reads_as_grid (offset : ℚ) (it : Iteration String ObjectID) {tab : TasksTab}
    (hstored : ∀ id task, tab.context.task id = some task →
      ∃ date, task.dueDate = some date ∧ InYears offset date)
    {fetched : List ObjectID} (hfetch : tab.context.IsFetchByDueDate false fetched) :
    let refreshed := tab.refreshData (DateFormatter.gregorian offset) (some fetched)
    refreshed.vc.tasks = some fetched ∧ refreshed.vc.readGrid = some (fetched.map some) ∧
      refreshed.vc.readList (DateFormatter.gregorian offset) it = some (fetched.map some) := by
  have hdated : Dated offset tab.context fetched := by
    intro id hid
    have hmarked := (hfetch.mem_iff id).1 hid
    rcases Option.map_eq_some_iff.1 hmarked with ⟨task, htask, _⟩
    rcases hstored id task htask with ⟨date, hdate, hyears⟩
    exact ⟨date, by simp [ManagedObjectContext.dueDate, htask, hdate], hyears⟩
  intro refreshed
  have hrefreshed : refreshed =
      TasksTab.loaded (DateFormatter.gregorian offset) tab.context fetched :=
    TasksTab.refreshData_some _ _ _
  rw [hrefreshed]
  refine ⟨rfl, TaskViewController.readGrid_some rfl, ?_⟩
  rw [TaskViewController.readList_eq hdated.dayKeys it, flatMap_tasksOf hdated hfetch.sorted]

/-- Two open tasks on consecutive days, the later one stored first, and a completed one. -/
def sampleContext : ManagedObjectContext :=
  ((ManagedObjectContext.empty.insert ⟨some "pay rent", some 90000, false⟩).insert
    ⟨some "call bank", some 3600, false⟩).insert ⟨some "buy milk", some 0, true⟩

theorem sampleContext_task {id : ObjectID} {task : Task} (h : sampleContext.task id = some task) :
    (id = 0 ∧ task = ⟨some "pay rent", some 90000, false⟩) ∨
      (id = 1 ∧ task = ⟨some "call bank", some 3600, false⟩) ∨
        (id = 2 ∧ task = ⟨some "buy milk", some 0, true⟩) := by
  simp only [sampleContext, ManagedObjectContext.task_insert] at h
  split at h
  · rename_i hid
    exact Or.inr (Or.inr ⟨hid, (Option.some.inj h).symm⟩)
  split at h
  · rename_i hid
    exact Or.inr (Or.inl ⟨hid, (Option.some.inj h).symm⟩)
  split at h
  · rename_i hid
    exact Or.inl ⟨hid, (Option.some.inj h).symm⟩
  · simp at h

theorem sampleContext_fetch : sampleContext.IsFetchByDueDate false [1, 0] where
  nodup := by decide
  mem_iff := by
    intro id
    constructor
    · intro hid
      rcases List.mem_cons.1 hid with rfl | hid
      · decide +kernel
      · obtain rfl := List.mem_singleton.1 hid
        decide +kernel
    · intro hmarked
      rcases Option.map_eq_some_iff.1 hmarked with ⟨task, htask, hopen⟩
      rcases sampleContext_task htask with ⟨rfl, rfl⟩ | ⟨rfl, rfl⟩ | ⟨rfl, rfl⟩
      · simp
      · simp
      · simp at hopen
  sorted := by decide +kernel

theorem sample_list_reads_as_grid :
    let tab : TasksTab := ⟨sampleContext, ⟨none⟩, ⟨none, ∅⟩⟩
    let refreshed := tab.refreshData (DateFormatter.gregorian 0) (some [1, 0])
    refreshed.vc.tasks = some [1, 0] ∧ refreshed.vc.readGrid = some [some 1, some 0] ∧
      refreshed.vc.readList (DateFormatter.gregorian 0) default = some [some 1, some 0] := by
  refine list_reads_as_grid 0 default ?_ sampleContext_fetch
  intro id task htask
  rcases sampleContext_task htask with ⟨_, rfl⟩ | ⟨_, rfl⟩ | ⟨_, rfl⟩
  · exact ⟨90000, rfl, by decide +kernel⟩
  · exact ⟨3600, rfl, by decide +kernel⟩
  · exact ⟨0, rfl, by decide +kernel⟩

end TaskMaster
end IosProjects
