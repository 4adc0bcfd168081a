import IosProjects.Library.Checklist
import IosProjects.TaskMaster.Completed
import IosProjects.TaskMaster.Delete

/-!
# Checkbox — ticking tasks off, and the removal a tenth of a second later

Tapping a checkbox flips `isCompleted` at once and schedules a block that takes the task out of the
array, whatever its flag is by then. The Tasks tab and the Completed tab have one such handler each;
`CheckboxTab` is what the two have in common, and a run of taps and blocks on either of them is a
`Checklist`.
-/

namespace IosProjects
namespace TaskMaster

open IosProjects.Library

/-! ## What both tabs have in common -/

/-- A tab with checkboxes: what it shows, and what a tap and a block do to it. -/
structure CheckboxTab (σ : Type) where
  context : σ → ManagedObjectContext
  tasks : σ → Option (List ObjectID)
  toggleCheckbox : ℕ → σ → Option (σ × Option ObjectID)
  checkboxBlock : Option ObjectID → σ → σ
  toggle_spec : ∀ {row s s' task shown}, tasks s = some shown →
    toggleCheckbox row s = some (s', task) →
    ∃ tapped ∈ shown, task = some tapped ∧ context s' = (context s).toggle tapped ∧
      tasks s' = some shown
  block_context : ∀ task s, context (checkboxBlock task s) = context s
  block_tasks : ∀ task s, tasks (checkboxBlock task s) = removeToggled task (tasks s)

def CheckboxTab.tasksTab : CheckboxTab TasksTab where
  context := TasksTab.context
  tasks := fun tab => tab.vc.tasks
  toggleCheckbox := TasksTab.toggleCheckbox
  checkboxBlock := TasksTab.checkboxBlock
  toggle_spec := by
    intro row s s' task shown hshown htap
    simp only [TasksTab.toggleCheckbox, hshown] at htap
    cases hrow : shown[row]? with
    | none => simp [hrow] at htap
    | some tapped =>
        obtain ⟨rfl, rfl⟩ : { s with context := s.context.toggle tapped } = s' ∧
            some tapped = task := by simpa [hrow] using htap
        exact ⟨tapped, List.mem_of_getElem? hrow, rfl, rfl, hshown⟩
  block_context := fun _ _ => rfl
  block_tasks := fun _ _ => rfl

def CheckboxTab.completedTab : CheckboxTab CompletedTab where
  context := fun tab => tab.context
  tasks := CompletedTab.completedTasks
  toggleCheckbox := CompletedTab.toggleCheckbox
  checkboxBlock := CompletedTab.checkboxBlock
  toggle_spec := by
    intro row s s' task shown hshown htap
    simp only [CompletedTab.toggleCheckbox, hshown] at htap
    cases hrow : shown[row]? with
    | none => simp [hrow] at htap
    | some tapped =>
        simp only [hrow, Option.some.injEq, Prod.mk.injEq] at htap
        obtain ⟨rfl, rfl⟩ := htap
        exact ⟨tapped, List.mem_of_getElem? hrow, rfl, rfl, rfl⟩
  block_context := fun _ _ => rfl
  block_tasks := fun _ _ => rfl

/-! ## Runs of taps and blocks -/

/-- A tap, with its row and the task it was on, or the oldest scheduled block. -/
inductive CheckboxEvent where
  | tap (row : ℕ) (task : Option ObjectID)
  | fire
  deriving DecidableEq, Repr

/-- Taps and blocks in any interleaving; the blocks run in the order of the taps. -/
inductive CheckboxStep {σ : Type} (tab : CheckboxTab σ) :
    σ × List (Option ObjectID) → CheckboxEvent → σ × List (Option ObjectID) → Prop where
  | tap {s s' : σ} {blocks : List (Option ObjectID)} {row : ℕ} {task : Option ObjectID} :
      tab.toggleCheckbox row s = some (s', task) →
      CheckboxStep tab (s, blocks) (.tap row task) (s', blocks ++ [task])
  | fire {s : σ} {blocks : List (Option ObjectID)} {task : Option ObjectID} :
      CheckboxStep tab (s, task :: blocks) .fire (tab.checkboxBlock task s, blocks)

/-- How often a task was tapped. -/
def tapsOf (es : List CheckboxEvent) (id : ObjectID) : ℕ :=
  es.countP fun e =>
    match e with
    | .tap _ task => task = some id
    | .fire => false

theorem tapsOf_append_tap (es : List CheckboxEvent) (row : ℕ) (id : ObjectID) :
    tapsOf (es ++ [.tap row (some id)]) = Checklist.addTap id (tapsOf es) := by
  funext id'
  by_cases h : id' = id
  · subst h
    simp [tapsOf, Checklist.addTap]
  · simp [tapsOf, Checklist.addTap, h, Ne.symm h]

theorem tapsOf_append_fire (es : List CheckboxEvent) : tapsOf (es ++ [.fire]) = tapsOf es := by
  funext id
  simp [tapsOf]

/-! ## A tab as a checklist -/

/-- A tab over `stored`, with scheduled blocks, behaves as the checklist `s`. -/
structure Shows {σ : Type} (tab : CheckboxTab σ) (stored : ManagedObjectContext)
    (state : σ × List (Option ObjectID)) (s : Checklist ObjectID) : Prop where
  tasks : tab.tasks state.1 = some s.shown
  blocks : state.2 = s.pending.map some
  task : ∀ id, (tab.context state.1).task id =
    (stored.task id).map fun task => { task with isCompleted := s.mark id }

/-- The checklist of a loaded tab. -/
def loadedChecklist (context : ManagedObjectContext) (shown : List ObjectID) :
    Checklist ObjectID where
  shown := shown
  mark := fun id => ((context.task id).map Task.isCompleted).getD false
  pending := []

section Simulation

variable {σ : Type} {tab : CheckboxTab σ} {stored : ManagedObjectContext}

theorem shows_loaded {s : σ} {shown : List ObjectID} (hshown : tab.tasks s = some shown) :
    Shows tab (tab.context s) (s, []) (loadedChecklist (tab.context s) shown) where
  tasks := hshown
  blocks := rfl
  task := by
    intro id
    cases htask : (tab.context s).task id <;> simp [loadedChecklist, htask]

/-- A tap is a tap of the checklist. -/
theorem Shows.tap {s s' : σ} {blocks : List (Option ObjectID)} {list : Checklist ObjectID}
    {row : ℕ} {task : Option ObjectID} (h : Shows tab stored (s, blocks) list)
    (htap : tab.toggleCheckbox row s = some (s', task)) :
    ∃ tapped ∈ list.shown, task = some tapped ∧
      Shows tab stored (s', blocks ++ [task]) (list.tap tapped) := by
  rcases tab.toggle_spec h.tasks htap with ⟨tapped, hmem, rfl, hcontext, htasks⟩
  refine ⟨tapped, hmem, rfl, ⟨htasks, ?_, ?_⟩⟩
  · have hblocks : blocks = list.pending.map some := h.blocks
    simp [Checklist.tap, hblocks]
  · intro id
    -- the only task the toggle changes is the tapped one
    have htask : (tab.context s).task id = _ := h.task id
    rw [hcontext, ManagedObjectContext.toggle, ManagedObjectContext.task_modify, htask]
    by_cases hid : id = tapped <;> simp [Checklist.tap, hid, Function.comp_def]

/-- A block is a removal of the checklist. -/
theorem Shows.fire {s : σ} {blocks : List (Option ObjectID)} {list : Checklist ObjectID}
    {task : Option ObjectID} (h : Shows tab stored (s, task :: blocks) list) :
    Shows tab stored (tab.checkboxBlock task s, blocks) list.fire := by
  have hblocks : task :: blocks = list.pending.map some := h.blocks
  cases hpending : list.pending with
  | nil => simp [hpending] at hblocks
  | cons oldest rest =>
      rw [hpending, List.map_cons, List.cons.injEq] at hblocks
      obtain ⟨rfl, hrest⟩ := hblocks
      have htasks : tab.tasks s = some list.shown := h.tasks
      refine ⟨?_, ?_, ?_⟩
      · rw [tab.block_tasks, htasks, removeToggled_some]
        simp [Checklist.fire, hpending]
      · simpa [Checklist.fire, hpending] using hrest
      · intro id
        rw [tab.block_context]
        simpa [Checklist.fire, hpending] using h.task id

/-- Every run of taps and blocks is a run of the checklist. -/
theorem run_shows {s : σ} {shown : List ObjectID} (hshown : tab.tasks s = some shown)
    (hnodup : shown.Nodup) {es : List CheckboxEvent} {state : σ × List (Option ObjectID)}
    (hrun : Run (CheckboxStep tab) (s, []) es state) :
    ∃ list, Shows tab (tab.context s) state list ∧
      Checklist.After (loadedChecklist (tab.context s) shown) (tapsOf es) list := by
  refine Run.invariant_history (P := fun es state =>
    ∃ list, Shows tab (tab.context s) state list ∧
      Checklist.After (loadedChecklist (tab.context s) shown) (tapsOf es) list)
    ⟨_, shows_loaded hshown, Checklist.After.refl hnodup rfl⟩ ?_ hrun
  rintro es state e state' _ ⟨list, hshows, hafter⟩ hstep
  cases hstep with
  | tap htap =>
      rcases hshows.tap htap with ⟨tapped, hmem, rfl, hshows'⟩
      refine ⟨_, hshows', ?_⟩
      rw [tapsOf_append_tap]
      exact hafter.tap hmem
  | fire =>
      refine ⟨_, hshows.fire, ?_⟩
      rw [tapsOf_append_fire]
      exact hafter.fire

end Simulation

/-! ## What is left when no block is pending -/

/-- Exactly the tasks with the given flag are shown. -/
def CheckboxTab.Agrees {σ : Type} (tab : CheckboxTab σ) (flag : Bool) (s : σ) : Prop :=
  ∀ id, (∃ shown, tab.tasks s = some shown ∧ id ∈ shown) ↔ (tab.context s).Marked flag id

/-- The tab agrees with the flags again, and only tapped tasks have changed. -/
structure Settled {σ : Type} (tab : CheckboxTab σ) (flag : Bool) (s : σ) (es : List CheckboxEvent)
    (s' : σ) : Prop where
  agrees : tab.Agrees flag s'
  untouched : ∀ id, tapsOf es id = 0 → (tab.context s').task id = (tab.context s).task id

section Settling

variable {σ : Type} {tab : CheckboxTab σ} {flag : Bool} {s s' : σ} {shown : List ObjectID}
  {es : List CheckboxEvent}

theorem marked_loaded {id : ObjectID} (hid : ((tab.context s).task id).isSome) :
    (tab.context s).Marked flag id ↔ (loadedChecklist (tab.context s) shown).mark id = flag := by
  rcases Option.isSome_iff_exists.1 hid with ⟨task, htask⟩
  simp [ManagedObjectContext.Marked, loadedChecklist, htask]

/-- A loaded tab settles if and only if no task was tapped a positive even number of times. -/
theorem settled_iff (hshown : tab.tasks s = some shown)
    (hfetch : (tab.context s).IsFetch flag shown)
    (hrun : Run (CheckboxStep tab) (s, []) es (s', [])) :
    Settled tab flag s es s' ↔ ∀ id, tapsOf es id = 0 ∨ Odd (tapsOf es id) := by
  rcases run_shows hshown hfetch.nodup hrun with ⟨list, hshows, hafter⟩
  have hpending : list.pending = [] := by simpa using hshows.blocks.symm
  have htasks : tab.tasks s' = some list.shown := hshows.tasks
  have htask : ∀ id, (tab.context s').task id = _ := hshows.task
  -- fetched tasks exist, and no handler here deletes one
  have hexists : ∀ id ∈ shown, ((tab.context s).task id).isSome := by
    intro id hid
    rcases Option.map_eq_some_iff.1 ((hfetch.mem_iff id).1 hid) with ⟨task, hsome, _⟩
    exact Option.isSome_iff_exists.2 ⟨task, hsome⟩
  have hsettled := hafter.settled hpending (p := fun id => ((tab.context s).task id).isSome) hexists
    (b := flag) fun id hid => (hfetch.mem_iff id).trans (marked_loaded hid)
  rw [← hsettled]
  -- tasks that do not exist are neither shown nor marked
  have hagrees : tab.Agrees flag s' ↔
      ∀ id, ((tab.context s).task id).isSome → (id ∈ list.shown ↔ list.mark id = flag) := by
    apply forall_congr'
    intro id
    cases hid : (tab.context s).task id with
    | none =>
        have hgone : id ∉ list.shown := by
          intro hmem
          have hsome := hexists id ((hafter.shown_iff hpending id).1 hmem).1
          simp [hid] at hsome
        simp [ManagedObjectContext.Marked, htask id, hid, htasks, hgone]
    | some task => simp [ManagedObjectContext.Marked, htask id, hid, htasks]
  constructor
  · intro h
    exact hagrees.1 h.agrees
  · intro h
    refine ⟨hagrees.2 h, fun id hzero => ?_⟩
    -- an untapped task still has its old flag
    have hmark := hafter.mark id
    rw [htask id]
    cases hid : (tab.context s).task id <;> simp [hmark, hzero, loadedChecklist, hid]

end Settling

/-- On both tabs, from a freshly loaded grid: the grid agrees with the flags once every block has
run, and no untapped task has changed, exactly when every tapped task was tapped an odd number of
times. -/
theorem checkboxes_settle_iff (formatter : DateFormatter) (fetched : List ObjectID)
    (es : List CheckboxEvent) :
    (∀ tab tab' : TasksTab, tab.context.IsFetchByDueDate false fetched →
      Run (CheckboxStep .tasksTab) (tab.refreshData formatter (some fetched), []) es (tab', []) →
      (Settled .tasksTab false (tab.refreshData formatter (some fetched)) es tab' ↔
        ∀ id, tapsOf es id = 0 ∨ Odd (tapsOf es id))) ∧
      ∀ tab tab' : CompletedTab, tab.context.IsFetch true fetched →
        Run (CheckboxStep .completedTab) (tab.loadTasks (some fetched), []) es (tab', []) →
        (Settled .completedTab true (tab.loadTasks (some fetched)) es tab' ↔
          ∀ id, tapsOf es id = 0 ∨ Odd (tapsOf es id)) := by
  constructor
  · intro tab tab' hfetch hrun
    rw [TasksTab.refreshData_some] at hrun ⊢
    exact settled_iff rfl hfetch.toIsFetch hrun
  · intro tab tab' hfetch hrun
    exact settled_iff rfl hfetch hrun

/-- The sample Tasks tab with its grid loaded. -/
def sampleGrid : TasksTab :=
  sampleTab.refreshData (DateFormatter.gregorian 0) (some [1, 0])

/-- The sample Completed tab with its grid loaded. -/
def sampleCompleted : CompletedTab :=
  CompletedTab.loadTasks (some [2]) ⟨sampleTab, none⟩

theorem sampleContext_fetch_completed : sampleContext.IsFetch true [2] where
  nodup := by decide
  mem_iff := by
    intro id
    constructor
    · intro hid
      obtain rfl := List.mem_singleton.1 hid
      decide +kernel
    · intro hmarked
      rcases Option.map_eq_some_iff.1 hmarked with ⟨task, htask, hdone⟩
      rcases sampleContext_task htask with ⟨rfl, rfl⟩ | ⟨rfl, rfl⟩ | ⟨rfl, rfl⟩
      · simp at hdone
      · simp at hdone
      · simp

theorem sample_checkboxes_settle_iff :
    (∃ tab', Run (CheckboxStep .tasksTab) (sampleGrid, []) [.tap 0 (some 1), .fire] (tab', []) ∧
      (Settled .tasksTab false sampleGrid [.tap 0 (some 1), .fire] tab' ↔
        ∀ id, tapsOf [.tap 0 (some 1), .fire] id = 0 ∨ Odd (tapsOf [.tap 0 (some 1), .fire] id))) ∧
      ∃ tab', Run (CheckboxStep .completedTab) (sampleCompleted, []) [.tap 0 (some 2), .fire]
          (tab', []) ∧
        (Settled .completedTab true sampleCompleted [.tap 0 (some 2), .fire] tab' ↔
          ∀ id, tapsOf [.tap 0 (some 2), .fire] id = 0 ∨
            Odd (tapsOf [.tap 0 (some 2), .fire] id)) := by
  have hgrid : Run (CheckboxStep .tasksTab) (sampleGrid, []) [.tap 0 (some 1), .fire] (_, []) :=
    Run.snoc (Run.single (CheckboxStep.tap rfl)) CheckboxStep.fire
  have hcompleted : Run (CheckboxStep .completedTab) (sampleCompleted, [])
      [.tap 0 (some 2), .fire] (_, []) :=
    Run.snoc (Run.single (CheckboxStep.tap rfl)) CheckboxStep.fire
  exact ⟨⟨_, hgrid, (checkboxes_settle_iff _ _ _).1 _ _ sampleContext_fetch hgrid⟩,
    ⟨_, hcompleted, (checkboxes_settle_iff (DateFormatter.gregorian 0) _ _).2 _ _
      sampleContext_fetch_completed hcompleted⟩⟩

/-- Two quick taps leave a task incomplete, and out of the grid. -/
theorem double_tap_loses_task :
    ¬ ∀ (es : List CheckboxEvent) (tab' : TasksTab),
      Run (CheckboxStep .tasksTab) (sampleGrid, []) es (tab', []) →
        Settled .tasksTab false sampleGrid es tab' := by
  intro h
  have hrun : Run (CheckboxStep .tasksTab) (sampleGrid, [])
      [.tap 0 (some 1), .tap 0 (some 1), .fire, .fire] (_, []) :=
    Run.snoc (Run.snoc (Run.snoc (Run.single (CheckboxStep.tap rfl)) (CheckboxStep.tap rfl))
      CheckboxStep.fire) CheckboxStep.fire
  have htaps := (settled_iff rfl sampleContext_fetch.toIsFetch hrun).1 (h _ _ hrun) 1
  revert htaps
  decide

end TaskMaster
end IosProjects
