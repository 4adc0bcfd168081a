import IosProjects.Library.SinceLoad
import IosProjects.TaskMaster.Checkbox
import IosProjects.TaskMaster.App

/-!
# ClearCompleted — what the clear button deletes

The button deletes the tasks of the array, whatever it holds. After a search that is what was found,
not all completed tasks; and a task whose checkbox has been tapped stays in the array until its
block runs, and is out of it afterwards, whatever its flag is by then. A history variable records
what has happened to the tasks since the array was loaded.
-/

namespace IosProjects
namespace TaskMaster

open IosProjects.Library

/-! ## Flags -/

/-- The flag of a task, if it exists. -/
def ticks (context : ManagedObjectContext) (id : ObjectID) : Option Bool :=
  (context.task id).map Task.isCompleted

section Ticks

variable {context : ManagedObjectContext}

theorem marked_iff_ticks {completed : Bool} {id : ObjectID} :
    context.Marked completed id ↔ ticks context id = some completed :=
  Iff.rfl

theorem ticks_toggle (task id : ObjectID) :
    ticks (context.toggle task) id =
      if id = task then (ticks context id).map (!·) else ticks context id := by
  by_cases h : id = task <;> simp [ticks, ManagedObjectContext.toggle, h, Function.comp_def]

theorem ticks_modify_of_ne {task id : ObjectID} (h : id ≠ task) (f : Task → Task) :
    ticks (context.modify task f) id = ticks context id := by
  simp [ticks, h]

theorem ticks_delete_of_ne {task id : ObjectID} (h : id ≠ task) :
    ticks (context.delete task) id = ticks context id := by
  simp [ticks, h]

theorem task_foldl_delete (tasks : List ObjectID) (id : ObjectID) :
    (tasks.foldl ManagedObjectContext.delete context).task id =
      if id ∈ tasks then none else context.task id := by
  induction tasks generalizing context with
  | nil => rfl
  | cons task tasks ih =>
      rw [List.foldl_cons, ih, ManagedObjectContext.task_delete]
      by_cases hid : id = task <;> simp [hid]

theorem ticks_foldl_delete (tasks : List ObjectID) (id : ObjectID) :
    ticks (tasks.foldl ManagedObjectContext.delete context) id =
      if id ∈ tasks then none else ticks context id := by
  rw [ticks, task_foldl_delete]
  by_cases hid : id ∈ tasks <;> simp [hid, ticks]

end Ticks

/-! ## Histories on the tab -/

/-- What the user can do on the Completed tab without leaving it, and the blocks that run. -/
def AppEvent.onCompleted : AppEvent → Bool
  | .tapCompleted _ | .setIncomplete _ | .deleteCompleted _ | .clearCompleted _ _ | .search _ _
  | .clearSearch _ | .runBlock => true
  | _ => false

/-- The task in a row of the tab. -/
def AppState.completedRow (row : ℕ) (s : AppState) : Option ObjectID :=
  s.completedTasks.bind fun tasks => tasks[row]?

/-- The history variable: what has happened since the array was loaded. -/
def recordSince (s : AppState) (e : AppEvent) (s' : AppState) (g : SinceLoad ObjectID) :
    SinceLoad ObjectID :=
  match e with
  | .tapCompleted row =>
      match s.completedRow row with
      | some task => g.tap task
      | none => g
  | .setIncomplete row | .deleteCompleted row =>
      match s.completedRow row with
      | some task => g.settle [task]
      | none => g
  | .clearCompleted true (some tasks) | .clearSearch (some tasks) => .load tasks (ticks s'.context)
  | .clearCompleted _ _ => g.settle (s.completedTasks.getD [])
  | .search text (some tasks) => if text = "" then g else .load tasks (ticks s'.context)
  | .runBlock =>
      match s.blocks with
      | .completed (some task) :: _ => g.remove task
      | _ => g
  | _ => g

/-- There is an array, and it and the flags are as the record says. -/
def Recorded (s : AppState) (g : SinceLoad ObjectID) : Prop :=
  ∃ shown, s.completedTasks = some shown ∧ g.Describes shown (ticks s.context)

section Steps

variable {formatter : DateFormatter} {contains : Option String → String → Prop} {s s' : AppState}
  {g : SinceLoad ObjectID} {e : AppEvent}

theorem Recorded.load {tasks : List ObjectID} (hshown : s.completedTasks = some tasks)
    (hnodup : tasks.Nodup) (hmarked : ∀ id ∈ tasks, s.context.Marked true id) :
    Recorded s (.load tasks (ticks s.context)) :=
  ⟨tasks, hshown, .load hnodup hmarked⟩

/-- A load without a search lists the completed tasks. -/
theorem Recorded.fetched {tasks : List ObjectID} (hshown : s.completedTasks = some tasks)
    (hfetch : s.context.IsFetch true tasks) : Recorded s (.load tasks (ticks s.context)) :=
  .load hshown hfetch.nodup fun id hid => (hfetch.mem_iff id).1 hid

/-- The two items of the menu settle the task in the row. -/
theorem Recorded.menuAction {change : ObjectID → ManagedObjectContext → ManagedObjectContext}
    (hmarked : ∀ task, ticks (change task s.context) task ≠ some true)
    (hothers : ∀ task id, id ≠ task → ticks (change task s.context) id = ticks s.context id)
    (h : Recorded s g) {row : ℕ} {tab : CompletedTab}
    (hmenu : s.completedTab.menuAction change row = some tab) :
    ∃ task, s.completedRow row = some task ∧
      Recorded (s.withCompletedTab tab) (g.settle [task]) := by
  rcases h with ⟨shown, hshown, hdescribes⟩
  have htab : s.completedTab.completedTasks = some shown := hshown
  simp only [CompletedTab.menuAction, htab] at hmenu
  cases hrow : shown[row]? with
  | none => simp [hrow] at hmenu
  | some task =>
      simp only [hrow, Option.some.injEq] at hmenu
      refine ⟨task, by simp [AppState.completedRow, hshown, hrow], shown.erase task, ?_, ?_⟩
      · rw [← hmenu, ← eraseIdx_eq_erase hdescribes.nodup hrow]
        rfl
      · rw [← hmenu]
        exact hdescribes.settle (List.mem_of_getElem? hrow) (hmarked task) (hothers task)

theorem Recorded.setIncomplete (h : Recorded s g) {row : ℕ} {tab : CompletedTab}
    (hmenu : s.completedTab.createEditAction row = some tab) :
    Recorded (s.withCompletedTab tab)
      (recordSince s (.setIncomplete row) (s.withCompletedTab tab) g) := by
  have hunticked : ∀ task, ticks
      (s.context.modify task fun attributes => { attributes with isCompleted := false }) task ≠
        some true := by
    intro task
    cases htask : s.context.task task <;> simp [ticks, htask]
  rcases h.menuAction hunticked (fun task id hid => ticks_modify_of_ne hid _) hmenu with
    ⟨task, hrow, hrecorded⟩
  simp only [recordSince, hrow]
  exact hrecorded

theorem Recorded.deleteCompleted (h : Recorded s g) {row : ℕ} {tab : CompletedTab}
    (hmenu : s.completedTab.createDeleteAction row = some tab) :
    Recorded (s.withCompletedTab tab)
      (recordSince s (.deleteCompleted row) (s.withCompletedTab tab) g) := by
  rcases h.menuAction (fun task => by simp [ticks]) (fun task id hid => ticks_delete_of_ne hid)
    hmenu with ⟨task, hrow, hrecorded⟩
  simp only [recordSince, hrow]
  exact hrecorded

theorem Recorded.tapCompleted (h : Recorded s g) {row : ℕ} {tab : CompletedTab}
    {task : Option ObjectID} {blocks : List Block}
    (htap : s.completedTab.toggleCheckbox row = some (tab, task)) :
    Recorded { s.withCompletedTab tab with blocks := blocks }
      (recordSince s (.tapCompleted row) { s.withCompletedTab tab with blocks := blocks } g) := by
  rcases h with ⟨shown, hshown, hdescribes⟩
  have htab : s.completedTab.completedTasks = some shown := hshown
  simp only [CompletedTab.toggleCheckbox, htab] at htap
  cases hrow : shown[row]? with
  | none => simp [hrow] at htap
  | some tapped =>
      simp only [hrow, Option.some.injEq, Prod.mk.injEq] at htap
      have hcell : s.completedRow row = some tapped := by simp [AppState.completedRow, hshown, hrow]
      simp only [recordSince, hcell]
      refine ⟨shown, ?_, ?_⟩
      · rw [← htap.1]
        rfl
      · rw [← htap.1]
        exact hdescribes.tap (List.mem_of_getElem? hrow) (ticks_toggle tapped)

theorem Recorded.completedBlock (h : Recorded s g) {task : Option ObjectID} {blocks : List Block}
    (hblocks : s.blocks = .completed task :: blocks) :
    Recorded { s.withCompletedTab (s.completedTab.checkboxBlock task) with blocks := blocks }
      (recordSince s .runBlock
        { s.withCompletedTab (s.completedTab.checkboxBlock task) with blocks := blocks } g) := by
  rcases h with ⟨shown, hshown, hdescribes⟩
  simp only [recordSince, hblocks]
  cases task with
  | none =>
      -- no task is equal to none
      refine ⟨shown, ?_, hdescribes⟩
      have hnone : shown.findIdx? (fun shown => some shown = none) = none := by
        simp [List.findIdx?_eq_none_iff]
      have hsame : removeToggled none (some shown) = some shown := by
        rw [removeToggled, Option.map_some, hnone]
      rw [← hsame, ← hshown]
      rfl
  | some task =>
      refine ⟨shown.erase task, ?_, hdescribes.remove task⟩
      rw [← removeToggled_some, ← hshown]
      rfl

/-- What the clear button does to an array: its tasks are deleted, and it stays unless the tab loads
again. -/
theorem clearCompleted_eq {shown : List ObjectID} (hshown : s.completedTasks = some shown)
    (saved : Bool) (fetched : Option (List ObjectID)) :
    s.withCompletedTab (s.completedTab.deleteCompletedTasks saved fetched) =
      { s with
        context := shown.foldl ManagedObjectContext.delete s.context
        completedTasks := if saved then some (fetched.getD shown) else some shown } := by
  have htab : s.completedTab.completedTasks = some shown := hshown
  cases saved with
  | false =>
      simp only [CompletedTab.deleteCompletedTasks, htab]
      rw [← hshown]
      rfl
  | true =>
      cases fetched with
      | none =>
          simp only [CompletedTab.deleteCompletedTasks, htab, CompletedTab.loadTasks,
            Option.getD_none]
          rw [← hshown]
          rfl
      | some tasks =>
          simp only [CompletedTab.deleteCompletedTasks, htab]
          rfl

/-- The clear button settles what is shown, or it loads again. -/
theorem Recorded.clearCompleted (h : Recorded s g) {saved : Bool} {fetched : Option (List ObjectID)}
    (hfetched : ∀ tasks, fetched = some tasks →
      (s.withCompletedTab (s.completedTab.deleteCompletedTasks saved fetched)).context.IsFetch true
        tasks) :
    Recorded (s.withCompletedTab (s.completedTab.deleteCompletedTasks saved fetched))
      (recordSince s (.clearCompleted saved fetched)
        (s.withCompletedTab (s.completedTab.deleteCompletedTasks saved fetched)) g) := by
  rcases h with ⟨shown, hshown, hdescribes⟩
  have hsettled := hdescribes.clear (ticks_foldl_delete shown)
  rw [clearCompleted_eq hshown] at hfetched ⊢
  cases saved with
  | false =>
      simp only [recordSince, hshown]
      exact ⟨shown, rfl, hsettled⟩
  | true =>
      cases fetched with
      | none =>
          simp only [recordSince, hshown]
          exact ⟨shown, rfl, hsettled⟩
      | some tasks => exact Recorded.fetched rfl (hfetched tasks rfl)

/-- Every event on the tab is recorded. -/
theorem Recorded.step (h : Recorded s g) (he : e.onCompleted)
    (hstep : AppStep formatter contains s e s') : Recorded s' (recordSince s e s' g) := by
  have hanswered := hstep.2
  cases AppState.does_of_step hstep.1 with
  | tapCompleted _ htap => exact h.tapCompleted htap
  | setIncomplete _ hmenu => exact h.setIncomplete hmenu
  | deleteCompleted _ hmenu => exact h.deleteCompleted hmenu
  | clearCompleted _ => exact h.clearCompleted hanswered
  | @noSearch fetched _ => cases fetched <;> exact h
  | @search text fetched _ htext =>
      cases fetched with
      | none => exact h
      | some tasks =>
          obtain ⟨hnodup, hmem⟩ := hanswered tasks rfl
          simp only [recordSince, if_neg htext]
          exact Recorded.load rfl hnodup fun id hid => ((hmem id).1 hid).1
  | @clearSearch fetched _ =>
      cases fetched with
      | none => exact h
      | some tasks => exact Recorded.fetched rfl (hanswered tasks rfl)
  | tasksBlock hblocks =>
      simp only [recordSince, hblocks]
      exact h
  | completedBlock hblocks => exact h.completedBlock hblocks
  | _ => cases he

/-- The tab appears, and at least one of its two fetches returns. -/
theorem recorded_showCompleted {fetched fetched' : Option (List ObjectID)} {tasks : List ObjectID}
    (hshow : AppStep formatter contains s (.showCompleted fetched fetched') s')
    (hloaded : fetched'.or fetched = some tasks) :
    Recorded s' (.load tasks (ticks s'.context)) := by
  have hanswered := hshow.2
  cases AppState.does_of_step hshow.1
  cases fetched' with
  | none =>
      obtain rfl : fetched = some tasks := hloaded
      exact Recorded.fetched rfl (hanswered.1 tasks rfl)
  | some tasks' =>
      obtain rfl : tasks' = tasks := Option.some.inj hloaded
      exact Recorded.fetched rfl (hanswered.2 tasks' rfl)

/-- So is every history. -/
theorem run_recorded {es : List AppEvent} {state : AppState × SinceLoad ObjectID}
    (hrun : Run (withHistory (AppStep formatter contains) recordSince) (s, g) es state)
    (hes : ∀ e ∈ es, e.onCompleted) (h : Recorded s g) : Recorded state.1 state.2 := by
  refine Run.invariant_along (P := fun state => Recorded state.1 state.2)
    (Q := fun _ e _ => e.onCompleted) ?_ hrun (Along.of_events hes) h
  rintro t e u hrecorded he ⟨hstep, hrecord⟩
  rw [hrecord]
  exact hrecorded.step he hstep

end Steps

/-! ## Clearing -/

/-- No completed task is left, and the incomplete ones are unchanged. -/
structure ClearsCompleted (s s' : AppState) : Prop where
  completed : ∀ id, ¬ s'.context.Marked true id
  incomplete : ∀ id, s.context.Marked false id → s'.context.task id = s.context.task id

section Clearing

variable {formatter : DateFormatter} {contains : Option String → String → Prop}
  {s s₁ s₂ s₃ : AppState} {es : List AppEvent} {g : SinceLoad ObjectID}

/-- The button deletes what is shown, so it has to show the completed tasks and no incomplete
one. -/
theorem clears_iff_shown {shown : List ObjectID} (hshown : s.completedTasks = some shown)
    {saved : Bool} {fetched : Option (List ObjectID)}
    (hclear : AppStep formatter contains s (.clearCompleted saved fetched) s₁) :
    ClearsCompleted s s₁ ↔
      (∀ id, ticks s.context id = some true → id ∈ shown) ∧
        ∀ id ∈ shown, ticks s.context id ≠ some false := by
  have hcontext : s₁.context = shown.foldl ManagedObjectContext.delete s.context := by
    cases AppState.does_of_step hclear.1
    rw [clearCompleted_eq hshown]
  have hmarked : ∀ id, s₁.context.Marked true id ↔ id ∉ shown ∧ ticks s.context id = some true := by
    intro id
    rw [marked_iff_ticks, hcontext, ticks_foldl_delete]
    by_cases hid : id ∈ shown <;> simp [hid]
  have htask : ∀ id, s₁.context.task id = if id ∈ shown then none else s.context.task id := by
    rw [hcontext]
    exact task_foldl_delete shown
  constructor
  · rintro ⟨hcompleted, hincomplete⟩
    refine ⟨fun id htick => ?_, fun id hid htick => ?_⟩
    · by_contra hid
      exact hcompleted id ((hmarked id).2 ⟨hid, htick⟩)
    · -- it is gone, but an incomplete task would have stayed
      have hkept := hincomplete id htick
      rw [htask, if_pos hid] at hkept
      simp [ticks, ← hkept] at htick
  · rintro ⟨hall, honly⟩
    refine ⟨fun id hmarked' => ?_, fun id htick => ?_⟩
    · obtain ⟨hid, htick⟩ := (hmarked id).1 hmarked'
      exact hid (hall id htick)
    · rw [htask, if_neg fun hid => honly id hid htick]

/-- The tab has appeared and loaded, and any history on it has followed. When the user clears and
the save succeeds, exactly the completed tasks go if and only if the array was last loaded with all
of them and of each that was not unticked or deleted in the menu since a block has taken it out
exactly when it was tapped an odd number of times. -/
theorem clears_iff_sound {fetched fetched' fetched'' : Option (List ObjectID)}
    {tasks : List ObjectID}
    (hshow : AppStep formatter contains s (.showCompleted fetched fetched') s₁)
    (hloaded : fetched'.or fetched = some tasks)
    (hhistory : Run (withHistory (AppStep formatter contains) recordSince)
      (s₁, .load tasks (ticks s₁.context)) es (s₂, g))
    (hes : ∀ e ∈ es, e.onCompleted)
    (hclear : AppStep formatter contains s₂ (.clearCompleted true fetched'') s₃) :
    ClearsCompleted s₂ s₃ ↔ g.Sound := by
  rcases run_recorded hhistory hes (recorded_showCompleted hshow hloaded) with
    ⟨shown, hshown, hdescribes⟩
  rw [clears_iff_shown hshown hclear]
  exact hdescribes.shows_ticked_iff

end Clearing

/-- The Tasks tab is on the screen, over the sample store. -/
def sampleApp (context : ManagedObjectContext) : AppState :=
  { AppState.launch (DateFormatter.gregorian 0) context 0 with screen := .tasks }

/-- The Completed tab after it has appeared, showing the tasks. -/
def sampleShown (context : ManagedObjectContext) (tasks : List ObjectID) : AppState :=
  { sampleApp context with completedTasks := some tasks, screen := .completed }

theorem sampleApp_shows {contains : Option String → String → Prop} {context : ManagedObjectContext}
    {tasks : List ObjectID} (h : context.IsFetch true tasks) :
    AppStep (DateFormatter.gregorian 0) contains (sampleApp context)
      (.showCompleted (some tasks) (some tasks)) (sampleShown context tasks) := by
  refine ⟨rfl, fun tasks' heq => ?_, fun tasks' heq => ?_⟩
  · obtain rfl := Option.some.inj heq
    exact h
  · obtain rfl := Option.some.inj heq
    exact h

/-- Paying the rent is done as well. -/
def twoCompleted : ManagedObjectContext :=
  sampleContext.toggle 0

theorem marked_twoCompleted {id : ObjectID} : twoCompleted.Marked true id ↔ id = 0 ∨ id = 2 := by
  constructor
  · intro hmarked
    rw [marked_iff_ticks, twoCompleted, ticks_toggle] at hmarked
    split at hmarked
    · exact Or.inl ‹_›
    · rcases Option.map_eq_some_iff.1 hmarked with ⟨task, htask, hdone⟩
      rcases sampleContext_task htask with ⟨rfl, rfl⟩ | ⟨rfl, rfl⟩ | ⟨rfl, rfl⟩
      · simp at hdone
      · simp at hdone
      · exact Or.inr rfl
  · rintro (rfl | rfl)
    · decide +kernel
    · decide +kernel

theorem twoCompleted_fetch : twoCompleted.IsFetch true [0, 2] :=
  ⟨by decide, fun id => by rw [marked_twoCompleted]; simp⟩

/-- The rent is unticked, its block takes it out, and clearing deletes the other completed task. -/
theorem unticked_clears :
    ∃ s₃, AppStep (DateFormatter.gregorian 0) (fun _ _ => True)
        (sampleShown (twoCompleted.toggle 0) [2]) (.clearCompleted true none) s₃ ∧
      ClearsCompleted (sampleShown (twoCompleted.toggle 0) [2]) s₃ := by
  have htap :
      AppStep (DateFormatter.gregorian 0) (fun _ _ => True) (sampleShown twoCompleted [0, 2])
      (.tapCompleted 0)
      { sampleShown (twoCompleted.toggle 0) [0, 2] with blocks := [.completed (some 0)] } :=
    ⟨rfl, trivial⟩
  have hblock : AppStep (DateFormatter.gregorian 0) (fun _ _ => True)
      { sampleShown (twoCompleted.toggle 0) [0, 2] with blocks := [.completed (some 0)] } .runBlock
      (sampleShown (twoCompleted.toggle 0) [2]) := ⟨rfl, trivial⟩
  have hclear : AppStep (DateFormatter.gregorian 0) (fun _ _ => True)
      (sampleShown (twoCompleted.toggle 0) [2]) (.clearCompleted true none) _ :=
    ⟨rfl, fun _ heq => by cases heq⟩
  have hsound : (((SinceLoad.load [0, 2] (ticks twoCompleted)).tap 0).remove 0).Sound := by
    refine ⟨fun id hid => hid.2 ((twoCompleted_fetch.mem_iff id).2 hid.1), fun id hid _ => ?_⟩
    rcases List.mem_pair.1 hid with rfl | rfl
    · decide
    · decide
  refine ⟨_, hclear, (clears_iff_sound (sampleApp_shows twoCompleted_fetch) rfl
    ((Run.nil _).snoc_history htap |>.snoc_history hblock) ?_ hclear).2 hsound⟩
  simp [AppEvent.onCompleted]

/-- What the search for a lower-case text finds, as far as the sample goes. -/
def containsText (title : Option String) (text : String) : Prop :=
  ∃ t, title = some t ∧ text.toList <:+: t.toList

/-- After a search for one of two completed tasks the other one is still there. -/
theorem search_narrows_clearing :
    ¬ ∀ (formatter : DateFormatter) (contains : Option String → String → Prop)
      (s s₁ s₂ s₃ : AppState) (fetched fetched' fetched'' : Option (List ObjectID))
      (tasks : List ObjectID) (es : List AppEvent),
      AppStep formatter contains s (.showCompleted fetched fetched') s₁ →
        fetched'.or fetched = some tasks → Run (AppStep formatter contains) s₁ es s₂ →
          (∀ e ∈ es, e.onCompleted) →
            AppStep formatter contains s₂ (.clearCompleted true fetched'') s₃ →
              ClearsCompleted s₂ s₃ := by
  intro hclears
  have hrest : (twoCompleted.delete 2).Marked true 0 :=
    ManagedObjectContext.marked_delete.2 ⟨by decide, marked_twoCompleted.2 (Or.inl rfl)⟩
  have hfound : AppStep (DateFormatter.gregorian 0) containsText (sampleShown twoCompleted [0, 2])
      (.search "milk" (some [2])) (sampleShown twoCompleted [2]) := by
    refine ⟨rfl, fun tasks heq => ?_⟩
    obtain rfl := Option.some.inj heq
    refine ⟨by decide, fun id => ⟨fun hid => ?_, fun hmarked => ?_⟩⟩
    · obtain rfl := List.mem_singleton.1 hid
      refine ⟨marked_twoCompleted.2 (Or.inr rfl), fun task htask => ?_⟩
      obtain rfl : task = ⟨some "buy milk", some 0, true⟩ := by
        have hmilk : twoCompleted.task 2 = some ⟨some "buy milk", some 0, true⟩ := by decide +kernel
        exact Option.some.inj (htask.symm.trans hmilk)
      exact ⟨"buy milk", rfl, by decide⟩
    · rcases marked_twoCompleted.1 hmarked.1 with rfl | rfl
      · have hrent : twoCompleted.task 0 = some ⟨some "pay rent", some 90000, true⟩ := by
          decide +kernel
        rcases hmarked.2 _ hrent with ⟨t, heq, hinfix⟩
        obtain rfl := Option.some.inj heq
        revert hinfix
        decide
      · exact List.mem_singleton_self 2
  have hclear : AppStep (DateFormatter.gregorian 0) containsText (sampleShown twoCompleted [2])
      (.clearCompleted true (some [0]))
      (sampleShown (twoCompleted.delete 2) [0]) := by
    refine ⟨rfl, fun tasks heq => ?_⟩
    obtain rfl := Option.some.inj heq
    refine ⟨by decide, fun id => ?_⟩
    rw [List.mem_singleton]
    constructor
    · rintro rfl
      exact hrest
    · intro hmarked
      obtain ⟨hne, htwo⟩ := ManagedObjectContext.marked_delete.1 hmarked
      exact (marked_twoCompleted.1 htwo).resolve_right hne
  have hcleared := hclears _ _ _ _ _ _ _ _ _ _ _ (sampleApp_shows twoCompleted_fetch) rfl
    (Run.single hfound) (fun _ he => by obtain rfl := List.mem_singleton.1 he; rfl) hclear
  exact hcleared.completed 0 hrest

end TaskMaster
end IosProjects
