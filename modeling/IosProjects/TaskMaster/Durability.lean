import Mathlib.Algebra.Group.Nat.Even
import IosProjects.TaskMaster.ContextChanges

/-!
# Durability — what the next launch finds

The handlers change the managed object context, and most of them save it before they return. A tap
on a checkbox does not: its block saves, and only if it still finds the task in the array. The app
saves once more when it enters the background or is about to terminate. A process that is killed, or
ended by the `fatalError` of a save that failed there, loses whatever has not been saved.

Here a context is stored behind the one of the app. An event says how its save ended, if it makes
one.
-/

namespace IosProjects
namespace TaskMaster

open IosProjects.Library

/-! ## The app and its store -/

/-- `stored` is what a launch would find. -/
structure DurableState where
  app : AppState
  stored : ManagedObjectContext

/-- The process has started over the store. -/
def DurableState.launch (formatter : DateFormatter) (stored : ManagedObjectContext) (today : Date) :
    DurableState where
  app := .launch formatter stored today
  stored := stored

/-- `saved` says whether the save of an event's handler succeeds, if there is one. `saveContext` is
the one of the app delegate; `relaunch` is what follows when the process has ended. -/
inductive DurableEvent where
  | app (event : AppEvent) (saved : Bool)
  | saveContext
  | relaunch (today : Date)
  deriving DecidableEq

/-- A save stores the context as the handler leaves it. -/
inductive DurableStep (formatter : DateFormatter) (contains : Option String → String → Prop) :
    DurableState → DurableEvent → DurableState → Prop where
  | app {s : DurableState} {e : AppEvent} {saved : Bool} {app' : AppState} :
      AppStep formatter contains s.app e app' →
      -- the clear button branches on the save
      (∀ saved' fetched, e = .clearCompleted saved' fetched → saved' = saved) →
      DurableStep formatter contains s (.app e saved)
        { app := app', stored := if e.saves s.app && saved then app'.context else s.stored }
  -- one that fails here ends the process
  | saveContext {s : DurableState} :
      DurableStep formatter contains s .saveContext { s with stored := s.app.context }
  -- killed, crashed or terminated, on any screen
  | relaunch {s : DurableState} {today : Date} :
      DurableStep formatter contains s (.relaunch today) (.launch formatter s.stored today)

/-- The save of the event's handler, if there is one, succeeds. -/
def DurableEvent.SaveSucceeds : DurableEvent → Prop
  | .app _ saved => saved = true
  | _ => True

/-- The history variable: which changes are stored, and which are not. -/
def recordChanges (s : DurableState) (e : DurableEvent) (_ : DurableState)
    (g : Changes ContextChange) : Changes ContextChange :=
  match e with
  | .app e saved =>
      (Checkpointed.session (e.changes s.app) (e.saves s.app) saved).foldl Changes.record g
  | .saveContext => g.record (.save true)
  | .relaunch _ => g.record .restart

def DurableState.checkpoint (s : DurableState) : Checkpointed ManagedObjectContext :=
  ⟨s.app.context, s.stored⟩

section Durable

variable {formatter : DateFormatter} {contains : Option String → String → Prop}
  {context : ManagedObjectContext} {today : Date} {es : List DurableEvent} {s t : DurableState}
  {g : Changes ContextChange}

/-- A step is a few changes and perhaps a save, or a restart. -/
theorem DurableStep.tells {start : ManagedObjectContext} {e : DurableEvent}
    (h : g.Tells ContextChange.apply start s.checkpoint)
    (hstep : DurableStep formatter contains s e t) :
    (recordChanges s e t g).Tells ContextChange.apply start t.checkpoint := by
  cases hstep with
  | @app e saved app' happ hsaved =>
      have hcheckpoint := Checkpointed.foldl_apply_session ContextChange.apply s.checkpoint
        (e.changes s.app) (e.saves s.app) saved
      have hcontext : app'.context =
          Changes.perform ContextChange.apply (e.changes s.app) s.app.context :=
        AppState.context_of_step happ.1
      have htells := h.foldl_apply (Checkpointed.session (e.changes s.app) (e.saves s.app) saved)
      rw [hcheckpoint] at htells
      rw [DurableState.checkpoint, hcontext]
      exact htells
  | saveContext => exact h.apply (.save true)
  | relaunch => exact h.apply .restart

theorem tells_of_run
    (hrun : Run (withHistory (DurableStep formatter contains) recordChanges)
      (.launch formatter context today, .none) es (s, g)) :
    g.Tells ContextChange.apply context s.checkpoint := by
  refine hrun.invariant (P := fun t => t.2.Tells ContextChange.apply context t.1.checkpoint) ?_
    (Changes.Tells.fresh context)
  rintro t e u h ⟨hstep, hrecord⟩
  rw [hrecord]
  exact hstep.tells h

/-- The task that the block has captured is still in the array of its tab. -/
def Block.Finds (s : AppState) : Block → Prop
  | .tasks task => ∃ shown ∈ s.tasksVC.tasks.getD [], some shown = task
  | .completed task => ∃ shown ∈ s.completedTasks.getD [], some shown = task

/-- What the handler of an event stores: a tap on a checkbox nothing, its block everything if it
finds the task, and the others everything if they have changed anything. -/
structure Stores (s : DurableState) (e : AppEvent) (saved : Bool) (t : DurableState) : Prop where
  fails : saved = false → t.stored = s.stored
  tap : ∀ row, e = .tapTask row ∨ e = .tapCompleted row → t.stored = s.stored
  block : ∀ block blocks, e = .runBlock → s.app.blocks = block :: blocks → saved = true →
    (block.Finds s.app → t.stored = t.app.context) ∧ (¬ block.Finds s.app → t.stored = s.stored)
  change : (∀ row, e ≠ .tapTask row ∧ e ≠ .tapCompleted row) → e.changes s.app ≠ [] →
    saved = true → t.stored = t.app.context

theorem saves_runBlock_iff {s : AppState} {block : Block} {blocks : List Block}
    (hblocks : s.blocks = block :: blocks) :
    AppEvent.saves s .runBlock = true ↔ block.Finds s := by
  cases block <;> simp [AppEvent.saves, hblocks, Block.Finds]

theorem saves_of_changes {s : AppState} {e : AppEvent}
    (he : ∀ row, e ≠ .tapTask row ∧ e ≠ .tapCompleted row) (hchanges : e.changes s ≠ []) :
    e.saves s = true := by
  cases e with
  | tapTask row => exact absurd rfl (he row).1
  | tapCompleted row => exact absurd rfl (he row).2
  | runBlock => exact absurd rfl hchanges
  | clearCompleted saved fetched =>
      cases htasks : s.completedTasks with
      | none => exact absurd (by simp [AppEvent.changes, htasks]) hchanges
      | some tasks => simp [AppEvent.saves, htasks]
  | _ => simpa only [AppEvent.saves, Bool.not_eq_true', List.isEmpty_eq_false_iff] using hchanges

theorem DurableStep.stores {e : AppEvent} {saved : Bool}
    (h : DurableStep formatter contains s (.app e saved) t) : Stores s e saved t := by
  cases h with
  | app _ _ =>
      refine ⟨?_, ?_, ?_, ?_⟩
      · rintro rfl
        simp
      · rintro row (rfl | rfl)
        · simp [AppEvent.saves]
        · simp [AppEvent.saves]
      · rintro block blocks rfl hblocks rfl
        have hsaves := saves_runBlock_iff hblocks
        refine ⟨fun hfinds => ?_, fun hfinds => ?_⟩
        · simp [hsaves.2 hfinds]
        · simp [Bool.eq_false_of_not_eq_true (mt hsaves.1 hfinds)]
      · rintro he hchanges rfl
        simp [saves_of_changes he hchanges]

/-- After any run, with saves that fail and processes that end at any moment, the store holds the
changes of which a save succeeded before their process ended, and no others; what the next launch
would miss are the changes made since the last save that succeeded. Every handler that changes
anything saves it, but for the taps on checkboxes, whose blocks do. -/
theorem stored_eq_kept
    (hrun : Run (withHistory (DurableStep formatter contains) recordChanges)
      (.launch formatter context today, .none) es (s, g)) :
    s.stored = Changes.perform ContextChange.apply g.kept context ∧
      s.app.context = Changes.perform ContextChange.apply g.unsaved s.stored ∧
      ∀ e saved t, DurableStep formatter contains s (.app e saved) t → Stores s e saved t := by
  have htells := tells_of_run hrun
  exact ⟨htells.stored, htells.live, fun _ _ _ hstep => hstep.stores⟩

/-! ## With saves that succeed -/

/-- A handler that does not save has changed nothing but a flag. -/
theorem toggle_of_not_saves {s : AppState} {e : AppEvent} (h : e.saves s = false) :
    ∀ c ∈ e.changes s, ∃ task, c = .toggle task := by
  intro c hc
  cases e with
  | tapTask row =>
      rcases Option.map_eq_some_iff.1 (Option.mem_toList.1 hc) with ⟨task, _, rfl⟩
      exact ⟨task, rfl⟩
  | tapCompleted row =>
      rcases Option.map_eq_some_iff.1 (Option.mem_toList.1 hc) with ⟨task, _, rfl⟩
      exact ⟨task, rfl⟩
  | clearCompleted saved fetched =>
      have hnone : s.completedTasks = none := by simpa [AppEvent.saves] using h
      simp [AppEvent.changes, hnone] at hc
  | runBlock => simp [AppEvent.changes] at hc
  | _ =>
      simp only [AppEvent.saves, Bool.not_eq_false', List.isEmpty_iff] at h
      rw [h] at hc
      cases hc

/-- What is not stored are taps on checkboxes, as long as the saves succeed. -/
theorem unsaved_toggles
    (hrun : Run (withHistory (DurableStep formatter contains) recordChanges)
      (.launch formatter context today, .none) es (s, g))
    (hsaved : ∀ e ∈ es, e.SaveSucceeds) : ∀ c ∈ g.unsaved, ∃ task, c = .toggle task := by
  refine hrun.invariant_along (P := fun t => ∀ c ∈ t.2.unsaved, ∃ task, c = .toggle task)
    (Q := fun _ e _ => e.SaveSucceeds) ?_ (Along.of_events hsaved) (by simp [Changes.none])
  rintro t e u h hsaved ⟨_, hrecord⟩
  rw [hrecord]
  cases e with
  | app e saved =>
      obtain rfl : saved = true := hsaved
      cases hsaves : e.saves t.1.app with
      | true =>
          rw [recordChanges, Changes.foldl_record_session, hsaves]
          simp
      | false =>
          rw [recordChanges, Changes.foldl_record_session, hsaves]
          intro c hc
          rcases List.mem_append.1 hc with hc | hc
          · exact h c hc
          · exact toggle_of_not_saves hsaves c hc
  | saveContext => simp [recordChanges, Changes.record]
  | relaunch _ => simp [recordChanges, Changes.record]

/-- The task after its checkbox was tapped a number of times. -/
def Task.tapped (taps : ℕ) (task : Task) : Task :=
  { task with isCompleted := if Even taps then task.isCompleted else !task.isCompleted }

theorem Task.tapped_succ (taps : ℕ) (task : Task) :
    task.tapped (taps + 1) = Task.tapped taps { task with isCompleted := !task.isCompleted } := by
  by_cases heven : Even taps <;> simp [Task.tapped, heven, Nat.even_add_one]

theorem Task.tapped_eq_self_iff {taps : ℕ} {task : Task} : task.tapped taps = task ↔ Even taps := by
  rcases task with ⟨title, dueDate, isCompleted⟩
  by_cases heven : Even taps <;> simp [Task.tapped, heven]

/-- Taps flip the flags of the tasks tapped, and do nothing else. -/
theorem task_perform_toggle {changes : List ContextChange}
    (h : ∀ c ∈ changes, ∃ task, c = .toggle task) (context : ManagedObjectContext) (id : ObjectID) :
    (Changes.perform ContextChange.apply changes context).task id =
      (context.task id).map (Task.tapped (changes.count (.toggle id))) := by
  induction changes generalizing context with
  | nil => cases htask : context.task id <;> simp [Task.tapped, htask]
  | cons c changes ih =>
      obtain ⟨task, rfl⟩ := h c List.mem_cons_self
      have hrest := ih (fun c hc => h c (List.mem_cons_of_mem _ hc)) (context.toggle task)
      refine hrest.trans ?_
      by_cases hid : id = task
      · subst hid
        rw [List.count_cons_self]
        cases htask : context.task id <;>
          simp [ManagedObjectContext.toggle, htask, Task.tapped_succ]
      · have hne : ContextChange.toggle task ≠ .toggle id := fun heq =>
          hid (ContextChange.toggle.inj heq).symm
        rw [List.count_cons_of_ne hne]
        simp [ManagedObjectContext.toggle, hid]

theorem nextID_perform_toggle {changes : List ContextChange}
    (h : ∀ c ∈ changes, ∃ task, c = .toggle task) (context : ManagedObjectContext) :
    (Changes.perform ContextChange.apply changes context).nextID = context.nextID := by
  induction changes generalizing context with
  | nil => rfl
  | cons c changes ih =>
      obtain ⟨task, rfl⟩ := h c List.mem_cons_self
      have hrest := ih (fun c hc => h c (List.mem_cons_of_mem _ hc)) (context.toggle task)
      exact hrest.trans (ManagedObjectContext.nextID_modify task _)

/-- As long as the saves succeed, a process that ends at any moment loses nothing but ticks: each
task is stored as it was before the taps on it that no save has followed. So nothing is lost exactly
when every stored task has been tapped an even number of times since. -/
theorem crash_loses_ticks
    (hrun : Run (withHistory (DurableStep formatter contains) recordChanges)
      (.launch formatter context today, .none) es (s, g))
    (hsaved : ∀ e ∈ es, e.SaveSucceeds) :
    (∀ id, s.app.context.task id =
        (s.stored.task id).map (Task.tapped (g.unsaved.count (.toggle id)))) ∧
      (s.app.context = s.stored ↔
        ∀ id, (s.stored.task id).isSome → Even (g.unsaved.count (.toggle id))) := by
  have htoggles := unsaved_toggles hrun hsaved
  have hlive : s.app.context = Changes.perform ContextChange.apply g.unsaved s.stored :=
    (tells_of_run hrun).live
  have htask : ∀ id, s.app.context.task id =
      (s.stored.task id).map (Task.tapped (g.unsaved.count (.toggle id))) := by
    intro id
    rw [hlive]
    exact task_perform_toggle htoggles s.stored id
  refine ⟨htask, fun hsame id hid => ?_, fun heven => ?_⟩
  · obtain ⟨task, hstored⟩ := Option.isSome_iff_exists.1 hid
    have hboth := htask id
    rw [hsame, hstored, Option.map_some] at hboth
    exact Task.tapped_eq_self_iff.1 (Option.some.inj hboth).symm
  · refine ManagedObjectContext.ext (Finmap.ext_lookup fun id => ?_) ?_
    · refine (htask id).trans ?_
      cases hstored : s.stored.task id with
      | none => exact hstored.symm
      | some task =>
          have hid : Even (g.unsaved.count (.toggle id)) := heven id (by rw [hstored]; rfl)
          rw [Option.map_some, Task.tapped_eq_self_iff.2 hid]
          exact hstored.symm
    · rw [hlive, nextID_perform_toggle htoggles]

end Durable

/-- The sample store has been loaded, and the first of its two open tasks ticked. -/
def sampleTapped : DurableState where
  app :=
    let shown := (AppState.launch (DateFormatter.gregorian 0) sampleContext 0).refreshTasks
      (DateFormatter.gregorian 0) (some [1, 0])
    { shown with context := shown.context.toggle 1, blocks := [.tasks (some 1)] }
  stored := sampleContext

theorem sampleTapped_run :
    Run (withHistory (DurableStep (DateFormatter.gregorian 0) fun _ _ => True) recordChanges)
      (.launch (DateFormatter.gregorian 0) sampleContext 0, .none)
      [.app (.showTasks (some [1, 0])) true, .app (.tapTask 0) true]
      (sampleTapped, ⟨[], [.toggle 1]⟩) := by
  refine (Run.single (t := (DurableState.mk _ _, _)) ⟨DurableStep.app ⟨rfl, ?_⟩ nofun, rfl⟩).snoc
    ⟨DurableStep.app ⟨rfl, trivial⟩ nofun, rfl⟩
  intro tasks heq
  obtain rfl := Option.some.inj heq
  exact sampleContext_fetch

/-- The block has run and saved. -/
def sampleSaved : DurableState where
  app :=
    { sampleTapped.app with
      tasksVC := { sampleTapped.app.tasksVC with tasks := some [0] }
      blocks := [] }
  stored := sampleContext.toggle 1

/-- The rent is ticked too. -/
def sampleRentTapped : DurableState where
  app :=
    { sampleSaved.app with
      context := (sampleContext.toggle 1).toggle 0
      blocks := [.tasks (some 0)] }
  stored := sampleContext.toggle 1

/-- The process ends before the second block has run, and the app starts again. -/
theorem sampleRelaunched_run :
    Run (withHistory (DurableStep (DateFormatter.gregorian 0) fun _ _ => True) recordChanges)
      (.launch (DateFormatter.gregorian 0) sampleContext 0, .none)
      [.app (.showTasks (some [1, 0])) true, .app (.tapTask 0) true, .app .runBlock true,
        .saveContext, .app (.tapTask 0) true, .relaunch 20]
      (.launch (DateFormatter.gregorian 0) (sampleContext.toggle 1) 20, ⟨[.toggle 1], []⟩) := by
  have hblock : DurableStep (DateFormatter.gregorian 0) (fun _ _ => True) sampleTapped
      (.app .runBlock true) sampleSaved := .app ⟨rfl, trivial⟩ nofun
  have htap : DurableStep (DateFormatter.gregorian 0) (fun _ _ => True) sampleSaved
      (.app (.tapTask 0) true) sampleRentTapped := .app ⟨rfl, trivial⟩ nofun
  exact sampleTapped_run.snoc_history hblock |>.snoc_history .saveContext |>.snoc_history htap
    |>.snoc_history .relaunch

/-- The first tick was saved by its block, the second is lost. -/
theorem sampleRelaunched_stored :
    sampleContext.toggle 1 = Changes.perform ContextChange.apply [.toggle 1] sampleContext ∧
      ((sampleContext.toggle 1).task 0).map Task.isCompleted = some false := by
  obtain ⟨hstored, _, _⟩ := stored_eq_kept sampleRelaunched_run
  exact ⟨hstored, by decide +kernel⟩

/-- If the process ends before the block has run, the tick is gone. -/
theorem sampleTapped_unsaved : sampleTapped.app.context ≠ sampleTapped.stored := by
  intro hsame
  have hsaved : ∀ e ∈ [DurableEvent.app (.showTasks (some [1, 0])) true, .app (.tapTask 0) true],
      e.SaveSucceeds := by simp [DurableEvent.SaveSucceeds]
  have heven := (crash_loses_ticks sampleTapped_run hsaved).2.1 hsame 1 (by decide +kernel)
  revert heven
  decide

end TaskMaster
end IosProjects
