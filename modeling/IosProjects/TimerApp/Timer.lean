import Mathlib.Algebra.BigOperators.Group.Finset.Basic
import Mathlib.Algebra.Order.BigOperators.Group.Finset
import IosProjects.Library.Decimal
import IosProjects.Library.Run

/-!
# Timer — one repeating timer and the flag beside it

The screen keeps a reference to the timer it scheduled last, the flag `timerActive` and the title of
a button. The run loop keeps the timers that have been scheduled and not invalidated; each of them
fires once a second, whether or not the screen still refers to it.
-/

namespace IosProjects
namespace TimerApp

open IosProjects.Library

/-! ## The run loop -/

/-- A timer is known by the number of timers scheduled before it. -/
abbrev TimerID : Type := ℕ

/-- The repeating timers that have been scheduled and not invalidated. -/
structure RunLoop where
  scheduled : Finset TimerID
  created : ℕ
  lt_created : ∀ id ∈ scheduled, id < created

namespace RunLoop

def empty : RunLoop where
  scheduled := ∅
  created := 0
  lt_created := by simp

/-- `Timer.scheduledTimer(timeInterval:target:selector:userInfo:repeats:)`. -/
def scheduledTimer (runLoop : RunLoop) : RunLoop where
  scheduled := insert runLoop.created runLoop.scheduled
  created := runLoop.created + 1
  lt_created := by
    intro id hid
    rcases Finset.mem_insert.1 hid with rfl | hid
    · exact Nat.lt_succ_self _
    · exact Nat.lt_succ_of_lt (runLoop.lt_created id hid)

/-- `timer?.invalidate()`. -/
def invalidate (timer : Option TimerID) (runLoop : RunLoop) : RunLoop where
  scheduled := timer.elim runLoop.scheduled fun id => runLoop.scheduled.erase id
  created := runLoop.created
  lt_created := by
    intro id hid
    cases timer with
    | none => exact runLoop.lt_created id hid
    | some _ => exact runLoop.lt_created id (Finset.mem_of_mem_erase hid)

@[simp] theorem scheduled_scheduledTimer (runLoop : RunLoop) :
    runLoop.scheduledTimer.scheduled = insert runLoop.created runLoop.scheduled := rfl

@[simp] theorem scheduled_invalidate (id : TimerID) (runLoop : RunLoop) :
    (runLoop.invalidate (some id)).scheduled = runLoop.scheduled.erase id := rfl

theorem card_scheduledTimer (runLoop : RunLoop) :
    runLoop.scheduledTimer.scheduled.card = runLoop.scheduled.card + 1 := by
  have hfresh : runLoop.created ∉ runLoop.scheduled := fun hmem =>
    lt_irrefl _ (runLoop.lt_created _ hmem)
  rw [scheduled_scheduledTimer, Finset.card_insert_of_notMem hfresh]

end RunLoop

/-! ## `ViewController` -/

/-- `UIColor`, as far as the start button uses it. -/
inductive UIColor where
  | green
  | red
  deriving DecidableEq, Repr

structure UIButton where
  title : String
  titleColor : UIColor
  deriving DecidableEq, Repr

structure ViewController where
  timerLabel : String
  startButton : UIButton
  timer : Option TimerID
  count : ℕ
  timerActive : Bool

/-- `getFormattingTime(seconds:)`. -/
def getFormattingTime (seconds : ℕ) : String :=
  let hours := seconds / 3600
  let minutes := (seconds % 3600) / 60
  let seconds := (seconds % 3600) % 60
  String.ofList
    (decimal 2 hours ++ [':'] ++ decimal 2 minutes ++ [':'] ++ decimal 2 seconds)

example : getFormattingTime 3725 = "01:02:05" := by decide +kernel

/-- `alertShown` says that the alert of `resetTimer(_:)` is presented. -/
structure AppState where
  viewController : ViewController
  runLoop : RunLoop
  alertShown : Bool

namespace AppState

/-- `viewDidLoad()`. -/
def viewDidLoad : AppState where
  viewController :=
    { timerLabel := getFormattingTime 0
      startButton := { title := "START", titleColor := .green }
      timer := none
      count := 0
      timerActive := false }
  runLoop := .empty
  alertShown := false

/-- `startTimer(_:)`. -/
def startTimer (s : AppState) : AppState :=
  if s.viewController.timerActive then
    { s with
      runLoop := s.runLoop.invalidate s.viewController.timer
      viewController :=
        { s.viewController with
          timerActive := false
          startButton := { title := "START", titleColor := .green } } }
  else
    { s with
      runLoop := s.runLoop.scheduledTimer
      viewController :=
        { s.viewController with
          timer := some s.runLoop.created
          timerActive := true
          startButton := { title := "STOP", titleColor := .red } } }

/-- `countDown()`. -/
def countDown (s : AppState) : AppState :=
  { s with
    viewController :=
      { s.viewController with
        count := s.viewController.count + 1
        timerLabel := getFormattingTime (s.viewController.count + 1) } }

@[simp] theorem runLoop_countDown (s : AppState) : s.countDown.runLoop = s.runLoop := by
  simp only [countDown]

@[simp] theorem timer_countDown (s : AppState) :
    s.countDown.viewController.timer = s.viewController.timer := by
  simp only [countDown]

@[simp] theorem timerActive_countDown (s : AppState) :
    s.countDown.viewController.timerActive = s.viewController.timerActive := by
  simp only [countDown]

@[simp] theorem count_countDown (s : AppState) :
    s.countDown.viewController.count = s.viewController.count + 1 := by
  simp only [countDown]

/-- `resetTimer(_:)`. -/
def resetTimer (s : AppState) : AppState :=
  { s with alertShown := true }

/-- The handler of the action `OK`; the alert is gone. -/
def ok (s : AppState) : AppState :=
  { s with
    -- the timer is not invalidated, and the button keeps its title
    viewController :=
      { s.viewController with
        count := 0
        timerActive := false
        timerLabel := getFormattingTime 0 }
    alertShown := false }

/-- The action `Cancel` has no handler. -/
def cancel (s : AppState) : AppState :=
  { s with alertShown := false }

end AppState

/-! ## Steps -/

inductive Event where
  | startTimer
  | resetTimer
  | ok
  | cancel
  | fire (id : TimerID)
  deriving DecidableEq, Repr

/-- The buttons cannot be pressed while the alert is shown; the timers fire all the same. -/
inductive Step : AppState → Event → AppState → Prop where
  | startTimer {s : AppState} : s.alertShown = false → Step s .startTimer s.startTimer
  | resetTimer {s : AppState} : s.alertShown = false → Step s .resetTimer s.resetTimer
  | ok {s : AppState} : s.alertShown = true → Step s .ok s.ok
  | cancel {s : AppState} : s.alertShown = true → Step s .cancel s.cancel
  | fire {s : AppState} {id : TimerID} : id ∈ s.runLoop.scheduled → Step s (.fire id) s.countDown

/-! ## Seconds -/

/-- In `seconds` seconds without a user action, every scheduled timer fires that many times. -/
def Elapse (s : AppState) (seconds : ℕ) (fires : List TimerID) (t : AppState) : Prop :=
  Run Step s (fires.map .fire) t ∧ ∀ id ∈ s.runLoop.scheduled, fires.count id = seconds

/-- Firings leave the timers alone and count one each. -/
theorem Run.fires {s t : AppState} {fires : List TimerID}
    (hrun : Run Step s (fires.map .fire) t) :
    t.runLoop = s.runLoop ∧ (∀ id ∈ fires, id ∈ s.runLoop.scheduled) ∧
      t.viewController.count = s.viewController.count + fires.length := by
  induction fires using List.reverseRecOn generalizing t with
  | nil =>
      rw [hrun.nil_inv]
      simp
  | append_singleton fires id ih =>
      rw [List.map_append] at hrun
      rcases hrun.snoc_inv with ⟨u, hu, hlast⟩
      rcases ih hu with ⟨hrunLoop, hmem, hcount⟩
      cases hlast with
      | fire hid =>
          refine ⟨by rw [AppState.runLoop_countDown, hrunLoop], ?_, ?_⟩
          · intro id' hid'
            rcases List.mem_append.1 hid' with hid' | hid'
            · exact hmem id' hid'
            · rw [List.mem_singleton.1 hid', ← hrunLoop]
              exact hid
          · simp [hcount, Nat.add_assoc]

/-- Every second counts as many seconds as there are timers. -/
theorem Elapse.count {s t : AppState} {seconds : ℕ} {fires : List TimerID}
    (h : Elapse s seconds fires t) :
    t.viewController.count =
      s.viewController.count + s.runLoop.scheduled.card * seconds := by
  rcases h with ⟨hrun, hseconds⟩
  rcases Run.fires hrun with ⟨_, hmem, hcount⟩
  have hlength : s.runLoop.scheduled.card * seconds = fires.length := by
    calc
      s.runLoop.scheduled.card * seconds
          = ∑ id ∈ s.runLoop.scheduled, (fires : Multiset TimerID).count id :=
            (Finset.sum_const_nat fun id hid => by rw [Multiset.coe_count, hseconds id hid]).symm
      _ = (fires : Multiset TimerID).card := Multiset.sum_count_eq_card fun id hid => hmem id hid
      _ = fires.length := Multiset.coe_card fires
  rw [hcount, hlength]

/-! ## The flag and the timers -/

/-- The screen keeps the time: one timer runs while the flag is set and none while it is not, so
that the count grows by the seconds that elapse, and stopping leaves no timer. -/
structure KeepsTime (s : AppState) : Prop where
  card : s.runLoop.scheduled.card = if s.viewController.timerActive then 1 else 0
  count : ∀ seconds fires t, Elapse s seconds fires t →
    t.viewController.count =
      s.viewController.count + if s.viewController.timerActive then seconds else 0
  stop : ∀ t, s.viewController.timerActive = true → Step s .startTimer t →
    t.runLoop.scheduled = ∅

/-- While the flag is set, the timer that the screen refers to is scheduled. -/
def Referenced (s : AppState) : Prop :=
  s.viewController.timerActive = true →
    ∃ id ∈ s.runLoop.scheduled, s.viewController.timer = some id

theorem Referenced.step {s t : AppState} {e : Event} (h : Referenced s) (hstep : Step s e t) :
    Referenced t := by
  cases hstep with
  | startTimer _ =>
      unfold AppState.startTimer
      split
      · exact fun hactive => nomatch hactive
      · exact fun _ => ⟨s.runLoop.created, by simp, rfl⟩
  | resetTimer _ => exact h
  | ok _ => exact fun hactive => nomatch hactive
  | cancel _ => exact h
  | fire _ => simpa [Referenced] using h

theorem Referenced.run {s t : AppState} {es : List Event} (hs : Referenced s)
    (hrun : Run Step s es t) : Referenced t :=
  hrun.invariant (P := Referenced) (fun _ _ _ h hstep => h.step hstep) hs

/-- Where the flag tells the number of timers, the rest follows. -/
theorem keepsTime_iff {s : AppState} (h : Referenced s) :
    KeepsTime s ↔ s.runLoop.scheduled.card = if s.viewController.timerActive then 1 else 0 := by
  constructor
  · exact KeepsTime.card
  · intro hcard
    refine ⟨hcard, ?_, ?_⟩
    · intro seconds fires t helapse
      rw [helapse.count, hcard]
      split <;> simp
    · intro t hactive hstep
      rcases h hactive with ⟨id, hid, htimer⟩
      rw [if_pos hactive] at hcard
      rcases Finset.card_eq_one.1 hcard with ⟨id', hscheduled⟩
      cases hstep with
      | startTimer _ =>
          obtain rfl : id = id' := by simpa [hscheduled] using hid
          simp [AppState.startTimer, hactive, htimer, hscheduled]

/-- Only `OK`, and only while the flag is set, takes a screen that keeps the time to one that does
not. -/
theorem keepsTime_step_iff {s t : AppState} {e : Event} (href : Referenced s) (h : KeepsTime s)
    (hstep : Step s e t) :
    KeepsTime t ↔ ¬ (e = .ok ∧ s.viewController.timerActive = true) := by
  rw [keepsTime_iff (href.step hstep)]
  have hcard := h.card
  cases hstep with
  | startTimer halert =>
      have hstop := fun hactive => h.stop _ hactive (.startTimer halert)
      unfold AppState.startTimer at hstop ⊢
      cases hactive : s.viewController.timerActive with
      | true =>
          rw [hactive] at hstop
          simpa using hstop rfl
      | false =>
          rw [hactive] at hcard
          have hone : s.runLoop.scheduledTimer.scheduled.card = 1 := by
            rw [RunLoop.card_scheduledTimer, hcard]
            rfl
          simpa using hone
  | resetTimer _ => exact iff_of_true hcard (by simp)
  | ok _ =>
      -- the timer keeps firing when the flag is cleared
      cases hactive : s.viewController.timerActive <;> simp [AppState.ok, hcard, hactive]
  | cancel _ => exact iff_of_true hcard (by simp)
  | fire _ => exact iff_of_true (by simpa using hcard) (by simp)

theorem referenced_viewDidLoad : Referenced .viewDidLoad :=
  fun hactive => nomatch hactive

theorem keepsTime_viewDidLoad : KeepsTime .viewDidLoad :=
  (keepsTime_iff referenced_viewDidLoad).2 rfl

/-- The screen keeps the time in every state of a run if and only if the run never confirms a reset
while the timer is active. -/
theorem keepsTime_throughout_iff (es : List Event) :
    Throughout Step .viewDidLoad es KeepsTime ↔
      Along Step .viewDidLoad es fun s e _ =>
        ¬ (e = .ok ∧ s.viewController.timerActive = true) :=
  Throughout.iff_along keepsTime_viewDidLoad fun _ _ _ _ hrun h hstep =>
    keepsTime_step_iff (referenced_viewDidLoad.run hrun) h hstep

/-- Started, reset and started again, the app counts two seconds a second, and stopping it once does
not stop it. -/
theorem reset_while_active_breaks_keepsTime :
    ¬ ∀ (es : List Event) (s : AppState), Run Step .viewDidLoad es s → KeepsTime s := by
  intro h
  have hrun : Run Step .viewDidLoad [.startTimer, .resetTimer, .ok, .startTimer] _ :=
    (((Run.single (Step.startTimer rfl)).snoc (Step.resetTimer rfl)).snoc (Step.ok rfl)).snoc
      (Step.startTimer rfl)
  have hstop := (h _ _ hrun).stop _ rfl (Step.startTimer rfl)
  revert hstop
  decide +kernel

end TimerApp
end IosProjects
