import Mathlib.Data.List.DropRight
import IosProjects.TimerApp.Timer

/-!
# Display — what the label and the button tell

The label is written by three handlers and never read by the code. Here it is read: the text is a
clock reading, `readTime` reads it back, and in every run it is the number of firings since the last
confirmed reset. How fast it moves is told by the events as well: a reset that is confirmed while
the timer is active leaves a timer behind that nothing stops, and the display gains its seconds from
then on.
-/

namespace IosProjects
namespace TimerApp

open IosProjects.Library

/-! ## Reading the label -/

/-- The seconds a clock reading stands for: hours of any length, then minutes and seconds below
sixty. -/
def readTime (label : String) : Option ℕ :=
  match label.toList.splitOn ':' with
  | [hs, ms, ss] => do
      let hours ← readDecimal hs
      let minutes ← readDecimal ms
      let seconds ← readDecimal ss
      if minutes < 60 ∧ seconds < 60 then some (hours * 3600 + minutes * 60 + seconds) else none
  | _ => none

theorem colon_notMem_decimal (w n : ℕ) : ':' ∉ decimal w n := fun hmem =>
  absurd (isDigit_of_mem_decimal hmem) (by decide)

theorem splitOn_getFormattingTime (seconds : ℕ) :
    (getFormattingTime seconds).toList.splitOn ':' =
      [decimal 2 (seconds / 3600), decimal 2 (seconds % 3600 / 60),
        decimal 2 (seconds % 3600 % 60)] := by
  -- no numeral contains the separator
  have hjoin : (getFormattingTime seconds).toList =
      [':'].intercalate [decimal 2 (seconds / 3600), decimal 2 (seconds % 3600 / 60),
        decimal 2 (seconds % 3600 % 60)] := by
    simp [getFormattingTime, List.intercalate]
  rw [hjoin]
  refine List.splitOn_intercalate ':' ?_ (by simp)
  intro cs hcs
  simp only [List.mem_cons, List.not_mem_nil, or_false] at hcs
  rcases hcs with rfl | rfl | rfl <;> exact colon_notMem_decimal _ _

/-- The label can be read back, however long the timer has run. -/
theorem readTime_getFormattingTime (seconds : ℕ) :
    readTime (getFormattingTime seconds) = some seconds := by
  have hminutes : seconds % 3600 / 60 < 60 := by omega
  have hseconds : seconds % 3600 % 60 < 60 := Nat.mod_lt _ (by norm_num)
  have hsum : seconds / 3600 * 3600 + seconds % 3600 / 60 * 60 + seconds % 3600 % 60 = seconds := by
    omega
  simp only [readTime, splitOn_getFormattingTime, readDecimal_decimal, Option.bind_eq_bind,
    Option.bind_some, hminutes, hseconds, hsum, and_self, if_true]

/-! ## What the events say -/

/-- The events since the last confirmed reset. -/
def sinceReset (es : List Event) : List Event :=
  es.rtakeWhile (· ≠ .ok)

def isFire : Event → Bool
  | .fire _ => true
  | _ => false

/-- The seconds counted since the last confirmed reset. -/
def counted (es : List Event) : ℕ :=
  (sinceReset es).countP isFire

/-- The button has been pressed an odd number of times since the last confirmed reset. -/
def pressedOn (es : List Event) : Bool :=
  decide (Odd ((sinceReset es).count .startTimer))

/-- The timers left behind: a reset was confirmed while they were active. -/
def leftBehind (es : List Event) : ℕ :=
  (List.range es.length).countP fun i => es[i]? = some .ok ∧ pressedOn (es.take i)

/-- The timers that fire after the events `es`. -/
def running (es : List Event) : ℕ :=
  (if pressedOn es then 1 else 0) + leftBehind es

section Events

variable {es : List Event} {e : Event}

@[simp] theorem sinceReset_ok : sinceReset (es ++ [.ok]) = [] :=
  List.rtakeWhile_concat_neg _ _ _ (by simp)

theorem sinceReset_snoc (h : e ≠ .ok) : sinceReset (es ++ [e]) = sinceReset es ++ [e] :=
  List.rtakeWhile_concat_pos _ _ _ (by simpa using h)

theorem counted_snoc (h : e ≠ .ok) :
    counted (es ++ [e]) = counted es + if isFire e then 1 else 0 := by
  rw [counted, sinceReset_snoc h, List.countP_append, List.countP_singleton, counted]

theorem pressedOn_snoc_of_ne (h : e ≠ .ok) (h' : e ≠ .startTimer) :
    pressedOn (es ++ [e]) = pressedOn es := by
  rw [pressedOn, sinceReset_snoc h, List.count_append, List.count_singleton,
    if_neg (by simpa using h'), add_zero, pressedOn]

theorem pressedOn_startTimer : pressedOn (es ++ [.startTimer]) = !pressedOn es := by
  rw [pressedOn, sinceReset_snoc (by decide), List.count_append, List.count_singleton_self,
    pressedOn, ← decide_not]
  exact decide_eq_decide.2 Nat.odd_add_one

theorem leftBehind_snoc :
    leftBehind (es ++ [e]) = leftBehind es + if e = .ok ∧ pressedOn es then 1 else 0 := by
  have hlast : (es ++ [e])[es.length]? = some e ∧ (es ++ [e]).take es.length = es := by simp
  have hfront : ∀ i ∈ List.range es.length,
      (es ++ [e])[i]? = es[i]? ∧ (es ++ [e]).take i = es.take i := by
    intro i hi
    rw [List.mem_range] at hi
    exact ⟨List.getElem?_append_left hi, List.take_append_of_le_length hi.le⟩
  rw [leftBehind, List.length_append, List.length_singleton, List.range_succ, List.countP_append,
    List.countP_singleton, hlast.1, hlast.2, leftBehind]
  refine congrArg₂ (· + ·) (List.countP_congr fun i hi => ?_) (by simp)
  rw [(hfront i hi).1, (hfront i hi).2]

/-- What is left behind stays. -/
theorem leftBehind_le_append (es es' : List Event) : leftBehind es ≤ leftBehind (es ++ es') := by
  induction es' using List.reverseRecOn with
  | nil => simp
  | append_singleton es' e ih =>
      rw [← List.append_assoc, leftBehind_snoc]
      exact ih.trans (Nat.le_add_right _ _)

end Events

/-! ## The title of the button -/

/-- A reset has been confirmed while the timer was active, and the button has not been pressed
since. -/
def ResetWhileActive (es : List Event) : Prop :=
  HeldSince (· ≠ .startTimer) (fun before e => e = .ok ∧ pressedOn before = true) es

/-- The title the button has: its last press turned the timer on. -/
def SaysStop (es : List Event) : Prop :=
  pressedOn es = true ∨ ResetWhileActive es

section Title

variable {es : List Event} {e : Event}

@[simp] theorem pressedOn_ok : pressedOn (es ++ [.ok]) = false := by
  simp [pressedOn]

theorem not_saysStop_nil : ¬ SaysStop [] := by
  rintro (hon | hreset)
  · exact absurd hon (by decide)
  · exact HeldSince.not_nil hreset

theorem saysStop_snoc_startTimer : SaysStop (es ++ [.startTimer]) ↔ pressedOn es = false := by
  rw [SaysStop, ResetWhileActive, HeldSince.snoc_iff, pressedOn_startTimer]
  simp

/-- Only a press of the button changes its title. -/
theorem saysStop_snoc_of_ne (h : e ≠ .startTimer) : SaysStop (es ++ [e]) ↔ SaysStop es := by
  rw [SaysStop, SaysStop, ResetWhileActive, HeldSince.snoc_iff, ResetWhileActive]
  by_cases hok : e = .ok
  · subst hok
    simp
  · simp [pressedOn_snoc_of_ne hok h, hok, h]

/-- A reset leaves the timer off until the button is pressed. -/
theorem ResetWhileActive.off (h : ResetWhileActive es) : pressedOn es = false := by
  induction es using List.reverseRecOn with
  | nil => rfl
  | append_singleton es e ih =>
      rcases HeldSince.snoc_iff.1 h with ⟨rfl, _⟩ | ⟨hbefore, hne⟩
      · exact pressedOn_ok
      · by_cases hok : e = .ok
        · rw [hok, pressedOn_ok]
        · rw [pressedOn_snoc_of_ne hok hne, ih hbefore]

end Title

/-! ## The display in a run -/

/-- What the screen and the run loop have of the events before them. -/
structure Tells (es : List Event) (s : AppState) : Prop where
  count : s.viewController.count = counted es
  label : s.viewController.timerLabel = getFormattingTime (counted es)
  active : s.viewController.timerActive = pressedOn es
  card : s.runLoop.scheduled.card = running es
  referenced : Referenced s
  stop : SaysStop es → s.viewController.startButton = { title := "STOP", titleColor := .red }
  start : ¬ SaysStop es → s.viewController.startButton = { title := "START", titleColor := .green }

theorem tells_viewDidLoad : Tells [] .viewDidLoad where
  count := rfl
  label := rfl
  active := rfl
  card := rfl
  referenced := referenced_viewDidLoad
  stop := fun h => absurd h not_saysStop_nil
  start := fun _ => rfl

namespace Tells

variable {es : List Event} {e : Event} {s t : AppState}

/-- An event that neither presses the button nor confirms a reset leaves the button and the timers
alone. -/
theorem snoc_of_ne (h : Tells es s) (hok : e ≠ .ok) (hstart : e ≠ .startTimer)
    (hcount : t.viewController.count = s.viewController.count + if isFire e then 1 else 0)
    (hlabel : t.viewController.timerLabel = getFormattingTime t.viewController.count)
    (hactive : t.viewController.timerActive = s.viewController.timerActive)
    (hrunLoop : t.runLoop = s.runLoop) (href : Referenced t)
    (hbutton : t.viewController.startButton = s.viewController.startButton) :
    Tells (es ++ [e]) t := by
  have hcounted : t.viewController.count = counted (es ++ [e]) := by
    rw [hcount, h.count, counted_snoc hok]
  have hpressed : pressedOn (es ++ [e]) = pressedOn es := pressedOn_snoc_of_ne hok hstart
  exact {
    count := hcounted
    label := by rw [hlabel, hcounted]
    active := by rw [hactive, h.active, hpressed]
    card := by simp [hrunLoop, h.card, running, hpressed, leftBehind_snoc, hok]
    referenced := href
    stop := fun hstop => hbutton.trans (h.stop ((saysStop_snoc_of_ne hstart).1 hstop))
    start := fun hstop => hbutton.trans (h.start fun hbefore =>
      hstop ((saysStop_snoc_of_ne hstart).2 hbefore)) }

theorem startTimer (h : Tells es s) (href : Referenced s.startTimer) :
    Tells (es ++ [.startTimer]) s.startTimer := by
  have hcounted : counted (es ++ [.startTimer]) = counted es := by
    simp [counted_snoc, isFire]
  have hleft : leftBehind (es ++ [.startTimer]) = leftBehind es := by
    simp [leftBehind_snoc]
  have hcard := h.card
  cases hon : pressedOn es with
  | true =>
      -- the timer of the screen is one of those that run, and it is invalidated
      have hactive : s.viewController.timerActive = true := h.active.trans hon
      rcases h.referenced hactive with ⟨id, hid, htimer⟩
      refine ⟨?_, ?_, ?_, ?_, href, ?_, ?_⟩
      · simp [AppState.startTimer, hactive, hcounted, h.count]
      · simp [AppState.startTimer, hactive, hcounted, h.label]
      · simp [AppState.startTimer, hactive, pressedOn_startTimer, hon]
      · simp [AppState.startTimer, hactive, htimer, Finset.card_erase_of_mem hid, hcard,
          running, hon, pressedOn_startTimer, hleft]
      · intro hstop
        exact absurd (saysStop_snoc_startTimer.1 hstop) (by simp [hon])
      · intro _
        simp [AppState.startTimer, hactive]
  | false =>
      have hactive : s.viewController.timerActive = false := h.active.trans hon
      refine ⟨?_, ?_, ?_, ?_, href, ?_, ?_⟩
      · simp [AppState.startTimer, hactive, hcounted, h.count]
      · simp [AppState.startTimer, hactive, hcounted, h.label]
      · simp [AppState.startTimer, hactive, pressedOn_startTimer, hon]
      · have hscheduled := RunLoop.card_scheduledTimer s.runLoop
        rw [hcard] at hscheduled
        simp only [AppState.startTimer, hactive, Bool.false_eq_true, if_false, hscheduled,
          running, hon, pressedOn_startTimer, hleft, Bool.not_false, if_true]
        omega
      · intro _
        simp [AppState.startTimer, hactive]
      · intro hstop
        exact absurd (saysStop_snoc_startTimer.2 hon) hstop

theorem ok (h : Tells es s) (href : Referenced s.ok) : Tells (es ++ [.ok]) s.ok := by
  have hcounted : counted (es ++ [.ok]) = 0 := by simp [counted]
  have hne : Event.ok ≠ .startTimer := by decide
  exact {
    count := hcounted.symm
    label := by rw [hcounted, AppState.ok]
    active := pressedOn_ok.symm
    -- the timer that was active is left behind
    card := by
      have hcard : s.ok.runLoop.scheduled.card = running es := h.card
      rw [hcard, running, running, pressedOn_ok, leftBehind_snoc]
      simp [Nat.add_comm]
    referenced := href
    stop := fun hstop => h.stop ((saysStop_snoc_of_ne hne).1 hstop)
    start := fun hstop => h.start fun hbefore => hstop ((saysStop_snoc_of_ne hne).2 hbefore) }

theorem step (h : Tells es s) (hstep : Step s e t) : Tells (es ++ [e]) t := by
  have href : Referenced t := h.referenced.step hstep
  have hlabel : s.viewController.timerLabel = getFormattingTime s.viewController.count := by
    rw [h.count, h.label]
  cases hstep with
  | startTimer _ => exact h.startTimer href
  | resetTimer _ => exact h.snoc_of_ne (by simp) (by simp) rfl hlabel rfl rfl href rfl
  | ok _ => exact h.ok href
  | cancel _ => exact h.snoc_of_ne (by simp) (by simp) rfl hlabel rfl rfl href rfl
  | fire _ =>
      have hbutton : s.countDown.viewController.startButton = s.viewController.startButton := by
        simp only [AppState.countDown]
      have hwritten : s.countDown.viewController.timerLabel =
          getFormattingTime s.countDown.viewController.count := by
        simp only [AppState.countDown]
      exact h.snoc_of_ne (by simp) (by simp) (AppState.count_countDown s) hwritten
        (AppState.timerActive_countDown s) (AppState.runLoop_countDown s) href hbutton

theorem run (hrun : Run Step .viewDidLoad es s) : Tells es s :=
  hrun.invariant_history tells_viewDidLoad fun _ _ _ _ _ h hstep => h.step hstep

end Tells

/-! ## Reading the display -/

section Display

variable {es es' : List Event} {s t : AppState}

theorem counted_of_elapse {seconds : ℕ} {fires : List TimerID} (hrun : Run Step .viewDidLoad es s)
    (helapse : Elapse s seconds fires t) :
    counted (es ++ fires.map .fire) = counted es + running es * seconds := by
  have hs : Tells es s := Tells.run hrun
  have ht : Tells (es ++ fires.map .fire) t := Tells.run (hrun.trans helapse.1)
  calc
    counted (es ++ fires.map .fire) = t.viewController.count := ht.count.symm
    _ = s.viewController.count + s.runLoop.scheduled.card * seconds := helapse.count
    _ = counted es + running es * seconds := by rw [hs.count, hs.card]

/-- The label reads as the seconds counted since the last confirmed reset, and gains as many seconds
a second as timers run: the one that is active, and one for every reset that was ever confirmed
while one was. -/
theorem display_gains_running {seconds : ℕ} {fires : List TimerID}
    (hrun : Run Step .viewDidLoad (es ++ es') s) (helapse : Elapse s seconds fires t) :
    readTime t.viewController.timerLabel =
        some (counted (es ++ es') + running (es ++ es') * seconds) ∧
      leftBehind es ≤ running (es ++ es') := by
  constructor
  · rw [(Tells.run (hrun.trans helapse.1)).label, readTime_getFormattingTime,
      counted_of_elapse hrun helapse]
  · exact (leftBehind_le_append es es').trans (Nat.le_add_left _ _)

end Display

/-- Started, reset while active after a second, and started again. -/
def restartedEvents : List Event :=
  [.startTimer, .fire 0, .resetTimer, .ok, .startTimer]

def restarted : AppState :=
  AppState.viewDidLoad.startTimer.countDown.resetTimer.ok.startTimer

theorem run_reset : Run Step .viewDidLoad [.startTimer, .fire 0, .resetTimer, .ok]
    AppState.viewDidLoad.startTimer.countDown.resetTimer.ok :=
  (((Run.single (Step.startTimer rfl)).snoc (Step.fire (by decide +kernel))).snoc
    (Step.resetTimer rfl)).snoc (Step.ok rfl)

theorem run_restarted : Run Step .viewDidLoad restartedEvents restarted :=
  run_reset.snoc (Step.startTimer rfl)

theorem elapse_restarted :
    Elapse restarted 2 [0, 1, 1, 0] restarted.countDown.countDown.countDown.countDown := by
  refine ⟨(((Run.single (Step.fire ?_)).snoc (Step.fire ?_)).snoc (Step.fire ?_)).snoc
    (Step.fire ?_), ?_⟩ <;> decide +kernel

/-- Two timers run, and in two seconds the display is four seconds on. -/
theorem restarted_gains_four :
    readTime restarted.countDown.countDown.countDown.countDown.viewController.timerLabel =
      some 4 := by
  have hrun : Run Step .viewDidLoad (restartedEvents ++ []) restarted := run_restarted
  rw [(display_gains_running hrun elapse_restarted).1]
  decide +kernel

section Button

variable {es : List Event} {s t : AppState}

/-- A press of a button that says `STOP` starts one more timer exactly when a reset was confirmed
while the timer was active and the button has not been pressed since. -/
theorem stop_starts_another_iff (hrun : Run Step .viewDidLoad es s)
    (hpress : Step s .startTimer t) :
    s.viewController.startButton.title = "STOP" ∧
        t.runLoop.scheduled.card = s.runLoop.scheduled.card + 1 ↔
      ResetWhileActive es := by
  have hs : Tells es s := Tells.run hrun
  have hcard := (hs.step hpress).card
  have hleft : leftBehind (es ++ [.startTimer]) = leftBehind es := by simp [leftBehind_snoc]
  rw [hcard, hs.card, running, running, hleft, pressedOn_startTimer]
  constructor
  · rintro ⟨htitle, hmore⟩
    have hoff : pressedOn es = false := by
      cases hon : pressedOn es with
      | true =>
          rw [hon] at hmore
          simp at hmore
          omega
      | false => rfl
    have hstop : SaysStop es := by
      by_contra hstart
      rw [hs.start hstart] at htitle
      exact absurd htitle (by decide)
    exact hstop.resolve_left (by simp [hoff])
  · intro hreset
    rw [hs.stop (Or.inr hreset), hreset.off]
    refine ⟨rfl, ?_⟩
    simp [Nat.add_comm]

end Button

/-- After the reset the button still says `STOP`, and pressing it starts a second timer. -/
theorem reset_says_stop :
    AppState.viewDidLoad.startTimer.countDown.resetTimer.ok.viewController.startButton.title =
      "STOP" ∧
      restarted.runLoop.scheduled.card =
        AppState.viewDidLoad.startTimer.countDown.resetTimer.ok.runLoop.scheduled.card + 1 :=
  (stop_starts_another_iff run_reset (Step.startTimer rfl)).2
    ⟨[.startTimer, .fire 0, .resetTimer], [], .ok, rfl, ⟨rfl, by decide +kernel⟩, by simp⟩

end TimerApp
end IosProjects
