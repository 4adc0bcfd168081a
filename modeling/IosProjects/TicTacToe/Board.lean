import Mathlib.Data.Fintype.Basic
import IosProjects.Library.Marking
import IosProjects.Library.Run

/-!
# Board — the two arrays, the buttons and the turn of Tic-Tac-Toe

`BoardViewController` represents the board three times: an array of marks for each player, and nine
buttons with titles. A win leaves the board as it is until the alert is dismissed; a full board is
cleared at once. Restarting clears the marks and keeps the turn, so either player may begin a game.

The storyboard gives the buttons the tags 0 to 8 in the order of `board`, no titles, and the label
of the player the text X.
-/

namespace IosProjects
namespace TicTacToe

open IosProjects.Library

/-! ## `BoardViewController` -/

inductive Player where
  | X
  | O
  deriving DecidableEq, Repr

/-- What string interpolation makes of a player. -/
def Player.name : Player → String
  | X => "X"
  | O => "O"

def CROSS : String := "X"

def NOUGHT : String := "O"

/-- `UIColor`. -/
inductive Color where
  | white
  | cyan
  | orange
  deriving DecidableEq, Repr

structure UIButton where
  title : Option String
  isEnabled : Bool
  backgroundColor : Color
  deriving DecidableEq, Repr

structure Alert where
  title : String
  alertButtonMsg : String
  deriving DecidableEq, Repr

/-- `alert` is the one being presented, if there is one. -/
structure BoardViewController where
  player1 : String
  player2 : String
  playerLabel : String
  board : Fin 9 → UIButton
  playerX : Fin 9 → ℤ
  playerO : Fin 9 → ℤ
  winner : String
  currPlayer : Player
  alert : Option Alert

def winningCombinations : List (Fin 9 × Fin 9 × Fin 9) :=
  [(0, 1, 2), (3, 4, 5), (6, 7, 8), (0, 3, 6), (1, 4, 7), (2, 5, 8), (0, 4, 8), (2, 4, 6)]

def checkWinner (player : Fin 9 → ℤ) : Bool :=
  winningCombinations.any fun (first, second, third) =>
    if player first = 0 ∨ player second = 0 ∨ player third = 0 then false
    else player first = 1 ∧ player second = 1 ∧ player third = 1

namespace BoardViewController

/-- After `viewDidLoad()`. -/
def load (player1 player2 : String) : BoardViewController where
  player1 := player1
  player2 := player2
  playerLabel := "X"
  board := fun _ => { title := none, isEnabled := true, backgroundColor := .white }
  playerX := fun _ => 0
  playerO := fun _ => 0
  winner := ""
  currPlayer := .X
  alert := none

/-- `displayMessage(title:alertButtonMsg:)`; a second alert is not presented over the first. -/
def displayMessage (title alertButtonMsg : String) (vc : BoardViewController) :
    BoardViewController :=
  match vc.alert with
  | some _ => vc
  | none => { vc with alert := some ⟨title, alertButtonMsg⟩ }

def viewDidAppear (vc : BoardViewController) : BoardViewController :=
  vc.displayMessage (vc.player1 ++ " is Player X \n " ++ vc.player2 ++ " is Player O") "Got it"

def reset (vc : BoardViewController) : BoardViewController :=
  { vc with
    playerX := fun _ => 0
    playerO := fun _ => 0
    board := fun _ => { title := none, isEnabled := true, backgroundColor := .white } }

def isBoardFull (vc : BoardViewController) : BoardViewController :=
  if ∀ i, (vc.board i).isEnabled = false then
    (vc.displayMessage "Game over" "Restart").reset
  else vc

/-- The message after a move of the player, if it wins. -/
def announceWinner (player : Fin 9 → ℤ) (vc : BoardViewController) : BoardViewController :=
  if checkWinner player then
    vc.displayMessage ("Winner is Player " ++ vc.currPlayer.name) "Restart"
  else vc

/-- The title and the colour of the button that was tapped. -/
def mark (i : Fin 9) (title : String) (color : Color) (vc : BoardViewController) :
    BoardViewController :=
  { vc with
    board := Function.update vc.board i
      { vc.board i with title := some title, backgroundColor := color } }

/-- The two branches of `boardTap(_:)`. -/
def takeTurn (i : Fin 9) (vc : BoardViewController) : BoardViewController :=
  match vc.currPlayer with
  | .O =>
      let vc := vc.mark i NOUGHT .cyan
      let vc := { vc with playerO := Function.update vc.playerO i 1 }
      let vc := vc.announceWinner vc.playerO
      { vc with currPlayer := .X, playerLabel := CROSS }
  | .X =>
      let vc := vc.mark i CROSS .orange
      let vc := { vc with playerX := Function.update vc.playerX i 1 }
      let vc := vc.announceWinner vc.playerX
      { vc with currPlayer := .O, playerLabel := NOUGHT }

/-- `sender.isEnabled = false`. -/
def disable (i : Fin 9) (vc : BoardViewController) : BoardViewController :=
  { vc with board := Function.update vc.board i { vc.board i with isEnabled := false } }

/-- `boardTap(_:)` for the button with tag `i`. -/
def boardTap (i : Fin 9) (vc : BoardViewController) : BoardViewController :=
  let vc := { vc with winner := "Player " ++ vc.currPlayer.name }
  ((vc.takeTurn i).disable i).isBoardFull

def restartGame (vc : BoardViewController) : BoardViewController :=
  vc.reset

/-- The alert is dismissed by its one action, whose handler resets the board. -/
def alertAction (vc : BoardViewController) : BoardViewController :=
  reset { vc with alert := none }

end BoardViewController

/-! ## Steps -/

inductive BoardEvent where
  | viewDidAppear
  | boardTap (i : Fin 9)
  | restartGame
  | alertAction
  deriving DecidableEq, Repr

/-- Neither taps nor Restart are delivered while an alert is up, and taps only to enabled
buttons. -/
inductive BoardStep : BoardViewController → BoardEvent → BoardViewController → Prop where
  | viewDidAppear {vc : BoardViewController} : BoardStep vc .viewDidAppear vc.viewDidAppear
  | boardTap {vc : BoardViewController} {i : Fin 9} :
      vc.alert = none → (vc.board i).isEnabled = true →
      BoardStep vc (.boardTap i) (vc.boardTap i)
  | restartGame {vc : BoardViewController} :
      vc.alert = none → BoardStep vc .restartGame vc.restartGame
  | alertAction {vc : BoardViewController} {alert : Alert} :
      vc.alert = some alert → BoardStep vc .alertAction vc.alertAction

/-! ## The position on the board -/

/-- The marks of a player. -/
def BoardViewController.marks (vc : BoardViewController) : Player → Fin 9 → ℤ
  | .X => vc.playerX
  | .O => vc.playerO

def Player.other : Player → Player
  | X => O
  | O => X

/-- The cells an array marks. -/
def marked (player : Fin 9 → ℤ) : Finset (Fin 9) :=
  Finset.univ.filter fun i => player i = 1

@[simp] theorem mem_marked {player : Fin 9 → ℤ} {i : Fin 9} : i ∈ marked player ↔ player i = 1 := by
  simp [marked]

theorem marked_update (player : Fin 9 → ℤ) (i : Fin 9) :
    marked (Function.update player i 1) = insert i (marked player) := by
  ext j
  by_cases hsame : j = i
  · subst hsame
    simp
  · simp [hsame]

/-- The winning combinations as sets. -/
def lines : List (Finset (Fin 9)) :=
  winningCombinations.map fun (first, second, third) => {first, second, third}

theorem checkWinner_iff {player : Fin 9 → ℤ} :
    checkWinner player = true ↔ Complete lines (marked player) := by
  have hcombo : ∀ first second third : Fin 9,
      (if player first = 0 ∨ player second = 0 ∨ player third = 0 then false
        else decide (player first = 1 ∧ player second = 1 ∧ player third = 1)) = true ↔
        ({first, second, third} : Finset (Fin 9)) ⊆ marked player := by
    intro first second third
    simp only [Finset.insert_subset_iff, Finset.singleton_subset_iff, mem_marked]
    split
    · refine iff_of_false (by decide) ?_
      omega
    · exact decide_eq_true_iff
  simp only [checkWinner, List.any_eq_true, Complete, lines, List.mem_map, Prod.exists, hcombo]
  constructor
  · rintro ⟨first, second, third, hcombination, hsub⟩
    exact ⟨_, ⟨first, second, third, hcombination, rfl⟩, hsub⟩
  · rintro ⟨_, ⟨first, second, third, hcombination, rfl⟩, hsub⟩
    exact ⟨first, second, third, hcombination, hsub⟩

theorem lines_nonempty : ∀ line ∈ lines, line.Nonempty := by
  intro line hline
  rcases List.mem_map.1 hline with ⟨⟨first, second, third⟩, _, rfl⟩
  exact Finset.insert_nonempty _ _

namespace BoardViewController

variable {vc : BoardViewController}

theorem displayMessage_eq (title alertButtonMsg : String) (vc : BoardViewController) :
    vc.displayMessage title alertButtonMsg =
      { vc with alert := some (vc.alert.getD ⟨title, alertButtonMsg⟩) } := by
  unfold displayMessage
  rcases vc with ⟨_, _, _, _, _, _, _, _, alert⟩
  cases alert <;> rfl

theorem announceWinner_eq (player : Fin 9 → ℤ) (vc : BoardViewController) :
    vc.announceWinner player =
      { vc with
        alert :=
          if checkWinner player then
            some (vc.alert.getD ⟨"Winner is Player " ++ vc.currPlayer.name, "Restart"⟩)
          else vc.alert } := by
  unfold announceWinner
  split
  · rw [displayMessage_eq]
  · rfl

/-- The alert after the turn of a player whose array becomes `player`. -/
def alertAfter (player : Fin 9 → ℤ) (vc : BoardViewController) : Option Alert :=
  if checkWinner player then
    some (vc.alert.getD ⟨"Winner is Player " ++ vc.currPlayer.name, "Restart"⟩)
  else vc.alert

theorem takeTurn_X (h : vc.currPlayer = .X) (i : Fin 9) :
    (vc.takeTurn i).disable i =
      { vc with
        playerLabel := NOUGHT
        board := Function.update vc.board i ⟨some CROSS, false, .orange⟩
        playerX := Function.update vc.playerX i 1
        currPlayer := .O
        alert := vc.alertAfter (Function.update vc.playerX i 1) } := by
  simp [takeTurn, h, mark, announceWinner_eq, disable, alertAfter]

theorem takeTurn_O (h : vc.currPlayer = .O) (i : Fin 9) :
    (vc.takeTurn i).disable i =
      { vc with
        playerLabel := CROSS
        board := Function.update vc.board i ⟨some NOUGHT, false, .cyan⟩
        playerO := Function.update vc.playerO i 1
        currPlayer := .X
        alert := vc.alertAfter (Function.update vc.playerO i 1) } := by
  simp [takeTurn, h, mark, announceWinner_eq, disable, alertAfter]

theorem alert_turn (vc : BoardViewController) (i : Fin 9) :
    ((vc.takeTurn i).disable i).alert =
      vc.alertAfter (Function.update (vc.marks vc.currPlayer) i 1) := by
  cases hplayer : vc.currPlayer with
  | X => rw [takeTurn_X hplayer, marks]
  | O => rw [takeTurn_O hplayer, marks]

end BoardViewController

/-- The board shows the position: the arrays hold the cells of the two players, the free cells are
enabled, and the others have the mark of their owner. -/
structure Shows (vc : BoardViewController) (m : Marking (Fin 9)) : Prop where
  mine : m.mine = marked (vc.marks vc.currPlayer)
  theirs : m.theirs = marked (vc.marks vc.currPlayer.other)
  enabled : ∀ i, (vc.board i).isEnabled = true ↔ vc.playerX i ≠ 1 ∧ vc.playerO i ≠ 1
  title : ∀ i, (vc.board i).title =
    if vc.playerX i = 1 then some CROSS else if vc.playerO i = 1 then some NOUGHT else none

namespace Shows

variable {vc : BoardViewController} {m : Marking (Fin 9)}

theorem free_iff (h : Shows vc m) (i : Fin 9) : m.Free i ↔ (vc.board i).isEnabled = true := by
  have hfree : m.Free i ↔
      vc.marks vc.currPlayer i ≠ 1 ∧ vc.marks vc.currPlayer.other i ≠ 1 := by
    rw [Marking.Free, h.mine, h.theirs, mem_marked, mem_marked]
  rw [h.enabled, hfree]
  cases vc.currPlayer with
  | X => exact Iff.rfl
  | O => exact and_comm

theorem reset (vc : BoardViewController) : Shows vc.reset .empty where
  mine := by cases hplayer : vc.currPlayer <;> simp [BoardViewController.reset, hplayer, marked,
    Marking.empty, BoardViewController.marks]
  theirs := by cases hplayer : vc.currPlayer <;> simp [BoardViewController.reset, hplayer, marked,
    Marking.empty, BoardViewController.marks, Player.other]
  enabled := by simp [BoardViewController.reset]
  title := by simp [BoardViewController.reset]

theorem takeTurn (h : Shows vc m) {i : Fin 9} (hi : m.Free i) :
    Shows ((vc.takeTurn i).disable i) (m.move i hi) := by
  obtain ⟨hX, hO⟩ := (h.enabled i).1 ((h.free_iff i).1 hi)
  have hmine := h.mine
  have htheirs := h.theirs
  cases hplayer : vc.currPlayer with
  | X =>
      rw [hplayer] at hmine htheirs
      rw [BoardViewController.takeTurn_X hplayer]
      constructor
      · exact htheirs
      · exact (congrArg (insert i) hmine).trans (marked_update vc.playerX i).symm
      · intro j
        by_cases hsame : j = i
        · subst hsame
          simp
        · simpa [hsame] using h.enabled j
      · intro j
        by_cases hsame : j = i
        · subst hsame
          simp
        · simpa [hsame] using h.title j
  | O =>
      rw [hplayer] at hmine htheirs
      rw [BoardViewController.takeTurn_O hplayer]
      constructor
      · exact htheirs
      · exact (congrArg (insert i) hmine).trans (marked_update vc.playerO i).symm
      · intro j
        by_cases hsame : j = i
        · subst hsame
          simp
        · simpa [hsame] using h.enabled j
      · intro j
        by_cases hsame : j = i
        · subst hsame
          simp [hX]
        · simpa [hsame] using h.title j

/-- The alert after a turn tells whether the player who moved has a line. -/
theorem alert_takeTurn (h : Shows vc m) (halert : vc.alert = none) {i : Fin 9} :
    ((vc.takeTurn i).disable i).alert = none ↔ ¬ Complete lines (insert i m.mine) := by
  have hmarked : marked (Function.update (vc.marks vc.currPlayer) i 1) = insert i m.mine :=
    (marked_update _ i).trans (congrArg (insert i) h.mine.symm)
  rw [BoardViewController.alert_turn, ← hmarked, ← checkWinner_iff]
  simp [BoardViewController.alertAfter, halert]

end Shows

/-! ## Runs -/

/-- The board shows a position in which the player to move has no line, and neither has the other
unless an alert is up. -/
def BoardInvariant (vc : BoardViewController) : Prop :=
  ∃ m : Marking (Fin 9), Shows vc m ∧ ¬ Complete lines m.mine ∧ (vc.alert = none → m.Open lines)

theorem boardInvariant_of_empty {vc : BoardViewController} (h : Shows vc .empty) :
    BoardInvariant vc :=
  ⟨.empty, h, (Marking.open_empty lines_nonempty).1, fun _ => Marking.open_empty lines_nonempty⟩

/-- A message hides nothing. -/
theorem BoardInvariant.displayMessage {vc : BoardViewController} (h : BoardInvariant vc)
    (title alertButtonMsg : String) : BoardInvariant (vc.displayMessage title alertButtonMsg) := by
  rcases h with ⟨m, hshows, hmine, _⟩
  rw [BoardViewController.displayMessage_eq]
  exact ⟨m, ⟨hshows.mine, hshows.theirs, hshows.enabled, hshows.title⟩, hmine, nofun⟩

theorem BoardInvariant.isBoardFull {vc : BoardViewController} (h : BoardInvariant vc) :
    BoardInvariant vc.isBoardFull := by
  unfold BoardViewController.isBoardFull
  split
  · exact boardInvariant_of_empty (Shows.reset _)
  · exact h

theorem BoardInvariant.step {vc vc' : BoardViewController} {e : BoardEvent}
    (h : BoardInvariant vc) (hstep : BoardStep vc e vc') : BoardInvariant vc' := by
  cases hstep with
  | viewDidAppear => exact h.displayMessage _ _
  | @boardTap i halert henabled =>
      rcases h with ⟨m, hshows, _, hopen⟩
      -- the tap only sets the text of `winner` before the turn is taken
      have htapped : Shows { vc with winner := "Player " ++ vc.currPlayer.name } m :=
        ⟨hshows.mine, hshows.theirs, hshows.enabled, hshows.title⟩
      have hfree : m.Free i := (hshows.free_iff i).2 henabled
      have hopen := hopen halert
      apply BoardInvariant.isBoardFull
      refine ⟨m.move i hfree, htapped.takeTurn hfree, hopen.not_complete_mine hfree,
        fun hnone => ?_⟩
      exact (hopen.move_iff hfree).2 ((htapped.alert_takeTurn halert).1 hnone)
  | restartGame _ => exact boardInvariant_of_empty (Shows.reset vc)
  | alertAction _ => exact boardInvariant_of_empty (Shows.reset _)

theorem load_shows (player1 player2 : String) : Shows (.load player1 player2) .empty where
  mine := by simp [BoardViewController.load, BoardViewController.marks, marked, Marking.empty]
  theirs := by
    simp [BoardViewController.load, BoardViewController.marks, marked, Marking.empty, Player.other]
  enabled := by simp [BoardViewController.load]
  title := by simp [BoardViewController.load]

/-- The number of marks of a player. -/
def BoardViewController.count (vc : BoardViewController) (player : Player) : ℕ :=
  (marked (vc.marks player)).card

/-- The three representations agree, the turn is fair, and no game goes on after a win. -/
structure BoardConsistent (vc : BoardViewController) : Prop where
  notBoth : ∀ i, ¬ (vc.playerX i = 1 ∧ vc.playerO i = 1)
  disabled : ∀ i, (vc.board i).isEnabled = false ↔ vc.playerX i = 1 ∨ vc.playerO i = 1
  cross : ∀ i, (vc.board i).title = some CROSS ↔ vc.playerX i = 1
  nought : ∀ i, (vc.board i).title = some NOUGHT ↔ vc.playerO i = 1
  blank : ∀ i, (vc.board i).title = none ↔ vc.playerX i ≠ 1 ∧ vc.playerO i ≠ 1
  balance : vc.count .X ≤ vc.count .O + 1 ∧ vc.count .O ≤ vc.count .X + 1
  turn : vc.count vc.currPlayer ≤ vc.count vc.currPlayer.other
  noLine : vc.alert = none → ∀ player, ¬ Complete lines (marked (vc.marks player))
  oneLine : ¬ (Complete lines (marked vc.playerX) ∧ Complete lines (marked vc.playerO))

theorem Shows.notBoth {vc : BoardViewController} {m : Marking (Fin 9)} (h : Shows vc m)
    (i : Fin 9) :
    ¬ (vc.playerX i = 1 ∧ vc.playerO i = 1) := by
  rintro ⟨hX, hO⟩
  have hboth : i ∈ m.mine ∧ i ∈ m.theirs := by
    rw [h.mine, h.theirs, mem_marked, mem_marked]
    cases vc.currPlayer with
    | X => exact ⟨hX, hO⟩
    | O => exact ⟨hO, hX⟩
  exact Finset.disjoint_left.1 m.disjoint hboth.1 hboth.2

theorem Shows.cross {vc : BoardViewController} {m : Marking (Fin 9)} (h : Shows vc m) (i : Fin 9) :
    (vc.board i).title = some CROSS ↔ vc.playerX i = 1 := by
  rw [h.title]
  split
  · simp_all
  · split <;> simp_all [CROSS, NOUGHT]

theorem Shows.nought {vc : BoardViewController} {m : Marking (Fin 9)} (h : Shows vc m) (i : Fin 9) :
    (vc.board i).title = some NOUGHT ↔ vc.playerO i = 1 := by
  -- where both had a mark the cross would be shown
  have hnot := h.notBoth i
  rw [h.title]
  split
  · simp_all [CROSS, NOUGHT]
  · split <;> simp_all

theorem Shows.blank {vc : BoardViewController} {m : Marking (Fin 9)} (h : Shows vc m) (i : Fin 9) :
    (vc.board i).title = none ↔ vc.playerX i ≠ 1 ∧ vc.playerO i ≠ 1 := by
  rw [h.title]
  split
  · simp_all
  · split <;> simp_all

/-- No player has a line that the position does not have. -/
theorem Shows.not_complete {vc : BoardViewController} {m : Marking (Fin 9)} (h : Shows vc m)
    (hmine : ¬ Complete lines m.mine) (htheirs : ¬ Complete lines m.theirs) (player : Player) :
    ¬ Complete lines (marked (vc.marks player)) := by
  rw [h.mine] at hmine
  rw [h.theirs] at htheirs
  cases hplayer : vc.currPlayer <;> cases player <;> simp_all [Player.other]

theorem BoardInvariant.consistent {vc : BoardViewController} (h : BoardInvariant vc) :
    BoardConsistent vc := by
  rcases h with ⟨m, hshows, hmine, hopen⟩
  have hle : vc.count vc.currPlayer ≤ vc.count vc.currPlayer.other := by
    rw [BoardViewController.count, BoardViewController.count, ← hshows.mine, ← hshows.theirs]
    exact m.mine_le
  have hge : vc.count vc.currPlayer.other ≤ vc.count vc.currPlayer + 1 := by
    rw [BoardViewController.count, BoardViewController.count, ← hshows.mine, ← hshows.theirs]
    exact m.theirs_le
  exact {
    notBoth := hshows.notBoth
    disabled := by
      intro i
      rw [← Bool.not_eq_true, hshows.enabled]
      tauto
    cross := hshows.cross
    nought := hshows.nought
    blank := hshows.blank
    balance := by
      cases hplayer : vc.currPlayer with
      | X =>
          rw [hplayer] at hle hge
          exact ⟨hle.trans (Nat.le_succ _), hge⟩
      | O =>
          rw [hplayer] at hle hge
          exact ⟨hge, hle.trans (Nat.le_succ _)⟩
    turn := hle
    noLine := fun halert => hshows.not_complete (hopen halert).1 (hopen halert).2
    oneLine := by
      -- one of the two is the player to move, who has no line even while an alert is up
      rintro ⟨hX, hO⟩
      rw [hshows.mine] at hmine
      cases hplayer : vc.currPlayer with
      | X =>
          rw [hplayer] at hmine
          exact hmine hX
      | O =>
          rw [hplayer] at hmine
          exact hmine hO }

/-- The board is consistent in every state of every run, however many games it holds. -/
theorem board_consistent {player1 player2 : String} {es : List BoardEvent}
    {vc : BoardViewController} (hrun : Run BoardStep (.load player1 player2) es vc) :
    BoardConsistent vc := by
  have hinvariant : BoardInvariant vc := by
    refine hrun.invariant (fun vc e vc' h hstep => BoardInvariant.step h hstep) ?_
    exact boardInvariant_of_empty (load_shows player1 player2)
  exact hinvariant.consistent

/-- Three moves of the first player in a row of the board against two of the second. -/
theorem won_game_run :
    Run BoardStep (.load "alice" "bob")
      [.boardTap 0, .boardTap 3, .boardTap 1, .boardTap 4, .boardTap 2, .alertAction, .boardTap 8]
      (((((((BoardViewController.load "alice" "bob").boardTap 0).boardTap 3).boardTap 1).boardTap
        4).boardTap 2).alertAction.boardTap 8) :=
  ((((((Run.single (.boardTap (by decide) (by decide))).snoc
    (.boardTap (by decide) (by decide))).snoc
    (.boardTap (by decide) (by decide))).snoc
    (.boardTap (by decide) (by decide))).snoc
    (.boardTap (by decide) (by decide))).snoc
    (@BoardStep.alertAction _ ⟨"Winner is Player X", "Restart"⟩ (by decide))).snoc
    (.boardTap (by decide) (by decide))

theorem won_game_consistent :
    BoardConsistent (((((((BoardViewController.load "alice" "bob").boardTap 0).boardTap 3).boardTap
      1).boardTap 4).boardTap 2).alertAction.boardTap 8) :=
  board_consistent won_game_run

end TicTacToe
end IosProjects
