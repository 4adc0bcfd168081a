import Mathlib.Algebra.Group.Nat.Even
import Mathlib.Data.Fintype.Card
import IosProjects.TicTacToe.Board

/-!
# Referee — the game behind the board

`BoardViewController` has no record of a game. What it shows is told here by the moves that were
made since the board was last cleared: whose turn it is, which cells each player has, and what the
alert says after a move. The turn goes by all taps of the run, so whoever is next begins the next
game.
-/

namespace IosProjects
namespace TicTacToe

open IosProjects.Library

/-! ## Games -/

/-- The player to move, and the moves made since the board was cleared. -/
structure Game where
  turn : Player
  moves : List (Player × Fin 9)
  deriving DecidableEq, Repr

namespace Game

def start : Game where
  turn := .X
  moves := []

/-- The cells that are taken, in the order in which they were. -/
def taken (g : Game) : List (Fin 9) :=
  g.moves.map Prod.snd

/-- The cells of a player. -/
def cells (player : Player) (g : Game) : Finset (Fin 9) :=
  Finset.univ.filter fun i => (player, i) ∈ g.moves

def clear (g : Game) : Game :=
  { g with moves := [] }

def move (i : Fin 9) (g : Game) : Game where
  turn := g.turn.other
  moves := g.moves ++ [(g.turn, i)]

/-- A move that leaves no free cell ends the game; a line does not end it until the alert is
dismissed. -/
def play (e : BoardEvent) (g : Game) : Game :=
  match e with
  | .viewDidAppear => g
  | .boardTap i => if (g.move i).moves.length = 9 then (g.move i).clear else g.move i
  | .restartGame => g.clear
  | .alertAction => g.clear

/-- The game after the events of a run. -/
def after (es : List BoardEvent) : Game :=
  es.foldl (fun g e => g.play e) start

/-- What is announced after a move: a line of the player who made it, or a full board. -/
def verdict (i : Fin 9) (g : Game) : Option Alert :=
  if ∃ line ∈ lines, line ⊆ (g.move i).cells g.turn then
    some ⟨"Winner is Player " ++ g.turn.name, "Restart"⟩
  else if (g.move i).moves.length = 9 then some ⟨"Game over", "Restart"⟩
  else none

theorem after_snoc (es : List BoardEvent) (e : BoardEvent) :
    after (es ++ [e]) = (after es).play e := by
  rw [after, List.foldl_append]
  rfl

theorem mem_cells {g : Game} {player : Player} {i : Fin 9} :
    i ∈ g.cells player ↔ (player, i) ∈ g.moves := by
  simp [cells]

/-- Nine different cells are all of them. -/
theorem taken_all_iff {g : Game} (hnodup : g.taken.Nodup) :
    (∀ i, i ∈ g.taken) ↔ g.moves.length = 9 := by
  have hcard : g.taken.toFinset.card = g.moves.length := by
    rw [List.toFinset_card_of_nodup hnodup, taken, List.length_map]
  rw [← hcard]
  constructor
  · intro hall
    have huniv : g.taken.toFinset = Finset.univ :=
      Finset.eq_univ_of_forall fun i => List.mem_toFinset.2 (hall i)
    rw [huniv, Finset.card_univ, Fintype.card_fin]
  · intro hnine i
    have huniv : g.taken.toFinset = Finset.univ := by
      rw [← Finset.card_eq_iff_eq_univ, hnine, Fintype.card_fin]
    exact List.mem_toFinset.1 (huniv ▸ Finset.mem_univ i)

end Game

/-! ## The board shows the game -/

theorem Player.name_injective : Function.Injective Player.name := by
  intro a b h
  cases a <;> cases b <;> first | rfl | exact absurd h (by decide)

/-- The arrays, the buttons, the turn and the label are those of the game. -/
structure Records (g : Game) (vc : BoardViewController) : Prop where
  turn : vc.currPlayer = g.turn
  label : vc.playerLabel = g.turn.name
  marks : ∀ player i, vc.marks player i = 1 ↔ (player, i) ∈ g.moves
  titles : ∀ player i, (vc.board i).title = some player.name ↔ (player, i) ∈ g.moves
  untitled : ∀ i, (vc.board i).title = none ↔ i ∉ g.taken
  enabled : ∀ i, (vc.board i).isEnabled = true ↔ i ∉ g.taken
  nodup : g.taken.Nodup

namespace Records

variable {g : Game} {vc : BoardViewController}

theorem marked_eq (h : Records g vc) (player : Player) :
    marked (vc.marks player) = g.cells player := by
  ext i
  rw [mem_marked, Game.mem_cells, h.marks]

/-- Neither messages nor the text of `winner` show anything of the game. -/
theorem congr (h : Records g vc) {vc' : BoardViewController}
    (hturn : vc'.currPlayer = vc.currPlayer)
    (hlabel : vc'.playerLabel = vc.playerLabel) (hmarks : vc'.marks = vc.marks)
    (hboard : vc'.board = vc.board) : Records g vc' where
  turn := hturn.trans h.turn
  label := hlabel.trans h.label
  marks := by
    rw [hmarks]
    exact h.marks
  titles := by
    rw [hboard]
    exact h.titles
  untitled := by
    rw [hboard]
    exact h.untitled
  enabled := by
    rw [hboard]
    exact h.enabled
  nodup := h.nodup

theorem displayMessage (h : Records g vc) (title alertButtonMsg : String) :
    Records g (vc.displayMessage title alertButtonMsg) := by
  rw [BoardViewController.displayMessage_eq]
  exact h.congr rfl rfl (by funext player; cases player <;> rfl) rfl

/-- Clearing the board keeps the turn. -/
theorem reset (h : Records g vc) : Records g.clear vc.reset where
  turn := h.turn
  label := h.label
  marks := by
    intro player i
    cases player <;> simp [BoardViewController.reset, BoardViewController.marks, Game.clear]
  titles := by simp [BoardViewController.reset, Game.clear]
  untitled := by simp [BoardViewController.reset, Game.clear, Game.taken]
  enabled := by simp [BoardViewController.reset, Game.clear, Game.taken]
  nodup := List.nodup_nil

theorem load (player1 player2 : String) : Records .start (.load player1 player2) where
  turn := rfl
  label := rfl
  marks := by
    intro player i
    cases player <;> simp [BoardViewController.load, BoardViewController.marks, Game.start]
  titles := by simp [BoardViewController.load, Game.start]
  untitled := by simp [BoardViewController.load, Game.start, Game.taken]
  enabled := by simp [BoardViewController.load, Game.start, Game.taken]
  nodup := List.nodup_nil

/-- The array of the player who moves gets the cell, and the other array stays. -/
theorem marks_turn (vc : BoardViewController) (i : Fin 9) (player : Player) :
    ((vc.takeTurn i).disable i).marks player =
      if player = vc.currPlayer then Function.update (vc.marks player) i 1
      else vc.marks player := by
  cases hturn : vc.currPlayer with
  | X => rw [BoardViewController.takeTurn_X hturn]; cases player <;> rfl
  | O => rw [BoardViewController.takeTurn_O hturn]; cases player <;> rfl

/-- The button tapped gets the name of the player for its title. -/
theorem board_turn (vc : BoardViewController) (i : Fin 9) :
    ∃ button : UIButton, button.isEnabled = false ∧ button.title = some vc.currPlayer.name ∧
      ((vc.takeTurn i).disable i).board = Function.update vc.board i button := by
  cases hturn : vc.currPlayer with
  | X =>
      rw [BoardViewController.takeTurn_X hturn]
      exact ⟨_, rfl, rfl, rfl⟩
  | O =>
      rw [BoardViewController.takeTurn_O hturn]
      exact ⟨_, rfl, rfl, rfl⟩

theorem takeTurn (h : Records g vc) {i : Fin 9} (henabled : (vc.board i).isEnabled = true) :
    Records (g.move i) ((vc.takeTurn i).disable i) where
  turn := by
    rw [Game.move, ← h.turn]
    cases hturn : vc.currPlayer with
    | X => rw [BoardViewController.takeTurn_X hturn]; rfl
    | O => rw [BoardViewController.takeTurn_O hturn]; rfl
  label := by
    rw [Game.move, ← h.turn]
    cases hturn : vc.currPlayer with
    | X => rw [BoardViewController.takeTurn_X hturn]; rfl
    | O => rw [BoardViewController.takeTurn_O hturn]; rfl
  marks := by
    intro player j
    have hmoved : (player, j) ∈ (g.move i).moves ↔
        (player, j) ∈ g.moves ∨ player = vc.currPlayer ∧ j = i := by
      simp [Game.move, h.turn]
    rw [marks_turn, hmoved, ← h.marks]
    by_cases hplayer : player = vc.currPlayer
    · by_cases hcell : j = i
      · subst hcell
        simp [hplayer]
      · simp [hplayer, hcell]
    · simp [hplayer]
  titles := by
    intro player j
    obtain ⟨button, _, htitle, hupdate⟩ := board_turn vc i
    have hmoved : (player, j) ∈ (g.move i).moves ↔
        (player, j) ∈ g.moves ∨ player = vc.currPlayer ∧ j = i := by
      simp [Game.move, h.turn]
    rw [hmoved, hupdate]
    by_cases hcell : j = i
    · -- the cell was free
      subst hcell
      have hfree : (player, j) ∉ g.moves := fun hmem =>
        (h.enabled j).1 henabled (List.mem_map.2 ⟨(player, j), hmem, rfl⟩)
      simp [htitle, hfree, Player.name_injective.eq_iff, eq_comm]
    · simp [hcell, h.titles]
  untitled := by
    intro j
    obtain ⟨button, _, htitle, hupdate⟩ := board_turn vc i
    rw [hupdate]
    by_cases hcell : j = i
    · subst hcell
      simp [htitle, Game.taken, Game.move]
    · have huntitled := h.untitled j
      simpa [hcell, Game.taken, Game.move] using huntitled
  enabled := by
    intro j
    obtain ⟨button, hbutton, _, hupdate⟩ := board_turn vc i
    have hboard : (((vc.takeTurn i).disable i).board j).isEnabled = true ↔
        (vc.board j).isEnabled = true ∧ j ≠ i := by
      rw [hupdate]
      by_cases hcell : j = i
      · subst hcell
        simp [hbutton]
      · simp [hcell]
    rw [hboard, h.enabled]
    simp [Game.taken, Game.move]
  nodup := by
    have hfree := (h.enabled i).1 henabled
    rw [Game.taken, Game.move, List.map_append]
    exact h.nodup.append (List.nodup_singleton i) (by simpa using hfree)

/-- The buttons are all disabled when the ninth cell is taken. -/
theorem full_iff (h : Records g vc) :
    (∀ i, (vc.board i).isEnabled = false) ↔ g.moves.length = 9 := by
  rw [← Game.taken_all_iff h.nodup]
  refine forall_congr' fun i => ?_
  rw [← Bool.not_eq_true, h.enabled, not_not]

theorem isBoardFull (h : Records g vc) :
    Records (if g.moves.length = 9 then g.clear else g) vc.isBoardFull := by
  unfold BoardViewController.isBoardFull
  by_cases hfull : g.moves.length = 9
  · rw [if_pos (h.full_iff.2 hfull), if_pos hfull]
    exact (h.displayMessage "Game over" "Restart").reset
  · rw [if_neg (fun hall => hfull (h.full_iff.1 hall)), if_neg hfull]
    exact h

/-- The text of `winner` is set before the turn is taken. -/
theorem tapped (h : Records g vc) :
    Records g { vc with winner := "Player " ++ vc.currPlayer.name } :=
  h.congr rfl rfl (by funext player; cases player <;> rfl) rfl

theorem step {vc' : BoardViewController} {e : BoardEvent} (h : Records g vc)
    (hstep : BoardStep vc e vc') : Records (g.play e) vc' := by
  cases hstep with
  | viewDidAppear => exact h.displayMessage _ _
  | boardTap _ henabled => exact (h.tapped.takeTurn henabled).isBoardFull
  | restartGame _ => exact h.reset
  | alertAction _ =>
      exact (h.congr rfl rfl (by funext player; cases player <;> rfl) rfl :
        Records g { vc with alert := none }).reset

/-- A turn is announced as a win if the cells of the player who took it hold a line. -/
theorem alert_takeTurn (h : Records g vc) (halert : vc.alert = none) {i : Fin 9}
    (henabled : (vc.board i).isEnabled = true) :
    ((vc.takeTurn i).disable i).alert = if ∃ line ∈ lines, line ⊆ (g.move i).cells g.turn then
      some ⟨"Winner is Player " ++ g.turn.name, "Restart"⟩ else none := by
  have hmarks := (h.takeTurn henabled).marked_eq g.turn
  rw [marks_turn, if_pos h.turn.symm] at hmarks
  have hline : checkWinner (Function.update (vc.marks g.turn) i 1) = true ↔
      ∃ line ∈ lines, line ⊆ (g.move i).cells g.turn := by
    rw [checkWinner_iff, Complete, hmarks]
  rw [BoardViewController.alert_turn, BoardViewController.alertAfter, halert, h.turn]
  exact if_congr hline rfl rfl

/-- The alert after a tap is the verdict on the move. -/
theorem alert_boardTap (h : Records g vc) (halert : vc.alert = none) {i : Fin 9}
    (henabled : (vc.board i).isEnabled = true) : (vc.boardTap i).alert = g.verdict i := by
  let vt := ({ vc with winner := "Player " ++ vc.currPlayer.name }.takeTurn i).disable i
  have hmoved : Records (g.move i) vt := h.tapped.takeTurn henabled
  have hturn := h.tapped.alert_takeTurn halert henabled
  have hfull : (vc.boardTap i).alert =
      if (g.move i).moves.length = 9 then some (vt.alert.getD ⟨"Game over", "Restart"⟩)
      else vt.alert := by
    have htap : vc.boardTap i = vt.isBoardFull := rfl
    rw [htap, BoardViewController.isBoardFull]
    by_cases hnine : (g.move i).moves.length = 9
    · rw [if_pos (hmoved.full_iff.2 hnine), if_pos hnine, BoardViewController.displayMessage_eq]
      rfl
    · rw [if_neg (fun hall => hnine (hmoved.full_iff.1 hall)), if_neg hnine]
  rw [hfull, hturn, Game.verdict]
  -- a line made with the last cell is announced as a win
  split <;> split <;> rfl

end Records

/-! ## Runs -/

section Runs

variable {player1 player2 : String} {es : List BoardEvent} {vc : BoardViewController}

theorem records_of_run (hrun : Run BoardStep (.load player1 player2) es vc) :
    Records (.after es) vc := by
  refine hrun.invariant_history (P := fun es vc => Records (.after es) vc)
    (Records.load player1 player2) ?_
  intro es s e t _ h hstep
  rw [Game.after_snoc]
  exact h.step hstep

def BoardEvent.isTap : BoardEvent → Bool
  | .boardTap _ => true
  | _ => false

/-- The turn changes with each tap, and with nothing else. -/
theorem Game.turn_after (es : List BoardEvent) :
    (Game.after es).turn = if Even (es.countP BoardEvent.isTap) then .X else .O := by
  induction es using List.reverseRecOn with
  | nil => rfl
  | append_singleton es e ih =>
      rw [Game.after_snoc, List.countP_append, List.countP_singleton]
      cases e with
      | boardTap i =>
          have hturn : ((Game.after es).play (.boardTap i)).turn = (Game.after es).turn.other := by
            simp only [Game.play]
            split <;> rfl
          rw [hturn, ih, BoardEvent.isTap, if_pos rfl]
          by_cases heven : Even (es.countP BoardEvent.isTap)
          · rw [if_pos heven, if_neg (Nat.even_add_one.not.2 (not_not.2 heven))]
            rfl
          · rw [if_neg heven, if_pos (Nat.even_add_one.2 heven)]
            rfl
      | _ => exact ih

/-- Over any number of games, a tap is announced as the win of a player exactly when that player,
who has the turn by the number of taps, completes a line with the cells taken since the board was
last cleared; otherwise as the end of the game exactly when it takes the last cell. Until then the
arrays and the titles of the buttons show who has taken what. -/
theorem announces_verdict (hrun : Run BoardStep (.load player1 player2) es vc) :
    (∀ player i, (vc.marks player i = 1 ↔ (player, i) ∈ (Game.after es).moves) ∧
        ((vc.board i).title = some player.name ↔ (player, i) ∈ (Game.after es).moves)) ∧
      (∀ i, (vc.board i).title = none ↔ i ∉ (Game.after es).taken) ∧
      vc.playerLabel = vc.currPlayer.name ∧
      vc.currPlayer = (if Even (es.countP BoardEvent.isTap) then .X else .O) ∧
      ∀ i vc', BoardStep vc (.boardTap i) vc' → vc'.alert = (Game.after es).verdict i := by
  have hrecords := records_of_run hrun
  refine ⟨fun player i => ⟨hrecords.marks player i, hrecords.titles player i⟩,
    hrecords.untitled, ?_, ?_, fun i vc' hstep => ?_⟩
  · rw [hrecords.label, hrecords.turn]
  · rw [hrecords.turn, Game.turn_after]
  · cases hstep with
    | boardTap halert henabled => exact hrecords.alert_boardTap halert henabled

end Runs

/-- The third cell of the first row is announced as the win of the player who takes it. -/
theorem won_game_announced :
    ((((((BoardViewController.load "alice" "bob").boardTap 0).boardTap 3).boardTap 1).boardTap
      4).boardTap 2).alert = some ⟨"Winner is Player X", "Restart"⟩ := by
  have hrun : Run BoardStep (.load "alice" "bob")
      [.boardTap 0, .boardTap 3, .boardTap 1, .boardTap 4] _ :=
    (((Run.single (.boardTap (by decide) (by decide))).snoc
      (.boardTap (by decide) (by decide))).snoc
      (.boardTap (by decide) (by decide))).snoc
      (.boardTap (by decide) (by decide))
  have hverdict := (announces_verdict hrun).2.2.2.2 2 _ (.boardTap (by decide) (by decide))
  exact hverdict.trans (by decide)

end TicTacToe
end IosProjects
