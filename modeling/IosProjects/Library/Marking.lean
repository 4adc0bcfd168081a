import Mathlib.Data.Finset.Card

/-!
# Marking — two players taking the cells of a board in turn

A position of such a game is told from the side of the player to move: `mine` are the cells of that
player and `theirs` those of the other. A move takes a free cell and changes sides, so nothing has
to be said twice for the two players.

* `Marking` — positions, with the balance of the two sets that alternate moves keep;
* `move` — taking a free cell;
* `Complete lines cells` — some line lies within the cells, and `Open` that neither player has one;
* a move from an open position completes a line of at most the player who made it.
-/

namespace IosProjects
namespace Library

universe u

variable {ι : Type u} [DecidableEq ι]

/-- The player to move never has more cells, and at most one less. -/
structure Marking (ι : Type u) [DecidableEq ι] where
  mine : Finset ι
  theirs : Finset ι
  disjoint : Disjoint mine theirs
  mine_le : mine.card ≤ theirs.card
  theirs_le : theirs.card ≤ mine.card + 1

/-- Some line lies within the cells. -/
def Complete (lines : List (Finset ι)) (cells : Finset ι) : Prop :=
  ∃ line ∈ lines, line ⊆ cells

namespace Marking

/-- The position before the first move. -/
def empty : Marking ι where
  mine := ∅
  theirs := ∅
  disjoint := Finset.disjoint_empty_left _
  mine_le := Nat.le_refl _
  theirs_le := Nat.zero_le _

variable (m : Marking ι)

/-- Nobody has the cell. -/
def Free (i : ι) : Prop :=
  i ∉ m.mine ∧ i ∉ m.theirs

/-- The player to move takes a free cell, and it is the turn of the other. -/
def move (i : ι) (h : m.Free i) : Marking ι where
  mine := m.theirs
  theirs := insert i m.mine
  disjoint := by
    rw [Finset.disjoint_insert_right]
    exact ⟨h.2, m.disjoint.symm⟩
  mine_le := by
    rw [Finset.card_insert_of_notMem h.1]
    exact m.theirs_le
  theirs_le := by
    rw [Finset.card_insert_of_notMem h.1]
    exact Nat.succ_le_succ m.mine_le

/-- Neither player has a complete line. -/
def Open (lines : List (Finset ι)) : Prop :=
  ¬ Complete lines m.mine ∧ ¬ Complete lines m.theirs

variable {m} {lines : List (Finset ι)}

theorem open_empty (hlines : ∀ line ∈ lines, line.Nonempty) :
    (empty : Marking ι).Open lines := by
  have hnone : ¬ Complete lines (∅ : Finset ι) := by
    rintro ⟨line, hline, hsub⟩
    exact (hlines line hline).ne_empty (Finset.subset_empty.1 hsub)
  exact ⟨hnone, hnone⟩

/-- The player who did not move has no line. -/
theorem Open.not_complete_mine (h : m.Open lines) {i : ι} (hi : m.Free i) :
    ¬ Complete lines (m.move i hi).mine :=
  h.2

/-- So the position stays open unless the move completed a line. -/
theorem Open.move_iff (h : m.Open lines) {i : ι} (hi : m.Free i) :
    (m.move i hi).Open lines ↔ ¬ Complete lines (insert i m.mine) :=
  ⟨And.right, fun hnone => ⟨h.2, hnone⟩⟩

end Marking

end Library
end IosProjects
