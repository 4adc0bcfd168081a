import IosProjects.ChatApp.Chat

/-!
# ChatTable — the messages of a chat and the rows of its table

A snapshot clears and refills `messages` at once, while the table is told by blocks on the main
queue, one for each message received, and by the two reloads that come from the keyboard and from
the screen appearing. Between two reloads the table asks for the rows it counted at the last one.
-/

namespace IosProjects
namespace ChatApp

open IosProjects.Library

/-! ## The screen -/

/-- The blocks on the main queue. -/
inductive ChatBlock where
  | showLastMessage
  | clearTextField
  deriving DecidableEq, Repr

/-- `listeners` have been registered, `rows` is what the table counted when it was last reloaded,
and `blocks` is the main queue. -/
structure ChatScreen where
  viewController : ChatViewController
  listeners : ℕ
  rows : ℕ
  blocks : List ChatBlock
  deriving DecidableEq, Repr

/-- The messages a listener fills the list with. -/
def SnapshotResult.received : SnapshotResult → List Message
  | .error => []
  | .documents docs => ChatApp.received docs

namespace ChatScreen

/-- `viewDidLoad()`, which registers the first listener. -/
def viewDidLoad (uid : String) (vc : ChatViewController) : ChatScreen where
  viewController := vc.viewDidLoad uid
  listeners := 1
  rows := 0
  blocks := []

/-- `messageTableView.reloadData()`. -/
def reloadData (s : ChatScreen) : ChatScreen :=
  { s with rows := s.viewController.messages.length }

/-- `viewWillAppear(_:)`. -/
def viewWillAppear (s : ChatScreen) : ChatScreen :=
  s.reloadData

/-- `keyboardWillHide(_:)`. -/
def keyboardWillHide (s : ChatScreen) : ChatScreen :=
  { s with blocks := s.blocks ++ [.showLastMessage] }

/-- `sendMessageClick()`, with the text of the field and the user signed in. It registers one more
listener. -/
def sendMessageClick (messageText senderId : Option String) (s : ChatScreen) : ChatScreen :=
  match messageText, s.viewController.receiverId, senderId with
  | some _, some _, some _ =>
      -- `loadMessages()` adds a listener to the ones there are
      { s with blocks := s.blocks ++ [.clearTextField], listeners := s.listeners + 1 }
  | _, _, _ => s

/-- A listener runs: one block is put on the queue for each message received, and none for an
error. -/
def deliver (result : SnapshotResult) (s : ChatScreen) : ChatScreen :=
  { s with
    -- the list is emptied before anything else, also when there is an error
    viewController := s.viewController.loadMessages result
    blocks := s.blocks ++ result.received.map fun _ => .showLastMessage }

/-- The block reloads the table, unless there is nothing to scroll to. -/
def run (block : ChatBlock) (s : ChatScreen) : ChatScreen :=
  match block with
  | .showLastMessage => if s.viewController.messages.isEmpty then s else s.reloadData
  | .clearTextField => s

/-- `messages[indexPath.row]`, with which `cellForRowAt` and `heightForRowAt` begin; an index out of
range traps. -/
def message (row : ℕ) (s : ChatScreen) : Option Message :=
  s.viewController.messages[row]?

end ChatScreen

inductive ChatScreenEvent where
  | viewWillAppear
  | keyboardWillHide
  | sendMessageClick (messageText senderId : Option String)
  | deliver (listener : ℕ) (result : SnapshotResult)
  | runBlock

/-- Each step is one turn of the main queue. -/
inductive ChatScreenStep : ChatScreen → ChatScreenEvent → ChatScreen → Prop where
  | viewWillAppear {s : ChatScreen} : ChatScreenStep s .viewWillAppear s.viewWillAppear
  | keyboardWillHide {s : ChatScreen} : ChatScreenStep s .keyboardWillHide s.keyboardWillHide
  | sendMessageClick {s : ChatScreen} {messageText senderId : Option String} :
      ChatScreenStep s (.sendMessageClick messageText senderId)
        (s.sendMessageClick messageText senderId)
  | deliver {s : ChatScreen} {listener : ℕ} {result : SnapshotResult} :
      listener < s.listeners → ChatScreenStep s (.deliver listener result) (s.deliver result)
  | runBlock {s : ChatScreen} {block : ChatBlock} {blocks : List ChatBlock} :
      s.blocks = block :: blocks →
      ChatScreenStep s .runBlock (ChatScreen.run block { s with blocks := blocks })

/-! ## Rows -/

/-- The table has no more rows than there are messages, so every row it can ask for has one. -/
structure RowsValid (s : ChatScreen) : Prop where
  rows_le : s.rows ≤ s.viewController.messages.length
  message : ∀ row < s.rows, (s.message row).isSome

theorem rowsValid_iff {s : ChatScreen} :
    RowsValid s ↔ s.rows ≤ s.viewController.messages.length := by
  constructor
  · exact RowsValid.rows_le
  · intro hle
    refine ⟨hle, fun row hrow => ?_⟩
    have hlt : row < s.viewController.messages.length := lt_of_lt_of_le hrow hle
    rw [ChatScreen.message, List.getElem?_eq_getElem hlt]
    rfl

theorem rowsValid_reloadData (s : ChatScreen) : RowsValid s.reloadData :=
  rowsValid_iff.2 le_rfl

theorem rowsValid_run (block : ChatBlock) {s : ChatScreen} (h : RowsValid s) :
    RowsValid (s.run block) := by
  cases block with
  | showLastMessage =>
      simp only [ChatScreen.run]
      split
      · exact h
      · exact rowsValid_reloadData s
  | clearTextField => exact h

theorem length_messages_deliver (result : SnapshotResult) (s : ChatScreen) :
    (s.deliver result).viewController.messages.length = result.received.length := by
  cases result with
  | error => rfl
  | documents docs =>
      rw [ChatScreen.deliver, ChatViewController.loadMessages_documents, SnapshotResult.received]

/-- The event is no delivery of fewer messages than the table has rows. -/
def CoversRows (s : ChatScreen) (e : ChatScreenEvent) : Prop :=
  ∀ listener result, e = .deliver listener result → s.rows ≤ result.received.length

/-- Only a delivery that does not cover the rows takes the table out of range. -/
theorem rowsValid_step_iff {s t : ChatScreen} {e : ChatScreenEvent} (h : RowsValid s)
    (hstep : ChatScreenStep s e t) : RowsValid t ↔ CoversRows s e := by
  have hother : (∀ listener result, e ≠ .deliver listener result) → CoversRows s e :=
    fun hne listener result he => absurd he (hne listener result)
  cases hstep with
  | viewWillAppear =>
      exact iff_of_true (rowsValid_reloadData s) (hother fun _ _ he => nomatch he)
  | keyboardWillHide =>
      exact iff_of_true ⟨h.rows_le, h.message⟩ (hother fun _ _ he => nomatch he)
  | @sendMessageClick messageText senderId =>
      refine iff_of_true ?_ (hother fun _ _ he => nomatch he)
      unfold ChatScreen.sendMessageClick
      split
      · exact ⟨h.rows_le, h.message⟩
      · exact h
  | @deliver listener result _ =>
      rw [rowsValid_iff, length_messages_deliver]
      constructor
      · rintro hle _ _ ⟨⟩
        exact hle
      · exact fun hcovers => hcovers listener result rfl
  | @runBlock block blocks _ =>
      refine iff_of_true ?_ (hother fun _ _ he => nomatch he)
      exact rowsValid_run block ⟨h.rows_le, h.message⟩

/-- In every turn of a run the table stays in range if and only if every listener that ran was given
at least as many messages as the table had rows. -/
theorem rowsValid_throughout_iff (uid : String) (vc : ChatViewController)
    (es : List ChatScreenEvent) :
    Throughout ChatScreenStep (.viewDidLoad uid vc) es RowsValid ↔
      Along ChatScreenStep (.viewDidLoad uid vc) es fun s e _ => CoversRows s e :=
  Throughout.iff_along (rowsValid_iff.2 (Nat.zero_le _)) fun _ _ _ _ _ h hstep =>
    rowsValid_step_iff h hstep

def aliceToBob : Message where
  id := "m1"
  senderId := "alice"
  receiverId := "bob"
  body := "hello"
  timestamp := 100

/-- An error empties the list and leaves the table with the row it had. -/
theorem error_leaves_row :
    ¬ ∀ (es : List ChatScreenEvent) (s : ChatScreen),
      Run ChatScreenStep (.viewDidLoad "alice" ⟨none, some "bob", []⟩) es s → RowsValid s := by
  intro h
  have hrun : Run ChatScreenStep (.viewDidLoad "alice" ⟨none, some "bob", []⟩)
      [.deliver 0 (.documents [aliceToBob.document]), .runBlock, .deliver 0 .error] _ :=
    ((Run.single (ChatScreenStep.deliver (by decide +kernel))).snoc
      (@ChatScreenStep.runBlock _ .showLastMessage [] rfl)).snoc
      (ChatScreenStep.deliver (by decide +kernel))
  have hle := (h _ _ hrun).rows_le
  revert hle
  decide +kernel

end ChatApp
end IosProjects
