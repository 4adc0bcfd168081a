import Mathlib.Data.BitVec
import IosProjects.Library.Run

/-!
# Todos — two tabs over one entry of the user defaults

The list screen reads the stored array when it is about to appear, and stores its own copy when a
row is deleted. The screen that adds a todo reads the array again each time it saves; the same
screen, opened from a row, replaces the todo it was opened with, found by its identifier.

A cell is its text. Headers and layout are left out.
-/

namespace IosProjects
namespace TodoList

open IosProjects.Library

abbrev UUID := BitVec 128

structure Todo where
  id : UUID
  title : String
  deriving DecidableEq, Repr

/-- `JSONEncoder` and `JSONDecoder` on arrays of todos: every array is encoded, and decoded again to
itself. -/
structure JSONCoder (Data : Type) where
  encode : List Todo → Option Data
  decode : Data → Option (List Todo)
  decode_encode : ∀ todos, ∃ data, encode todos = some data ∧ decode data = some todos

section Storage

variable {Data : Type} (coder : JSONCoder Data)

/-- `loadTodos()`, from what is stored under `todos`. -/
def loadTodos (stored : Option Data) : List Todo :=
  match stored with
  | some data =>
      match coder.decode data with
      | some savedTodos => savedTodos
      | none => []
  | none => []

/-- `saveTodos(_:)`. -/
def saveTodos (todos : List Todo) (stored : Option Data) : Option Data :=
  match coder.encode todos with
  | some encodedData => some encodedData
  | none => stored

@[simp] theorem loadTodos_saveTodos (todos : List Todo) (stored : Option Data) :
    loadTodos coder (saveTodos coder todos stored) = todos := by
  rcases coder.decode_encode todos with ⟨data, hencode, hdecode⟩
  simp [saveTodos, loadTodos, hencode, hdecode]

end Storage

/-! ## `AddTodoViewController` -/

/-- The array after `todos[index] = todo`, for the first todo with the same identifier. -/
def replaceTodo (todo : Todo) (todos : List Todo) : List Todo :=
  match todos.findIdx? fun other => other.id = todo.id with
  | some index => todos.set index todo
  | none => todos

/-- What `addTodo(_:)` stores; `id` is the identifier a new todo gets. -/
def addTodo (todo : Option Todo) (title : String) (id : UUID) (todos : List Todo) : List Todo :=
  match todo with
  | some todo => replaceTodo { todo with title := title } todos
  | none => todos ++ [{ id := id, title := title }]

/-- The title `addTodo(_:)` saves for the text of the field, if it saves at all. -/
def titleToSave (text : Option String) : Option String :=
  match text with
  | some title => if title.isEmpty then none else some title
  | none => none

/-! ## The two tabs -/

inductive Tab where
  | todos
  | addTodo
  deriving DecidableEq, Repr

/-- `todos` is the copy on the list screen and `editing` the todo of the screen pushed on top of it,
if there is one; `appeared` says that `viewWillAppear` has run since the list was last shown. -/
structure AppState (Data : Type) where
  stored : Option Data
  todos : List Todo
  editing : Option Todo
  tab : Tab
  appeared : Bool

namespace AppState

variable {Data : Type} (coder : JSONCoder Data)

def launch (stored : Option Data) : AppState Data where
  stored := stored
  todos := []
  editing := none
  tab := .todos
  appeared := false

/-- The list is on the screen and has appeared. -/
structure ListTouchable (s : AppState Data) : Prop where
  tab : s.tab = .todos
  editing : s.editing = none
  appeared : s.appeared = true

/-- `tableView(_:numberOfRowsInSection:)`. -/
def numberOfRowsInSection (s : AppState Data) : ℕ :=
  s.todos.length

/-- The text of the cell that `tableView(_:cellForRowAt:)` returns; out of range it traps. -/
def cellForRowAt (row : ℕ) (s : AppState Data) : Option String :=
  s.todos[row]?.map Todo.title

/-- `TodoListViewController.viewWillAppear(_:)`. -/
def viewWillAppear (s : AppState Data) : AppState Data :=
  { s with todos := loadTodos coder s.stored, appeared := true }

/-- `tableView(_:commit:forRowAt:)` for `.delete`; `todos.remove(at:)` traps out of range. -/
def commitDelete (row : ℕ) (s : AppState Data) : Option (AppState Data) :=
  if row < s.todos.length then
    -- the copy on the screen is stored, not what is stored by now
    some { s with
      todos := s.todos.eraseIdx row
      stored := saveTodos coder (s.todos.eraseIdx row) s.stored }
  else none

/-- `tableView(_:didSelectRowAt:)`; `todos[indexPath.row]` traps out of range. -/
def didSelectRowAt (row : ℕ) (s : AppState Data) : Option (AppState Data) :=
  match s.todos[row]? with
  | none => none
  | some todo => some { s with editing := some todo, appeared := false }

/-- `addTodo(_:)`, on the screen opened with `todo` or, without one, on the second tab. -/
def addTodo (todo : Option Todo) (text : Option String) (id : UUID) (s : AppState Data) :
    AppState Data :=
  match titleToSave text with
  | none => s
  | some title =>
      -- the stored array is loaded again before it is changed
      { s with
        stored := saveTodos coder (TodoList.addTodo todo title id (loadTodos coder s.stored))
          s.stored }

/-- The navigation controller goes back to the list. -/
def back (s : AppState Data) : AppState Data :=
  { s with editing := none, appeared := false }

def select (tab : Tab) (s : AppState Data) : AppState Data :=
  { s with tab := tab, appeared := false }

end AppState

/-! ## Steps -/

inductive Event where
  | viewWillAppear
  | deleteRow (row : ℕ)
  | openRow (row : ℕ)
  | saveEdited (text : Option String)
  | back
  | saveNew (text : Option String) (id : UUID)
  | select (tab : Tab)
  deriving DecidableEq, Repr

/-- The list is touched only where it has appeared. A new todo gets an identifier that is not in
use. -/
inductive Step {Data : Type} (coder : JSONCoder Data) :
    AppState Data → Event → AppState Data → Prop where
  | viewWillAppear {s : AppState Data} : Step coder s .viewWillAppear (s.viewWillAppear coder)
  | deleteRow {s t : AppState Data} {row : ℕ} :
      s.ListTouchable → s.commitDelete coder row = some t → Step coder s (.deleteRow row) t
  | openRow {s t : AppState Data} {row : ℕ} :
      s.ListTouchable → s.didSelectRowAt row = some t → Step coder s (.openRow row) t
  | saveEdited {s : AppState Data} {todo : Todo} {text : Option String} {id : UUID} :
      s.tab = .todos → s.editing = some todo →
      Step coder s (.saveEdited text) (s.addTodo coder (some todo) text id)
  | back {s : AppState Data} {todo : Todo} :
      s.tab = .todos → s.editing = some todo → Step coder s .back s.back
  | saveNew {s : AppState Data} {text : Option String} {id : UUID} :
      s.tab = .addTodo → (∀ todo ∈ loadTodos coder s.stored, todo.id ≠ id) →
      Step coder s (.saveNew text id) (s.addTodo coder none text id)
  | select {s : AppState Data} {tab : Tab} : Step coder s (.select tab) (s.select tab)

end TodoList
end IosProjects
