import IosProjects.Library.Lists
import IosProjects.TodoList.Todos

/-!
# NoLostUpdate — the stored array against an abstract list

The abstract list knows nothing of screens and copies: a title saved on the second tab is appended,
a title saved on the screen of a row replaces the title of that item, and deleting a row removes the
item at that position. The app refines it.
-/

namespace IosProjects
namespace TodoList

open IosProjects.Library

/-! ## The abstract list -/

/-- The items, and the identifier of the item that was tapped last, until the list is shown
again. -/
structure Items where
  items : List Todo
  tapped : Option UUID

namespace Items

def setTitle (tapped : Option UUID) (title : String) (items : List Todo) : List Todo :=
  items.map fun item => if some item.id = tapped then { item with title := title } else item

/-- A title is saved for the item that was tapped. -/
def saveEdited (text : Option String) (l : Items) : Items :=
  match titleToSave text with
  | none => l
  | some title => { l with items := setTitle l.tapped title l.items }

/-- A title is saved for a new item. -/
def saveNew (text : Option String) (id : UUID) (l : Items) : Items :=
  match titleToSave text with
  | none => l
  | some title => { l with items := l.items ++ [{ id := id, title := title }] }

/-- What the user asked for. -/
def apply (l : Items) : Event → Items
  | .viewWillAppear => l
  | .deleteRow row => { l with items := l.items.eraseIdx row }
  | .openRow row => { l with tapped := l.items[row]?.map Todo.id }
  | .saveEdited text => l.saveEdited text
  | .back => { l with tapped := none }
  | .saveNew text id => l.saveNew text id
  | .select _ => l

/-- The list that the same actions make of `items`. -/
def after (items : List Todo) (es : List Event) : Items :=
  es.foldl apply { items := items, tapped := none }

theorem after_snoc (items : List Todo) (es : List Event) (e : Event) :
    after items (es ++ [e]) = (after items es).apply e := by
  rw [after, List.foldl_append, List.foldl_cons, List.foldl_nil, ← after]

/-- Setting a title leaves the identifiers alone. -/
theorem map_id_setTitle (tapped : Option UUID) (title : String) (items : List Todo) :
    (setTitle tapped title items).map Todo.id = items.map Todo.id := by
  rw [setTitle, List.map_map]
  apply List.map_congr_left
  intro item _
  simp only [Function.comp_apply]
  split <;> rfl

end Items

/-- Where identifiers are distinct, replacing a todo by one with another title sets the title of
that item and nothing else. -/
theorem replaceTodo_eq_setTitle {todos : List Todo} (hids : (todos.map Todo.id).Nodup) (todo : Todo)
    (title : String) :
    replaceTodo { todo with title := title } todos = Items.setTitle (some todo.id) title todos := by
  rw [replaceTodo, Items.setTitle]
  refine (set_findIdx?_eq_map hids { todo with title := title }).trans ?_
  apply List.map_congr_left
  intro item _
  by_cases hid : item.id = todo.id <;> simp [hid]

/-! ## Refinement -/

section Refinement

variable {Data : Type} {coder : JSONCoder Data}

/-- The stored array is the abstract list, and so is the copy on the screen whenever it can be
touched. -/
structure Refines (coder : JSONCoder Data) (l : Items) (s : AppState Data) : Prop where
  stored : loadTodos coder s.stored = l.items
  ids_nodup : (l.items.map Todo.id).Nodup
  editing : s.editing.map Todo.id = l.tapped
  shown : s.ListTouchable → s.todos = l.items

theorem Refines.deleteRow {l : Items} {s t : AppState Data} {row : ℕ} (h : Refines coder l s)
    (htouchable : s.ListTouchable) (hdelete : s.commitDelete coder row = some t) :
    Refines coder (l.apply (.deleteRow row)) t := by
  unfold AppState.commitDelete at hdelete
  split at hdelete
  · obtain rfl := Option.some.inj hdelete
    have hshown := h.shown htouchable
    exact {
      stored := by rw [loadTodos_saveTodos, hshown]; rfl
      ids_nodup := h.ids_nodup.sublist ((List.eraseIdx_sublist _ _).map _)
      editing := h.editing
      shown := fun _ => by rw [hshown]; rfl }
  · cases hdelete

theorem Refines.openRow {l : Items} {s t : AppState Data} {row : ℕ} (h : Refines coder l s)
    (htouchable : s.ListTouchable) (hopen : s.didSelectRowAt row = some t) :
    Refines coder (l.apply (.openRow row)) t := by
  unfold AppState.didSelectRowAt at hopen
  split at hopen
  · cases hopen
  · rename_i todo htodo
    obtain rfl := Option.some.inj hopen
    rw [h.shown htouchable] at htodo
    exact {
      stored := h.stored
      ids_nodup := h.ids_nodup
      editing := by simp [Items.apply, htodo]
      shown := fun htouchable' => absurd htouchable'.appeared Bool.false_ne_true }

theorem Refines.saveEdited {l : Items} {s : AppState Data} {todo : Todo} {text : Option String}
    {id : UUID} (h : Refines coder l s) (hediting : s.editing = some todo) :
    Refines coder (l.saveEdited text) (s.addTodo coder (some todo) text id) := by
  unfold AppState.addTodo Items.saveEdited
  cases titleToSave text with
  | none => exact h
  | some title =>
      have htapped : l.tapped = some todo.id := by rw [← h.editing, hediting]; rfl
      have hreplace : TodoList.addTodo (some todo) title id (loadTodos coder s.stored) =
          Items.setTitle l.tapped title l.items := by
        rw [h.stored, htapped]
        exact replaceTodo_eq_setTitle h.ids_nodup todo title
      exact {
        stored := by simpa using hreplace
        ids_nodup := by simpa [Items.map_id_setTitle] using h.ids_nodup
        editing := h.editing
        -- the list is under the screen that saves
        shown := fun htouchable => nomatch hediting.symm.trans htouchable.editing }

theorem Refines.saveNew {l : Items} {s : AppState Data} {text : Option String} {id : UUID}
    (h : Refines coder l s) (htab : s.tab = .addTodo)
    (hfresh : ∀ todo ∈ loadTodos coder s.stored, todo.id ≠ id) :
    Refines coder (l.saveNew text id) (s.addTodo coder none text id) := by
  unfold AppState.addTodo Items.saveNew
  cases titleToSave text with
  | none => exact h
  | some title =>
      have hnew : id ∉ l.items.map Todo.id := by
        intro hmem
        rcases List.mem_map.1 hmem with ⟨todo, htodo, hid⟩
        rw [← h.stored] at htodo
        exact hfresh todo htodo hid
      exact {
        stored := by simp [TodoList.addTodo, h.stored]
        ids_nodup := by
          rw [List.map_append, List.map_singleton, ← List.concat_eq_append]
          exact h.ids_nodup.concat hnew
        editing := h.editing
        -- the other tab is shown
        shown := fun htouchable => nomatch htab.symm.trans htouchable.tab }

theorem Refines.step {l : Items} {s t : AppState Data} {e : Event} (h : Refines coder l s)
    (hstep : Step coder s e t) : Refines coder (l.apply e) t := by
  cases hstep with
  | viewWillAppear => exact ⟨h.stored, h.ids_nodup, h.editing, fun _ => h.stored⟩
  | deleteRow htouchable hdelete => exact h.deleteRow htouchable hdelete
  | openRow htouchable hopen => exact h.openRow htouchable hopen
  | saveEdited _ hediting => exact h.saveEdited hediting
  | back _ _ =>
      exact ⟨h.stored, h.ids_nodup, rfl,
        fun htouchable => absurd htouchable.appeared Bool.false_ne_true⟩
  | saveNew htab hfresh => exact h.saveNew htab hfresh
  | select =>
      exact ⟨h.stored, h.ids_nodup, h.editing,
        fun htouchable => absurd htouchable.appeared Bool.false_ne_true⟩

/-- The table has the rows of the abstract list, with their titles, and each of them can be deleted
and opened. -/
structure RowsWork (coder : JSONCoder Data) (l : Items) (s : AppState Data) : Prop where
  count : s.numberOfRowsInSection = l.items.length
  title : ∀ row < s.numberOfRowsInSection, ∃ item, l.items[row]? = some item ∧
    s.cellForRowAt row = some item.title
  delete : ∀ row < s.numberOfRowsInSection, ∃ t, Step coder s (.deleteRow row) t ∧
    loadTodos coder t.stored = l.items.eraseIdx row
  openItem : ∀ row < s.numberOfRowsInSection, ∃ item t, l.items[row]? = some item ∧
    Step coder s (.openRow row) t ∧ t.editing = some item

theorem Refines.rowsWork {l : Items} {s : AppState Data} (h : Refines coder l s)
    (htouchable : s.ListTouchable) : RowsWork coder l s := by
  have hshown : s.todos = l.items := h.shown htouchable
  have hrow : ∀ row < s.numberOfRowsInSection, ∃ item, l.items[row]? = some item := by
    intro row hlt
    rw [AppState.numberOfRowsInSection, hshown] at hlt
    exact ⟨_, List.getElem?_eq_getElem hlt⟩
  refine ⟨congrArg List.length hshown, ?_, ?_, ?_⟩
  · intro row hlt
    rcases hrow row hlt with ⟨item, hitem⟩
    exact ⟨item, hitem, by rw [AppState.cellForRowAt, hshown, hitem, Option.map_some]⟩
  · intro row hlt
    have hdelete : s.commitDelete coder row = some _ := if_pos hlt
    have hstep := Step.deleteRow htouchable hdelete
    exact ⟨_, hstep, (h.step hstep).stored⟩
  · intro row hlt
    rcases hrow row hlt with ⟨item, hitem⟩
    have hopen : s.didSelectRowAt row =
        some { s with editing := some item, appeared := false } := by
      rw [AppState.didSelectRowAt, hshown, hitem]
    exact ⟨item, _, hitem, .openRow htouchable hopen, rfl⟩

/-- The list appears where nothing is pushed over it, and can be touched then. -/
theorem Step.listTouchable {s : AppState Data} (htab : s.tab = .todos)
    (hediting : s.editing = none) : ∃ t, Step coder s .viewWillAppear t ∧ t.ListTouchable :=
  ⟨_, .viewWillAppear, htab, hediting, rfl⟩

/-- After every run the stored array is what the same actions make of the abstract list, and its
identifiers are distinct. The list can be touched once it has appeared; it shows the abstract list
then, and every row of it can be deleted and opened. -/
theorem todos_refine_items {stored : Option Data}
    (hids : ((loadTodos coder stored).map Todo.id).Nodup)
    {es : List Event} {s : AppState Data} (hrun : Run (Step coder) (.launch stored) es s) :
    loadTodos coder s.stored = (Items.after (loadTodos coder stored) es).items ∧
      ((loadTodos coder s.stored).map Todo.id).Nodup ∧
      (s.ListTouchable → s.todos = (Items.after (loadTodos coder stored) es).items) ∧
      (s.ListTouchable → RowsWork coder (Items.after (loadTodos coder stored) es) s) ∧
      (s.tab = .todos → s.editing = none →
        ∃ t, Step coder s .viewWillAppear t ∧ t.ListTouchable) := by
  have hrefines : Refines coder (Items.after (loadTodos coder stored) es) s := by
    refine hrun.invariant_history
      (P := fun es s => Refines coder (Items.after (loadTodos coder stored) es) s)
      ⟨rfl, hids, rfl, fun htouchable => absurd htouchable.appeared Bool.false_ne_true⟩ ?_
    intro es t e u _ h hstep
    rw [Items.after_snoc]
    exact h.step hstep
  refine ⟨hrefines.stored, ?_, hrefines.shown, hrefines.rowsWork, Step.listTouchable⟩
  rw [hrefines.stored]
  exact hrefines.ids_nodup

end Refinement

/-- Arrays stored as they are. -/
def plainCoder : JSONCoder (List Todo) where
  encode := some
  decode := some
  decode_encode := fun todos => ⟨todos, rfl, rfl⟩

def milk : Todo := ⟨1, "milk"⟩

def oats : Todo := ⟨2, "oats"⟩

/-- Milk is opened, bread is added on the other tab meanwhile, milk is renamed, and oats are
deleted. -/
def renameMilk : List Event :=
  [.viewWillAppear, .openRow 0, .select .addTodo, .saveNew (some "bread") 3, .select .todos,
    .saveEdited (some "oat milk"), .back, .viewWillAppear, .deleteRow 1]

theorem rename_milk_refines_items : ∃ s : AppState (List Todo),
    Run (Step plainCoder) (.launch (some [milk, oats])) renameMilk s ∧
      loadTodos plainCoder s.stored = [⟨1, "oat milk"⟩, ⟨3, "bread"⟩] ∧
      loadTodos plainCoder s.stored = (Items.after [milk, oats] renameMilk).items ∧
      RowsWork plainCoder (Items.after [milk, oats] renameMilk) s := by
  have hrun : Run (Step plainCoder) (.launch (some [milk, oats])) renameMilk _ :=
    ((((((((Run.single Step.viewWillAppear).snoc (Step.openRow ⟨rfl, rfl, rfl⟩ rfl)).snoc
      Step.select).snoc (Step.saveNew rfl (by decide +kernel))).snoc
      Step.select).snoc (@Step.saveEdited _ _ _ _ _ 0 rfl rfl)).snoc (Step.back rfl rfl)).snoc
      Step.viewWillAppear).snoc (Step.deleteRow ⟨rfl, rfl, rfl⟩ rfl)
  have hrefines := todos_refine_items (by decide +kernel) hrun
  exact ⟨_, hrun, by decide +kernel, hrefines.1, hrefines.2.2.2.1 ⟨rfl, rfl, rfl⟩⟩

end TodoList
end IosProjects
