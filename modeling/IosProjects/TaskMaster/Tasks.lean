import Mathlib.Data.Finmap
import Mathlib.Order.WithBot
import IosProjects.TaskMaster.DateFormatter

/-!
# Tasks — the managed object context

View controllers hold references to `Task` objects, and the attributes live in the context they
share. A reference is an `ObjectID`, and the context gives each object its attributes. A deleted
object has none; identifiers are never used again.

Every fetch of the app goes through this one context and sees its unsaved changes. So whether a save
succeeds makes no difference to what the app shows, and saves are left out, except where the code
branches on one.
-/

namespace IosProjects
namespace TaskMaster

abbrev ObjectID := ℕ

/-- The attributes of a task, without its colour. -/
structure Task where
  title : Option String
  dueDate : Option Date
  isCompleted : Bool
  deriving DecidableEq, Repr

/-- The live objects; identifiers from `nextID` on have not been given out. -/
@[ext] structure ManagedObjectContext where
  objects : Finmap fun _ : ObjectID => Task
  nextID : ObjectID
  id_lt : ∀ id ∈ objects, id < nextID

namespace ManagedObjectContext

variable (context : ManagedObjectContext)

def task (id : ObjectID) : Option Task :=
  context.objects.lookup id

/-- `task.dueDate`. -/
def dueDate (id : ObjectID) : Option Date :=
  (context.task id).bind Task.dueDate

/-- The task exists and `task.isCompleted` is the given value. -/
def Marked (completed : Bool) (id : ObjectID) : Prop :=
  (context.task id).map Task.isCompleted = some completed

instance (completed : Bool) (id : ObjectID) : Decidable (context.Marked completed id) :=
  inferInstanceAs (Decidable (_ = _))

/-- A context without objects. -/
def empty : ManagedObjectContext where
  objects := ∅
  nextID := 0
  id_lt := fun _ h => (Finmap.notMem_empty h).elim

/-! ## Changing objects -/

/-- `context.delete(task)`. -/
def delete (id : ObjectID) : ManagedObjectContext where
  objects := context.objects.erase id
  nextID := context.nextID
  id_lt := fun id' h => context.id_lt id' (Finmap.mem_erase.1 h).2

/-- Assigning to attributes of a task; nothing happens to an object that is gone. -/
def modify (id : ObjectID) (f : Task → Task) : ManagedObjectContext :=
  match h : context.task id with
  | none => context
  | some task =>
      { objects := context.objects.insert id (f task)
        nextID := context.nextID
        id_lt := by
          intro id' hmem
          rcases Finmap.mem_insert.1 hmem with rfl | hmem
          · exact context.id_lt id' (Finmap.mem_of_lookup_eq_some h)
          · exact context.id_lt id' hmem }

/-- `task.isCompleted.toggle()`. -/
def toggle (id : ObjectID) : ManagedObjectContext :=
  context.modify id fun task => { task with isCompleted := !task.isCompleted }

/-- `Task(context:)` with its attributes assigned; the new object is `context.nextID`. -/
def insert (task : Task) : ManagedObjectContext where
  objects := context.objects.insert context.nextID task
  nextID := context.nextID + 1
  id_lt := by
    intro id' hmem
    rcases Finmap.mem_insert.1 hmem with rfl | hmem
    · exact Nat.lt_succ_self _
    · exact (context.id_lt id' hmem).trans (Nat.lt_succ_self _)

variable {context}

theorem task_eq_some_lt {id : ObjectID} {task : Task} (h : context.task id = some task) :
    id < context.nextID :=
  context.id_lt id (Finmap.mem_of_lookup_eq_some h)

@[simp] theorem task_empty (id : ObjectID) : empty.task id = none := by
  simp [task, empty]

@[simp] theorem task_delete (id id' : ObjectID) :
    (context.delete id).task id' = if id' = id then none else context.task id' := by
  by_cases h : id' = id
  · subst h
    simp [task, delete]
  · simp [task, delete, h, Finmap.lookup_erase_ne h]

@[simp] theorem task_modify (id id' : ObjectID) (f : Task → Task) :
    (context.modify id f).task id' =
      if id' = id then (context.task id').map f else context.task id' := by
  unfold modify
  split
  · rename_i h
    by_cases hid : id' = id
    · subst hid
      simp [h]
    · simp [hid]
  · rename_i task h
    by_cases hid : id' = id
    · subst hid
      have htask : Finmap.lookup id' context.objects = some task := h
      simp [ManagedObjectContext.task, htask]
    · simp [ManagedObjectContext.task, hid, Finmap.lookup_insert_of_ne _ hid]

@[simp] theorem nextID_modify (id : ObjectID) (f : Task → Task) :
    (context.modify id f).nextID = context.nextID := by
  unfold modify
  split <;> rfl

@[simp] theorem task_insert (new : Task) (id' : ObjectID) :
    (context.insert new).task id' =
      if id' = context.nextID then some new else context.task id' := by
  by_cases h : id' = context.nextID
  · subst h
    simp [task, insert]
  · simp [task, insert, h, Finmap.lookup_insert_of_ne _ h]

theorem dueDate_delete_of_ne {id id' : ObjectID} (h : id' ≠ id) :
    (context.delete id).dueDate id' = context.dueDate id' := by
  simp [dueDate, h]

theorem marked_delete {completed : Bool} {id id' : ObjectID} :
    (context.delete id).Marked completed id' ↔ id' ≠ id ∧ context.Marked completed id' := by
  by_cases h : id' = id <;> simp [Marked, h]

/-! ## Fetching -/

variable (context) in
/-- The answers `context.fetch(request)` may give to `isCompleted == completed`: the tasks in any
order. -/
structure IsFetch (completed : Bool) (ids : List ObjectID) : Prop where
  nodup : ids.Nodup
  mem_iff : ∀ id, id ∈ ids ↔ context.Marked completed id

theorem IsFetch.lt_nextID {completed : Bool} {ids : List ObjectID}
    (h : context.IsFetch completed ids) : ∀ id ∈ ids, id < context.nextID := by
  intro id hid
  rcases Option.map_eq_some_iff.1 ((h.mem_iff id).1 hid) with ⟨_, htask, _⟩
  exact task_eq_some_lt htask

variable (context) in
/-- What a sort descriptor for `dueDate` compares; no due date comes first. -/
def sortKey (id : ObjectID) : WithBot Date :=
  match context.dueDate id with
  | none => ⊥
  | some dueDate => dueDate

variable (context) in
/-- The answers when the request sorts ascending by `dueDate`, ties in any order. -/
structure IsFetchByDueDate (completed : Bool) (ids : List ObjectID) : Prop
    extends context.IsFetch completed ids where
  sorted : ids.Pairwise fun a b => context.sortKey a ≤ context.sortKey b

end ManagedObjectContext

end TaskMaster
end IosProjects
