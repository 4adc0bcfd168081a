import IosProjects.Library.Run
import IosProjects.Library.UnitOfWork

/-!
# People — calls whose save fails

Every call of `CoreDataSetup` works in the one `viewContext` and ends in a save. When that save
fails, the call reports it and returns, and what it had inserted or deleted stays in the context.

Attributes are those of the creation, no code of the sample changes them. Deleting in batches behind
the back of the context is left out.
-/

namespace IosProjects
namespace CoreData

open IosProjects.Library

/-- A managed object; each `Person(context:)` is a new one. -/
structure Person where
  objectID : ℕ
  name : String
  age : Int16
  deriving DecidableEq

/-- `Int16(age)`, which traps on an integer out of range. -/
def int16 (age : ℤ) : Option Int16 :=
  if Int16.minValue.toInt ≤ age ∧ age ≤ Int16.maxValue.toInt then some (Int16.ofInt age) else none

/-! ## `viewContext` -/

/-- Objects from `nextID` on have not been made. -/
structure ViewContext where
  work : UnitOfWork Person
  nextID : ℕ
  stored_lt : ∀ person ∈ work.stored, person.objectID < nextID
  inserted_lt : ∀ person ∈ work.inserted, person.objectID < nextID

namespace ViewContext

def empty : ViewContext where
  work := .empty
  nextID := 0
  stored_lt := fun _ h => (Finset.notMem_empty _ h).elim
  inserted_lt := fun _ h => (Finset.notMem_empty _ h).elim

variable (context : ViewContext)

/-- The persisted people. -/
def stored : Finset Person :=
  context.work.stored

/-- `context.hasChanges`. -/
def hasChanges : Prop :=
  context.work.inserted.Nonempty ∨ context.work.deleted.Nonempty

instance : Decidable context.hasChanges :=
  inferInstanceAs (Decidable (_ ∨ _))

/-- `context.save()`; `saved` tells whether it succeeds. -/
def save (saved : Bool) : ViewContext where
  work := context.work.save saved
  nextID := context.nextID
  stored_lt := by
    intro person hperson
    cases saved with
    | false => exact context.stored_lt person hperson
    | true =>
        rcases UnitOfWork.mem_stored_save.1 hperson with ⟨hold, _⟩ | hnew
        · exact context.stored_lt person hold
        · exact context.inserted_lt person hnew
  inserted_lt := by
    intro person hperson
    cases saved with
    | false => exact context.inserted_lt person hperson
    | true =>
        rw [UnitOfWork.pending_save.1] at hperson
        exact (Finset.notMem_empty _ hperson).elim

/-- The object that `Person(context:)` makes, with its attributes. -/
def newPerson (name : String) (age : Int16) : Person where
  objectID := context.nextID
  name := name
  age := age

theorem newPerson_notMem_stored (name : String) (age : Int16) :
    context.newPerson name age ∉ context.work.stored :=
  fun h => (context.stored_lt _ h).ne rfl

theorem newPerson_notMem_inserted (name : String) (age : Int16) :
    context.newPerson name age ∉ context.work.inserted :=
  fun h => (context.inserted_lt _ h).ne rfl

/-- `Person(context:)`. -/
def insert (name : String) (age : Int16) : ViewContext where
  work := context.work.insert _ (context.newPerson_notMem_stored name age)
  nextID := context.nextID + 1
  stored_lt := fun person h => (context.stored_lt person h).trans (Nat.lt_succ_self _)
  inserted_lt := by
    intro person h
    rcases Finset.mem_insert.1 h with rfl | h
    · exact Nat.lt_succ_self _
    · exact (context.inserted_lt person h).trans (Nat.lt_succ_self _)

/-- `context.delete(person)`. -/
def delete (person : Person) : ViewContext where
  work := context.work.delete person
  nextID := context.nextID
  stored_lt := context.stored_lt
  inserted_lt := fun other h => context.inserted_lt other (Finset.mem_of_mem_erase h)

end ViewContext

/-! ## `CoreDataSetup` -/

namespace CoreDataSetup

def saveContext (saved : Bool) (context : ViewContext) : ViewContext :=
  if context.hasChanges then context.save saved else context

/-- `createPerson(name:age:)` and what it returns; `none` is a trap. -/
def createPerson (name : String) (age : ℤ) (saved : Bool) (context : ViewContext) :
    Option (ViewContext × Option Person) := do
  let age ← int16 age
  let person := context.newPerson name age
  let context := (context.insert name age).save saved
  -- nothing takes the new object out of the context when the save fails
  return (context, if saved then some person else none)

/-- `updatePerson(person:)` only saves. -/
def updatePerson (_person : Person) (saved : Bool) (context : ViewContext) : ViewContext :=
  context.save saved

def deletePerson (person : Person) (saved : Bool) (context : ViewContext) : ViewContext :=
  (context.delete person).save saved

end CoreDataSetup

/-! ## Runs of calls -/

/-- A call with its arguments, whether its save succeeds, and what it returns. -/
inductive Call where
  | createPerson (name : String) (age : ℤ) (saved : Bool) (returned : Option Person)
  | updatePerson (person : Person) (saved : Bool)
  | deletePerson (person : Person) (saved : Bool)
  | saveContext (saved : Bool)
  deriving DecidableEq

inductive CallStep : ViewContext → Call → ViewContext → Prop where
  | createPerson {c c' : ViewContext} {name : String} {age : ℤ} {saved : Bool}
      {returned : Option Person} :
      CoreDataSetup.createPerson name age saved c = some (c', returned) →
      CallStep c (.createPerson name age saved returned) c'
  | updatePerson {c : ViewContext} {person : Person} {saved : Bool} :
      CallStep c (.updatePerson person saved) (CoreDataSetup.updatePerson person saved c)
  -- a person of this context, whether it has been saved or not
  | deletePerson {c : ViewContext} {person : Person} {saved : Bool} :
      person ∈ c.work.stored ∨ person ∈ c.work.inserted →
      CallStep c (.deletePerson person saved) (CoreDataSetup.deletePerson person saved c)
  | saveContext {c : ViewContext} {saved : Bool} :
      CallStep c (.saveContext saved) (CoreDataSetup.saveContext saved c)

namespace Call

/-- The call returned the person it created. -/
def Created (person : Person) : Call → Prop
  | createPerson _ _ _ returned => returned = some person
  | updatePerson _ _ | deletePerson _ _ | saveContext _ => False

/-- The call deleted the person and its own save succeeded. -/
def Deleted (person : Person) : Call → Prop
  | deletePerson deleted saved => deleted = person ∧ saved = true
  | createPerson _ _ _ _ | updatePerson _ _ | saveContext _ => False

/-- The save of the call succeeds. -/
def Saved : Call → Prop
  | createPerson _ _ saved _ | updatePerson _ saved | deletePerson _ saved | saveContext saved =>
      saved = true

/-- Whom the call deletes. -/
def target : Call → Finset Person
  | deletePerson person _ => {person}
  | createPerson _ _ _ _ | updatePerson _ _ | saveContext _ => ∅

end Call

/-- The person was created by one of the calls, and no call since has deleted it. -/
def Kept (calls : List Call) (person : Person) : Prop :=
  HeldSince (fun later => ¬ later.Deleted person) (fun _ call => call.Created person) calls

/-! ## One call -/

/-- What a call should make of the store it finds. -/
def Call.Expected (call : Call) (stored : Finset Person) (person : Person) : Prop :=
  call.Created person ∨ person ∈ stored ∧ ¬ call.Deleted person

/-- A call whose save fails creates and deletes nobody, and stores nothing. -/
theorem expected_of_not_saved {c c' : ViewContext} {call : Call} (hstep : CallStep c call c')
    (hsaved : ¬ call.Saved) (person : Person) :
    person ∈ c'.stored ↔ call.Expected c.stored person := by
  cases hstep with
  | @createPerson _ name age saved returned hcall =>
      -- the call returns nil, and the new object stays pending
      obtain rfl : saved = false := by simpa [Call.Saved] using hsaved
      rcases Option.bind_eq_some_iff.1 hcall with ⟨age', _, hreturn⟩
      obtain ⟨rfl, rfl⟩ : _ ∧ none = returned := by simpa using hreturn
      simp [Call.Expected, Call.Created, Call.Deleted, ViewContext.stored, ViewContext.save,
        ViewContext.insert]
  | @updatePerson other saved =>
      obtain rfl : saved = false := by simpa [Call.Saved] using hsaved
      simp [Call.Expected, Call.Created, Call.Deleted, ViewContext.stored,
        CoreDataSetup.updatePerson, ViewContext.save]
  | @deletePerson other saved _ =>
      obtain rfl : saved = false := by simpa [Call.Saved] using hsaved
      simp [Call.Expected, Call.Created, Call.Deleted, ViewContext.stored,
        CoreDataSetup.deletePerson, ViewContext.save, ViewContext.delete]
  | @saveContext saved =>
      obtain rfl : saved = false := by simpa [Call.Saved] using hsaved
      -- whether it tries to save or finds no changes
      unfold CoreDataSetup.saveContext
      split <;> simp [Call.Expected, Call.Created, Call.Deleted, ViewContext.stored,
        ViewContext.save]

/-- A call whose save succeeds does what it should exactly when nothing else was pending. -/
theorem expected_iff_of_saved {c c' : ViewContext} {call : Call} (hstep : CallStep c call c')
    (hsaved : call.Saved) :
    (∀ person, person ∈ c'.stored ↔ call.Expected c.stored person) ↔
      c.work.PendingWithin call.target := by
  cases hstep with
  | @createPerson _ name age saved returned hcall =>
      obtain rfl : saved = true := hsaved
      rcases Option.bind_eq_some_iff.1 hcall with ⟨age', _, hreturn⟩
      obtain ⟨rfl, rfl⟩ : _ ∧ some (c.newPerson name age') = returned := by simpa using hreturn
      -- the new person is neither stored nor pending before
      rw [Call.target, ← UnitOfWork.stored_insert_save_iff (c.newPerson_notMem_stored name age')
        (c.newPerson_notMem_inserted name age')]
      simp [Call.Expected, Call.Created, Call.Deleted, ViewContext.stored, ViewContext.save,
        ViewContext.insert, eq_comm]
  | @updatePerson other saved =>
      obtain rfl : saved = true := hsaved
      rw [Call.target, ← UnitOfWork.stored_save_iff]
      simp [Call.Expected, Call.Created, Call.Deleted, ViewContext.stored,
        CoreDataSetup.updatePerson, ViewContext.save]
  | @deletePerson other saved _ =>
      obtain rfl : saved = true := hsaved
      rw [Call.target, ← UnitOfWork.stored_delete_save_iff]
      simp [Call.Expected, Call.Created, Call.Deleted, ViewContext.stored,
        CoreDataSetup.deletePerson, ViewContext.save, ViewContext.delete, and_comm, eq_comm]
  | @saveContext saved =>
      obtain rfl : saved = true := hsaved
      rw [Call.target, ← UnitOfWork.stored_save_iff]
      unfold CoreDataSetup.saveContext
      split
      · simp [Call.Expected, Call.Created, Call.Deleted, ViewContext.stored, ViewContext.save]
      · -- without changes nothing is saved, and nothing is pending
        rename_i hclean
        have hnone : c.work.PendingWithin ∅ := by
          simpa [ViewContext.hasChanges, UnitOfWork.PendingWithin,
            Finset.not_nonempty_iff_eq_empty] using hclean
        refine iff_of_true (fun person => ?_) (UnitOfWork.stored_save_iff.2 hnone)
        simp [Call.Expected, Call.Created, Call.Deleted]

/-! ## Whole runs -/

/-- After every call the people stored are those created and not deleted since, if and only if no
save succeeds while the context holds a change left behind by an earlier call, other than to the
person that the call itself deletes. -/
theorem stored_iff_kept_throughout (calls : List Call) :
    ThroughoutHistory CallStep .empty calls
        (fun before context => ∀ person, person ∈ context.stored ↔ Kept before person) ↔
      Along CallStep .empty calls fun context call _ =>
        call.Saved → context.work.PendingWithin call.target := by
  apply ThroughoutHistory.iff_along
  · intro person
    refine iff_of_false ?_ HeldSince.not_nil
    exact Finset.notMem_empty person
  · intro before c call c' _ hkept hstep
    have hexpected : ∀ person, Kept (before ++ [call]) person ↔ call.Expected c.stored person := by
      intro person
      rw [Kept, HeldSince.snoc_iff, Call.Expected, hkept, Kept]
    simp only [hexpected]
    by_cases hsaved : call.Saved
    · rw [expected_iff_of_saved hstep hsaved]
      exact ⟨fun h _ => h, fun h => h hsaved⟩
    · exact iff_of_true (expected_of_not_saved hstep hsaved) fun h => absurd h hsaved

/-- A person whose creation failed is stored with the next one created. -/
theorem failed_creation_is_stored :
    ¬ ∀ (calls : List Call) (context : ViewContext), Run CallStep .empty calls context →
      ∀ person, person ∈ context.stored ↔ Kept calls person := by
  intro h
  have hrun : Run CallStep .empty
      ([] ++ [.createPerson "Cat" 15 false none] ++
        [.createPerson "Dusty" 12 true (some ⟨1, "Dusty", 12⟩)]) _ :=
    ((Run.nil _).snoc (CallStep.createPerson rfl)).snoc (CallStep.createPerson rfl)
  have hkept := (h _ _ hrun ⟨0, "Cat", 15⟩).1 (by decide)
  rw [Kept, HeldSince.snoc_iff, HeldSince.snoc_iff] at hkept
  simp [Call.Created, HeldSince.not_nil] at hkept

end CoreData
end IosProjects
