import Mathlib.Data.Finset.Card
import IosProjects.CoreData.People

/-!
# Launches — what the sample stores over its launches

Each launch makes the same few calls and returns at the first thing that fails. The process may end
between any two of them; the store outlives it, what is pending in the context does not. The save on
the way to the background is one of another context.
-/

namespace IosProjects
namespace CoreData

open IosProjects.Library

/-! ## Fetching -/

namespace ViewContext

variable (context : ViewContext)

/-- The people that a fetch sees, with the pending changes. -/
def people : Finset Person :=
  context.work.stored \ context.work.deleted ∪ context.work.inserted

/-- The context of another launch. -/
def reset : ViewContext where
  work := context.work.reset
  nextID := context.nextID
  stored_lt := context.stored_lt
  inserted_lt := fun _ h => (Finset.notMem_empty _ h).elim

end ViewContext

/-- A fetch returns people that match, in any order, and all of them unless it reaches its limit. -/
structure IsFetch (context : ViewContext) (matching : Person → Prop) (fetchLimit : Option ℕ)
    (people : List Person) : Prop where
  nodup : people.Nodup
  sound : ∀ person ∈ people, person ∈ context.people ∧ matching person
  within : ∀ limit, fetchLimit = some limit → people.length ≤ limit
  complete : (∀ limit, fetchLimit = some limit → people.length < limit) →
    ∀ person ∈ context.people, matching person → person ∈ people

namespace CoreDataSetup

/-- `fetchPeople()`; the answer is `none` if the fetch throws. -/
def fetchPeople (answer : Option (List Person)) : Option (List Person) :=
  answer

/-- `fetchPerson(withName:)`. -/
def fetchPerson (answer : Option (List Person)) : Option Person :=
  answer.bind List.head?

end CoreDataSetup

/-! ## `ViewController` -/

/-- The calls of `performCrudOperations()`, of which one comes next; or it has returned. -/
inductive Point where
  | createCat
  | createDusty
  | fetchPeople
  | fetchPerson
  | deletePerson (person : Person)
  | returned
  deriving DecidableEq

structure AppState where
  context : ViewContext
  point : Point

/-- Nothing has been stored, and the app does not run. -/
def AppState.installed : AppState where
  context := .empty
  point := .returned

inductive Event where
  | launch
  | call (call : Call)
  | fetchPeople (answer : Option (List Person))
  | fetchPerson (answer : Option (List Person))
  | enterBackground
  deriving DecidableEq

inductive Step : AppState → Event → AppState → Prop where
  -- whatever the launch before has come to
  | launch {s : AppState} : Step s .launch ⟨s.context.reset, .createCat⟩
  | createCat {c c' : ViewContext} {saved : Bool} {person : Option Person} :
      CoreDataSetup.createPerson "Cat" 15 saved c = some (c', person) →
      Step ⟨c, .createCat⟩ (.call (.createPerson "Cat" 15 saved person))
        ⟨c', if person.isSome then .createDusty else .returned⟩
  | createDusty {c c' : ViewContext} {saved : Bool} {person : Option Person} :
      CoreDataSetup.createPerson "Dusty" 12 saved c = some (c', person) →
      Step ⟨c, .createDusty⟩ (.call (.createPerson "Dusty" 12 saved person))
        ⟨c', if person.isSome then .fetchPeople else .returned⟩
  | fetchPeople {c : ViewContext} {answer : Option (List Person)} :
      (∀ people, answer = some people → IsFetch c (fun _ => True) none people) →
      Step ⟨c, .fetchPeople⟩ (.fetchPeople answer)
        ⟨c, if (CoreDataSetup.fetchPeople answer).isSome then .fetchPerson else .returned⟩
  | fetchPerson {c : ViewContext} {answer : Option (List Person)} :
      (∀ people, answer = some people →
        IsFetch c (fun person => person.name = "Cat") (some 1) people) →
      Step ⟨c, .fetchPerson⟩ (.fetchPerson answer)
        ⟨c, (CoreDataSetup.fetchPerson answer).elim .returned .deletePerson⟩
  | deletePerson {c : ViewContext} {person : Person} {saved : Bool} :
      Step ⟨c, .deletePerson person⟩ (.call (.deletePerson person saved))
        ⟨CoreDataSetup.deletePerson person saved c, .returned⟩
  -- the context of the delegate is its own, and nothing ever changes in it
  | enterBackground {s : AppState} : Step s .enterBackground s

def Event.asCall : Event → Option Call
  | .call made => some made
  | .launch | .fetchPeople _ | .fetchPerson _ | .enterBackground => none

/-- The calls that the launches of a run have made. -/
def callsOf (es : List Event) : List Call :=
  es.filterMap Event.asCall

/-- The call returned somebody of this name. -/
def Call.creates (name : String) : Call → Bool
  | .createPerson name' _ _ returned => name' = name && returned.isSome
  | .updatePerson _ _ | .deletePerson _ _ | .saveContext _ => false

/-- The call deleted somebody of this name, and its save succeeded. -/
def Call.deletes (name : String) : Call → Bool
  | .deletePerson person saved => person.name = name && saved
  | .createPerson _ _ _ _ | .updatePerson _ _ | .saveContext _ => false

/-- The stored people of this name. -/
def ViewContext.named (name : String) (context : ViewContext) : Finset Person :=
  context.stored.filter fun person => person.name = name

/-! ## One call -/

section Calls

variable {c c' : ViewContext} {call : Call}

theorem kept_snoc_iff {calls : List Call} {person : Person} :
    Kept (calls ++ [call]) person ↔
      call.Created person ∨ Kept calls person ∧ ¬ call.Deleted person := by
  rw [Kept, HeldSince.snoc_iff, Kept]

/-- With nothing pending before, a call does what it returns, whether its save succeeds or not. -/
theorem expected_of_clean (hclean : c.work.PendingWithin ∅) (hcall : CallStep c call c')
    (person : Person) : person ∈ c'.stored ↔ call.Expected c.stored person := by
  by_cases hsaved : call.Saved
  · have hwithin : c.work.PendingWithin call.target :=
      ⟨hclean.1.trans (Finset.empty_subset _), hclean.2.trans (Finset.empty_subset _)⟩
    exact (expected_iff_of_saved hcall hsaved).2 hwithin person
  · exact expected_of_not_saved hcall hsaved person

theorem people_of_clean (hclean : c.work.PendingWithin ∅) : c.people = c.stored := by
  have hinserted := Finset.subset_empty.1 hclean.1
  have hdeleted := Finset.subset_empty.1 hclean.2
  simp [ViewContext.people, ViewContext.stored, hinserted, hdeleted]

section Create

variable {name : String} {age : ℤ} {saved : Bool} {returned : Option Person}

theorem createPerson_eq (h : CoreDataSetup.createPerson name age saved c = some (c', returned)) :
    ∃ age', c' = (c.insert name age').save saved ∧
      returned = if saved then some (c.newPerson name age') else none := by
  rcases Option.bind_eq_some_iff.1 h with ⟨age', _, hreturn⟩
  have heq := Option.some.inj hreturn
  exact ⟨age', (congrArg Prod.fst heq).symm, (congrArg Prod.snd heq).symm⟩

/-- Somebody is returned by a call whose save succeeds, and then nothing is pending. -/
theorem clean_of_created (h : CoreDataSetup.createPerson name age saved c = some (c', returned))
    (hreturned : returned.isSome) : c'.work.PendingWithin ∅ := by
  rcases createPerson_eq h with ⟨age', rfl, rfl⟩
  cases saved with
  | true => exact ⟨Finset.Subset.refl _, Finset.Subset.refl _⟩
  | false => cases hreturned

theorem card_named_createPerson (hclean : c.work.PendingWithin ∅)
    (h : CoreDataSetup.createPerson name age saved c = some (c', returned)) (name' : String) :
    (c'.named name').card =
      (c.named name').card + if name = name' ∧ returned.isSome then 1 else 0 := by
  have hexpected := expected_of_clean hclean (CallStep.createPerson h)
  rcases createPerson_eq h with ⟨age', -, rfl⟩
  cases saved with
  | false =>
      have hstored : c'.stored = c.stored := by
        ext person
        simp [hexpected, Call.Expected, Call.Created, Call.Deleted]
      simp [ViewContext.named, hstored]
  | true =>
      have hstored : c'.stored = insert (c.newPerson name age') c.stored := by
        ext person
        simp [hexpected, Call.Expected, Call.Created, Call.Deleted, eq_comm]
      have hnamed : c'.named name' =
          if name = name' then insert (c.newPerson name age') (c.named name')
          else c.named name' := by
        rw [ViewContext.named, hstored, Finset.filter_insert]
        rfl
      have hnew : c.newPerson name age' ∉ c.named name' := fun h =>
        c.newPerson_notMem_stored name age' (Finset.mem_filter.1 h).1
      by_cases hname : name = name'
      · rw [hnamed, if_pos hname, Finset.card_insert_of_notMem hnew]
        simp [hname]
      · rw [hnamed, if_neg hname]
        simp [hname]

end Create

theorem card_named_deletePerson (hclean : c.work.PendingWithin ∅) {person : Person}
    (hperson : person ∈ c.stored) (saved : Bool) (name : String) :
    ((CoreDataSetup.deletePerson person saved c).named name).card +
        (if person.name = name ∧ saved then 1 else 0) = (c.named name).card := by
  have hcall : CallStep c (.deletePerson person saved) _ := .deletePerson (Or.inl hperson)
  have hexpected := expected_of_clean hclean hcall
  cases saved with
  | false =>
      have hstored : (CoreDataSetup.deletePerson person false c).stored = c.stored := by
        ext other
        simp [hexpected, Call.Expected, Call.Created, Call.Deleted]
      simp [ViewContext.named, hstored]
  | true =>
      have hstored : (CoreDataSetup.deletePerson person true c).stored = c.stored.erase person := by
        ext other
        simp [hexpected, Call.Expected, Call.Created, Call.Deleted, and_comm, eq_comm]
      have hnamed : (CoreDataSetup.deletePerson person true c).named name =
          (c.named name).erase person := by
        rw [ViewContext.named, hstored, Finset.filter_erase]
        rfl
      rw [hnamed]
      by_cases hname : person.name = name
      · have hmem : person ∈ c.named name := Finset.mem_filter.2 ⟨hperson, hname⟩
        simpa [hname] using Finset.card_erase_add_one hmem
      · have hnone : person ∉ c.named name := fun h => hname (Finset.mem_filter.1 h).2
        simp [hname, Finset.erase_eq_of_notMem hnone]

end Calls

/-! ## Launch after launch -/

section Runs

variable {es : List Event} {e : Event} {s t : AppState}

@[simp] theorem callsOf_snoc_call (es : List Event) (call : Call) :
    callsOf (es ++ [.call call]) = callsOf es ++ [call] := by
  simp [callsOf, Event.asCall]

theorem callsOf_snoc_of_none (h : e.asCall = none) : callsOf (es ++ [e]) = callsOf es := by
  simp [callsOf, h]

/-- What the store and the context have of the events before them. -/
structure Follows (es : List Event) (s : AppState) : Prop where
  kept : ∀ person, person ∈ s.context.stored ↔ Kept (callsOf es) person
  balance : ∀ name, (s.context.named name).card + (callsOf es).countP (Call.deletes name) =
    (callsOf es).countP (Call.creates name)
  cats : ∀ name ≠ "Cat", (callsOf es).countP (Call.deletes name) = 0
  -- a call that leaves something pending is the last of its launch
  clean : s.point ≠ .returned → s.context.work.PendingWithin ∅
  fetched : ∀ person, s.point = .deletePerson person →
    person ∈ s.context.stored ∧ person.name = "Cat"

namespace Follows

theorem installed : Follows [] .installed where
  kept := fun _ => iff_of_false (Finset.notMem_empty _) HeldSince.not_nil
  balance := fun _ => rfl
  cats := fun _ _ => rfl
  clean := fun h => absurd rfl h
  fetched := nofun

/-- An event that makes no call and leaves the store as it is. -/
theorem snoc_of_none (h : Follows es s) (hnone : e.asCall = none)
    (hstored : t.context.stored = s.context.stored)
    (hclean : t.point ≠ .returned → t.context.work.PendingWithin ∅)
    (hfetched : ∀ person, t.point = .deletePerson person →
      person ∈ t.context.stored ∧ person.name = "Cat") : Follows (es ++ [e]) t where
  kept := by simpa only [callsOf_snoc_of_none hnone, hstored] using h.kept
  balance := by
    simpa only [callsOf_snoc_of_none hnone, ViewContext.named, hstored] using h.balance
  cats := by simpa only [callsOf_snoc_of_none hnone] using h.cats
  clean := hclean
  fetched := hfetched

theorem createPerson (h : Follows es s) {name : String} {age : ℤ} {saved : Bool}
    {returned : Option Person} {c' : ViewContext} {next : Point}
    (hclean : s.context.work.PendingWithin ∅)
    (hcreate : CoreDataSetup.createPerson name age saved s.context = some (c', returned))
    (hnext : ∀ person, next ≠ .deletePerson person) :
    Follows (es ++ [.call (.createPerson name age saved returned)])
      ⟨c', if returned.isSome then next else .returned⟩ where
  kept := by
    intro person
    rw [callsOf_snoc_call, kept_snoc_iff, ← h.kept]
    exact expected_of_clean hclean (.createPerson hcreate) person
  balance := by
    intro name'
    have hbalance := h.balance name'
    have hcard := card_named_createPerson hclean hcreate name'
    simp only [callsOf_snoc_call, List.countP_append, List.countP_singleton, Call.creates,
      Call.deletes, Bool.and_eq_true, decide_eq_true_eq]
    simp only [Bool.false_eq_true, if_false]
    omega
  cats := by
    intro name' hname'
    simpa [Call.deletes] using h.cats name' hname'
  clean := by
    intro hpoint
    by_cases hreturned : returned.isSome
    · exact clean_of_created hcreate hreturned
    · exact absurd (if_neg hreturned) hpoint
  fetched := by
    intro person hpoint
    by_cases hreturned : returned.isSome
    · exact absurd ((if_pos hreturned).symm.trans hpoint) (hnext person)
    · exact absurd ((if_neg hreturned).symm.trans hpoint) nofun

theorem deletePerson {c : ViewContext} {person : Person} (h : Follows es ⟨c, .deletePerson person⟩)
    (saved : Bool) : Follows (es ++ [.call (.deletePerson person saved)])
      ⟨CoreDataSetup.deletePerson person saved c, .returned⟩ where
  kept := by
    intro other
    rw [callsOf_snoc_call, kept_snoc_iff, ← h.kept]
    exact expected_of_clean (h.clean nofun) (.deletePerson (Or.inl (h.fetched person rfl).1)) other
  balance := by
    intro name
    have hbalance : (c.named name).card + (callsOf es).countP (Call.deletes name) =
      (callsOf es).countP (Call.creates name) := h.balance name
    have hcard :=
      card_named_deletePerson (c := c) (h.clean nofun) (h.fetched person rfl).1 saved name
    simp only [callsOf_snoc_call, List.countP_append, List.countP_singleton, Call.creates,
      Call.deletes, Bool.and_eq_true, decide_eq_true_eq]
    simp only [Bool.false_eq_true, if_false]
    omega
  cats := by
    intro name hname
    have hother : person.name ≠ name := (h.fetched person rfl).2 ▸ hname.symm
    simpa [Call.deletes, hother] using h.cats name hname
  clean := fun hpoint => absurd rfl hpoint
  fetched := nofun

theorem step (h : Follows es s) (hstep : Step s e t) : Follows (es ++ [e]) t := by
  cases hstep with
  | launch =>
      exact h.snoc_of_none rfl rfl (fun _ => ⟨Finset.Subset.refl _, Finset.Subset.refl _⟩) nofun
  | createCat hcreate => exact h.createPerson (h.clean nofun) hcreate nofun
  | createDusty hcreate => exact h.createPerson (h.clean nofun) hcreate nofun
  | fetchPeople _ =>
      refine h.snoc_of_none rfl rfl (fun _ => h.clean nofun) fun person hpoint => ?_
      split at hpoint <;> cases hpoint
  | @fetchPerson c answer hanswer =>
      refine h.snoc_of_none rfl rfl (fun _ => h.clean nofun) fun person hpoint => ?_
      -- the first of the people fetched
      rcases hfound : CoreDataSetup.fetchPerson answer with _ | found
      · simp [hfound] at hpoint
      · obtain rfl : found = person := by simpa [hfound] using hpoint
        rcases Option.bind_eq_some_iff.1 hfound with ⟨people, hpeople, hhead⟩
        have hsound := (hanswer people hpeople).sound found (List.mem_of_mem_head? hhead)
        rwa [people_of_clean (h.clean nofun)] at hsound
  | deletePerson => exact h.deletePerson _
  | enterBackground => exact h.snoc_of_none rfl rfl h.clean h.fetched

theorem run (hrun : Run Step .installed es s) : Follows es s :=
  hrun.invariant_history installed fun _ _ _ _ _ h hstep => h.step hstep

end Follows

/-- Over any launches, whatever fails in them and wherever they end, the people stored are those
that a call returned and none has deleted since, although each call alone may leave a change to the
next: one Dusty for every time one was created, and as many Cats as were created less those
deleted. -/
theorem stored_over_launches (hrun : Run Step .installed es s) :
    (∀ person, person ∈ s.context.stored ↔ Kept (callsOf es) person) ∧
      (s.context.named "Dusty").card = (callsOf es).countP (Call.creates "Dusty") ∧
      (s.context.named "Cat").card + (callsOf es).countP (Call.deletes "Cat") =
        (callsOf es).countP (Call.creates "Cat") := by
  have h := Follows.run hrun
  have hdusty := h.balance "Dusty"
  rw [h.cats "Dusty" (by decide), Nat.add_zero] at hdusty
  exact ⟨h.kept, hdusty, h.balance "Cat"⟩

end Runs

/-! ## An example -/

def dustyFailedEvents : List Event :=
  [.launch, .call (.createPerson "Cat" 15 true (some ⟨0, "Cat", 15⟩)),
    .call (.createPerson "Dusty" 12 false none), .enterBackground, .launch]

/-- The second launch, after one in which no Dusty could be saved. -/
def dustyFailed : AppState where
  context := ((((ViewContext.empty.insert "Cat" 15).save true).insert "Dusty" 12).save false).reset
  point := .createCat

/-- The Dusty of the first launch is gone, and its Cat is there. -/
theorem dusty_not_stored : (dustyFailed.context.named "Dusty").card = 0 ∧
    (dustyFailed.context.named "Cat").card = 1 := by
  have hcat : Run Step .installed
      [.launch, .call (.createPerson "Cat" 15 true (some ⟨0, "Cat", 15⟩))] _ :=
    (Run.single .launch).snoc (.createCat rfl)
  have hrun : Run Step .installed dustyFailedEvents dustyFailed :=
    ((hcat.snoc (.createDusty rfl)).snoc .enterBackground).snoc .launch
  obtain ⟨_, hdusty, hcats⟩ := stored_over_launches hrun
  have hnone : (callsOf dustyFailedEvents).countP (Call.deletes "Cat") = 0 := by decide
  rw [hnone] at hcats
  exact ⟨hdusty.trans (by decide), hcats.trans (by decide)⟩

end CoreData
end IosProjects
