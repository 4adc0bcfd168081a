import IosProjects.BudgetApp.Budgets

/-!
# App — the two screens over one database

The list of budgets lies under everything. Choosing a row pushes the Expenses screen of that budget,
which pushes the form for a new expense in turn; as long as one of them is up, nothing reaches the
list. Every change is saved at once, so a launch finds the database as the last process left it.

A step writes to the database in one of four ways, or not at all. What holds of the expenses of a
budget follows from these.
-/

namespace IosProjects
namespace BudgetApp

open IosProjects.Library

/-! ## Writing expenses -/

namespace Database

/-- The database with another set of expenses of its budgets. -/
def withStore (store : Store) (database : Database)
    (h : ∀ expense ∈ store.expenses,
      ∃ budget ∈ database.budgets, budget.objectID = expense.budget) :
    Database :=
  { database with store := store, owned := h }

/-- Deleting an expense. -/
def deleteExpense (expense : Expense) (database : Database) : Database :=
  database.withStore (database.store.delete expense) fun other hother =>
    database.owned other (List.mem_of_mem_erase hother)

end Database

/-! ## Steps -/

/-- The list is there after a launch; `screen` is the Expenses screen, and `adding` whether the form
is up. -/
structure AppState where
  database : Database
  list : Option BudgetViewController
  screen : Option ExpenseViewController
  adding : Bool

inductive AppEvent where
  | launch
  | saveBudget (titleText amountText : Option String)
  | deleteBudget (row : ℕ)
  | openExpenses (row : ℕ) (fetched : List Expense)
  | addExpense
  | saveExpense (expenseText amountText : Option String) (currDate : Date)
  | deleteExpense (row : ℕ) (fetched : List Expense)
  | back

inductive AppStep : AppState → AppEvent → AppState → Prop where
  -- the process before may have ended on any screen
  | launch {s : AppState} :
      AppStep s .launch ⟨s.database, some (.viewDidLoad s.database), none, false⟩
  | saveBudget {s : AppState} {list : BudgetViewController} {titleText amountText : Option String} :
      s.list = some list → s.screen = none →
      AppStep s (.saveBudget titleText amountText)
        { s with
          database := (list.saveBudget titleText amountText s.database).1
          list := some (list.saveBudget titleText amountText s.database).2 }
  | deleteBudget {s : AppState} {list list' : BudgetViewController} {row : ℕ}
      {database : Database} :
      s.list = some list → s.screen = none → row < list.rows →
      list.commitDelete row s.database = some (database, list') →
      AppStep s (.deleteBudget row) { s with database := database, list := some list' }
  -- `openExpenses(_:)`; `budgets[indexPath.row]` traps out of range
  | openExpenses {s : AppState} {list : BudgetViewController} {row : ℕ} {budget : Budget}
      {fetched : List Expense} :
      s.list = some list → s.screen = none → row < list.rows → list.budgets[row]? = some budget →
      s.database.store.IsGetExpenses budget.objectID fetched →
      AppStep s (.openExpenses row fetched)
        { s with screen := some (.viewDidLoad budget.objectID fetched) }
  | addExpense {s : AppState} {vc : ExpenseViewController} :
      s.screen = some vc → s.adding = false → AppStep s .addExpense { s with adding := true }
  -- the form calls its delegate and is popped
  | accepted {s : AppState} {vc : ExpenseViewController} {expenseText amountText : Option String}
      {currDate : Date} {expenseTitle amount : String} {budget : Budget}
      (hbudget : budget ∈ s.database.budgets) :
      s.screen = some vc → s.adding = true → budget.objectID = vc.budget →
      BudgetApp.saveExpense expenseText amountText = .ok (expenseTitle, amount) →
      AppStep s (.saveExpense expenseText amountText currDate)
        { s with
          database := s.database.setExpense expenseTitle (.ofString amount) currDate budget hbudget
          screen := some (vc.didAddExpense expenseTitle amount currDate s.database.store).2
          adding := false }
  | rejected {s : AppState} {expenseText amountText : Option String} {currDate : Date}
      {alert : Alert} :
      s.adding = true → BudgetApp.saveExpense expenseText amountText = .error alert →
      AppStep s (.saveExpense expenseText amountText currDate) s
  | deleteExpense {s : AppState} {vc vc' : ExpenseViewController} {row : ℕ} {fetched : List Expense}
      {removedItem : Expense} :
      s.screen = some vc → s.adding = false → row < vc.rows →
      (s.database.store.fetchExpenses vc.budget)[row]? = some removedItem →
      vc.commitDelete row fetched s.database.store =
        some ((s.database.deleteExpense removedItem).store, vc') →
      (s.database.deleteExpense removedItem).store.IsGetExpenses vc.budget fetched →
      AppStep s (.deleteExpense row fetched)
        { s with database := s.database.deleteExpense removedItem, screen := some vc' }
  | backToExpenses {s : AppState} :
      s.adding = true → AppStep s .back { s with adding := false }
  | backToBudgets {s : AppState} {vc : ExpenseViewController} :
      s.screen = some vc → s.adding = false → AppStep s .back { s with screen := none }

/-- The app has not been launched. -/
def AppState.closed (database : Database) : AppState where
  database := database
  list := none
  screen := none
  adding := false

/-! ## The screens and the database -/

/-- The list mirrors the budgets, and the Expenses screen is that of one of them. -/
structure Follows (s : AppState) : Prop where
  list : ∀ list, s.list = some list → Mirrors s.database list
  budget : ∀ vc, s.screen = some vc → ∃ budget ∈ s.database.budgets, budget.objectID = vc.budget
  adding : s.adding = true → s.screen.isSome

section Steps

variable {s t : AppState} {e : AppEvent} {database : Database} {es : List AppEvent}

theorem Follows.step (h : Follows s) (hstep : AppStep s e t) : Follows t := by
  cases hstep with
  | launch => exact ⟨by rintro _ ⟨⟩; exact .viewDidLoad s.database, nofun, nofun⟩
  | @saveBudget list titleText amountText hlist hscreen =>
      refine ⟨by rintro _ ⟨⟩; exact (h.list list hlist).saveBudget titleText amountText, ?_,
        h.adding⟩
      simp [hscreen]
  | @deleteBudget list list' row database hlist hscreen hrow hcommit =>
      have hmirrors := h.list list hlist
      rw [hmirrors.rows] at hrow
      have hbudget := List.getElem?_eq_getElem hrow
      rw [hmirrors.commitDelete hbudget] at hcommit
      obtain ⟨rfl, rfl⟩ := Prod.mk.inj (Option.some.inj hcommit)
      refine ⟨by rintro _ ⟨⟩; exact hmirrors.delete hbudget, ?_, h.adding⟩
      simp [hscreen]
  | @openExpenses list row budget fetched hlist _ _ hbudget _ =>
      refine ⟨h.list, ?_, fun _ => rfl⟩
      rintro _ ⟨⟩
      refine ⟨budget, ?_, rfl⟩
      rw [← (h.list list hlist).budgets]
      exact List.mem_of_getElem? hbudget
  | addExpense hscreen _ => exact ⟨h.list, h.budget, fun _ => by simp [hscreen]⟩
  | @accepted vc _ _ _ _ _ budget hbudget hscreen _ hid _ =>
      refine ⟨fun list hlist => ⟨(h.list list hlist).budgets, (h.list list hlist).rows⟩, ?_, nofun⟩
      rintro _ ⟨⟩
      exact ⟨budget, hbudget, hid⟩
  | rejected _ _ => exact h
  | @deleteExpense vc vc' row fetched removedItem hscreen hadding _ _ hcommit _ =>
      refine ⟨fun list hlist => ⟨(h.list list hlist).budgets, (h.list list hlist).rows⟩, ?_,
        fun _ => rfl⟩
      rintro _ ⟨⟩
      obtain ⟨_, _, _, _, _, rfl⟩ := commitDelete_some hcommit
      exact h.budget vc hscreen
  | backToExpenses _ => exact ⟨h.list, h.budget, nofun⟩
  | backToBudgets _ hadding => exact ⟨h.list, nofun, fun htrue => by simp [hadding] at htrue⟩

theorem follows_of_run (hrun : Run AppStep (.closed database) es s) : Follows s :=
  hrun.invariant (fun _ _ _ h hstep => Follows.step h hstep) ⟨nofun, nofun, nofun⟩

end Steps

/-! ## What a step writes -/

/-- The budget that an accepted expense is for. -/
def AppEvent.spends (s : AppState) : AppEvent → Option ObjectID
  | .saveExpense expenseText amountText _ =>
      match BudgetApp.saveExpense expenseText amountText with
      | .ok _ => s.screen.map ExpenseViewController.budget
      | .error _ => none
  | _ => none

/-- The budget that an expense is deleted from. -/
def AppEvent.deletes (s : AppState) : AppEvent → Option ObjectID
  | .deleteExpense _ _ => s.screen.map ExpenseViewController.budget
  | _ => none

/-- The database before and after a step. -/
inductive Writes (s : AppState) (e : AppEvent) : Database → Prop where
  | nothing : e.spends s = none → e.deletes s = none → Writes s e s.database
  | budget (title : String) (amount : NSDecimalNumber) :
      e.spends s = none → e.deletes s = none → Writes s e (s.database.setBudget title amount)
  | expense (name : String) (amount : NSDecimalNumber) (timestamp : Date) {budget : Budget}
      (h : budget ∈ s.database.budgets) :
      e.spends s = some budget.objectID → e.deletes s = none →
      Writes s e (s.database.setExpense name amount timestamp budget h)
  | deletedExpense {expense : Expense} :
      e.spends s = none → e.deletes s = some expense.budget → expense ∈ s.database.store.expenses →
      Writes s e (s.database.deleteExpense expense)
  | deletedBudget {list : BudgetViewController} {row : ℕ} {budget : Budget} :
      e = .deleteBudget row → s.list = some list → list.budgets[row]? = some budget →
      budget ∈ s.database.budgets → Writes s e (s.database.delete budget)

section Writing

variable {s t : AppState} {e : AppEvent} {database : Database} {es : List AppEvent}

theorem AppStep.writes (h : Follows s) (hstep : AppStep s e t) : Writes s e t.database := by
  cases hstep with
  | @saveBudget list titleText amountText _ _ =>
      dsimp only
      unfold BudgetViewController.saveBudget
      split
      · exact .nothing rfl rfl
      · exact .budget _ _ rfl rfl
  | @deleteBudget list list' row database hlist _ hrow hcommit =>
      have hmirrors := h.list list hlist
      rw [hmirrors.rows] at hrow
      have hbudget := List.getElem?_eq_getElem hrow
      rw [hmirrors.commitDelete hbudget] at hcommit
      obtain ⟨rfl, _⟩ := Prod.mk.inj (Option.some.inj hcommit)
      exact .deletedBudget rfl hlist hbudget (hmirrors.budgets ▸ List.mem_of_getElem? hbudget)
  | accepted hbudget hscreen _ hid hsave =>
      exact .expense _ _ _ hbudget (by simp [AppEvent.spends, hsave, hscreen, hid]) rfl
  | rejected _ hsave => exact .nothing (by simp [AppEvent.spends, hsave]) rfl
  | deleteExpense hscreen _ _ hremoved _ _ =>
      obtain ⟨hstored, _, hbudget⟩ := Store.mem_fetchExpenses.1 (List.mem_of_getElem? hremoved)
      exact .deletedExpense rfl (by simp [AppEvent.deletes, hscreen, hbudget]) hstored
  | _ => exact .nothing rfl rfl

end Writing

/-! ## The expenses of a budget -/

namespace Database

/-- All expenses of a budget, fetched or not. -/
def expensesOf (budget : ObjectID) (database : Database) : List Expense :=
  database.store.expenses.filter fun expense => expense.budget = budget

variable {database : Database} {budget : ObjectID}

theorem mem_expensesOf {expense : Expense} :
    expense ∈ database.expensesOf budget ↔
      expense ∈ database.store.expenses ∧ expense.budget = budget := by
  simp [expensesOf]

/-- The fetch leaves out those whose amount is not positive. -/
theorem fetchExpenses_eq : database.store.fetchExpenses budget =
    (database.expensesOf budget).filter fun expense => expense.amount.isPositive := by
  rw [Store.fetchExpenses, expensesOf, List.filter_filter]

/-- A budget that has not been made yet has no expenses. -/
theorem expensesOf_of_le (h : database.nextBudgetID ≤ budget) :
    database.expensesOf budget = [] := by
  refine List.filter_eq_nil_iff.2 fun expense hexpense => ?_
  obtain ⟨owner, howner, hid⟩ := database.owned expense hexpense
  rw [decide_eq_true_eq, ← hid]
  exact ((database.id_lt owner howner).trans_le h).ne

theorem expensesOf_setExpense (name : String) (amount : NSDecimalNumber) (timestamp : Date)
    {owner : Budget} (h : owner ∈ database.budgets) (budget : ObjectID) :
    (database.setExpense name amount timestamp owner h).expensesOf budget =
      database.expensesOf budget ++ if owner.objectID = budget then
        [database.store.newExpense name amount timestamp owner.objectID] else [] := by
  by_cases hsame : owner.objectID = budget
  · simp [expensesOf, setExpense, Store.setExpense, Store.newExpense, hsame]
  · simp [expensesOf, setExpense, Store.setExpense, Store.newExpense, hsame]

theorem expensesOf_deleteExpense (expense : Expense) (budget : ObjectID) :
    (database.deleteExpense expense).expensesOf budget =
      (database.expensesOf budget).erase expense := by
  rw [expensesOf, expensesOf, List.erase_filter]
  rfl

theorem length_expensesOf_deleteExpense {expense : Expense}
    (h : expense ∈ database.store.expenses) (budget : ObjectID) :
    ((database.deleteExpense expense).expensesOf budget).length + [expense.budget].count budget =
      (database.expensesOf budget).length := by
  rw [expensesOf_deleteExpense]
  by_cases hsame : expense.budget = budget
  · have hmem : expense ∈ database.expensesOf budget := mem_expensesOf.2 ⟨h, hsame⟩
    have hpos := List.length_pos_of_mem hmem
    rw [List.length_erase_of_mem hmem, hsame, List.count_singleton_self]
    omega
  · have hnot : expense ∉ database.expensesOf budget := fun hmem => hsame (mem_expensesOf.1 hmem).2
    rw [List.erase_of_not_mem hnot]
    simp [hsame]

/-- The cascade takes the expenses of the deleted budget and no others. -/
theorem expensesOf_delete {owner : Budget} (h : owner.objectID ≠ budget) :
    (database.delete owner).expensesOf budget = database.expensesOf budget := by
  have hcascade : (database.delete owner).store.expenses =
      database.store.expenses.filter fun expense => expense.budget ≠ owner.objectID := rfl
  rw [expensesOf, expensesOf, hcascade, List.filter_filter]
  refine List.filter_congr fun expense _ => ?_
  by_cases hbudget : expense.budget = budget
  · simp [hbudget, h.symm]
  · simp [hbudget]

end Database

/-! ## Opening a budget again -/

/-- The event neither changes the expenses of the budget nor deletes it. -/
structure AppEvent.Elsewhere (budget : ObjectID) (s : AppState) (e : AppEvent) : Prop where
  spends : e.spends s ≠ some budget
  deletes : e.deletes s ≠ some budget
  kept : ∀ row list shown, e = .deleteBudget row → s.list = some list →
    list.budgets[row]? = some shown → shown.objectID ≠ budget

/-- If an amount is accepted, it is a positive number. -/
def AppEvent.Positive : AppEvent → Prop
  | .saveExpense expenseText amountText _ =>
      ∀ expenseTitle amount,
        BudgetApp.saveExpense expenseText amountText = .ok (expenseTitle, amount) →
        (NSDecimalNumber.ofString amount).isPositive
  | _ => True

/-- An amount is accepted. -/
def AppEvent.Accepts : AppEvent → Prop
  | .saveExpense expenseText amountText _ =>
      ∃ accepted, BudgetApp.saveExpense expenseText amountText = .ok accepted
  | _ => False

/-- The screen takes what `getExpenses` returns. -/
def AppEvent.Fetches : AppEvent → Prop
  | .openExpenses _ _ | .deleteExpense _ _ => True
  | _ => False

/-- Since the screen last fetched its expenses, none has been accepted. -/
def JustFetched (es : List AppEvent) : Prop :=
  ∃ before e after, es = before ++ e :: after ∧ e.Fetches ∧ ∀ later ∈ after, ¬later.Accepts

def NewestFirst (expenses : List Expense) : Prop :=
  expenses.Pairwise fun a b => b.timestamp ≤ a.timestamp

/-- Two orders of the same expenses by their time differ in expenses of the same time only. -/
theorem NewestFirst.timestamps_eq {expenses expenses' : List Expense} (h : NewestFirst expenses)
    (h' : NewestFirst expenses') (hperm : expenses.Perm expenses') :
    expenses.map Expense.timestamp = expenses'.map Expense.timestamp := by
  have hsorted : (expenses.map Expense.timestamp).Pairwise (· ≥ ·) := List.pairwise_map.2 h
  have hsorted' : (expenses'.map Expense.timestamp).Pairwise (· ≥ ·) := List.pairwise_map.2 h'
  exact (hperm.map Expense.timestamp).eq_of_pairwise' hsorted hsorted'

section Reopening

variable {s t : AppState} {e : AppEvent} {database : Database} {es fs : List AppEvent}
  {budget : ObjectID}

/-- What is written elsewhere leaves the expenses of the budget as they are. -/
theorem Writes.expensesOf (hwrites : Writes s e database) (h : e.Elsewhere budget s) :
    database.expensesOf budget = s.database.expensesOf budget := by
  cases hwrites with
  | nothing _ _ => rfl
  | budget _ _ _ _ => rfl
  | @expense name amount timestamp owner howner hspends _ =>
      have hother : owner.objectID ≠ budget := fun hsame => h.spends (hsame ▸ hspends)
      rw [Database.expensesOf_setExpense, if_neg hother, List.append_nil]
  | @deletedExpense expense _ hdeletes _ =>
      have hnot : expense ∉ s.database.expensesOf budget := fun hmem =>
        h.deletes ((Database.mem_expensesOf.1 hmem).2 ▸ hdeletes)
      rw [Database.expensesOf_deleteExpense, List.erase_of_not_mem hnot]
  | deletedBudget he hlist hshown _ =>
      exact Database.expensesOf_delete (h.kept _ _ _ he hlist hshown)

/-- With positive amounts an open screen shows what is fetched. -/
theorem AppStep.inStep (h : ∀ vc, s.screen = some vc → InStep s.database.store vc)
    (hpositive : e.Positive) (hstep : AppStep s e t) :
    ∀ vc, t.screen = some vc → InStep t.database.store vc := by
  cases hstep with
  | launch =>
      intro _ hvc
      cases hvc
  | saveBudget _ hscreen => simp [hscreen]
  | deleteBudget _ hscreen _ _ => simp [hscreen]
  | openExpenses _ _ _ _ hfetched =>
      rintro _ ⟨⟩
      exact .of_perm hfetched.perm rfl
  | addExpense _ _ => exact h
  | @accepted vc _ _ currDate expenseTitle amount budget hbudget hscreen _ hid hsave =>
      rintro _ ⟨⟩
      have hstore : (s.database.setExpense expenseTitle (.ofString amount) currDate budget
          hbudget).store = (vc.didAddExpense expenseTitle amount currDate s.database.store).1 := by
        rw [ExpenseViewController.didAddExpense, ← hid]
        rfl
      rw [hstore]
      exact (h vc hscreen).didAddExpense currDate (hpositive _ _ hsave)
  | rejected _ _ => exact h
  | @deleteExpense vc vc' row fetched removedItem hscreen _ _ _ hcommit hfetched =>
      rintro _ ⟨⟩
      exact (h vc hscreen).commitDelete hcommit hfetched
  | backToExpenses _ => exact h
  | backToBudgets _ _ =>
      intro _ hvc
      cases hvc

theorem inStep_of_run (hrun : Run AppStep (.closed database) es s)
    (hpositive : ∀ e ∈ es, e.Positive) : ∀ vc, s.screen = some vc → InStep s.database.store vc := by
  refine hrun.invariant_along
    (P := fun s => ∀ vc, s.screen = some vc → InStep s.database.store vc)
    (Q := fun _ e _ => e.Positive) (fun _ _ _ h hpositive hstep => hstep.inStep h hpositive)
    (Along.of_events hpositive) nofun

/-- An expense that is accepted is put at the end; every other step leaves the order as it is or
fetches. -/
theorem AppStep.newestFirst (h : ∀ vc, s.screen = some vc → NewestFirst vc.expenses)
    (haccepts : ¬e.Accepts) (hstep : AppStep s e t) :
    ∀ vc, t.screen = some vc → NewestFirst vc.expenses := by
  cases hstep with
  | launch => exact nofun
  | saveBudget _ hscreen => simp [hscreen]
  | deleteBudget _ hscreen _ _ => simp [hscreen]
  | openExpenses _ _ _ _ hfetched =>
      rintro _ ⟨⟩
      exact hfetched.descending
  | addExpense _ _ => exact h
  | accepted _ _ _ _ hsave => exact absurd ⟨_, hsave⟩ haccepts
  | rejected _ _ => exact h
  | deleteExpense _ _ _ _ hcommit hfetched =>
      rintro _ ⟨⟩
      obtain ⟨_, _, _, _, _, rfl⟩ := commitDelete_some hcommit
      exact hfetched.descending
  | backToExpenses _ => exact h
  | backToBudgets _ _ => exact nofun

/-- What was on the screen before does not matter to a step that fetches. -/
theorem AppStep.newestFirst_of_fetches (hfetches : e.Fetches) (hstep : AppStep s e t) :
    ∀ vc, t.screen = some vc → NewestFirst vc.expenses := by
  cases hstep with
  | openExpenses _ _ _ _ hfetched =>
      rintro _ ⟨⟩
      exact hfetched.descending
  | deleteExpense _ _ _ _ hcommit hfetched =>
      rintro _ ⟨⟩
      obtain ⟨_, _, _, _, _, rfl⟩ := commitDelete_some hcommit
      exact hfetched.descending
  | _ => exact hfetches.elim

theorem newestFirst_of_run (hrun : Run AppStep (.closed database) es s) (h : JustFetched es) :
    ∀ vc, s.screen = some vc → NewestFirst vc.expenses := by
  obtain ⟨before, e, after, rfl, hfetches, hafter⟩ := h
  rw [List.append_cons] at hrun
  obtain ⟨u, hu, hlater⟩ := hrun.split
  obtain ⟨v, _, hstep⟩ := hu.snoc_inv
  refine hlater.invariant_along
    (P := fun s => ∀ vc, s.screen = some vc → NewestFirst vc.expenses)
    (Q := fun _ e _ => ¬e.Accepts) (fun _ _ _ h haccepts hstep => hstep.newestFirst h haccepts)
    (Along.of_events hafter) (hstep.newestFirst_of_fetches hfetches)

theorem expensesOf_of_run (hs : Follows s) (hrun : Run AppStep s fs t)
    (helsewhere : Along AppStep s fs fun s e _ => e.Elsewhere budget s) :
    t.database.expensesOf budget = s.database.expensesOf budget := by
  refine (hrun.invariant_along (P := fun t => Follows t ∧
      t.database.expensesOf budget = s.database.expensesOf budget)
    (Q := fun s e _ => e.Elsewhere budget s) ?_ helsewhere ⟨hs, rfl⟩).2
  rintro t e u ⟨hfollows, hsame⟩ helse hstep
  exact ⟨hfollows.step hstep, ((hstep.writes hfollows).expensesOf helse).trans hsame⟩

end Reopening

/-! ## No expense is lost -/

/-- The budgets for which an expense has been accepted, and those from which one has been deleted,
each as often as it was. -/
structure Ledger where
  accepted : List ObjectID
  deleted : List ObjectID

def Ledger.empty : Ledger where
  accepted := []
  deleted := []

def recordExpenses (s : AppState) (e : AppEvent) (_ : AppState) (ledger : Ledger) : Ledger where
  accepted := ledger.accepted ++ (e.spends s).toList
  deleted := ledger.deleted ++ (e.deletes s).toList

/-- The expenses that the database began with and those accepted since are stored or deleted. -/
structure Balanced (start database : Database) (ledger : Ledger) : Prop where
  stored : ∀ budget ∈ database.budgets,
    (database.expensesOf budget.objectID).length + ledger.deleted.count budget.objectID =
      (start.expensesOf budget.objectID).length + ledger.accepted.count budget.objectID
  fresh : ∀ budget, database.nextBudgetID ≤ budget →
    start.expensesOf budget = [] ∧ ledger.accepted.count budget = 0 ∧
      ledger.deleted.count budget = 0

section Ledgers

variable {start database : Database} {s t : AppState} {e : AppEvent} {ledger ledger' : Ledger}
  {es : List AppEvent}

theorem Balanced.writes (h : Balanced start s.database ledger) (hwrites : Writes s e database)
    (t : AppState) : Balanced start database (recordExpenses s e t ledger) := by
  cases hwrites with
  | nothing hspends hdeletes => simpa [recordExpenses, hspends, hdeletes] using h
  | budget title amount hspends hdeletes =>
      simp only [recordExpenses, hspends, hdeletes, Option.toList_none, List.append_nil]
      refine ⟨fun budget hbudget => ?_, fun budget hle => h.fresh budget (Nat.le_of_succ_le hle)⟩
      rcases List.mem_append.1 hbudget with hbudget | hbudget
      · exact h.stored budget hbudget
      · -- the new budget has an identifier that has not been used
        obtain rfl := List.mem_singleton.1 hbudget
        obtain ⟨hstart, haccepted, hdeleted⟩ := h.fresh s.database.nextBudgetID le_rfl
        have hnone : s.database.expensesOf s.database.nextBudgetID = [] :=
          Database.expensesOf_of_le le_rfl
        change (s.database.expensesOf s.database.nextBudgetID).length +
          ledger.deleted.count s.database.nextBudgetID =
            (start.expensesOf s.database.nextBudgetID).length +
              ledger.accepted.count s.database.nextBudgetID
        rw [hstart, haccepted, hdeleted, hnone]
  | @expense name amount timestamp owner howner hspends hdeletes =>
      simp only [recordExpenses, hspends, hdeletes, Option.toList_none, Option.toList_some,
        List.append_nil]
      refine ⟨fun budget hbudget => ?_, fun budget hle => ?_⟩
      · have hstored := h.stored budget hbudget
        dsimp only
        rw [Database.expensesOf_setExpense, List.length_append, List.count_append,
          List.count_singleton]
        by_cases howns : owner.objectID = budget.objectID
        · simp only [howns, if_true, List.length_singleton, beq_self_eq_true]
          omega
        · simpa [howns] using hstored
      · obtain ⟨hstart, haccepted, hdeleted⟩ := h.fresh budget hle
        have hother : owner.objectID ≠ budget := ((s.database.id_lt owner howner).trans_le hle).ne
        refine ⟨hstart, ?_, hdeleted⟩
        rw [List.count_append, haccepted, List.count_singleton, if_neg (by simpa using hother)]
  | @deletedExpense expense hspends hdeletes hexpense =>
      simp only [recordExpenses, hspends, hdeletes, Option.toList_none, Option.toList_some,
        List.append_nil]
      refine ⟨fun budget hbudget => ?_, fun budget hle => ?_⟩
      · have hstored := h.stored budget hbudget
        have herased := Database.length_expensesOf_deleteExpense hexpense budget.objectID
        dsimp only
        rw [List.count_append]
        omega
      · obtain ⟨hstart, haccepted, hdeleted⟩ := h.fresh budget hle
        obtain ⟨owner, howner, hid⟩ := s.database.owned expense hexpense
        have hother : expense.budget ≠ budget :=
          hid ▸ ((s.database.id_lt owner howner).trans_le hle).ne
        refine ⟨hstart, haccepted, ?_⟩
        rw [List.count_append, hdeleted, List.count_singleton, if_neg (by simpa using hother)]
  | @deletedBudget list row owner he _ _ howner =>
      subst he
      simp only [recordExpenses, AppEvent.spends, AppEvent.deletes, Option.toList_none,
        List.append_nil]
      refine ⟨fun budget hbudget => ?_, h.fresh⟩
      have hmem : budget ∈ s.database.budgets.filter (· ≠ owner) :=
        s.database.budgets_delete owner ▸ hbudget
      obtain ⟨hkept, hne⟩ := List.mem_filter.1 hmem
      have hother : owner.objectID ≠ budget.objectID := fun hsame =>
        of_decide_eq_true hne
          (List.inj_on_of_nodup_map s.database.ids_nodup hkept howner hsame.symm)
      rw [Database.expensesOf_delete hother]
      exact h.stored budget hkept

theorem balanced_of_run
    (hrun : Run (withHistory AppStep recordExpenses) (.closed start, .empty) es (s, ledger)) :
    Balanced start s.database ledger := by
  refine (hrun.invariant (P := fun p => Follows p.1 ∧ Balanced start p.1.database p.2) ?_ ?_).2
  · rintro ⟨s, ledger⟩ e ⟨t, ledger'⟩ ⟨hfollows, hbalanced⟩ ⟨hstep, hledger⟩
    obtain rfl : ledger' = recordExpenses s e t ledger := hledger
    exact ⟨hfollows.step hstep, hbalanced.writes (hstep.writes hfollows) t⟩
  · refine ⟨⟨nofun, nofun, nofun⟩, fun budget _ => rfl, fun budget hle => ?_⟩
    exact ⟨Database.expensesOf_of_le hle, rfl, rfl⟩

/-- In every state of the app, each stored budget has as many expenses as it began with and as have
been accepted for it, less those deleted on its own screen, and every expense is that of a stored
budget. -/
theorem expenses_conserved
    (hrun : Run (withHistory AppStep recordExpenses) (.closed start, .empty) es (s, ledger)) :
    (∀ budget ∈ s.database.budgets,
      (s.database.expensesOf budget.objectID).length + ledger.deleted.count budget.objectID =
        (start.expensesOf budget.objectID).length + ledger.accepted.count budget.objectID) ∧
      ∀ expense ∈ s.database.store.expenses,
        ∃ budget ∈ s.database.budgets, budget.objectID = expense.budget :=
  ⟨(balanced_of_run hrun).stored, s.database.owned⟩

end Ledgers

/-! ### Tea and a bun -/

def snackEvents : List AppEvent :=
  [.launch, .saveBudget (some "Food") (some "300"), .openExpenses 0 [], .addExpense,
    .saveExpense (some "tea") (some "5") 0, .addExpense, .saveExpense (some "bun") (some "2") 60]

/-- The database and the list once the budget has been saved. -/
def foodSaved : Database × BudgetViewController :=
  (BudgetViewController.viewDidLoad emptyDatabase).saveBudget (some "Food") (some "300")
    emptyDatabase

theorem food_mem : food ∈ foodSaved.1.budgets := by decide +kernel

def tea : Expense :=
  foodSaved.1.store.newExpense "tea" (.ofString "5") 0 0

def teaDatabase : Database :=
  foodSaved.1.setExpense "tea" (.ofString "5") 0 food food_mem

def bun : Expense :=
  teaDatabase.store.newExpense "bun" (.ofString "2") 60 0

def snackDatabase : Database :=
  teaDatabase.setExpense "bun" (.ofString "2") 60 food food_mem

/-- The Expenses screen of the budget, the later expense at the end. -/
def snacksAccepted : AppState where
  database := snackDatabase
  list := some foodSaved.2
  screen := some ⟨0, [tea, bun], 2⟩
  adding := false

/-- The app has been launched again and the budget opened, the later expense first. -/
def snacksReopened : AppState where
  database := snackDatabase
  list := some (.viewDidLoad snackDatabase)
  screen := some ⟨0, [bun, tea], 2⟩
  adding := false

/-- The first row has been deleted. -/
def teaGone : AppState where
  database := snackDatabase.deleteExpense tea
  list := some foodSaved.2
  screen := some ⟨0, [bun], 1⟩
  adding := false

theorem food_listed : 0 < foodSaved.2.rows ∧ foodSaved.2.budgets[0]? = some food := by
  decide +kernel

/-- Both are accepted for the budget, and nothing else happens to an expense. -/
theorem snack_steps : Run (withHistory AppStep recordExpenses) (.closed emptyDatabase, .empty)
    snackEvents (snacksAccepted, ⟨[0, 0], []⟩) := by
  have hbudget : AppStep ⟨emptyDatabase, some (.viewDidLoad emptyDatabase), none, false⟩
      (.saveBudget (some "Food") (some "300")) ⟨foodSaved.1, some foodSaved.2, none, false⟩ :=
    .saveBudget rfl rfl
  have hopen : AppStep ⟨foodSaved.1, some foodSaved.2, none, false⟩ (.openExpenses 0 [])
      ⟨foodSaved.1, some foodSaved.2, some (.viewDidLoad 0 []), false⟩ :=
    .openExpenses rfl rfl food_listed.1 food_listed.2
      ⟨.of_eq (by decide +kernel), List.Pairwise.nil⟩
  have htea : AppStep ⟨foodSaved.1, some foodSaved.2, some (.viewDidLoad 0 []), true⟩
      (.saveExpense (some "tea") (some "5") 0)
      ⟨teaDatabase, some foodSaved.2, some ⟨0, [tea], 1⟩, false⟩ :=
    @AppStep.accepted ⟨foodSaved.1, some foodSaved.2, some (.viewDidLoad 0 []), true⟩
      (.viewDidLoad 0 []) (some "tea") (some "5") 0 "tea" "5" food food_mem rfl rfl rfl rfl
  have hbun : AppStep ⟨teaDatabase, some foodSaved.2, some ⟨0, [tea], 1⟩, true⟩
      (.saveExpense (some "bun") (some "2") 60) snacksAccepted :=
    @AppStep.accepted ⟨teaDatabase, some foodSaved.2, some ⟨0, [tea], 1⟩, true⟩
      ⟨0, [tea], 1⟩ (some "bun") (some "2") 60 "bun" "2" food food_mem rfl rfl rfl rfl
  have hlaunch :
      Run (withHistory AppStep recordExpenses) (.closed emptyDatabase, .empty) [.launch] _ :=
    (Run.nil _).snoc_history .launch
  have hteaSteps :=
    (((hlaunch.snoc_history hbudget).snoc_history hopen).snoc_history
      (.addExpense rfl rfl)).snoc_history
      htea
  exact (hteaSteps.snoc_history (.addExpense rfl rfl)).snoc_history hbun

theorem reopen_run :
    Run AppStep snacksAccepted [.launch, .openExpenses 0 [bun, tea]] snacksReopened := by
  have hlist : 0 < snackDatabase.getBudgets.length ∧ snackDatabase.getBudgets[0]? = some food := by
    decide +kernel
  have hfetch : [tea, bun] = snackDatabase.store.fetchExpenses 0 := by decide +kernel
  have hopen : AppStep ⟨snackDatabase, some (.viewDidLoad snackDatabase), none, false⟩
      (.openExpenses 0 [bun, tea]) snacksReopened :=
    @AppStep.openExpenses ⟨snackDatabase, some (.viewDidLoad snackDatabase), none, false⟩ _ 0 food
      [bun, tea] rfl rfl hlist.1 hlist.2
      ⟨(List.Perm.swap _ _ _).trans (.of_eq hfetch), by decide +kernel⟩
  exact (Run.single .launch).snoc hopen

theorem snacks_positive :
    ∀ e ∈ snackEvents ++ [.launch, .openExpenses 0 [bun, tea]], e.Positive := by
  have hpositive (name amount : String) (time : Date)
      (hok : BudgetApp.saveExpense (some name) (some amount) = .ok (name, amount))
      (h : (NSDecimalNumber.ofString amount).isPositive) :
      AppEvent.Positive (.saveExpense (some name) (some amount) time) := by
    intro expenseTitle amount' hsave
    obtain ⟨rfl, rfl⟩ := Prod.mk.inj (Except.ok.inj (hok.symm.trans hsave))
    exact h
  have htea := hpositive "tea" "5" 0 rfl (by decide +kernel)
  have hbun := hpositive "bun" "2" 60 rfl (by decide +kernel)
  simpa [snackEvents, AppEvent.Positive] using And.intro htea hbun

/-- Two have been accepted and one deleted. -/
theorem tea_conserved :
    Run (withHistory AppStep recordExpenses) (.closed emptyDatabase, .empty)
        (snackEvents ++ [.deleteExpense 0 [bun]]) (teaGone, ⟨[0, 0], [0]⟩) ∧
      (teaGone.database.expensesOf 0).length + [0].count 0 =
        (emptyDatabase.expensesOf 0).length + [0, 0].count 0 := by
  have hdelete : AppStep snacksAccepted (.deleteExpense 0 [bun]) teaGone := by
    have hremoved : (snackDatabase.store.fetchExpenses 0)[0]? = some tea := by decide +kernel
    have hleft : [bun] = (snackDatabase.deleteExpense tea).store.fetchExpenses 0 := by
      decide +kernel
    refine @AppStep.deleteExpense snacksAccepted ⟨0, [tea, bun], 2⟩ ⟨0, [bun], 1⟩ 0 [bun] tea rfl
      rfl (by decide) hremoved ?_ ⟨.of_eq hleft, List.pairwise_singleton _ _⟩
    change ExpenseViewController.commitDelete 0 [bun] snackDatabase.store ⟨0, [tea, bun], 2⟩ = _
    simp [ExpenseViewController.commitDelete, Store.deleteExpense, hremoved, Database.deleteExpense,
      Database.withStore, snacksAccepted]
  have hrun : Run (withHistory AppStep recordExpenses) (.closed emptyDatabase, .empty)
      (snackEvents ++ [.deleteExpense 0 [bun]]) (teaGone, ⟨[0, 0], [0]⟩) :=
    snack_steps.snoc_history hdelete
  exact ⟨hrun, (expenses_conserved hrun).1 food (by decide +kernel)⟩

end BudgetApp
end IosProjects
