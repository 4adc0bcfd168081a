import Mathlib.Data.List.Nodup
import IosProjects.BudgetApp.Amount
import IosProjects.Library.Run

/-!
# Expenses — the store and the screen of one budget

`DataManager` fetches the expenses of a budget in two ways: sorted by descending timestamp for the
screen, and in the order of insertion when one is deleted by its index. Both leave out expenses
whose amount is not positive. `ExpenseViewController` keeps an array of its own, which it appends
to, removes from and replaces.

Fetches and saves succeed. The labels and the chart are left out; nothing here depends on them.
-/

namespace IosProjects
namespace BudgetApp

open IosProjects.Library

abbrev ObjectID := ℕ

/-- Seconds since the reference date. -/
abbrev Date := ℚ

/-! ## The store -/

structure Expense where
  objectID : ObjectID
  name : String
  amount : NSDecimalNumber
  timestamp : Date
  budget : ObjectID
  deriving DecidableEq

/-- The expenses in the order of insertion. -/
structure Store where
  expenses : List Expense
  nextID : ObjectID
  ids_nodup : (expenses.map Expense.objectID).Nodup
  id_lt : ∀ expense ∈ expenses, expense.objectID < nextID

namespace Store

/-- `(amount > 0) AND (budget = %@)`, without a sort descriptor. -/
def fetchExpenses (budget : ObjectID) (store : Store) : List Expense :=
  store.expenses.filter fun expense => expense.amount.isPositive && expense.budget = budget

/-- The answers `DataManager.getExpenses(budget:)` may give: the newest first, ties in any order. -/
structure IsGetExpenses (budget : ObjectID) (store : Store) (fetched : List Expense) : Prop where
  perm : fetched.Perm (store.fetchExpenses budget)
  descending : fetched.Pairwise fun a b => b.timestamp ≤ a.timestamp

/-- The object `DataManager.setExpense(name:amount:timestamp:budget:)` returns. -/
def newExpense (name : String) (amount : NSDecimalNumber) (timestamp : Date) (budget : ObjectID)
    (store : Store) : Expense where
  objectID := store.nextID
  name := name
  amount := amount
  timestamp := timestamp
  budget := budget

/-- The store after `setExpense`. -/
def setExpense (name : String) (amount : NSDecimalNumber) (timestamp : Date) (budget : ObjectID)
    (store : Store) : Store where
  expenses := store.expenses ++ [store.newExpense name amount timestamp budget]
  nextID := store.nextID + 1
  ids_nodup := by
    rw [List.map_append]
    refine List.nodup_append.2 ⟨store.ids_nodup, by simp, ?_⟩
    intro a ha b hb hab
    rcases List.mem_map.1 ha with ⟨expense, hexpense, rfl⟩
    obtain rfl : b = store.nextID := by simpa [newExpense] using hb
    exact absurd hab (store.id_lt expense hexpense).ne
  id_lt := by
    intro expense hexpense
    rcases List.mem_append.1 hexpense with hexpense | hexpense
    · exact (store.id_lt expense hexpense).trans (Nat.lt_succ_self _)
    · obtain rfl := List.mem_singleton.1 hexpense
      exact Nat.lt_succ_self _

def delete (expense : Expense) (store : Store) : Store where
  expenses := store.expenses.erase expense
  nextID := store.nextID
  ids_nodup := store.ids_nodup.sublist (List.erase_sublist.map _)
  id_lt := fun expense' h => store.id_lt expense' (List.mem_of_mem_erase h)

/-- `DataManager.deleteExpense(idx:budget:)`; `expenses[idx]` can trap. -/
def deleteExpense (idx : ℕ) (budget : ObjectID) (store : Store) : Option Store :=
  match (store.fetchExpenses budget)[idx]? with
  | none => none
  | some removedItem => some (store.delete removedItem)

variable {store : Store} {budget : ObjectID}

theorem expenses_nodup (store : Store) : store.expenses.Nodup :=
  List.Nodup.of_map _ store.ids_nodup

theorem fetchExpenses_nodup (store : Store) (budget : ObjectID) :
    (store.fetchExpenses budget).Nodup :=
  store.expenses_nodup.filter _

theorem mem_fetchExpenses {expense : Expense} :
    expense ∈ store.fetchExpenses budget ↔
      expense ∈ store.expenses ∧ expense.amount.isPositive ∧ expense.budget = budget := by
  simp [fetchExpenses]

/-- A new expense is fetched exactly when its amount is positive. -/
theorem fetchExpenses_setExpense (name : String) (amount : NSDecimalNumber) (timestamp : Date)
    (budget : ObjectID) (store : Store) :
    (store.setExpense name amount timestamp budget).fetchExpenses budget =
      if amount.isPositive then
        store.fetchExpenses budget ++ [store.newExpense name amount timestamp budget]
      else store.fetchExpenses budget := by
  cases hpositive : amount.isPositive <;>
    simp [fetchExpenses, setExpense, newExpense, hpositive]

end Store

/-! ## `ExpenseViewController` -/

/-- The screen; `rows` is the number of rows the table view has laid out. The budget is set before
the screen is shown, so every `guard let budget` passes. -/
structure ExpenseViewController where
  budget : ObjectID
  expenses : List Expense
  rows : ℕ

namespace ExpenseViewController

/-- `viewDidLoad()`, given what `getExpenses` returned. -/
def viewDidLoad (budget : ObjectID) (fetched : List Expense) : ExpenseViewController where
  budget := budget
  expenses := fetched
  rows := fetched.length

/-- `didAddExpense(expenseTitle:amount:)` at the time `currDate`. -/
def didAddExpense (expenseTitle amount : String) (currDate : Date) (store : Store)
    (vc : ExpenseViewController) : Store × ExpenseViewController :=
  let budgetAmount := NSDecimalNumber.ofString amount
  let expense := store.newExpense expenseTitle budgetAmount currDate vc.budget
  let expenses := vc.expenses ++ [expense]
  (store.setExpense expenseTitle budgetAmount currDate vc.budget,
    { vc with expenses := expenses, rows := expenses.length })

/-- `tableView(_:commit:forRowAt:)` for `.delete`, given what `getExpenses` returns in the end. -/
def commitDelete (row : ℕ) (fetched : List Expense) (store : Store) (vc : ExpenseViewController) :
    Option (Store × ExpenseViewController) :=
  -- `expenses.remove(at:)` traps out of range
  if row < vc.expenses.length then
    let expenses := vc.expenses.eraseIdx row
    -- `deleteRows(at:with:)` traps unless the data source has one row less than before
    if expenses.length + 1 = vc.rows then
      match store.deleteExpense row vc.budget with
      | none => none
      -- the fetched array replaces the one on the screen, without a reload
      | some store => some (store, { vc with expenses := fetched, rows := vc.rows - 1 })
    else none
  else none

end ExpenseViewController

/-! ## Steps -/

structure ExpenseState where
  store : Store
  screen : Option ExpenseViewController

/-- What the user does; an event with a fetch carries its answer. -/
inductive ExpenseEvent where
  | openExpenses (budget : ObjectID) (fetched : List Expense)
  | saveExpense (expenseText amountText : Option String) (currDate : Date)
  | deleteRow (row : ℕ) (fetched : List Expense)

inductive ExpenseStep : ExpenseState → ExpenseEvent → ExpenseState → Prop where
  | openExpenses {s : ExpenseState} {budget : ObjectID} {fetched : List Expense} :
      s.store.IsGetExpenses budget fetched →
      ExpenseStep s (.openExpenses budget fetched)
        { s with screen := some (.viewDidLoad budget fetched) }
  | accepted {s : ExpenseState} {vc : ExpenseViewController}
      {expenseText amountText : Option String}
      {currDate : Date} {expenseTitle amount : String} :
      s.screen = some vc → saveExpense expenseText amountText = .ok (expenseTitle, amount) →
      ExpenseStep s (.saveExpense expenseText amountText currDate)
        ⟨(vc.didAddExpense expenseTitle amount currDate s.store).1,
          some (vc.didAddExpense expenseTitle amount currDate s.store).2⟩
  | rejected {s : ExpenseState} {vc : ExpenseViewController}
      {expenseText amountText : Option String}
      {currDate : Date} {alert : Alert} :
      s.screen = some vc → saveExpense expenseText amountText = .error alert →
      ExpenseStep s (.saveExpense expenseText amountText currDate) s
  | deleteRow {s : ExpenseState} {vc vc' : ExpenseViewController} {row : ℕ} {fetched : List Expense}
      {store : Store} :
      s.screen = some vc → row < vc.rows →
      vc.commitDelete row fetched s.store = some (store, vc') →
      store.IsGetExpenses vc.budget fetched →
      ExpenseStep s (.deleteRow row fetched) ⟨store, some vc'⟩

/-- No screen is open. -/
def ExpenseState.closed (store : Store) : ExpenseState where
  store := store
  screen := none

end BudgetApp
end IosProjects
