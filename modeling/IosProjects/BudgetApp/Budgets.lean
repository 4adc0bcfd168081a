import IosProjects.BudgetApp.ExpenseRuns

/-!
# Budgets — the list of budgets and the database under it

The database keeps the budgets next to the expenses, each of which belongs to a budget; deleting a
budget deletes its expenses with it. `BudgetViewController` keeps an array of its own. It deletes by
the position a row had in that array, in an array fetched after the row has been removed from its
own.

Fetches and saves succeed, and a fetch of budgets returns them in the order of insertion.
-/

namespace IosProjects
namespace BudgetApp

open IosProjects.Library

/-! ## The database -/

structure Budget where
  objectID : ObjectID
  title : String
  amount : NSDecimalNumber
  deriving DecidableEq

/-- The budgets in the order of insertion, and the expenses. -/
structure Database where
  budgets : List Budget
  nextBudgetID : ObjectID
  store : Store
  ids_nodup : (budgets.map Budget.objectID).Nodup
  id_lt : ∀ budget ∈ budgets, budget.objectID < nextBudgetID
  owned : ∀ expense ∈ store.expenses, ∃ budget ∈ budgets, budget.objectID = expense.budget

namespace Store

/-- The store without the expenses of a budget. -/
def cascade (budget : ObjectID) (store : Store) : Store where
  expenses := store.expenses.filter fun expense => expense.budget ≠ budget
  nextID := store.nextID
  ids_nodup := store.ids_nodup.sublist (List.filter_sublist.map _)
  id_lt := fun expense h => store.id_lt expense (List.mem_of_mem_filter h)

end Store

namespace Database

theorem budgets_nodup (database : Database) : database.budgets.Nodup :=
  List.Nodup.of_map _ database.ids_nodup

/-- `DataManager.getBudgets()`. -/
def getBudgets (database : Database) : List Budget :=
  database.budgets

/-- The object `DataManager.setBudget(title:amount:)` returns. -/
def newBudget (title : String) (amount : NSDecimalNumber) (database : Database) : Budget where
  objectID := database.nextBudgetID
  title := title
  amount := amount

/-- The database after `setBudget`. -/
def setBudget (title : String) (amount : NSDecimalNumber) (database : Database) : Database where
  budgets := database.budgets ++ [database.newBudget title amount]
  nextBudgetID := database.nextBudgetID + 1
  store := database.store
  ids_nodup := by
    rw [List.map_append]
    refine List.nodup_append.2 ⟨database.ids_nodup, by simp, ?_⟩
    intro a ha b hb hab
    rcases List.mem_map.1 ha with ⟨budget, hbudget, rfl⟩
    obtain rfl : b = database.nextBudgetID := by simpa [newBudget] using hb
    exact absurd hab (database.id_lt budget hbudget).ne
  id_lt := by
    intro budget hbudget
    rcases List.mem_append.1 hbudget with hbudget | hbudget
    · exact (database.id_lt budget hbudget).trans (Nat.lt_succ_self _)
    · obtain rfl := List.mem_singleton.1 hbudget
      exact Nat.lt_succ_self _
  owned := by
    intro expense hexpense
    rcases database.owned expense hexpense with ⟨budget, hbudget, hid⟩
    exact ⟨budget, List.mem_append_left _ hbudget, hid⟩

/-- `DataManager.setExpense(name:amount:timestamp:budget:)`, for one of the budgets. -/
def setExpense (name : String) (amount : NSDecimalNumber) (timestamp : Date) (budget : Budget)
    (database : Database) (h : budget ∈ database.budgets) : Database where
  budgets := database.budgets
  nextBudgetID := database.nextBudgetID
  store := database.store.setExpense name amount timestamp budget.objectID
  ids_nodup := database.ids_nodup
  id_lt := database.id_lt
  owned := by
    intro expense hexpense
    rcases List.mem_append.1 hexpense with hexpense | hexpense
    · exact database.owned expense hexpense
    · obtain rfl := List.mem_singleton.1 hexpense
      exact ⟨budget, h, rfl⟩

/-- `viewContext.delete(_:)` on a budget: the rule of `expenses` is `Cascade`. -/
def delete (budget : Budget) (database : Database) : Database where
  budgets := database.budgets.erase budget
  nextBudgetID := database.nextBudgetID
  store := database.store.cascade budget.objectID
  ids_nodup := database.ids_nodup.sublist (List.erase_sublist.map _)
  id_lt := fun other h => database.id_lt other (List.mem_of_mem_erase h)
  owned := by
    intro expense hexpense
    rcases List.mem_filter.1 hexpense with ⟨hstored, hother⟩
    rcases database.owned expense hstored with ⟨owner, howner, hid⟩
    have hne : owner ≠ budget := by
      rintro rfl
      simp [hid] at hother
    exact ⟨owner, (List.mem_erase_of_ne hne).2 howner, hid⟩

/-- `DataManager.deleteBudget(idx:)`; `budgets[idx]` traps out of range. -/
def deleteBudget (idx : ℕ) (database : Database) : Option Database :=
  match database.getBudgets[idx]? with
  | none => none
  | some removedItem => some (database.delete removedItem)

theorem budgets_delete (database : Database) (budget : Budget) :
    (database.delete budget).budgets = database.budgets.filter (· ≠ budget) :=
  calc
    database.budgets.erase budget
        = database.budgets.filter (· != budget) := database.budgets_nodup.erase_eq_filter budget
    _ = database.budgets.filter (· ≠ budget) :=
          List.filter_congr fun other _ => by simp [bne, beq_eq_decide]

end Database

/-! ## `BudgetViewController` -/

/-- `Decimal(string:)` on a text without sign, separator or exponent; a text that does not begin
with a digit of ASCII is no decimal. -/
def decimalOfString (text : String) : Option NSDecimalNumber :=
  if text.toList.takeWhile Char.isDigit = [] then none else some (.ofString text)

/-- The checks of `saveBudget(_:)`: an alert, or the title and the amount of the new budget. -/
def checkBudget (titleText amountText : Option String) : Except Alert (String × NSDecimalNumber) :=
  match titleText with
  | none => .error ⟨"Invalid title", "Please try again"⟩
  | some budgetTitleText =>
      if budgetTitleText.isEmpty then .error ⟨"Invalid title", "Please try again"⟩
      else
        match amountText with
        | none => .error ⟨"Invalid amount", "Please try again"⟩
        | some budgetAmountText =>
            if budgetAmountText.isEmpty then .error ⟨"Invalid amount", "Please try again"⟩
            else
              match decimalOfString budgetAmountText with
              | none => .error ⟨"Invalid amount", "Please try again"⟩
              | some budgetAmount =>
                  if budgetAmountText.toList.all decimalDigits then
                    .ok (budgetTitleText, budgetAmount)
                  else .error ⟨"Invalid amount", "Please try again"⟩

/-- The screen; `rows` is the number of rows the table view has laid out. -/
structure BudgetViewController where
  budgets : List Budget
  rows : ℕ

namespace BudgetViewController

/-- `viewDidLoad()`. -/
def viewDidLoad (database : Database) : BudgetViewController where
  budgets := database.getBudgets
  rows := database.getBudgets.length

/-- `saveBudget(_:)`; nothing is saved after an alert. -/
def saveBudget (titleText amountText : Option String) (database : Database)
    (vc : BudgetViewController) : Database × BudgetViewController :=
  match checkBudget titleText amountText with
  | .error _ => (database, vc)
  | .ok (budgetTitleText, budgetNum) =>
      let budgets := vc.budgets ++ [database.newBudget budgetTitleText budgetNum]
      (database.setBudget budgetTitleText budgetNum, { budgets := budgets, rows := budgets.length })

/-- `tableView(_:commit:forRowAt:)` for `.delete`. -/
def commitDelete (row : ℕ) (database : Database) (vc : BudgetViewController) :
    Option (Database × BudgetViewController) :=
  -- `budgets.remove(at:)` traps out of range
  if row < vc.budgets.length then
    let budgets := vc.budgets.eraseIdx row
    -- `deleteRows(at:with:)` traps unless the data source has one row less than before
    if budgets.length + 1 = vc.rows then
      match database.deleteBudget row with
      | none => none
      | some database => some (database, { budgets := budgets, rows := vc.rows - 1 })
    else none
  else none

end BudgetViewController

/-! ## Steps -/

/-- The screen is there once the app has been launched. -/
structure BudgetState where
  database : Database
  screen : Option BudgetViewController

inductive BudgetEvent where
  | launch
  | saveBudget (titleText amountText : Option String)
  | deleteRow (row : ℕ)
  | addExpense (name : String) (amount : NSDecimalNumber) (timestamp : Date) (budget : Budget)

inductive BudgetStep : BudgetState → BudgetEvent → BudgetState → Prop where
  | launch {s : BudgetState} :
      BudgetStep s .launch { s with screen := some (.viewDidLoad s.database) }
  | saveBudget {s : BudgetState} {vc : BudgetViewController}
      {titleText amountText : Option String} :
      s.screen = some vc →
      BudgetStep s (.saveBudget titleText amountText)
        ⟨(vc.saveBudget titleText amountText s.database).1,
          some (vc.saveBudget titleText amountText s.database).2⟩
  | deleteRow {s : BudgetState} {vc vc' : BudgetViewController} {row : ℕ} {database : Database} :
      s.screen = some vc → row < vc.rows →
      vc.commitDelete row s.database = some (database, vc') →
      BudgetStep s (.deleteRow row) ⟨database, some vc'⟩
  | addExpense {s : BudgetState} {name : String} {amount : NSDecimalNumber} {timestamp : Date}
      {budget : Budget} (h : budget ∈ s.database.budgets) :
      BudgetStep s (.addExpense name amount timestamp budget)
        { s with database := s.database.setExpense name amount timestamp budget h }

/-- The app has not been launched. -/
def BudgetState.closed (database : Database) : BudgetState where
  database := database
  screen := none

/-! ## The list mirrors the store -/

/-- The list shows the stored budgets in order, a row for each. -/
structure Mirrors (database : Database) (vc : BudgetViewController) : Prop where
  budgets : vc.budgets = database.budgets
  rows : vc.rows = vc.budgets.length

theorem Mirrors.viewDidLoad (database : Database) : Mirrors database (.viewDidLoad database) :=
  ⟨rfl, rfl⟩

theorem Mirrors.saveBudget {database : Database} {vc : BudgetViewController}
    (h : Mirrors database vc) (titleText amountText : Option String) :
    Mirrors (vc.saveBudget titleText amountText database).1
      (vc.saveBudget titleText amountText database).2 := by
  unfold BudgetViewController.saveBudget
  split
  · exact h
  · exact ⟨by rw [h.budgets]; rfl, rfl⟩

/-- Deleting a displayed row goes through: both arrays lose the budget of that row. -/
theorem Mirrors.commitDelete {database : Database} {vc : BudgetViewController}
    (h : Mirrors database vc) {row : ℕ} {budget : Budget}
    (hbudget : vc.budgets[row]? = some budget) :
    vc.commitDelete row database =
      some (database.delete budget, ⟨vc.budgets.eraseIdx row, vc.rows - 1⟩) := by
  have hrow : row < vc.budgets.length := (List.getElem?_eq_some_iff.1 hbudget).1
  have hrows : (vc.budgets.eraseIdx row).length + 1 = vc.rows := by
    rw [List.length_eraseIdx_of_lt hrow, h.rows]
    omega
  have hdelete : database.deleteBudget row = some (database.delete budget) := by
    rw [Database.deleteBudget, Database.getBudgets, ← h.budgets, hbudget]
  simp only [BudgetViewController.commitDelete, if_pos hrow, if_pos hrows, hdelete]

theorem Mirrors.delete {database : Database} {vc : BudgetViewController} (h : Mirrors database vc)
    {row : ℕ} {budget : Budget} (hbudget : vc.budgets[row]? = some budget) :
    Mirrors (database.delete budget) ⟨vc.budgets.eraseIdx row, vc.rows - 1⟩ where
  budgets := by
    rw [h.budgets] at hbudget ⊢
    exact eraseIdx_eq_erase database.budgets_nodup hbudget
  rows := by
    have hrow : row < vc.budgets.length := (List.getElem?_eq_some_iff.1 hbudget).1
    rw [h.rows, List.length_eraseIdx_of_lt hrow]

/-- A step keeps the list of an app that has been launched. -/
theorem Mirrors.step {s t : BudgetState} {e : BudgetEvent}
    (h : ∀ vc, s.screen = some vc → Mirrors s.database vc) (hstep : BudgetStep s e t) :
    ∀ vc, t.screen = some vc → Mirrors t.database vc := by
  cases hstep with
  | launch =>
      rintro vc ⟨⟩
      exact .viewDidLoad s.database
  | @saveBudget vc titleText amountText hscreen =>
      rintro _ ⟨⟩
      exact (h vc hscreen).saveBudget titleText amountText
  | @deleteRow vc vc' row database hscreen hrow hcommit =>
      rintro _ ⟨⟩
      have hmirrors := h vc hscreen
      rw [hmirrors.rows] at hrow
      have hbudget := List.getElem?_eq_getElem hrow
      rw [hmirrors.commitDelete hbudget] at hcommit
      obtain ⟨rfl, rfl⟩ := Prod.mk.inj (Option.some.inj hcommit)
      exact hmirrors.delete hbudget
  | @addExpense name amount timestamp budget hbudget =>
      intro vc hscreen
      exact ⟨(h vc hscreen).budgets, (h vc hscreen).rows⟩

theorem Mirrors.run {database : Database} {es : List BudgetEvent} {s : BudgetState}
    (hrun : Run BudgetStep (.closed database) es s) :
    ∀ vc, s.screen = some vc → Mirrors s.database vc :=
  hrun.invariant (P := fun s => ∀ vc, s.screen = some vc → Mirrors s.database vc)
    (fun _ _ _ h hstep => Mirrors.step h hstep) (fun _ h => nomatch h)

/-- What deleting the row of a budget does: it goes through, the screen loses the row, the database
loses that budget and its expenses, and everything else is where it was. -/
structure DeletesRow (row : ℕ) (budget : Budget) (database : Database) (vc : BudgetViewController) :
    Prop where
  index : (database.deleteBudget row).isSome
  commit : ∃ database' vc', vc.commitDelete row database = some (database', vc') ∧
    vc'.budgets = vc.budgets.eraseIdx row ∧
    database'.budgets = database.budgets.filter (· ≠ budget) ∧
    database'.store.expenses =
      database.store.expenses.filter fun expense => expense.budget ≠ budget.objectID

/-- After every operation of a run the list shows the stored budgets in order, and deleting a row of
it deletes the budget that is displayed there with its own expenses, and nothing else. -/
theorem budgets_mirror_store {database : Database} {es : List BudgetEvent} {s : BudgetState}
    {vc : BudgetViewController} (hrun : Run BudgetStep (.closed database) es s)
    (hscreen : s.screen = some vc) :
    vc.budgets = s.database.budgets ∧
      ∀ row < vc.rows, ∃ budget, vc.budgets[row]? = some budget ∧
        DeletesRow row budget s.database vc := by
  have hmirrors := Mirrors.run hrun vc hscreen
  refine ⟨hmirrors.budgets, fun row hrow => ?_⟩
  rw [hmirrors.rows] at hrow
  have hbudget := List.getElem?_eq_getElem hrow
  refine ⟨_, hbudget, ?_, _, _, hmirrors.commitDelete hbudget, rfl, ?_, rfl⟩
  · rw [Database.deleteBudget, Database.getBudgets, ← hmirrors.budgets, hbudget]
    rfl
  · exact s.database.budgets_delete _

def emptyDatabase : Database where
  budgets := []
  nextBudgetID := 0
  store := emptyStore
  ids_nodup := .nil
  id_lt := by simp
  owned := by simp [emptyStore]

def food : Budget where
  objectID := 0
  title := "Food"
  amount := .number 300

def travel : Budget where
  objectID := 1
  title := "Travel"
  amount := .number 1000

/-- Food and Travel have been saved, and Food has an expense. -/
theorem food_and_travel_mirror_store : ∃ (s : BudgetState) (vc : BudgetViewController),
    s.screen = some vc ∧ vc.budgets = [food, travel] ∧ vc.budgets = s.database.budgets ∧
      ∀ row < vc.rows, ∃ budget, vc.budgets[row]? = some budget ∧
        DeletesRow row budget s.database vc := by
  have hrun : Run BudgetStep (.closed emptyDatabase) [.launch,
      .saveBudget (some "Food") (some "300"), .saveBudget (some "Travel") (some "1000"),
      .addExpense "Groceries" (.number 20) 0 food] _ :=
    (((Run.single BudgetStep.launch).snoc (BudgetStep.saveBudget rfl)).snoc
      (BudgetStep.saveBudget rfl)).snoc (BudgetStep.addExpense (by decide +kernel))
  exact ⟨_, _, rfl, by decide +kernel, budgets_mirror_store hrun rfl⟩

end BudgetApp
end IosProjects
