import Mathlib.Algebra.Order.BigOperators.Group.List
import Mathlib.Data.List.Forall2
import IosProjects.BudgetApp.ExpenseRuns

/-!
# ExpenseDisplays — the total, its colour and the chart

Three displays are derived from the array on the screen. Opening a budget and adding an expense set
all three; deleting a row sets the text of the total only, and that before the array is fetched
anew. The fonts, the colours and the legend of the chart are left out.
-/

namespace IosProjects
namespace BudgetApp

open IosProjects.Library

/-! ## `Decimal` and `Double` -/

/-- A `Double` is no number or a rational; no decimal is too large for one. -/
inductive Double where
  | notANumber
  | number (value : ℚ)
  deriving DecidableEq

namespace NSDecimalNumber

/-- `>`; `compare(_:)` puts not-a-number below every number. -/
def greater : NSDecimalNumber → NSDecimalNumber → Bool
  | number a, number b => b < a
  | number _, notANumber => true
  | notANumber, _ => false

/-- The sum of amounts, which is no number if one of them is none. -/
def sum : List NSDecimalNumber → NSDecimalNumber
  | [] => number 0
  | notANumber :: _ => notANumber
  | number value :: amounts =>
      match sum amounts with
      | notANumber => notANumber
      | number total => number (value + total)

/-- The `Double` with the value of an amount. -/
def exactDouble : NSDecimalNumber → Double
  | notANumber => .notANumber
  | number value => .number value

theorem sum_map_number {α : Type*} (as : List α) (amount : α → ℕ) :
    sum (as.map fun a => number (amount a)) = number ((as.map amount).sum : ℕ) := by
  induction as with
  | nil => rfl
  | cons a as ih =>
      rw [List.map_cons, sum, ih, List.map_cons, List.sum_cons]
      push_cast
      rfl

end NSDecimalNumber

/-- What the screen uses of `Decimal`: `+`, the currency formatter and `as! Double`, which takes the
`doubleValue` whatever the amount. A decimal keeps 38 digits, so sums of whole numbers below that
are exact; a `Double` has the whole numbers up to `2 ^ 53`. -/
structure Decimals where
  add : NSDecimalNumber → NSDecimalNumber → NSDecimalNumber
  formatCurrency : NSDecimalNumber → Option String
  doubleValue : NSDecimalNumber → Double
  add_number : ∀ a b : ℕ, a + b < 10 ^ 38 → add (.number a) (.number b) = .number (a + b : ℕ)
  doubleValue_number : ∀ n ≤ 2 ^ 53, doubleValue (.number (n : ℕ)) = .number n

/-- `calculateTotalExpenses(expenses:)`. -/
def calculateTotalExpenses (D : Decimals) (expenses : List Expense) : NSDecimalNumber :=
  expenses.foldl (fun total expense => D.add total expense.amount) (.number 0)

/-- The amounts are whole numbers. -/
def Whole (amount : Expense → ℕ) (expenses : List Expense) : Prop :=
  ∀ expense ∈ expenses, expense.amount = .number (amount expense)

theorem Whole.sum {amount : Expense → ℕ} {expenses : List Expense} (h : Whole amount expenses) :
    NSDecimalNumber.sum (expenses.map Expense.amount) =
      .number ((expenses.map amount).sum : ℕ) := by
  rw [List.map_congr_left h, NSDecimalNumber.sum_map_number]

/-- The total of whole amounts is their sum, as long as it has no more than 38 digits. -/
theorem calculateTotalExpenses_eq_sum (D : Decimals) {expenses : List Expense}
    {amount : Expense → ℕ}
    (hamount : Whole amount expenses) (hsum : (expenses.map amount).sum < 10 ^ 38) :
    calculateTotalExpenses D expenses = .sum (expenses.map Expense.amount) := by
  rw [hamount.sum]
  induction expenses using List.reverseRecOn with
  | nil => rfl
  | append_singleton expenses expense ih =>
      rw [List.map_append, List.sum_append, List.map_singleton, List.sum_singleton] at hsum ⊢
      have hbefore := ih (fun other hother => hamount other (List.mem_append_left _ hother))
        (by omega)
      calc calculateTotalExpenses D (expenses ++ [expense])
          = D.add (calculateTotalExpenses D expenses) expense.amount := by
            rw [calculateTotalExpenses, List.foldl_append]
            rfl
        _ = D.add (.number ((expenses.map amount).sum : ℕ)) (.number (amount expense : ℕ)) := by
            rw [hbefore, hamount expense (by simp)]
        _ = .number ((expenses.map amount).sum + amount expense : ℕ) := D.add_number _ _ hsum

/-! ## The displays -/

inductive UIColor where
  | red
  | systemGreen
  deriving DecidableEq, Repr

structure PieChartDataEntry where
  value : Double
  label : String
  deriving DecidableEq

structure PieChartView where
  entries : List PieChartDataEntry
  centerText : String
  deriving DecidableEq

/-- The text and the colour of `spentLabel`, and the chart. -/
structure Displays where
  spentText : Option String
  textColor : UIColor
  pieChartView : PieChartView
  deriving DecidableEq

/-- `checkOverBudget(totalExpenses:budget:)`: the alert it shows, and the colour it sets. -/
def checkOverBudget (totalExpenses amount : NSDecimalNumber) :
    Option Alert × UIColor :=
  if totalExpenses.greater amount then
    (some ⟨"You've gone over budget!", "Watch your spending"⟩, .red)
  else (none, .systemGreen)

/-- `setupPieChart()`. -/
def setupPieChart (D : Decimals) (expenses : List Expense) : PieChartView where
  entries := expenses.map fun expense =>
    { value := D.doubleValue expense.amount, label := expense.name }
  centerText := if expenses.isEmpty then "No expenses." else ""

namespace Displays

/-- What `viewDidLoad` and `didAddExpense` set for the array on the screen; `amounts` are the
amounts of the budgets. -/
def refreshed (D : Decimals) (amounts : ObjectID → NSDecimalNumber) (vc : ExpenseViewController) :
    Displays :=
  let totalExpenses := calculateTotalExpenses D vc.expenses
  { spentText := D.formatCurrency totalExpenses
    textColor := (checkOverBudget totalExpenses (amounts vc.budget)).2
    pieChartView := setupPieChart D vc.expenses }

/-- What `tableView(_:commit:forRowAt:)` sets, from the array it had before. -/
def commitDelete (D : Decimals) (row : ℕ) (vc : ExpenseViewController) (displays : Displays) :
    Displays :=
  -- `checkOverBudget` and `setupPieChart` are not called here
  { displays with
    spentText := D.formatCurrency (calculateTotalExpenses D (vc.expenses.eraseIdx row)) }

end Displays

/-! ## Steps -/

structure DisplayState where
  expenseState : ExpenseState
  displays : Option Displays

/-- The steps of the screen, with what they do to the displays. -/
inductive DisplayStep (D : Decimals) (amounts : ObjectID → NSDecimalNumber) :
    DisplayState → ExpenseEvent → DisplayState → Prop where
  | openExpenses {s : DisplayState} {t : ExpenseState} {budget : ObjectID} {fetched : List Expense}
      {vc : ExpenseViewController} :
      ExpenseStep s.expenseState (.openExpenses budget fetched) t → t.screen = some vc →
      DisplayStep D amounts s (.openExpenses budget fetched) ⟨t, some (.refreshed D amounts vc)⟩
  | accepted {s : DisplayState} {t : ExpenseState} {expenseText amountText : Option String}
      {currDate : Date} {expenseTitle amount : String} {vc : ExpenseViewController} :
      ExpenseStep s.expenseState (.saveExpense expenseText amountText currDate) t →
      saveExpense expenseText amountText = .ok (expenseTitle, amount) → t.screen = some vc →
      DisplayStep D amounts s (.saveExpense expenseText amountText currDate)
        ⟨t, some (.refreshed D amounts vc)⟩
  | rejected {s : DisplayState} {t : ExpenseState} {expenseText amountText : Option String}
      {currDate : Date} {alert : Alert} :
      ExpenseStep s.expenseState (.saveExpense expenseText amountText currDate) t →
      saveExpense expenseText amountText = .error alert →
      DisplayStep D amounts s (.saveExpense expenseText amountText currDate) ⟨t, s.displays⟩
  | deleteRow {s : DisplayState} {t : ExpenseState} {row : ℕ} {fetched : List Expense}
      {vc : ExpenseViewController} {displays : Displays} :
      s.expenseState.screen = some vc → s.displays = some displays →
      ExpenseStep s.expenseState (.deleteRow row fetched) t →
      DisplayStep D amounts s (.deleteRow row fetched) ⟨t, some (displays.commitDelete D row vc)⟩

/-- No screen is open. -/
def DisplayState.closed (store : Store) : DisplayState where
  expenseState := .closed store
  displays := none

/-! ## What the displays should show -/

/-- The displays agree with the list: the label shows the sum of its amounts and is red exactly when
that exceeds the amount of the budget, and the chart has the listed expenses with their amounts, in
order. -/
structure Shows (D : Decimals) (amounts : ObjectID → NSDecimalNumber) (vc : ExpenseViewController)
    (displays : Displays) : Prop where
  spent : displays.spentText = D.formatCurrency (.sum (vc.expenses.map Expense.amount))
  red : displays.textColor = .red ↔
    (NSDecimalNumber.sum (vc.expenses.map Expense.amount)).greater (amounts vc.budget) = true
  chart : vc.expenses.Forall₂
    (fun expense entry => entry.label = expense.name ∧ entry.value = expense.amount.exactDouble)
    displays.pieChartView.entries

/-- An open screen has displays, and they agree with its list. -/
def NoContradiction (D : Decimals) (amounts : ObjectID → NSDecimalNumber) (s : DisplayState) :
    Prop :=
  ∀ vc, s.expenseState.screen = some vc → ∃ displays, s.displays = some displays ∧
    Shows D amounts vc displays

/-- No rounding shows: added up one after the other, the amounts give a decimal that reads and
compares as their sum, and each of them is a `Double`. -/
structure Unrounded (D : Decimals) (budgetAmount : NSDecimalNumber)
    (amounts : List NSDecimalNumber) : Prop where
  text : D.formatCurrency (amounts.foldl D.add (.number 0)) = D.formatCurrency (.sum amounts)
  color : (amounts.foldl D.add (.number 0)).greater budgetAmount =
    (NSDecimalNumber.sum amounts).greater budgetAmount
  chart : ∀ amount ∈ amounts, D.doubleValue amount = amount.exactDouble

/-- What an event is to show, told from the state before it, is not rounded; and it deletes no
row. -/
def ExpenseEvent.Shown (D : Decimals) (amounts : ObjectID → NSDecimalNumber) (s : ExpenseState) :
    ExpenseEvent → Prop
  | .openExpenses budget fetched => Unrounded D (amounts budget) (fetched.map Expense.amount)
  | .saveExpense expenseText amountText _ => ∀ vc expenseTitle amount,
      s.screen = some vc →
      BudgetApp.saveExpense expenseText amountText = .ok (expenseTitle, amount) →
      Unrounded D (amounts vc.budget) (vc.expenses.map Expense.amount ++ [.ofString amount])
  | .deleteRow _ _ => False

section Refreshed

variable {D : Decimals} {amounts : ObjectID → NSDecimalNumber} {vc : ExpenseViewController}

theorem textColor_eq_red_iff (totalExpenses amount : NSDecimalNumber) :
    (checkOverBudget totalExpenses amount).2 = .red ↔ totalExpenses.greater amount = true := by
  unfold checkOverBudget
  split <;> simp_all

/-- Displays that are set anew agree with the list exactly when no rounding shows. -/
theorem Shows.refreshed_iff : Shows D amounts vc (.refreshed D amounts vc) ↔
    Unrounded D (amounts vc.budget) (vc.expenses.map Expense.amount) := by
  have htotal : calculateTotalExpenses D vc.expenses =
      (vc.expenses.map Expense.amount).foldl D.add (.number 0) := by
    rw [calculateTotalExpenses, List.foldl_map]
  have hchart : vc.expenses.Forall₂
      (fun expense entry => entry.label = expense.name ∧ entry.value = expense.amount.exactDouble)
      (setupPieChart D vc.expenses).entries ↔
        ∀ amount ∈ vc.expenses.map Expense.amount, D.doubleValue amount = amount.exactDouble := by
    rw [setupPieChart, List.forall₂_map_right_iff, List.forall₂_same, List.forall_mem_map]
    simp
  constructor
  · intro h
    refine ⟨htotal ▸ h.spent, ?_, hchart.1 h.chart⟩
    rw [← htotal, Bool.eq_iff_iff, ← textColor_eq_red_iff]
    exact h.red
  · intro h
    refine ⟨?_, ?_, hchart.2 h.chart⟩
    · rw [Displays.refreshed, htotal, h.text]
    · rw [← h.color, ← htotal]
      exact textColor_eq_red_iff _ _

/-- Whole amounts that add up to no more than `2 ^ 53` are not rounded. -/
theorem Whole.unrounded {amount : Expense → ℕ} {expenses : List Expense} (h : Whole amount expenses)
    (hsum : (expenses.map amount).sum ≤ 2 ^ 53) (budgetAmount : NSDecimalNumber) :
    Unrounded D budgetAmount (expenses.map Expense.amount) := by
  have htotal := calculateTotalExpenses_eq_sum D h (hsum.trans_lt (by norm_num))
  rw [calculateTotalExpenses, ← List.foldl_map (f := Expense.amount)] at htotal
  refine ⟨by rw [htotal], by rw [htotal], fun value hvalue => ?_⟩
  rcases List.mem_map.1 hvalue with ⟨expense, hexpense, rfl⟩
  have hle : amount expense ≤ (expenses.map amount).sum :=
    List.single_le_sum (fun _ _ => Nat.zero_le _) _ (List.mem_map_of_mem hexpense)
  rw [h expense hexpense, D.doubleValue_number _ (hle.trans hsum)]
  rfl

end Refreshed

/-! ## Runs -/

/-- The list has at least the expenses that a fetch finds. -/
def Covers (s : ExpenseState) : Prop :=
  ∀ vc, s.screen = some vc → (s.store.fetchExpenses vc.budget).length ≤ vc.expenses.length

theorem Covers.step {s t : ExpenseState} {e : ExpenseEvent} (h : Covers s)
    (hstep : ExpenseStep s e t) : Covers t := by
  intro vc' hvc'
  cases hstep with
  | openExpenses hfetched =>
      obtain rfl := Option.some.inj hvc'
      exact hfetched.perm.length_eq.ge
  | @accepted vc _ _ currDate expenseTitle amount hscreen _ =>
      obtain rfl := Option.some.inj hvc'
      have hle := h vc hscreen
      have hfetch := Store.fetchExpenses_setExpense expenseTitle (NSDecimalNumber.ofString amount)
        currDate vc.budget s.store
      simp only [ExpenseViewController.didAddExpense, List.length_append, List.length_singleton]
      rw [hfetch]
      -- the list always grows, the fetch only by a positive amount
      split
      · simpa using hle
      · omega
  | rejected _ _ => exact h vc' hvc'
  | deleteRow hscreen _ hdelete hfetched =>
      obtain rfl := Option.some.inj hvc'
      rcases commitDelete_some hdelete with ⟨_, _, _, _, rfl, rfl⟩
      exact hfetched.perm.length_eq.ge

theorem DisplayStep.expenseStep {D : Decimals} {amounts : ObjectID → NSDecimalNumber}
    {s t : DisplayState} {e : ExpenseEvent} (h : DisplayStep D amounts s e t) :
    ExpenseStep s.expenseState e t.expenseState := by
  cases h with
  | openExpenses hstep _ => exact hstep
  | accepted hstep _ _ => exact hstep
  | rejected hstep _ => exact hstep
  | deleteRow _ _ hstep => exact hstep

theorem covers_run {D : Decimals} {amounts : ObjectID → NSDecimalNumber} {store : Store}
    {s : DisplayState} {es : List ExpenseEvent}
    (hrun : Run (DisplayStep D amounts) (.closed store) es s) : Covers s.expenseState :=
  hrun.invariant (P := fun s => Covers s.expenseState)
    (fun _ _ _ h hstep => h.step hstep.expenseStep) (fun _ h => nomatch h)

/-- After a row is deleted the list is shorter than it was. -/
theorem length_lt_of_deleteRow {s t : ExpenseState} {row : ℕ} {fetched : List Expense}
    {vc vc' : ExpenseViewController} (hcovers : Covers s)
    (hstep : ExpenseStep s (.deleteRow row fetched) t) (hscreen : s.screen = some vc)
    (hscreen' : t.screen = some vc') : vc'.expenses.length < vc.expenses.length := by
  cases hstep with
  | deleteRow hvc _ hdelete hfetched =>
      obtain rfl := Option.some.inj (hscreen.symm.trans hvc)
      obtain rfl := Option.some.inj hscreen'
      rcases commitDelete_some hdelete with ⟨removedItem, hremoved, _, _, rfl, rfl⟩
      have hmem : removedItem ∈ s.store.fetchExpenses vc.budget := List.mem_of_getElem? hremoved
      have hpos : 0 < (s.store.fetchExpenses vc.budget).length := List.length_pos_of_mem hmem
      calc
        fetched.length
            = ((s.store.delete removedItem).fetchExpenses vc.budget).length :=
              hfetched.perm.length_eq
        _ = (s.store.fetchExpenses vc.budget).length - 1 := by
              rw [fetchExpenses_delete, List.length_erase_of_mem hmem]
        _ < (s.store.fetchExpenses vc.budget).length := Nat.sub_one_lt hpos.ne'
        _ ≤ vc.expenses.length := hcovers vc hvc

theorem NoContradiction.refreshed_iff {D : Decimals} {amounts : ObjectID → NSDecimalNumber}
    {t : ExpenseState} {vc : ExpenseViewController} (hscreen : t.screen = some vc) :
    NoContradiction D amounts ⟨t, some (.refreshed D amounts vc)⟩ ↔
      Unrounded D (amounts vc.budget) (vc.expenses.map Expense.amount) := by
  rw [← Shows.refreshed_iff]
  constructor
  · intro h
    rcases h vc hscreen with ⟨_, ⟨⟩, hshows⟩
    exact hshows
  · intro hshows vc' hvc'
    obtain rfl := Option.some.inj (hscreen.symm.trans hvc')
    exact ⟨_, rfl, hshows⟩

/-- An operation keeps the displays in agreement exactly when it deletes no row and no rounding
shows. -/
theorem noContradiction_step_iff {D : Decimals} {amounts : ObjectID → NSDecimalNumber}
    {s t : DisplayState} {e : ExpenseEvent} (hcovers : Covers s.expenseState)
    (h : NoContradiction D amounts s) (hstep : DisplayStep D amounts s e t) :
    NoContradiction D amounts t ↔ e.Shown D amounts s.expenseState := by
  cases hstep with
  | openExpenses hexpense hscreen =>
      rw [NoContradiction.refreshed_iff hscreen]
      cases hexpense with
      | openExpenses _ =>
          obtain rfl := Option.some.inj hscreen
          rfl
  | accepted hexpense hsave hscreen =>
      rw [NoContradiction.refreshed_iff hscreen]
      cases hexpense with
      | accepted hvc hsave' =>
          obtain rfl := Option.some.inj hscreen
          simp [ExpenseEvent.Shown, hvc, hsave', ExpenseViewController.didAddExpense,
            Store.newExpense]
      | rejected _ hsave' =>
          rw [hsave] at hsave'
          cases hsave'
  | rejected hexpense hsave =>
      refine iff_of_true (fun vc hvc => ?_) (fun vc expenseTitle amount _ hsave' => ?_)
      · cases hexpense with
        | accepted _ hsave' =>
            rw [hsave] at hsave'
            cases hsave'
        | rejected _ _ => exact h vc hvc
      · rw [hsave] at hsave'
        cases hsave'
  | @deleteRow t row fetched vc displays hscreen hdisplays hexpense =>
      refine iff_of_false (fun hafter => ?_) id
      rcases h vc hscreen with ⟨before, hbefore, hshows⟩
      obtain rfl := Option.some.inj (hdisplays.symm.trans hbefore)
      -- the chart still has an entry for every expense listed before
      obtain ⟨vc', hscreen'⟩ : ∃ vc', t.screen = some vc' := by
        cases hexpense with
        | deleteRow _ _ _ _ => exact ⟨_, rfl⟩
      rcases hafter vc' hscreen' with ⟨_, ⟨⟩, hshows'⟩
      have hlength : vc'.expenses.length = vc.expenses.length :=
        hshows'.chart.length_eq.trans hshows.chart.length_eq.symm
      exact absurd hlength (length_lt_of_deleteRow hcovers hexpense hscreen hscreen').ne

/-- The list has whole amounts that add up to no more than `2 ^ 53`. -/
def SmallAmounts (s : DisplayState) : Prop :=
  ∀ vc, s.expenseState.screen = some vc → ∃ amount, Whole amount vc.expenses ∧
    (vc.expenses.map amount).sum ≤ 2 ^ 53

/-- Among small amounts only deleting a row matters. -/
theorem shown_iff_of_smallAmounts {D : Decimals} {amounts : ObjectID → NSDecimalNumber}
    {s t : DisplayState} {e : ExpenseEvent} (hsmall : SmallAmounts t)
    (hstep : DisplayStep D amounts s e t) :
    e.Shown D amounts s.expenseState ↔ ∀ row fetched, e ≠ .deleteRow row fetched := by
  cases hstep with
  | openExpenses hexpense hscreen =>
      refine iff_of_true ?_ (fun _ _ he => by cases he)
      cases hexpense with
      | openExpenses _ =>
          rcases hsmall _ rfl with ⟨amount, hwhole, hsum⟩
          exact hwhole.unrounded hsum _
  | accepted hexpense hsave hscreen =>
      refine iff_of_true (fun vc expenseTitle amount hvc hsave' => ?_) (fun _ _ he => by cases he)
      cases hexpense with
      | accepted hvc' hsave'' =>
          obtain rfl := Option.some.inj (hvc.symm.trans hvc')
          obtain ⟨rfl, rfl⟩ : expenseTitle = _ ∧ amount = _ := by
            simpa using hsave'.symm.trans hsave''
          rcases hsmall _ rfl with ⟨wholeAmount, hwhole, hsum⟩
          have hunrounded := hwhole.unrounded (D := D) hsum (amounts vc.budget)
          rwa [ExpenseViewController.didAddExpense, List.map_append] at hunrounded
      | rejected _ hsave'' =>
          rw [hsave] at hsave''
          cases hsave''
  | rejected _ hsave =>
      refine iff_of_true (fun vc expenseTitle amount _ hsave' => ?_) (fun _ _ he => by cases he)
      rw [hsave] at hsave'
      cases hsave'
  | @deleteRow t row fetched vc displays _ _ _ =>
      exact iff_of_false id fun hne => hne row fetched rfl

/-- The displays agree with the list after every operation of a run if and only if the run deletes
no row and nothing that it shows is rounded. Where the listed amounts are whole numbers and add up
to no more than `2 ^ 53`, that is if and only if it deletes no row. -/
theorem noContradiction_throughout_iff (D : Decimals) (amounts : ObjectID → NSDecimalNumber)
    (store : Store) (es : List ExpenseEvent) :
    (Throughout (DisplayStep D amounts) (.closed store) es (NoContradiction D amounts) ↔
      Along (DisplayStep D amounts) (.closed store) es
        fun s e _ => e.Shown D amounts s.expenseState) ∧
    (Throughout (DisplayStep D amounts) (.closed store) es SmallAmounts →
      (Throughout (DisplayStep D amounts) (.closed store) es (NoContradiction D amounts) ↔
        Along (DisplayStep D amounts) (.closed store) es
          fun _ e _ => ∀ row fetched, e ≠ .deleteRow row fetched)) := by
  have hexact : Throughout (DisplayStep D amounts) (.closed store) es (NoContradiction D amounts) ↔
      Along (DisplayStep D amounts) (.closed store) es
        fun s e _ => e.Shown D amounts s.expenseState :=
    Throughout.iff_along (fun _ hvc => by cases hvc) fun _ _ _ _ hrun h hstep =>
      noContradiction_step_iff (covers_run hrun) h hstep
  refine ⟨hexact, fun hsmall => hexact.trans ?_⟩
  constructor
  · intro h before after e s t hes hrun hstep
    have hsmall' := hsmall (before ++ [e]) after t (by simp [hes]) (hrun.snoc hstep)
    exact (shown_iff_of_smallAmounts hsmall' hstep).1 (h before after e s t hes hrun hstep)
  · intro h before after e s t hes hrun hstep
    have hsmall' := hsmall (before ++ [e]) after t (by simp [hes]) (hrun.snoc hstep)
    exact (shown_iff_of_smallAmounts hsmall' hstep).2 (h before after e s t hes hrun hstep)

/-! ## Back under the budget -/

/-- Decimals without rounding, and whole amounts of money. -/
def exactDecimals : Decimals where
  add := fun a b =>
    match a, b with
    | .number a, .number b => .number (a + b)
    | _, _ => .notANumber
  formatCurrency := fun a =>
    match a with
    | .number a => some ("$" ++ String.ofList (decimal 1 a.num.toNat) ++ ".00")
    | .notANumber => some "NaN"
  doubleValue := NSDecimalNumber.exactDouble
  add_number := fun a b _ => by simp
  doubleValue_number := fun _ _ => rfl

def lunchOnly : Store where
  expenses := [lunch]
  nextID := 2
  ids_nodup := by decide
  id_lt := by decide

theorem open_lunchOnly (D : Decimals) (amounts : ObjectID → NSDecimalNumber) :
    DisplayStep D amounts (.closed lunchOnly) (.openExpenses 0 [lunch])
      ⟨⟨lunchOnly, some (.viewDidLoad 0 [lunch])⟩,
        some (.refreshed D amounts (.viewDidLoad 0 [lunch]))⟩ :=
  .openExpenses
    (.openExpenses ⟨List.Perm.of_eq (by decide +kernel), List.pairwise_singleton _ _⟩) rfl

/-- Lunch is shown, and tea is added. -/
def teaAfterLunch : List ExpenseEvent :=
  [.openExpenses 0 [lunch], .saveExpense (some "tea") (some "5") 3]

theorem teaAfterLunch_run (D : Decimals) (amounts : ObjectID → NSDecimalNumber) :
    ∃ s, Run (DisplayStep D amounts) (.closed lunchOnly) teaAfterLunch s :=
  ⟨_, (Run.single (open_lunchOnly D amounts)).snoc
    (.accepted (save_tea 3 lunchOnly (.viewDidLoad 0 [lunch]) rfl) rfl rfl)⟩

theorem smallAmounts_of_open {D : Decimals} {amounts : ObjectID → NSDecimalNumber}
    {s : DisplayState}
    (hrun : Run (DisplayStep D amounts) (.closed lunchOnly) [.openExpenses 0 [lunch]] s) :
    s.expenseState = ⟨lunchOnly, some (.viewDidLoad 0 [lunch])⟩ ∧ SmallAmounts s := by
  have hopened :
      Run (DisplayStep D amounts) (.closed lunchOnly) ([] ++ [.openExpenses 0 [lunch]]) s :=
    hrun
  rcases hopened.snoc_inv with ⟨start, hstart, hstep⟩
  obtain rfl := hstart.nil_inv
  have hstate : s.expenseState = ⟨lunchOnly, some (.viewDidLoad 0 [lunch])⟩ := by
    have hexpense := hstep.expenseStep
    generalize s.expenseState = t at hexpense
    cases hexpense
    rfl
  refine ⟨hstate, fun vc hvc => ⟨fun _ => 12, ?_⟩⟩
  rw [hstate] at hvc
  obtain rfl := Option.some.inj hvc
  exact ⟨by simp [Whole, ExpenseViewController.viewDidLoad, lunch], by decide⟩

theorem teaAfterLunch_smallAmounts (D : Decimals) (amounts : ObjectID → NSDecimalNumber) :
    Throughout (DisplayStep D amounts) (.closed lunchOnly) teaAfterLunch SmallAmounts := by
  intro before after s hes hrun
  match before, hes with
  | [], _ =>
      obtain rfl := hrun.nil_inv
      intro vc hvc
      cases hvc
  | [e], hes =>
      obtain rfl : ExpenseEvent.openExpenses 0 [lunch] = e := (List.cons.inj hes).1
      exact (smallAmounts_of_open hrun).2
  | [e, e'], hes =>
      obtain rfl : ExpenseEvent.openExpenses 0 [lunch] = e := (List.cons.inj hes).1
      obtain rfl : ExpenseEvent.saveExpense (some "tea") (some "5") 3 = e' :=
        (List.cons.inj (List.cons.inj hes).2).1
      have hadded : Run (DisplayStep D amounts) (.closed lunchOnly)
          ([.openExpenses 0 [lunch]] ++ [.saveExpense (some "tea") (some "5") 3]) s := hrun
      rcases hadded.snoc_inv with ⟨opened, hopened, hstep⟩
      have hexpense := hstep.expenseStep
      rw [(smallAmounts_of_open hopened).1] at hexpense
      intro vc' hvc'
      generalize s.expenseState = t at hexpense hvc'
      have hok : saveExpense (some "tea") (some "5") = .ok ("tea", "5") := rfl
      cases hexpense with
      | @accepted vc _ _ _ expenseTitle amount hscreen hsave =>
          obtain rfl := Option.some.inj hscreen
          obtain ⟨rfl, rfl⟩ : "tea" = expenseTitle ∧ "5" = amount := by
            simpa using hok.symm.trans hsave
          obtain rfl := Option.some.inj hvc'
          refine ⟨fun expense => if expense.name = "tea" then 5 else 12, ?_, by decide⟩
          simp only [Whole, ExpenseViewController.didAddExpense, ExpenseViewController.viewDidLoad]
          decide +kernel
      | rejected _ hsave =>
          rw [hok] at hsave
          cases hsave
  | _ :: _ :: _ :: _, hes => simp [teaAfterLunch] at hes

theorem teaAfterLunch_agrees :
    (∃ s, Run (DisplayStep exactDecimals fun _ => .number 10) (.closed lunchOnly) teaAfterLunch s) ∧
      Throughout (DisplayStep exactDecimals fun _ => .number 10) (.closed lunchOnly) teaAfterLunch
        (NoContradiction exactDecimals fun _ => .number 10) := by
  refine ⟨teaAfterLunch_run _ _, ((noContradiction_throughout_iff exactDecimals
    (fun _ => .number 10) lunchOnly teaAfterLunch).2 (teaAfterLunch_smallAmounts _ _)).2 ?_⟩
  apply Along.of_events
  simp [teaAfterLunch]

/-- Without lunch, which cost more than the budget of 10, the label shows no expense and stays
red. -/
theorem deleting_lunch_leaves_red :
    ¬ ∀ (es : List ExpenseEvent) (s : DisplayState),
      Run (DisplayStep exactDecimals fun _ => .number 10) (.closed lunchOnly) es s →
        NoContradiction exactDecimals (fun _ => .number 10) s := by
  intro h
  have hopen := open_lunchOnly exactDecimals fun _ => .number 10
  have hexpense : ExpenseStep ⟨lunchOnly, some (.viewDidLoad 0 [lunch])⟩ (.deleteRow 0 [])
      ⟨lunchOnly.delete lunch, some ⟨0, [], 0⟩⟩ := by
    refine ExpenseStep.deleteRow rfl (by decide) ?_ ⟨?_, List.Pairwise.nil⟩
    · have hoffset : (lunchOnly.fetchExpenses 0)[0]? = some lunch := by decide +kernel
      simp [ExpenseViewController.commitDelete, ExpenseViewController.viewDidLoad,
        Store.deleteExpense, hoffset]
    · exact List.Perm.of_eq (by decide +kernel)
  rcases h _ _ ((Run.single hopen).snoc (.deleteRow rfl rfl hexpense)) _ rfl with ⟨_, ⟨⟩, hshows⟩
  have hred := hshows.red.1 (by decide +kernel)
  revert hred
  decide +kernel

end BudgetApp
end IosProjects
