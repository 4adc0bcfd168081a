import IosProjects.Library.Lists
import IosProjects.BudgetApp.Expenses

/-!
# ExpenseRuns — when the screen and the store stay in step

Two things can come apart. An accepted amount that is not positive is appended to the array on the
screen and left out by every fetch; `Consistent` is what is lost then. And a row is deleted by its
index in another order than the one on the screen: the row number has to be the number of the
expenses inserted before the one shown.
-/

namespace IosProjects
namespace BudgetApp

open IosProjects.Library

/-! ## One step -/

/-- What a committed deletion does. -/
theorem commitDelete_some {row : ℕ} {fetched : List Expense} {store store' : Store}
    {vc vc' : ExpenseViewController}
    (h : vc.commitDelete row fetched store = some (store', vc')) :
    ∃ removedItem, (store.fetchExpenses vc.budget)[row]? = some removedItem ∧
      row < vc.expenses.length ∧ vc.expenses.length = vc.rows ∧
      store' = store.delete removedItem ∧
      vc' = { vc with expenses := fetched, rows := vc.rows - 1 } := by
  unfold ExpenseViewController.commitDelete at h
  split at h
  · rename_i hrow
    dsimp only at h
    split at h
    · rename_i hrows
      rw [List.length_eraseIdx_of_lt hrow] at hrows
      cases hremoved : (store.fetchExpenses vc.budget)[row]? with
      | none => simp [Store.deleteExpense, hremoved] at h
      | some removedItem =>
          simp only [Store.deleteExpense, hremoved, Option.some.injEq, Prod.mk.injEq] at h
          exact ⟨removedItem, rfl, hrow, by omega, h.1.symm, h.2.symm⟩
    · cases h
  · cases h

/-- Deleting an expense takes it out of the fetch of its budget. -/
theorem fetchExpenses_delete (removedItem : Expense) (budget : ObjectID) (store : Store) :
    (store.delete removedItem).fetchExpenses budget =
      (store.fetchExpenses budget).erase removedItem := by
  rw [Store.fetchExpenses, Store.fetchExpenses, List.erase_filter]
  rfl

theorem exists_getExpenses (budget : ObjectID) (store : Store) :
    ∃ fetched, store.IsGetExpenses budget fetched :=
  ⟨sortDescending Expense.timestamp (store.fetchExpenses budget),
    ⟨sortDescending_perm _ _, sortDescending_pairwise _ _⟩⟩

/-! ## Consistency -/

/-- An open screen shows the fetched expenses, the table has as many rows, and every row is an index
into the fetch of `deleteExpense`. -/
structure InStep (store : Store) (vc : ExpenseViewController) : Prop where
  expenses : vc.expenses.Perm (store.fetchExpenses vc.budget)
  rows : vc.rows = vc.expenses.length
  index : ∀ row < vc.rows, row < (store.fetchExpenses vc.budget).length

def Consistent (s : ExpenseState) : Prop :=
  ∀ vc, s.screen = some vc → InStep s.store vc

/-- If an amount is accepted, it is a positive number. -/
def ExpenseEvent.Positive : ExpenseEvent → Prop
  | .saveExpense expenseText amountText _ =>
      ∀ expenseTitle amount,
        BudgetApp.saveExpense expenseText amountText = .ok (expenseTitle, amount) →
        (NSDecimalNumber.ofString amount).isPositive
  | _ => True

theorem InStep.of_perm {store : Store} {vc : ExpenseViewController}
    (hperm : vc.expenses.Perm (store.fetchExpenses vc.budget))
    (hrows : vc.rows = vc.expenses.length) : InStep store vc where
  expenses := hperm
  rows := hrows
  index := by
    intro row hrow
    rwa [hrows, hperm.length_eq] at hrow

/-- Adding a positive expense keeps the screen in step. -/
theorem InStep.didAddExpense {store : Store} {vc : ExpenseViewController} (h : InStep store vc)
    {expenseTitle amount : String} (currDate : Date)
    (hpositive : (NSDecimalNumber.ofString amount).isPositive) :
    InStep (vc.didAddExpense expenseTitle amount currDate store).1
      (vc.didAddExpense expenseTitle amount currDate store).2 := by
  refine InStep.of_perm ?_ rfl
  have hfetch := Store.fetchExpenses_setExpense expenseTitle (NSDecimalNumber.ofString amount)
    currDate vc.budget store
  rw [if_pos hpositive] at hfetch
  exact (h.expenses.append_right _).trans (List.Perm.of_eq hfetch.symm)

/-- So does deleting a row. -/
theorem InStep.commitDelete {store store' : Store} {vc vc' : ExpenseViewController}
    (h : InStep store vc) {row : ℕ} {fetched : List Expense}
    (hdelete : vc.commitDelete row fetched store = some (store', vc'))
    (hfetched : store'.IsGetExpenses vc.budget fetched) : InStep store' vc' := by
  rcases commitDelete_some hdelete with ⟨removedItem, hremoved, _, hrows, rfl, rfl⟩
  refine InStep.of_perm hfetched.perm ?_
  have hmem : removedItem ∈ store.fetchExpenses vc.budget := List.mem_of_getElem? hremoved
  calc vc.rows - 1
      = (store.fetchExpenses vc.budget).length - 1 := by rw [← hrows, h.expenses.length_eq]
    _ = ((store.fetchExpenses vc.budget).erase removedItem).length :=
        (List.length_erase_of_mem hmem).symm
    _ = ((store.delete removedItem).fetchExpenses vc.budget).length := by
        rw [fetchExpenses_delete]
    _ = fetched.length := hfetched.perm.length_eq.symm

/-- Every step but accepting a non-positive amount keeps the state consistent. -/
theorem Consistent.step {s s' : ExpenseState} {e : ExpenseEvent} (h : Consistent s)
    (hpositive : e.Positive) (hstep : ExpenseStep s e s') : Consistent s' := by
  intro vc' hvc'
  cases hstep with
  | openExpenses hfetched =>
      obtain rfl := Option.some.inj hvc'
      exact InStep.of_perm hfetched.perm rfl
  | accepted hscreen hsave =>
      obtain rfl := Option.some.inj hvc'
      exact (h _ hscreen).didAddExpense _ (hpositive _ _ hsave)
  | rejected hscreen _ => exact h vc' hvc'
  | deleteRow hscreen _ hdelete hfetched =>
      obtain rfl := Option.some.inj hvc'
      exact (h _ hscreen).commitDelete hdelete hfetched

/-- Accepting a non-positive amount does not. -/
theorem Consistent.positive {s s' : ExpenseState} {e : ExpenseEvent} (h : Consistent s')
    (hstep : ExpenseStep s e s') : e.Positive := by
  cases hstep with
  | openExpenses _ => trivial
  | @accepted vc _ _ currDate expenseTitle amount _ hsave =>
      intro expenseTitle' amount' hsave'
      rw [hsave] at hsave'
      obtain ⟨rfl, rfl⟩ : expenseTitle = expenseTitle' ∧ amount = amount' := by
        simpa using hsave'
      -- the screen shows the new expense, so a consistent state fetches it too
      have hmem : s.store.newExpense expenseTitle (NSDecimalNumber.ofString amount) currDate
          vc.budget ∈ vc.expenses ++ [s.store.newExpense expenseTitle
            (NSDecimalNumber.ofString amount) currDate vc.budget] := by simp
      exact (Store.mem_fetchExpenses.1 ((h _ rfl).expenses.mem_iff.1 hmem)).2.1
  | rejected _ hsave =>
      intro expenseTitle amount hsave'
      rw [hsave] at hsave'
      cases hsave'
  | deleteRow _ _ _ _ => trivial

theorem Consistent.closed (store : Store) : Consistent (ExpenseState.closed store) := by
  intro vc hvc
  cases hvc

theorem consistent_along_iff {store : Store} {es : List ExpenseEvent} :
    Throughout ExpenseStep (.closed store) es Consistent ↔
      Along ExpenseStep (.closed store) es fun _ e _ => e.Positive := by
  apply Throughout.iff_along (Consistent.closed store)
  intro before t e u _ h hstep
  exact ⟨fun hu => hu.positive hstep, fun hpositive => h.step hpositive hstep⟩

/-- In every run, every state is consistent exactly when every accepted amount is positive. -/
theorem consistent_iff_positive {store : Store} {es : List ExpenseEvent} {s : ExpenseState}
    (hrun : Run ExpenseStep (ExpenseState.closed store) es s) :
    Throughout ExpenseStep (ExpenseState.closed store) es Consistent ↔ ∀ e ∈ es, e.Positive :=
  consistent_along_iff.trans hrun.along_event_iff

def emptyStore : Store where
  expenses := []
  nextID := 0
  ids_nodup := List.nodup_nil
  id_lt := by simp

theorem save_tea (currDate : Date) (store : Store) (vc : ExpenseViewController) {amount : String}
    (hsave : saveExpense (some "tea") (some amount) = .ok ("tea", amount)) :
    ExpenseStep ⟨store, some vc⟩ (.saveExpense (some "tea") (some amount) currDate)
      ⟨(vc.didAddExpense "tea" amount currDate store).1,
        some (vc.didAddExpense "tea" amount currDate store).2⟩ :=
  ExpenseStep.accepted rfl hsave

theorem open_emptyStore :
    ExpenseStep (.closed emptyStore) (.openExpenses 0 []) ⟨emptyStore, some (.viewDidLoad 0 [])⟩ :=
  ExpenseStep.openExpenses ⟨List.Perm.refl _, List.Pairwise.nil⟩

theorem save_tea_consistent_iff :
    Throughout ExpenseStep (.closed emptyStore)
        [.openExpenses 0 [], .saveExpense (some "tea") (some "5") 0] Consistent ↔
      ∀ e ∈ [.openExpenses 0 [], .saveExpense (some "tea") (some "5") 0], ExpenseEvent.Positive e :=
  consistent_iff_positive (Run.snoc (Run.single open_emptyStore) (save_tea 0 _ _ rfl))

/-- An expense of `0` is accepted and shown, and no fetch finds it. -/
theorem zero_expense_out_of_step :
    ¬ ∀ (es : List ExpenseEvent) (s : ExpenseState),
      Run ExpenseStep (.closed emptyStore) es s → Consistent s := by
  intro h
  have hzero : ExpenseStep _ (.saveExpense (some "tea") (some "0") 0) _ :=
    save_tea 0 emptyStore (.viewDidLoad 0 []) rfl
  have hpositive :=
    (h _ _ (Run.snoc (Run.single open_emptyStore) hzero)).positive hzero "tea" "0" rfl
  revert hpositive
  decide +kernel

/-! ## Deleting the row that is shown -/

/-- The deletion takes exactly the expense shown in the row out of the store. -/
def DeletesShown (s : ExpenseState) (row : ℕ) (s' : ExpenseState) : Prop :=
  ∃ vc shown, s.screen = some vc ∧ vc.expenses[row]? = some shown ∧ shown ∈ s.store.expenses ∧
    s'.store.expenses = s.store.expenses.erase shown

/-- As many of the fetched expenses were inserted before the one shown as there are rows above. -/
def InsertedAtRow (s : ExpenseState) (row : ℕ) : Prop :=
  ∃ vc shown, s.screen = some vc ∧ vc.expenses[row]? = some shown ∧
    (s.store.fetchExpenses vc.budget).idxOf shown = row

theorem eq_of_erase_eq {l : List Expense} (hnodup : l.Nodup) {a b : Expense} (ha : a ∈ l)
    (h : l.erase a = l.erase b) : a = b := by
  by_contra hne
  have hkept : a ∈ l.erase b := hnodup.mem_erase_iff.2 ⟨hne, ha⟩
  rw [← h] at hkept
  exact hnodup.not_mem_erase hkept

/-- A deletion removes what is shown exactly when both orders agree on the row. -/
theorem deletesShown_iff {s s' : ExpenseState} {row : ℕ} {fetched : List Expense}
    (hstep : ExpenseStep s (.deleteRow row fetched) s') :
    DeletesShown s row s' ↔ InsertedAtRow s row := by
  cases hstep with
  | @deleteRow vc vc' _ _ store' hscreen _ hdelete _ =>
      rcases commitDelete_some hdelete with ⟨removedItem, hremoved, hrow, _, rfl, _⟩
      have hnodup := s.store.fetchExpenses_nodup vc.budget
      have hmem := Store.mem_fetchExpenses.1 (List.mem_of_getElem? hremoved)
      obtain ⟨hlt, hget⟩ := List.getElem?_eq_some_iff.1 hremoved
      constructor
      · rintro ⟨vc₁, shown, hscreen', hshown, hstored, herase⟩
        obtain rfl : vc = vc₁ := Option.some.inj (hscreen.symm.trans hscreen')
        -- no expense is stored twice, so erasing one tells which it was
        have hsame : removedItem = shown :=
          eq_of_erase_eq s.store.expenses_nodup hmem.1 herase
        refine ⟨vc, shown, hscreen, hshown, ?_⟩
        rw [← hsame, ← hget, hnodup.idxOf_getElem row hlt]
      · rintro ⟨vc₁, shown, hscreen', hshown, hindex⟩
        obtain rfl : vc = vc₁ := Option.some.inj (hscreen.symm.trans hscreen')
        have hsame : shown = removedItem := by
          subst hindex
          rw [← hget, List.getElem_idxOf]
        refine ⟨vc, shown, hscreen, hshown, ?_, ?_⟩
        · rw [hsame]
          exact hmem.1
        · rw [hsame]
          rfl

/-- In a consistent state every displayed row can be deleted. -/
theorem Consistent.exists_deleteRow {s : ExpenseState} (h : Consistent s)
    {vc : ExpenseViewController} (hscreen : s.screen = some vc) {row : ℕ} (hrow : row < vc.rows) :
    ∃ fetched s', ExpenseStep s (.deleteRow row fetched) s' := by
  have hinstep := h vc hscreen
  have hlt := hinstep.index row hrow
  rcases exists_getExpenses vc.budget
    (s.store.delete ((s.store.fetchExpenses vc.budget)[row])) with ⟨fetched, hfetched⟩
  have hrow' : row < vc.expenses.length := hinstep.rows ▸ hrow
  have hrows : (vc.expenses.eraseIdx row).length + 1 = vc.rows := by
    rw [List.length_eraseIdx_of_lt hrow', hinstep.rows]
    omega
  have hdelete : vc.commitDelete row fetched s.store =
      some (s.store.delete ((s.store.fetchExpenses vc.budget)[row]),
        { vc with expenses := fetched, rows := vc.rows - 1 }) := by
    simp [ExpenseViewController.commitDelete, hrow', hrows, Store.deleteExpense,
      List.getElem?_eq_getElem hlt]
  exact ⟨fetched, _, ExpenseStep.deleteRow hscreen hrow hdelete hfetched⟩

/-- With positive amounts every displayed row can be deleted at any time. In a run the deletions
remove exactly what is shown if and only if, each time, the expense shown was inserted after as many
of the fetched ones as there are rows above it. -/
theorem delete_shown_iff_inserted_at_row {store : Store} {es : List ExpenseEvent}
    (hpositive : ∀ e ∈ es, e.Positive) :
    Throughout ExpenseStep (.closed store) es (fun s => ∀ vc row, s.screen = some vc →
        row < vc.rows → ∃ fetched s', ExpenseStep s (.deleteRow row fetched) s') ∧
      (Along ExpenseStep (.closed store) es
          (fun s e s' => ∀ row fetched, e = .deleteRow row fetched → DeletesShown s row s') ↔
        Along ExpenseStep (.closed store) es
          (fun s e _ => ∀ row fetched, e = .deleteRow row fetched → InsertedAtRow s row)) := by
  constructor
  · intro before after s hes hrun vc row hscreen hrow
    have hconsistent : Throughout ExpenseStep (.closed store) es Consistent :=
      consistent_along_iff.2 (Along.of_events hpositive)
    exact (hconsistent before after s hes hrun).exists_deleteRow hscreen hrow
  · apply Along.congr
    intro before s e s' _ _ hstep
    refine forall_congr' fun row => forall_congr' fun fetched => forall_congr' fun he => ?_
    subst he
    exact deletesShown_iff hstep

/-- Coffee on one day, lunch on the next. -/
def coffee : Expense := ⟨0, "coffee", .number 3, 1, 0⟩

def lunch : Expense := ⟨1, "lunch", .number 12, 2, 0⟩

def twoExpenses : Store where
  expenses := [coffee, lunch]
  nextID := 2
  ids_nodup := by decide
  id_lt := by decide

theorem open_twoExpenses :
    ExpenseStep (.closed twoExpenses) (.openExpenses 0 [lunch, coffee])
      ⟨twoExpenses, some (.viewDidLoad 0 [lunch, coffee])⟩ := by
  refine ExpenseStep.openExpenses ⟨?_, by decide +kernel⟩
  have hfetch : twoExpenses.fetchExpenses 0 = [coffee, lunch] := by decide +kernel
  exact (List.Perm.swap _ _ _).trans (List.Perm.of_eq hfetch.symm)

/-- Tea is added and deleted again, and then the row on top is deleted. -/
def teaDeleted : List ExpenseEvent :=
  [.openExpenses 0 [lunch, coffee], .saveExpense (some "tea") (some "5") 3,
    .deleteRow 2 [lunch, coffee], .deleteRow 0 [lunch]]

def thirdTea : Expense := ⟨2, "tea", .number 5, 3, 0⟩

def threeExpenses : Store := twoExpenses.setExpense "tea" (.number 5) 3 0

theorem threeExpenses_eq :
    (ExpenseViewController.viewDidLoad 0 [lunch, coffee]).didAddExpense "tea" "5" 3 twoExpenses =
      (threeExpenses, ⟨0, [lunch, coffee, thirdTea], 3⟩) := by
  have hfive : NSDecimalNumber.ofString "5" = .number 5 := by decide +kernel
  simp [ExpenseViewController.didAddExpense, hfive, threeExpenses, thirdTea,
    ExpenseViewController.viewDidLoad, Store.newExpense, twoExpenses]

theorem teaDeleted_run : ∃ s, Run ExpenseStep (.closed twoExpenses) teaDeleted s := by
  have hsave : ExpenseStep ⟨twoExpenses, some (.viewDidLoad 0 [lunch, coffee])⟩
      (.saveExpense (some "tea") (some "5") 3)
        ⟨threeExpenses, some ⟨0, [lunch, coffee, thirdTea], 3⟩⟩ := by
    have hok : saveExpense (some "tea") (some "5") = .ok ("tea", "5") := rfl
    have hstep := save_tea 3 twoExpenses (.viewDidLoad 0 [lunch, coffee]) hok
    rwa [threeExpenses_eq] at hstep
  have htea : ExpenseStep ⟨threeExpenses, some ⟨0, [lunch, coffee, thirdTea], 3⟩⟩
      (.deleteRow 2 [lunch, coffee])
      ⟨threeExpenses.delete thirdTea, some ⟨0, [lunch, coffee], 2⟩⟩ := by
    refine ExpenseStep.deleteRow rfl (by decide) ?_ ⟨?_, by decide +kernel⟩
    · have hoffset : (threeExpenses.fetchExpenses 0)[2]? = some thirdTea := by decide +kernel
      simp [ExpenseViewController.commitDelete, Store.deleteExpense, hoffset]
    · have hleft : (threeExpenses.delete thirdTea).fetchExpenses 0 = [coffee, lunch] := by
        decide +kernel
      exact (List.Perm.swap _ _ _).trans (List.Perm.of_eq hleft.symm)
  have htop : ExpenseStep ⟨threeExpenses.delete thirdTea, some ⟨0, [lunch, coffee], 2⟩⟩
      (.deleteRow 0 [lunch])
      ⟨(threeExpenses.delete thirdTea).delete coffee, some ⟨0, [lunch], 1⟩⟩ := by
    refine ExpenseStep.deleteRow rfl (by decide) ?_ ⟨?_, List.pairwise_singleton _ _⟩
    · have hoffset : ((threeExpenses.delete thirdTea).fetchExpenses 0)[0]? = some coffee := by
        decide +kernel
      simp [ExpenseViewController.commitDelete, Store.deleteExpense, hoffset]
    · exact List.Perm.of_eq (by decide +kernel)
  exact ⟨_, (((Run.single open_twoExpenses).snoc hsave).snoc htea).snoc htop⟩

theorem teaDeleted_positive : ∀ e ∈ teaDeleted, e.Positive := by
  have hfive : (NSDecimalNumber.ofString "5").isPositive := by decide +kernel
  simp only [teaDeleted, List.forall_mem_cons, ExpenseEvent.Positive, true_and]
  refine ⟨fun expenseTitle amount hsave => ?_, by simp⟩
  obtain ⟨rfl, rfl⟩ : "tea" = expenseTitle ∧ "5" = amount := by
    have hok : saveExpense (some "tea") (some "5") = .ok ("tea", "5") := rfl
    simpa using hok.symm.trans hsave
  exact hfive

theorem teaDeleted_delete_shown_iff :
    (∃ s, Run ExpenseStep (.closed twoExpenses) teaDeleted s) ∧
      Throughout ExpenseStep (.closed twoExpenses) teaDeleted
        (fun s => ∀ vc row, s.screen = some vc → row < vc.rows →
          ∃ fetched s', ExpenseStep s (.deleteRow row fetched) s') ∧
      (Along ExpenseStep (.closed twoExpenses) teaDeleted
          (fun s e s' => ∀ row fetched, e = .deleteRow row fetched → DeletesShown s row s') ↔
        Along ExpenseStep (.closed twoExpenses) teaDeleted
          (fun s e _ => ∀ row fetched, e = .deleteRow row fetched → InsertedAtRow s row)) :=
  ⟨teaDeleted_run, delete_shown_iff_inserted_at_row teaDeleted_positive⟩

/-- Lunch is on top of the list, and deleting the top row deletes coffee. -/
theorem top_row_deletes_oldest :
    ¬ ∀ (es : List ExpenseEvent) (s s' : ExpenseState) (row : ℕ) (fetched : List Expense),
      Run ExpenseStep (.closed twoExpenses) es s → ExpenseStep s (.deleteRow row fetched) s' →
        DeletesShown s row s' := by
  intro h
  have hfetch : (twoExpenses.delete coffee).fetchExpenses 0 = [lunch] := by decide +kernel
  have hstep : ExpenseStep ⟨twoExpenses, some (.viewDidLoad 0 [lunch, coffee])⟩
      (.deleteRow 0 [lunch]) ⟨twoExpenses.delete coffee, some ⟨0, [lunch], 1⟩⟩ := by
    refine ExpenseStep.deleteRow rfl (by decide) ?_ ⟨?_, List.pairwise_singleton _ _⟩
    · have hoffset : (twoExpenses.fetchExpenses 0)[0]? = some coffee := by decide +kernel
      simp [ExpenseViewController.commitDelete, ExpenseViewController.viewDidLoad,
        Store.deleteExpense, hoffset]
    · exact List.Perm.of_eq hfetch.symm
  have hdeletes := h _ _ _ _ _ (Run.single open_twoExpenses) hstep
  rcases (deletesShown_iff hstep).1 hdeletes with ⟨vc, shown, hscreen, hshown, hindex⟩
  obtain rfl := Option.some.inj hscreen
  obtain rfl : lunch = shown := by simpa [ExpenseViewController.viewDidLoad] using hshown
  revert hindex
  decide +kernel

end BudgetApp
end IosProjects
