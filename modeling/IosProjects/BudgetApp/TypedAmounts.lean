import Mathlib.Data.List.TakeWhile
import IosProjects.Library.Positional
import IosProjects.BudgetApp.Budgets

/-!
# TypedAmounts — the amount that is typed and the amount that is stored

Both screens accept a text whose characters are decimal digits of any script. The screen of the
budgets asks for a decimal to begin with as well, and that one reads the digits of ASCII only; the
screen of the expenses reads its decimal after it has accepted the text. What either reads is the
digits of ASCII in front, of which 38 are kept.
-/

namespace IosProjects
namespace BudgetApp

open IosProjects.Library

/-! ## What a text denotes -/

/-- The digit that a character of `CharacterSet.decimalDigits` stands for. -/
def decimalDigitValue (c : Char) : ℕ :=
  match decimalZeros.find? fun first => first ≤ c.toNat && c.toNat < first + 10 with
  | some first => c.toNat - first
  | none => 0

/-- The number that the digits of a text denote, whatever their scripts. -/
def denoted (text : String) : ℕ :=
  positional decimalDigitValue text.toList

theorem isDigit_iff {c : Char} : c.isDigit = true ↔ 48 ≤ c.toNat ∧ c.toNat < 58 := by
  simp only [Char.isDigit, Bool.and_eq_true, decide_eq_true_eq, UInt32.le_iff_toNat_le, Char.toNat]
  have hnine : ('9' : Char).val.toNat = 57 := rfl
  have hzero : ('0' : Char).val.toNat = 48 := rfl
  omega

/-- The digits of ASCII stand for themselves. -/
theorem decimalDigitValue_of_isDigit {c : Char} (h : c.isDigit = true) :
    decimalDigitValue c = digitValue c := by
  rw [isDigit_iff] at h
  have hfind : (decimalZeros.find? fun first => first ≤ c.toNat && c.toNat < first + 10) =
      some 0x30 := by
    rw [decimalZeros, List.find?_cons_of_pos]
    simpa using h
  rw [decimalDigitValue, hfind]
  rfl

theorem digitValue_eq_zero_iff {c : Char} (h : c.isDigit = true) : digitValue c = 0 ↔ c = '0' := by
  rw [isDigit_iff] at h
  have hchar : c = '0' ↔ c.toNat = 48 := by
    rw [← Char.toNat_inj]
    rfl
  rw [hchar, digitValue]
  omega

/-! ## Reading a decimal -/

theorem dropWhile_zero_eq_significant {digits : List Char} (h : ∀ c ∈ digits, c.isDigit = true) :
    digits.dropWhile (· = '0') = significant digitValue digits := by
  rw [significant]
  induction digits with
  | nil => rfl
  | cons c rest ih =>
      have hc := digitValue_eq_zero_iff (h c List.mem_cons_self)
      have hrest := ih fun d hd => h d (List.mem_cons_of_mem c hd)
      simp only [List.dropWhile_cons, hc, hrest]

/-- What is left of the digits once 38 of them are kept, unless that is out of range. -/
theorem ofString_eq {text : String} {digits : List Char}
    (hdigits : text.toList.takeWhile Char.isDigit = digits) (hne : digits ≠ []) :
    NSDecimalNumber.ofString text =
      if excess digitValue 38 digits ≤ 127 then .number (truncated digitValue 38 digits : ℕ)
      else .notANumber := by
  have hisDigit : ∀ c ∈ digits, c.isDigit = true := by
    rw [← hdigits]
    exact fun c hc => List.mem_takeWhile_imp hc
  have hsignificant := dropWhile_zero_eq_significant hisDigit
  simp only [NSDecimalNumber.ofString, hdigits, if_neg hne, hsignificant, excess, truncated]
  push_cast
  rfl

/-- The number has at most 38 significant digits and at most 127 zeros after them. -/
def FitsDecimal (n : ℕ) : Prop :=
  ∃ m < 10 ^ 38, ∃ e ≤ 127, n = m * 10 ^ e

theorem fitsDecimal_zero : FitsDecimal 0 :=
  ⟨0, by norm_num, 0, by norm_num, rfl⟩

theorem digitValue_lt {c : Char} (h : c.isDigit = true) : digitValue c < 10 := by
  rw [isDigit_iff] at h
  rw [digitValue]
  omega

/-- A number of the digits of ASCII is read exactly when a decimal can hold it. -/
theorem ofString_eq_iff_fits {text : String} (hall : ∀ c ∈ text.toList, c.isDigit = true)
    (hne : text.toList ≠ []) :
    NSDecimalNumber.ofString text = .number (denoted text : ℕ) ↔ FitsDecimal (denoted text) := by
  have hdigits : text.toList.takeWhile Char.isDigit = text.toList :=
    List.takeWhile_eq_self_iff.2 hall
  have hdenoted : denoted text = positional digitValue text.toList :=
    positional_congr fun c hc => decimalDigitValue_of_isDigit (hall c hc)
  have hkeeps := keeps_iff (fun c hc => digitValue_lt (hall c hc)) 38 127
  rw [FitsDecimal, hdenoted, ← hkeeps, ofString_eq hdigits hne]
  split
  · rename_i hexcess
    simp [hexcess]
  · rename_i hexcess
    simp [hexcess]

/-- Digits of other scripts stop the reader, and what it has read by then is too small, unless it is
all zeros. -/
theorem ofString_eq_iff_zero {text : String} {digits rest : List Char}
    (hdigits : text.toList.takeWhile Char.isDigit = digits) (hne : digits ≠ [])
    (hrest : text.toList = digits ++ rest) (hmore : rest ≠ []) :
    NSDecimalNumber.ofString text = .number (denoted text : ℕ) ↔ denoted text = 0 := by
  have hisDigit : ∀ c ∈ digits, c.isDigit = true := by
    rw [← hdigits]
    exact fun c hc => List.mem_takeWhile_imp hc
  have hfront : positional decimalDigitValue digits = positional digitValue digits :=
    positional_congr fun c hc => decimalDigitValue_of_isDigit (hisDigit c hc)
  have hdenoted : denoted text =
      positional digitValue digits * 10 ^ rest.length + positional decimalDigitValue rest := by
    rw [denoted, hrest, positional_append, hfront]
  have hle := truncated_le (v := digitValue) 38 digits
  rw [ofString_eq hdigits hne]
  constructor
  · intro hread
    split at hread
    · have hvalue : truncated digitValue 38 digits = denoted text := by
        have hcast := NSDecimalNumber.number.inj hread
        exact_mod_cast hcast
      -- every digit that follows multiplies what has been read by ten
      have hten : 10 ≤ 10 ^ rest.length :=
        Nat.le_self_pow (by simpa using hmore) 10
      have hgrows : positional digitValue digits * 10 ≤
          positional digitValue digits * 10 ^ rest.length := Nat.mul_le_mul_left _ hten
      omega
    · cases hread
  · intro hzero
    have hfrontZero : positional digitValue digits = 0 := by
      have hprod : positional digitValue digits * 10 ^ rest.length = 0 := by omega
      exact (Nat.mul_eq_zero.1 hprod).resolve_right (Nat.pow_pos (by norm_num)).ne'
    have hnone : significant digitValue digits = [] := by
      cases hrow : significant digitValue digits with
      | nil => rfl
      | cons c row =>
          have hpow : 10 ^ 0 ≤ positional digitValue digits :=
            pow_le_of_significant (by simp [hrow])
          omega
    have htruncated : truncated digitValue 38 digits = 0 := by omega
    simp [hzero, htruncated, excess, hnone]

/-! ## Acceptance -/

/-- The checks that both screens make of an amount. -/
def IsAmount (text : String) : Prop :=
  text ≠ "" ∧ ∀ c ∈ text.toList, decimalDigits c = true

theorem saveExpense_eq_ok_iff {expenseText text : String} {expense : String × String}
    (h : expenseText ≠ "") :
    saveExpense (some expenseText) (some text) = .ok expense ↔
      IsAmount text ∧ expense = (expenseText, text) := by
  have hall : text.toList.all decimalDigits = true ↔ ∀ c ∈ text.toList, decimalDigits c = true :=
    List.all_eq_true
  by_cases hempty : text = ""
  · simp [saveExpense, IsAmount, h, hempty]
  · by_cases hdigits : text.toList.all decimalDigits = true
    · have hamount : IsAmount text := ⟨hempty, hall.1 hdigits⟩
      have hok : saveExpense (some expenseText) (some text) = .ok (expenseText, text) := by
        simp [saveExpense, h, hempty, hdigits]
      rw [hok, Except.ok.injEq]
      exact ⟨fun heq => ⟨hamount, heq.symm⟩, fun hexpense => hexpense.2.symm⟩
    · have hamount : ¬ IsAmount text := fun hamount => hdigits (hall.2 hamount.2)
      simp [saveExpense, h, hdigits, hamount]

/-- The screen of the budgets wants a digit of ASCII in front as well. -/
theorem checkBudget_eq_ok_iff {title text : String} {budget : String × NSDecimalNumber}
    (h : title ≠ "") :
    checkBudget (some title) (some text) = .ok budget ↔
      IsAmount text ∧ text.toList.takeWhile Char.isDigit ≠ [] ∧
        budget = (title, .ofString text) := by
  have hall : text.toList.all decimalDigits = true ↔ ∀ c ∈ text.toList, decimalDigits c = true :=
    List.all_eq_true
  by_cases hempty : text = ""
  · simp [checkBudget, IsAmount, h, hempty]
  · by_cases hfront : text.toList.takeWhile Char.isDigit = []
    · simp [checkBudget, decimalOfString, h, hempty, hfront]
    · by_cases hdigits : text.toList.all decimalDigits = true
      · have hamount : IsAmount text := ⟨hempty, hall.1 hdigits⟩
        have hok : checkBudget (some title) (some text) = .ok (title, .ofString text) := by
          simp [checkBudget, decimalOfString, h, hempty, hfront, hdigits]
        rw [hok, Except.ok.injEq]
        exact ⟨fun heq => ⟨hamount, hfront, heq.symm⟩, fun hbudget => hbudget.2.2.symm⟩
      · have hamount : ¬ IsAmount text := fun hamount => hdigits (hall.2 hamount.2)
        simp [checkBudget, decimalOfString, h, hempty, hfront, hdigits, hamount]

/-! ## What is stored -/

/-- Either screen accepts the text when the other does, and what they then store is the number that
the text denotes. The titles are filled in. -/
structure StoresTyped (text : String) : Prop where
  accepts : ∀ title expenseText : String, title ≠ "" → expenseText ≠ "" →
    ((∃ budget, checkBudget (some title) (some text) = .ok budget) ↔
      ∃ expense, saveExpense (some expenseText) (some text) = .ok expense)
  budget : ∀ (title : String) (database : Database) (vc : BudgetViewController),
    (∃ budget, checkBudget (some title) (some text) = .ok budget) →
      (vc.saveBudget (some title) (some text) database).1.budgets =
        database.budgets ++ [⟨database.nextBudgetID, title, .number (denoted text : ℕ)⟩]
  expense : ∀ (expenseText title amount : String) (currDate : Date) (store : Store)
    (vc : ExpenseViewController),
    saveExpense (some expenseText) (some text) = .ok (title, amount) →
      (vc.didAddExpense title amount currDate store).1.expenses =
        store.expenses ++
          [⟨store.nextID, expenseText, .number (denoted text : ℕ), currDate, vc.budget⟩]

/-- An accepted text was typed with a title. -/
theorem ne_empty_of_checkBudget {title : String} {amountText : Option String}
    {budget : String × NSDecimalNumber} (h : checkBudget (some title) amountText = .ok budget) :
    title ≠ "" := by
  rintro rfl
  simp [checkBudget] at h

theorem ne_empty_of_saveExpense {expenseText : String} {amountText : Option String}
    {expense : String × String} (h : saveExpense (some expenseText) amountText = .ok expense) :
    expenseText ≠ "" := by
  rintro rfl
  simp [saveExpense] at h

theorem storesTyped_of_not_isAmount {text : String} (h : ¬ IsAmount text) : StoresTyped text where
  accepts := by
    intro title expenseText htitle hexpenseText
    constructor
    · rintro ⟨budget, hbudget⟩
      exact absurd ((checkBudget_eq_ok_iff htitle).1 hbudget).1 h
    · rintro ⟨expense, hexpense⟩
      exact absurd ((saveExpense_eq_ok_iff hexpenseText).1 hexpense).1 h
  budget := by
    rintro title database vc ⟨budget, hbudget⟩
    exact absurd ((checkBudget_eq_ok_iff (ne_empty_of_checkBudget hbudget)).1 hbudget).1 h
  expense := by
    intro expenseText title amount currDate store vc hexpense
    exact absurd ((saveExpense_eq_ok_iff (ne_empty_of_saveExpense hexpense)).1 hexpense).1 h

/-- For an amount it comes down to the digit in front and to what is read. -/
theorem storesTyped_iff_of_isAmount {text : String} (h : IsAmount text) :
    StoresTyped text ↔ text.toList.takeWhile Char.isDigit ≠ [] ∧
      NSDecimalNumber.ofString text = .number (denoted text : ℕ) := by
  constructor
  · intro hstores
    have hsave : saveExpense (some "Tea") (some text) = .ok ("Tea", text) :=
      (saveExpense_eq_ok_iff (by decide)).2 ⟨h, rfl⟩
    constructor
    · rcases (hstores.accepts "Food" "Tea" (by decide) (by decide)).2 ⟨_, hsave⟩ with
        ⟨budget, hbudget⟩
      exact ((checkBudget_eq_ok_iff (by decide)).1 hbudget).2.1
    · have hstored := hstores.expense "Tea" "Tea" text 0 emptyStore (.viewDidLoad 0 []) hsave
      have hlast := List.append_cancel_left hstored
      simp only [Store.newExpense, List.cons.injEq, Expense.mk.injEq] at hlast
      exact hlast.1.2.2.1
  · rintro ⟨hfront, hread⟩
    exact {
      accepts := by
        intro title expenseText htitle hexpenseText
        refine iff_of_true ⟨_, (checkBudget_eq_ok_iff htitle).2 ⟨h, hfront, rfl⟩⟩ ?_
        exact ⟨_, (saveExpense_eq_ok_iff hexpenseText).2 ⟨h, rfl⟩⟩
      budget := by
        rintro title database vc ⟨budget, hbudget⟩
        have hvalue := ((checkBudget_eq_ok_iff (ne_empty_of_checkBudget hbudget)).1 hbudget).2.2
        rw [hvalue] at hbudget
        simp only [BudgetViewController.saveBudget, hbudget, Database.setBudget,
          Database.newBudget, hread]
      expense := by
        intro expenseText title amount currDate store vc hexpense
        have hvalue := ((saveExpense_eq_ok_iff (ne_empty_of_saveExpense hexpense)).1 hexpense).2
        obtain ⟨rfl, rfl⟩ := Prod.mk.inj hvalue
        simp only [ExpenseViewController.didAddExpense, Store.setExpense, Store.newExpense, hread] }

/-- A text that neither screen accepts; or a number of the digits of ASCII that a decimal can hold;
or zeros, the first of them of ASCII. -/
def ReadsTyped (text : String) : Prop :=
  ¬ IsAmount text ∨
    (∀ c ∈ text.toList, c.isDigit = true) ∧ FitsDecimal (denoted text) ∨
      text.toList.takeWhile Char.isDigit ≠ [] ∧ denoted text = 0

/-- For every text, both screens accept it or neither does, and what is stored is the number that
its digits denote, if and only if the text is of one of these kinds. -/
theorem storesTyped_iff (text : String) : StoresTyped text ↔ ReadsTyped text := by
  by_cases hamount : IsAmount text
  · rw [storesTyped_iff_of_isAmount hamount]
    have hne : text.toList ≠ [] := by
      intro hnil
      exact hamount.1 (String.toList_eq_nil_iff.1 hnil)
    by_cases hall : ∀ c ∈ text.toList, c.isDigit = true
    · have hfront : text.toList.takeWhile Char.isDigit ≠ [] := by
        rwa [List.takeWhile_eq_self_iff.2 hall]
      rw [ofString_eq_iff_fits hall hne]
      constructor
      · rintro ⟨_, hfits⟩
        exact Or.inr (Or.inl ⟨hall, hfits⟩)
      · rintro (hnot | ⟨_, hfits⟩ | ⟨_, hzero⟩)
        · exact absurd hamount hnot
        · exact ⟨hfront, hfits⟩
        · exact ⟨hfront, hzero ▸ fitsDecimal_zero⟩
    · -- a digit of another script follows the ones in front
      have hmore : text.toList.dropWhile Char.isDigit ≠ [] := by
        intro hnil
        exact hall (List.dropWhile_eq_nil_iff.1 hnil)
      have hsplit : text.toList =
          text.toList.takeWhile Char.isDigit ++ text.toList.dropWhile Char.isDigit :=
        List.takeWhile_append_dropWhile.symm
      constructor
      · rintro ⟨hfront, hread⟩
        have hzero := (ofString_eq_iff_zero rfl hfront hsplit hmore).1 hread
        exact Or.inr (Or.inr ⟨hfront, hzero⟩)
      · rintro (hnot | ⟨hascii, _⟩ | ⟨hfront, hzero⟩)
        · exact absurd hamount hnot
        · exact absurd hascii hall
        · exact ⟨hfront, (ofString_eq_iff_zero rfl hfront hsplit hmore).2 hzero⟩
  · exact iff_of_true (storesTyped_of_not_isAmount hamount) (Or.inl hamount)

/-- An Arabic three is accepted as the amount of an expense, where it becomes not-a-number, and is
no amount for a budget. -/
theorem arabic_three_not_stored : ¬ ∀ text : String, StoresTyped text := by
  intro h
  have hstored := (h "\u0663").expense "Tea" "Tea" "\u0663" 0 emptyStore (.viewDidLoad 0 []) rfl
  revert hstored
  decide +kernel

end BudgetApp
end IosProjects
