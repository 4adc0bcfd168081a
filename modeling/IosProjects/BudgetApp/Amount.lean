import Mathlib.Algebra.Order.Ring.Rat
import IosProjects.Library.Decimal

/-!
# Amount — which amounts are accepted, and what they become

`AddExpenseViewController` accepts a text as an amount when it is not empty and all its characters
are decimal digits, of whatever script. `NSDecimalNumber(string:)` then scans it, and it knows the
digits of ASCII only. Nothing checks that the outcome is a positive number.
-/

namespace IosProjects
namespace BudgetApp

open IosProjects.Library

/-! ## `CharacterSet.decimalDigits` -/

/-- The zeros of the scripts; the other digits of a script follow its zero. -/
def decimalZeros : List ℕ :=
  [0x30, 0x660, 0x6f0, 0x7c0, 0x966, 0x9e6, 0xa66, 0xae6, 0xb66, 0xbe6, 0xc66, 0xce6, 0xd66, 0xde6,
    0xe50, 0xed0, 0xf20, 0x1040, 0x1090, 0x17e0, 0x1810, 0x1946, 0x19d0, 0x1a80, 0x1a90, 0x1b50,
    0x1bb0, 0x1c40, 0x1c50, 0xa620, 0xa8d0, 0xa900, 0xa9d0, 0xa9f0, 0xaa50, 0xabf0, 0xff10, 0x104a0,
    0x10d30, 0x11066, 0x110f0, 0x11136, 0x111d0, 0x112f0, 0x11450, 0x114d0, 0x11650, 0x116c0,
    0x11730, 0x118e0, 0x11950, 0x11c50, 0x11d50, 0x11da0, 0x16a60, 0x16ac0, 0x16b50, 0x1d7ce,
    0x1d7d8, 0x1d7e2, 0x1d7ec, 0x1d7f6, 0x1e140, 0x1e2f0, 0x1e950, 0x1fbf0]

/-- Membership in `CharacterSet.decimalDigits`. -/
def decimalDigits (c : Char) : Bool :=
  decimalZeros.any fun first => first ≤ c.toNat && c.toNat < first + 10

/-! ## `NSDecimalNumber` -/

inductive NSDecimalNumber where
  | notANumber
  | number (value : ℚ)
  deriving DecidableEq

namespace NSDecimalNumber

/-- `NSDecimalNumber(string:)` on a text without sign, separator or exponent: the ASCII digits in
front are scanned. A decimal keeps 38 of them and scales by at most `10 ^ 127`. -/
def ofString (text : String) : NSDecimalNumber :=
  let digits := text.toList.takeWhile Char.isDigit
  let significant := digits.dropWhile (· = '0')
  let exponent := significant.length - 38
  if digits = [] then notANumber
  else if exponent ≤ 127 then number (decimalValue (significant.take 38) * 10 ^ exponent)
  else notANumber

/-- `amount > 0` in a predicate; not-a-number is greater than nothing. -/
def isPositive : NSDecimalNumber → Bool
  | notANumber => false
  | number value => 0 < value

end NSDecimalNumber

/-! ## `AddExpenseViewController` -/

structure Alert where
  title : String
  message : String
  deriving DecidableEq, Repr

/-- `AddExpenseViewController.saveExpense(_:)`: an alert, or what the delegate is called with. -/
def saveExpense (expenseText amountText : Option String) : Except Alert (String × String) :=
  match expenseText with
  | none => .error ⟨"Invalid expense", "Please try again"⟩
  | some expenseText =>
      if expenseText.isEmpty then .error ⟨"Invalid expense", "Please try again"⟩
      else
        match amountText with
        | none => .error ⟨"Invalid amount", "Please try again"⟩
        | some amountText =>
            if amountText.isEmpty || !amountText.toList.all decimalDigits then
              .error ⟨"Invalid amount", "Please try again"⟩
            else .ok (expenseText, amountText)

end BudgetApp
end IosProjects
