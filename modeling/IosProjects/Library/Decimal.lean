import Mathlib.Data.Nat.Digits.Defs
import Mathlib.Data.List.Lex

/-!
# Decimal — zero-padded decimal numerals

`decimal w n` writes `n` in base ten with at least `w` digits, padding with zeros on the left, the
way a date pattern such as `yyyy` or `MM` does. `readDecimal` reads a numeral back.

The two facts a caller needs are that a numeral determines its number, and that numerals which fit
their width are ordered lexicographically exactly as their numbers are.
-/

namespace IosProjects
namespace Library

/-! ## Writing and reading numerals -/

/-- `n` in base ten with at least `w` digits; the higher digits of a number that does not fit stand
in front. -/
def decimal : ℕ → ℕ → List Char
  | 0, n => ((Nat.digits 10 n).map Nat.digitChar).reverse
  | w + 1, n => decimal w (n / 10) ++ [Nat.digitChar (n % 10)]

def digitValue (c : Char) : ℕ := c.toNat - 48

def decimalValue (cs : List Char) : ℕ :=
  cs.foldl (fun n c => 10 * n + digitValue c) 0

/-- The number a non-empty row of digits denotes. -/
def readDecimal (cs : List Char) : Option ℕ :=
  if cs ≠ [] ∧ cs.all Char.isDigit then some (decimalValue cs) else none

theorem digitValue_digitChar : ∀ d < 10, digitValue (Nat.digitChar d) = d := by
  decide

theorem isDigit_digitChar : ∀ d < 10, (Nat.digitChar d).isDigit = true := by
  decide

theorem digitChar_lt_digitChar :
    ∀ d < 10, ∀ e < 10, (Nat.digitChar d < Nat.digitChar e ↔ d < e) := by
  decide

@[simp] theorem decimalValue_append_singleton (cs : List Char) (c : Char) :
    decimalValue (cs ++ [c]) = 10 * decimalValue cs + digitValue c := by
  simp [decimalValue]

theorem decimalValue_reverse_digits {ds : List ℕ} (h : ∀ d ∈ ds, d < 10) :
    decimalValue ((ds.map Nat.digitChar).reverse) = Nat.ofDigits 10 ds := by
  induction ds with
  | nil => rfl
  | cons d ds ih =>
      have hd : d < 10 := h d List.mem_cons_self
      have htail := ih fun e he => h e (List.mem_cons_of_mem d he)
      calc decimalValue (((d :: ds).map Nat.digitChar).reverse)
          = 10 * decimalValue ((ds.map Nat.digitChar).reverse) + digitValue (Nat.digitChar d) := by
            rw [List.map_cons, List.reverse_cons, decimalValue_append_singleton]
        _ = d + 10 * Nat.ofDigits 10 ds := by
            rw [htail, digitValue_digitChar d hd, add_comm]
        _ = Nat.ofDigits 10 (d :: ds) := Nat.ofDigits_cons.symm

theorem decimalValue_decimal (w n : ℕ) : decimalValue (decimal w n) = n := by
  induction w generalizing n with
  | zero =>
      have hdigits : ∀ d ∈ Nat.digits 10 n, d < 10 := fun d hd =>
        Nat.digits_lt_base (by norm_num) hd
      rw [decimal, decimalValue_reverse_digits hdigits, Nat.ofDigits_digits]
  | succ w ih =>
      have hlast : digitValue (Nat.digitChar (n % 10)) = n % 10 :=
        digitValue_digitChar _ (Nat.mod_lt n (by norm_num))
      calc decimalValue (decimal (w + 1) n)
          = 10 * decimalValue (decimal w (n / 10)) + digitValue (Nat.digitChar (n % 10)) := by
            rw [decimal, decimalValue_append_singleton]
        _ = 10 * (n / 10) + n % 10 := by rw [ih, hlast]
        _ = n := Nat.div_add_mod n 10

/-- A numeral determines its number, whatever its width. -/
theorem decimal_injective (w : ℕ) : Function.Injective (decimal w) := by
  intro m n h
  calc m = decimalValue (decimal w m) := (decimalValue_decimal w m).symm
    _ = decimalValue (decimal w n) := congrArg decimalValue h
    _ = n := decimalValue_decimal w n

theorem isDigit_of_mem_decimal {w n : ℕ} {c : Char} (h : c ∈ decimal w n) : c.isDigit = true := by
  induction w generalizing n with
  | zero =>
      obtain ⟨d, hd, rfl⟩ : ∃ d ∈ Nat.digits 10 n, Nat.digitChar d = c := by
        simpa [decimal] using h
      exact isDigit_digitChar d (Nat.digits_lt_base (by norm_num) hd)
  | succ w ih =>
      rcases List.mem_append.1 h with h | h
      · exact ih h
      · rw [List.mem_singleton.1 h]
        exact isDigit_digitChar _ (Nat.mod_lt n (by norm_num))

theorem decimal_ne_nil (w n : ℕ) : decimal (w + 1) n ≠ [] := by
  simp [decimal]

theorem readDecimal_decimal (w n : ℕ) : readDecimal (decimal (w + 1) n) = some n := by
  have hall : (decimal (w + 1) n).all Char.isDigit = true :=
    List.all_eq_true.2 fun c hc => isDigit_of_mem_decimal hc
  rw [readDecimal, if_pos ⟨decimal_ne_nil w n, hall⟩, decimalValue_decimal]

/-! ## Lexicographic order -/

/-- Lists of equal length compare by their fronts first. -/
theorem append_lt_append_iff {as bs cs ds : List Char} (h : as.length = bs.length) :
    as ++ cs < bs ++ ds ↔ as < bs ∨ (as = bs ∧ cs < ds) := by
  induction as generalizing bs with
  | nil =>
      obtain rfl : bs = [] := List.eq_nil_of_length_eq_zero h.symm
      simp
  | cons a as ih =>
      cases bs with
      | nil => simp at h
      | cons b bs =>
          have hlen : as.length = bs.length := by simpa using h
          simp only [List.cons_append, List.cons_lt_cons_iff, ih hlen, List.cons.injEq]
          tauto

theorem decimal_length {w n : ℕ} (h : n < 10 ^ w) : (decimal w n).length = w := by
  induction w generalizing n with
  | zero =>
      obtain rfl : n = 0 := by simpa using h
      simp [decimal]
  | succ w ih =>
      have hdiv : n / 10 < 10 ^ w := by
        rw [Nat.div_lt_iff_lt_mul (by norm_num), ← pow_succ]
        exact h
      simp [decimal, ih hdiv]

/-- Numerals of one width are ordered as their numbers. -/
theorem decimal_lt_decimal_iff {w m n : ℕ} (hm : m < 10 ^ w) (hn : n < 10 ^ w) :
    decimal w m < decimal w n ↔ m < n := by
  induction w generalizing m n with
  | zero =>
      obtain rfl : m = 0 := by simpa using hm
      obtain rfl : n = 0 := by simpa using hn
      simp
  | succ w ih =>
      have hm' : m / 10 < 10 ^ w := by
        rw [Nat.div_lt_iff_lt_mul (by norm_num), ← pow_succ]
        exact hm
      have hn' : n / 10 < 10 ^ w := by
        rw [Nat.div_lt_iff_lt_mul (by norm_num), ← pow_succ]
        exact hn
      have hlen : (decimal w (m / 10)).length = (decimal w (n / 10)).length := by
        rw [decimal_length hm', decimal_length hn']
      -- the front digits decide, and the last one where they agree
      have hlast : [Nat.digitChar (m % 10)] < [Nat.digitChar (n % 10)] ↔ m % 10 < n % 10 := by
        simpa [List.cons_lt_cons_iff] using
          digitChar_lt_digitChar _ (Nat.mod_lt m (by norm_num)) _ (Nat.mod_lt n (by norm_num))
      calc decimal (w + 1) m < decimal (w + 1) n
          ↔ decimal w (m / 10) < decimal w (n / 10) ∨
              decimal w (m / 10) = decimal w (n / 10) ∧
                [Nat.digitChar (m % 10)] < [Nat.digitChar (n % 10)] := append_lt_append_iff hlen
        _ ↔ m / 10 < n / 10 ∨ m / 10 = n / 10 ∧ m % 10 < n % 10 := by
            rw [ih hm' hn', (decimal_injective w).eq_iff, hlast]
        _ ↔ m < n := by omega

end Library
end IosProjects
