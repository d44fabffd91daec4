import FormCheck.Fault
import FormCheck.Text.Blank
import FormCheck.Text.Cut
import FormCheck.Text.Numeral

/-!
# Decimal numerals of whole numbers

* `natDigits`, `intDigits` — the numeral of a whole number, most significant digit first;
* `decimalValue_natDigits` — a numeral reads back to its number;
* `readLimit` — numerals of more digits than this are neither read nor written;
* `intText` — the numeral of a whole number as it is written;
* `LooseNumeral.ofChars?` — a numeral with blanks around it, a sign, and low lines among its digits.
-/

namespace FormCheck.Number

open FormCheck.Text

/-- The decimal digit of a number below ten. -/
def digitChar (n : Nat) : Char :=
  Char.ofNat (48 + n)

/-- The decimal digits of a number, most significant first. -/
def natDigits (n : Nat) : List Char :=
  if n < 10 then [digitChar n] else natDigits (n / 10) ++ [digitChar (n % 10)]
termination_by n
decreasing_by omega

/-- The numeral of a whole number, a minus sign before a negative one. -/
def intDigits (n : Int) : List Char :=
  if n < 0 then '-' :: natDigits n.natAbs else natDigits n.natAbs

/-- The longest numeral that is read as a whole number, and that a whole number is written as. -/
def readLimit : Nat := 4300

/-- The text of a whole number. It is not written with more digits than would be read again. -/
def intText (n : Int) : Except Fault String :=
  if (natDigits n.natAbs).length ≤ readLimit then .ok (String.ofList (intDigits n))
  else .error .longNumber

/-- What is said of a whole number with too many digits to be written. -/
def longNumberMessage : String :=
  "Exceeds the limit (" ++ toString readLimit
    ++ " digits) for integer string conversion; use sys.set_int_max_str_digits() to increase the limit"

/-- What is said of a numeral with too many digits to be read. -/
def longNumeralMessage (digits : Nat) : String :=
  "Exceeds the limit (" ++ toString readLimit ++ " digits) for integer string conversion: value has "
    ++ toString digits ++ " digits; use sys.set_int_max_str_digits() to increase the limit"

/-- The sign and the digits of a numeral in its loose form. -/
structure LooseNumeral where
  negative : Bool
  digits : List Char

namespace LooseNumeral

/-- The number that the numeral writes. -/
def value (n : LooseNumeral) : Int :=
  if n.negative then -(decimalValue n.digits) else decimalValue n.digits

/-- The numeral that digits write among which single low lines stand. -/
def ofDigits? (negative : Bool) (cs : List Char) : Option LooseNumeral :=
  let groups := cutAt '_' cs
  if groups.all fun g => !g.isEmpty && g.all isDecimal then some ⟨negative, groups.flatten⟩ else none

/-- The numeral that a text writes. Blanks around it do not count: in a text of ASCII alone white space in
its narrow sense, in other texts every blank character. -/
def ofChars? (cs : List Char) : Option LooseNumeral :=
  let blank := if cs.all (·.toNat < 128) then isLayout else isBlank
  match ((cs.dropWhile blank).reverse.dropWhile blank).reverse with
  | '+' :: rest => ofDigits? false rest
  | '-' :: rest => ofDigits? true rest
  | rest => ofDigits? false rest

end LooseNumeral

theorem digitValue?_digitChar {n : Nat} (h : n < 10) : digitValue? (digitChar n) = some n := by
  have all : ∀ m ∈ List.range 10, digitValue? (digitChar m) = some m := by decide
  exact all n (List.mem_range.2 h)

theorem decimalValue_append_singleton (cs : List Char) (c : Char) :
    decimalValue (cs ++ [c]) = 10 * decimalValue cs + (digitValue? c).getD 0 := by
  simp [decimalValue]

/-- A numeral reads back to its number. -/
theorem decimalValue_natDigits (n : Nat) : decimalValue (natDigits n) = n := by
  fun_induction natDigits n with
  | case1 n h => simp [decimalValue, digitValue?_digitChar h]
  | case2 n h ih =>
    rw [decimalValue_append_singleton, ih, digitValue?_digitChar (by omega)]
    simp only [Option.getD_some]
    omega

end FormCheck.Number
