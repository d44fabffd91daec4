import FormCheck.Number.Digits
import FormCheck.Number.Decimal

/-!
# The shortest decimal text of a binary number

* `Binary64.shortest` — the decimal number with the fewest digits that reads back to a given binary
  number, the nearest one where there are several;
* `DecimalLayout` — how the digits of a number are laid out;
* `Binary64.text` — the text of a number: positional between `1e-4` and `1e16`, where a fraction is
  always shown, and with an exponent of at least two digits elsewhere.
-/

namespace FormCheck

open FormCheck.Number

namespace Binary64

/-! ### Digits -/

/-- The magnitude of a finite number as a quotient of whole numbers. -/
def magnitude : Binary64 → Nat × Nat
  | .finite _ m e _ => if 0 ≤ e then (m * Nat.pow 2 e.toNat, 1) else (m, Nat.pow 2 (-e).toNat)
  | _ => (0, 1)

/-- The decimal `digit · 10 ^ place` reads back to the magnitude of `x`. -/
def readsBack (x : Binary64) (digits : Nat) (place : Int) : Bool :=
  (Decimal.mk false digits place).toBinary64.units == x.units.natAbs

/-- The multiple of `10 ^ place` that reads back to `x`: of the two that enclose its magnitude the
nearer one, and the even one if they are equally near. -/
def onGrid? (x : Binary64) (place : Int) : Option Decimal :=
  let (num, den) := scaleDown 10 x.magnitude.1 x.magnitude.2 place
  let below := num / den
  let twice := 2 * (num % den)
  let low := readsBack x below place
  let high := readsBack x (below + 1) place
  let lowFirst := twice < den || (twice = den && below % 2 = 0)
  if low && (lowFirst || !high) then some ⟨false, below, place⟩
  else if high then some ⟨false, below + 1, place⟩
  else none

/-- A place above the first digit of a number of the given size in bits. -/
def topPlace (x : Binary64) : Int :=
  match x with
  | .finite _ m e _ => ((m.log2 : Int) + e) * 30103 / 100000 + 2
  | _ => 0

/-- The decimal with the fewest digits that reads back to the magnitude of `x`: the coarsest grid with
such a point is taken. -/
def shortest (x : Binary64) : Decimal :=
  ((List.range 24).findSome? fun (i : Nat) => x.onGrid? (x.topPlace - i)).getD ⟨false, 0, 0⟩

end Binary64

/-! ### Layout -/

/-- How digits are laid out: positionally from the exponent `low` up to below `high`, and with an
exponent of at least `exponentWidth` digits elsewhere. -/
structure DecimalLayout where
  low : Int
  high : Int
  exponentWidth : Nat

namespace DecimalLayout

/-- The exponent with its sign. -/
def exponentText (layout : DecimalLayout) (e : Int) : List Char :=
  let digits := natDigits e.natAbs
  'e' :: (if e < 0 then '-' else '+') ::
    (List.replicate (layout.exponentWidth - digits.length) '0' ++ digits)

/-- The digits with a point before the digit at `point`. -/
def positional (digits : List Char) (point : Int) : List Char :=
  if point ≤ 0 then '0' :: '.' :: (List.replicate (-point).toNat '0' ++ digits)
  else
    let n := point.toNat
    if digits.length ≤ n then digits ++ List.replicate (n - digits.length) '0' ++ ['.', '0']
    else digits.take n ++ '.' :: digits.drop n

/-- The first digit, a point, the other digits, and the exponent. -/
def scientific (layout : DecimalLayout) (digits : List Char) (e : Int) : List Char :=
  match digits with
  | [] => []
  | [d] => d :: layout.exponentText e
  | d :: rest => d :: '.' :: rest ++ layout.exponentText e

/-- The digits of a positive decimal, laid out. -/
def write (layout : DecimalLayout) (x : Decimal) : List Char :=
  let digits := natDigits x.coefficient
  let e := (digits.length : Int) + x.exponent - 1
  if layout.low ≤ e && e < layout.high then positional digits (e + 1)
  else layout.scientific digits e

end DecimalLayout

/-- Numbers are written positionally from `0.0001` up to below `10 ^ 16`. -/
def numberLayout : DecimalLayout := ⟨-4, 16, 2⟩

namespace Binary64

/-- A minus sign before the characters of a negative number. -/
def withSign (negative : Bool) (cs : List Char) : List Char :=
  if negative then '-' :: cs else cs

/-- The characters of a number's text. -/
def chars : Binary64 → List Char
  | .nan => ['n', 'a', 'n']
  | .infinite negative => withSign negative ['i', 'n', 'f']
  | x@(.finite negative m _ _) =>
    withSign negative (if m = 0 then ['0', '.', '0'] else numberLayout.write x.shortest)

/-- The text of a number. -/
def text (x : Binary64) : String :=
  String.ofList x.chars

end Binary64

end FormCheck
