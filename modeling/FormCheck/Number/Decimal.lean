import FormCheck.Text.Blank
import FormCheck.Text.Numeral
import FormCheck.Number.Binary64

/-!
# Decimal numbers

* `Decimal` — `± coefficient · 10 ^ exponent`;
* `Decimal.ofChars?` — reading digits with an optional sign, point and exponent;
* `Decimal.toBinary64` — the nearest binary number;
* `Decimal.remainderIsZero?` — divisibility, decided while the quotient has at most 28 digits;
* `Decimal.fractionPart?` — what is left after the whole part, to 28 digits;
* `Binary64.ofText?` — reading a binary number.
-/

namespace FormCheck

open FormCheck.Text

/-- The decimal number `± coefficient · 10 ^ exponent`. -/
structure Decimal where
  negative : Bool
  coefficient : Nat
  exponent : Int
deriving DecidableEq, Repr

namespace Decimal

/-! ### Reading -/

/-- A sign, if the text begins with one, and the rest. -/
def readSign : List Char → Bool × List Char
  | '-' :: rest => (true, rest)
  | '+' :: rest => (false, rest)
  | rest => (false, rest)

/-- Digits with at most one point among them, and at least one digit: the number they write. -/
def ofPoint? (cs : List Char) : Option (Nat × Int) :=
  let whole := cs.takeWhile isDecimal
  match cs.dropWhile isDecimal with
  | [] => if whole.isEmpty then none else some (decimalValue whole, 0)
  | '.' :: part =>
    if part.all isDecimal && !(whole.isEmpty && part.isEmpty) then
      some (decimalValue (whole ++ part), -(part.length : Int))
    else none
  | _ => none

/-- A sign and digits: an exponent. -/
def ofExponent? (cs : List Char) : Option Int :=
  let (negative, digits) := readSign cs
  if digits.isEmpty || !digits.all isDecimal then none
  else some (if negative then -(decimalValue digits : Int) else decimalValue digits)

/-- The number written by a sign, digits, a point and an exponent. -/
def ofChars? (cs : List Char) : Option Decimal := do
  let (negative, body) := readSign cs
  let mark (c : Char) : Bool := c == 'e' || c == 'E'
  let (coefficient, places) ← ofPoint? (body.takeWhile (!mark ·))
  let shift ← match body.dropWhile (!mark ·) with
    | [] => some 0
    | _ :: tail => ofExponent? tail
  return ⟨negative, coefficient, places + shift⟩

/-- Whether a text is a plain numeral: a sign, and digits with at most one point among them. -/
def isPlain (cs : List Char) : Bool :=
  (ofPoint? (readSign cs).2).isSome

/-! ### Size -/

/-- The number of digits of the coefficient. -/
def digitCount (n : Nat) : Nat :=
  if n < 10 then 1 else digitCount (n / 10) + 1
termination_by n
decreasing_by omega

/-- The binary number nearest to a decimal one. Magnitudes of more than 310 places before the point,
or more than 330 zeros after it, are beyond the range and need no arithmetic. -/
def toBinary64 (x : Decimal) : Binary64 :=
  let top := (digitCount x.coefficient : Int) + x.exponent
  if x.coefficient = 0 then .signedZero x.negative
  else if 310 < top then .infinite x.negative
  else if top < -330 then .signedZero x.negative
  else
    let (num, den) := Binary64.scaleDown 10 x.coefficient 1 (-x.exponent)
    .ofRatio x.negative num den

/-! ### Remainders -/

/-- The number of digits that arithmetic keeps. -/
def precision : Nat := 28

/-- The magnitudes of two numbers as multiples of one power of ten. -/
def aligned (x y : Decimal) : Nat × Nat :=
  let e := min x.exponent y.exponent
  (x.coefficient * Nat.pow 10 (x.exponent - e).toNat,
    y.coefficient * Nat.pow 10 (y.exponent - e).toNat)

/-- Whether `x` is a whole multiple of `y`; nothing when the quotient is too long to be kept. -/
def remainderIsZero? (x y : Decimal) : Option Bool :=
  let (a, b) := aligned x y
  if a = 0 then some true
  else if Nat.pow 10 precision ≤ a / b then none
  else some (a % b = 0)

/-- The number with at most 28 digits, a half going to the even neighbour. -/
def rounded (x : Decimal) : Decimal :=
  let extra := digitCount x.coefficient - precision
  if extra = 0 then x
  else { x with
    coefficient := Binary64.roundHalfEven x.coefficient (Nat.pow 10 extra)
    exponent := x.exponent + extra }

/-- The whole part of the magnitude. -/
def wholePart (x : Decimal) : Nat :=
  if 0 ≤ x.exponent then x.coefficient * Nat.pow 10 x.exponent.toNat
  else x.coefficient / Nat.pow 10 (-x.exponent).toNat

/-- What the whole part leaves, to 28 digits; nothing when the whole part is too long to be kept. -/
def fractionPart? (x : Decimal) : Option Decimal :=
  if x.coefficient ≠ 0 ∧ Nat.pow 10 precision ≤ x.wholePart then none
  else if 0 ≤ x.exponent then some ⟨x.negative, 0, 0⟩
  else some (rounded ⟨x.negative, x.coefficient % Nat.pow 10 (-x.exponent).toNat, x.exponent⟩)

/-- Sixty times the number, to 28 digits. -/
def sixtyTimes (x : Decimal) : Decimal :=
  rounded { x with coefficient := 60 * x.coefficient }

/-- The number is zero. -/
def isZero (x : Decimal) : Bool :=
  x.coefficient == 0

end Decimal

/-- The name of an infinity or of what is not a number. -/
def Binary64.ofName? (negative : Bool) (name : String) : Option Binary64 :=
  if name = "inf" || name = "infinity" then some (.infinite negative)
  else if name = "nan" then some .nan
  else none

/-- The binary number that a text writes. -/
def Binary64.ofText? (s : String) : Option Binary64 :=
  let cs := trimChars s.toList
  match Decimal.ofChars? cs with
  | some x => some x.toBinary64
  | none =>
    let (negative, name) := Decimal.readSign cs
    Binary64.ofName? negative (String.ofList (name.map Char.toLower))

end FormCheck
