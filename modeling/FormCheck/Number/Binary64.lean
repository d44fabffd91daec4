/-!
# Binary floating-point numbers of 64 bits

* `Binary64` — not a number, an infinity, or `± mantissa · 2 ^ exponent` in its canonical form;
* `Binary64.ofRatio` — the number nearest to a quotient of whole numbers, a half going to the even
  neighbour;
* `Binary64.ofInt?` — the number nearest to a whole number, unless that lies beyond the largest one;
* `Binary64.units` — a finite number as a multiple of the smallest positive one, by which numbers are
  compared exactly;
* `Binary64.le`, `Binary64.lt`, `Binary64.eq` — the order and the equality of numbers, false wherever
  one side is not a number.
-/

namespace FormCheck

/-- The one way in which the magnitude `mantissa · 2 ^ exponent` is kept: the mantissa has 53 bits (it
lies below `2 ^ 53`, and from `2 ^ 52` on), fewer only at the least exponent. -/
def Canonical (mantissa : Nat) (exponent : Int) : Prop :=
  mantissa < 0x20000000000000 ∧ -1074 ≤ exponent ∧ exponent ≤ 971 ∧
    (0x10000000000000 ≤ mantissa ∨ exponent = -1074)

instance (mantissa : Nat) (exponent : Int) : Decidable (Canonical mantissa exponent) :=
  inferInstanceAs (Decidable (_ ∧ _ ∧ _ ∧ (_ ∨ _)))

/-- A binary floating-point number of 64 bits. -/
inductive Binary64 where
  | nan
  | infinite (negative : Bool)
  | finite (negative : Bool) (mantissa : Nat) (exponent : Int)
      (canonical : Canonical mantissa exponent)
deriving DecidableEq

namespace Binary64

/-- Zero, with a sign. -/
def signedZero (negative : Bool) : Binary64 :=
  .finite negative 0 (-1074) (by decide)

instance : Inhabited Binary64 := ⟨signedZero false⟩

/-- The number `± mantissa · 2 ^ exponent`. A magnitude without a canonical form lies beyond the
largest finite number and becomes an infinity. -/
def ofParts (negative : Bool) (mantissa : Nat) (exponent : Int) : Binary64 :=
  if h : Canonical mantissa exponent then .finite negative mantissa exponent h
  else .infinite negative

/-! ### Rounding -/

/-- The whole number nearest to `num / den`, a half going to the even neighbour. -/
def roundHalfEven (num den : Nat) : Nat :=
  let q := num / den
  let r := num % den
  if 2 * r < den then q
  else if den < 2 * r then q + 1
  else if q % 2 = 0 then q else q + 1

/-- The quotient `num / den` divided by `base ^ exponent`, as a quotient of whole numbers. -/
def scaleDown (base num den : Nat) (exponent : Int) : Nat × Nat :=
  if 0 ≤ exponent then (num, den * Nat.pow base exponent.toNat)
  else (num * Nat.pow base (-exponent).toNat, den)

/-- The exponent at which `num / den` has a mantissa of 53 bits, or the least exponent. -/
def exponentFor (num den : Nat) : Int :=
  let k : Int := (num.log2 : Int) - (den.log2 : Int)
  let (n, d) := scaleDown 2 num den k
  max (-1074) (if n < d then k - 53 else k - 52)

/-- The number nearest to `± num / den`, a half going to the even mantissa. -/
def ofRatio (negative : Bool) (num den : Nat) : Binary64 :=
  if num = 0 ∨ den = 0 then signedZero negative
  else
    let e := exponentFor num den
    let (n, d) := scaleDown 2 num den e
    let m := roundHalfEven n d
    if m = 0x20000000000000 then ofParts negative 0x10000000000000 (e + 1) else ofParts negative m e

/-- The number nearest to a count. -/
def ofNat (n : Nat) : Binary64 :=
  ofRatio false n 1

/-- The number nearest to a whole number, or nothing where it would be infinite. -/
def ofInt? (n : Int) : Option Binary64 :=
  match ofRatio (n < 0) n.natAbs 1 with
  | .infinite _ => none
  | x => some x

/-- One. -/
def one : Binary64 := ofNat 1

/-! ### Order -/

/-- Units of the smallest positive number in one. -/
def unitsInOne : Nat := Nat.pow 2 1074

/-- A finite number in units of the smallest positive number, the other ones as zero. -/
def units : Binary64 → Int
  | .finite negative m e _ =>
    let magnitude : Int := (m * Nat.pow 2 (e + 1074).toNat : Nat)
    if negative then -magnitude else magnitude
  | _ => 0

/-- At most. -/
def le : Binary64 → Binary64 → Bool
  | .nan, _ => false
  | _, .nan => false
  | .infinite true, _ => true
  | _, .infinite false => true
  | .infinite false, _ => false
  | _, .infinite true => false
  | x, y => x.units ≤ y.units

/-- Less than. -/
def lt (x y : Binary64) : Bool :=
  le x y && !le y x

/-- Equal as numbers: the two zeros are equal, and nothing equals what is not a number. -/
def eq (x y : Binary64) : Bool :=
  le x y && le y x

/-- Equal to a whole number, compared exactly. -/
def eqInt (x : Binary64) (n : Int) : Bool :=
  match x with
  | .finite .. => x.units = n * unitsInOne
  | _ => false

/-- Neither an infinity nor not a number. -/
def isFinite : Binary64 → Bool
  | .finite .. => true
  | _ => false

/-- The number is not a number. -/
def isNaN : Binary64 → Bool
  | .nan => true
  | _ => false

/-- The whole number that a number equals, if it equals one. -/
def toInt? (x : Binary64) : Option Int :=
  if x.isFinite && x.units % unitsInOne = 0 then some (x.units / unitsInOne) else none

end Binary64

end FormCheck
