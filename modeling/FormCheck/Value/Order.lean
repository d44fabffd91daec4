import FormCheck.Value.Reading

/-!
# The order of numbers among values

* `Value.atMost`, `Value.isBelow` — the exact order of whole and binary numbers, truth values counting as one
  and zero; values of other sorts have no order, and comparing them is a fault.
-/

namespace FormCheck

/-- At most a whole number, compared exactly. -/
def Binary64.atMostInt (x : Binary64) (n : Int) : Bool :=
  match x with
  | .nan => false
  | .infinite negative => negative
  | .finite .. => x.units ≤ n * unitsInOne

/-- At least a whole number, compared exactly. -/
def Binary64.atLeastInt (x : Binary64) (n : Int) : Bool :=
  match x with
  | .nan => false
  | .infinite negative => !negative
  | .finite .. => n * unitsInOne ≤ x.units

namespace Value

/-- At most, between numbers. -/
def atMost (v w : Value) : Except Fault Bool :=
  match v, w with
  | .number x, .number y => .ok (x.le y)
  | .number x, w => match w.countOf? with
    | some n => .ok (x.atMostInt n)
    | none => .error .unfitArgument
  | v, .number y => match v.countOf? with
    | some m => .ok (y.atLeastInt m)
    | none => .error .unfitArgument
  | v, w => match v.countOf?, w.countOf? with
    | some m, some n => .ok (m ≤ n)
    | _, _ => .error .unfitArgument

/-- Less than, between numbers. -/
def isBelow (v w : Value) : Except Fault Bool := do
  let le ← v.atMost w
  let ge ← w.atMost v
  return le && !ge

end Value

end FormCheck
