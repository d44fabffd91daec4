import FormCheck.Rule.Basic
import FormCheck.Value.Order

/-!
# Rules about size

* `least`, `greatest` — a bound for a number, for the length of a text or for the number of items;
* `itemCount`, `fewestItems`, `mostItems` — bounds for the number of items;
* `shortest`, `longest`, `lengthBetween` — bounds for the length of a text;
* `between` — bounds for a number;
* `multiple` — a whole multiple in decimal arithmetic.
-/

namespace FormCheck.Check

/-! ### Measures -/

/-- The magnitude of a value that bounds apply to, with the part of the message key that tells what was
measured: nothing for a number, and for texts and lists unless the field is one for numbers, their length
and their number of items. -/
def measure (v : Value) (context : Context) : Except Fault (Option Binary64 × Option String) :=
  if context.kind = some (.leaf .number) then v.number?.map (·, none)
  else match v with
    | .text s => .ok (some (.ofNat s.length), some "length")
    | .list items => .ok (some (.ofNat items.length), some "count")
    | v => v.number?.map (·, none)

/-- The message key of a failed bound. -/
def boundKey (name : String) (measured : Option String) : String :=
  match measured with
  | none => name
  | some variant => name ++ "." ++ variant

/-- The number of items of a list; any other value is one item. -/
def itemsIn : Value → Nat
  | .list items => items.length
  | _ => 1

/-- The length of a value's text, and of a list its number of items. -/
def lengthOf : Value → Except Fault Nat
  | .list items => .ok items.length
  | v => v.charLength

/-! ### Checks -/

/-- The measure is at least the bound; what cannot be measured passes. -/
def least (name : String) : Check := fun v a context => do
  let (measured, variant) ← measure v context
  match measured with
  | none => return .pass
  | some x =>
    let bound ← a.bound
    return if ← bound.atMost (.number x) then .pass else .fail (boundKey name variant) []

/-- The measure is at most the bound; what cannot be measured passes. -/
def greatest (name : String) : Check := fun v a context => do
  let (measured, variant) ← measure v context
  match measured with
  | none => return .pass
  | some x =>
    let bound ← a.bound
    return if ← (Value.number x).atMost bound then .pass else .fail (boundKey name variant) []

/-- Whether a bound is given and a count lies below it. -/
def isTooFew (count : Nat) (low : Value) : Except Fault Bool :=
  match low with
  | .null => .ok false
  | low => (Value.int count).isBelow low

/-- Whether a bound is given and a count lies above it. -/
def isTooMany (count : Nat) (high : Value) : Except Fault Bool :=
  match high with
  | .null => .ok false
  | high => high.isBelow (.int count)

/-- The bound is not given. -/
def isNull : Value → Bool
  | .null => true
  | _ => false

/-- The number of items lies between two bounds, either of which may be missing. A failure is named after
the one bound that counts, or after both. -/
def itemCount (name : String) : Check := fun v a _ => do
  let (low, high) ← a.pair
  let count := itemsIn v
  let params := [("min", low), ("max", high), ("count", .int count)]
  let both := !low.same high
  if ← isTooFew count low then
    return .fail (if !isNull high && both then name else name ++ ".min") params
  if ← isTooMany count high then
    return .fail (if !isNull low && both then name else name ++ ".max") params
  return .pass

/-- The text has at least so many characters. -/
def shortest : Check := fun v a _ => do
  let length ← lengthOf v
  return .ofBool (← (← a.bound).atMost (.int length))

/-- The text has at most so many characters. -/
def longest : Check := fun v a _ => do
  let length ← lengthOf v
  return .ofBool (← (Value.int length).atMost (← a.bound))

/-- A number lies between two bounds. -/
def isBetween (low v high : Value) : Except Fault Bool := do
  if ← low.atMost v then v.atMost high else return false

/-- The length of the text lies between two bounds. -/
def lengthBetween : Check := fun v a _ => do
  let (low, high) ← a.pair
  if ← isBetween low (.int (← lengthOf v)) high then return .pass
  return .fail none [("min", low), ("max", high)]

/-- Two bounds by their texts, as a message mentions them. -/
def boundTexts (low high : Value) : Except Fault (List (String × Value)) := do
  return [("min", .text (← low.toText)), ("max", .text (← high.toText))]

/-- The value is a number between two bounds. -/
def between (name : String) : Check := fun v a _ => do
  let (low, high) ← a.pair
  match ← v.number? with
  | none => return .fail (some (name ++ ".number")) (← boundTexts low high)
  | some x =>
    if ← isBetween low (.number x) high then return .pass
    return .fail none (← boundTexts low high)

/-- The value is a list with at least so many items. -/
def fewestItems : Check := fun v a _ =>
  match v with
  | .list items => do return .ofBool (← (← a.bound).atMost (.int items.length))
  | _ => .ok (.ofBool false)

/-- The value has at most so many items. -/
def mostItems : Check := fun v a _ => do
  return .ofBool (← (Value.int (itemsIn v)).atMost (← a.bound))

/-- The number that a value's text writes in decimals. -/
def decimalOf? (v : Value) : Except Fault (Option Decimal) :=
  v.toText.map fun s => Decimal.ofChars? s.toList

/-- Whether a number is a whole multiple of a step in decimal arithmetic. No number but zero is a multiple
of an infinite step, and where the quotient is too long to be kept the answer is no. -/
def isMultiple (x : Binary64) (step : Value) : Except Fault Bool := do
  match ← decimalOf? (.number x), ← decimalOf? step with
  | some a, some b => return a.remainderIsZero? b == some true
  | some a, none => match step with
    | .number (.infinite _) => return a.isZero
    | _ => return false
  | none, _ => return false

/-- The value is a whole multiple of a step; what is no number passes, and so does everything where the step
is not positive. -/
def multiple : Check := fun v a _ => do
  match ← v.number? with
  | none => return .pass
  | some x =>
    let step ← a.bound
    if ← step.atMost (.int 0) then return .pass
    return .ofBool (← isMultiple x step)

end FormCheck.Check
