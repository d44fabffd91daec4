import FormCheck.Path.Basic
import FormCheck.Value.Reading

/-!
# Conditions

* `Operator` — how a value and an operand are compared;
* `Comparison` — the value at a reference, an operator and an operand;
* `Condition` — comparisons joined by all, any and not;
* `Condition.comparisons` — the comparisons of a condition in the order in which they are declared;
* `Condition.holds` — whether a condition holds, given the value that each comparison reads;
* `Condition.resolve` — the condition with the place of each reference filled in.
-/

namespace FormCheck

/-- How a value is compared with an operand. -/
inductive Operator where
  | equals
  | notEquals
  | oneOf
  | noneOf
  | above
  | atLeast
  | below
  | atMost
  | empty
deriving DecidableEq, Repr

namespace Operator

/-- All operators with the keys that name them in a specification. -/
def keys : List (String × Operator) :=
  [("equals", .equals), ("not_equals", .notEquals), ("in", .oneOf), ("not_in", .noneOf),
   ("gt", .above), ("gte", .atLeast), ("lt", .below), ("lte", .atMost), ("empty", .empty)]

/-- The operator that a key names. -/
def ofKey? (key : String) : Option Operator :=
  entryOf? keys key

/-- The key that names an operator. -/
def key : Operator → String
  | .equals => "equals"
  | .notEquals => "not_equals"
  | .oneOf => "in"
  | .noneOf => "not_in"
  | .above => "gt"
  | .atLeast => "gte"
  | .below => "lt"
  | .atMost => "lte"
  | .empty => "empty"

theorem ofKey?_key (op : Operator) : ofKey? op.key = some op := by
  cases op <;> rfl

/-- The operator takes a list of operands. -/
def takesList : Operator → Bool
  | .oneOf | .noneOf => true
  | _ => false

/-- Some value of the one list loosely equals some value of the other; the pairs are looked at in order,
up to the first that does. -/
def anyShared : List Value → List Value → Except Fault Bool
  | [], _ => .ok false
  | v :: vs, ws => do
    if ← ws.anyM fun w => v.looseEq w then return true
    anyShared vs ws

/-- A value, or some member of a list, is one of the operands. The operands are looked at only if there is
something to look for. -/
def isOneOf (v operand : Value) : Except Fault Bool :=
  match v.members with
  | [] => .ok false
  | vs => do anyShared vs (← operand.parts)

/-- Both sides read as numbers, and these are in the given relation. -/
def compareNumbers (relation : Binary64 → Binary64 → Bool) (v w : Value) : Except Fault Bool := do
  let x ← v.comparableNumber?
  let y ← w.comparableNumber?
  match x, y with
  | some x, some y => return relation x y
  | _, _ => return false

/-- Whether a value and an operand are in the relation that the operator stands for. A list of values is
one of a list of operands when the two share a member. -/
def holds (op : Operator) (v operand : Value) : Except Fault Bool :=
  match op with
  | .equals => v.looseEq operand
  | .notEquals => (v.looseEq operand).map (!·)
  | .oneOf => isOneOf v operand
  | .noneOf => (isOneOf v operand).map (!·)
  | .empty => .ok (v.isEmpty == operand.isTruthy)
  | .above => compareNumbers (fun x y => y.lt x) v operand
  | .atLeast => compareNumbers (fun x y => y.le x) v operand
  | .below => compareNumbers (fun x y => x.lt y) v operand
  | .atMost => compareNumbers (fun x y => x.le y) v operand

end Operator

/-- A comparison of the value at a reference with an operand. -/
structure Comparison where
  /-- The reference as written. -/
  reference : String
  operator : Operator
  /-- What the value is compared with; a list for the operators that take one. -/
  operand : Value
  /-- The place that the reference stands for, once it is known. -/
  target : Option Path

/-- A condition. -/
inductive Condition where
  | compare (c : Comparison)
  | all (members : List Condition)
  | any (members : List Condition)
  | not (member : Condition)

namespace Condition

mutual

/-- The comparisons of a condition, in order. -/
def comparisons : Condition → List Comparison
  | .compare c => [c]
  | .all members => comparisonsOf members
  | .any members => comparisonsOf members
  | .not member => member.comparisons

/-- The comparisons of several conditions, in order. -/
def comparisonsOf : List Condition → List Comparison
  | [] => []
  | c :: rest => c.comparisons ++ comparisonsOf rest

end

mutual

/-- Whether a condition holds when each comparison reads the value that `read` gives. Members are looked
at in order, and no further than needed. -/
def holds (read : Comparison → Value) : Condition → Except Fault Bool
  | .compare c => c.operator.holds (read c) c.operand
  | .all members => allHold read members
  | .any members => anyHolds read members
  | .not member => (member.holds read).map (!·)

/-- Whether all of several conditions hold. -/
def allHold (read : Comparison → Value) : List Condition → Except Fault Bool
  | [] => .ok true
  | c :: rest => do
    if ← c.holds read then allHold read rest else return false

/-- Whether one of several conditions holds. -/
def anyHolds (read : Comparison → Value) : List Condition → Except Fault Bool
  | [] => .ok false
  | c :: rest => do
    if ← c.holds read then return true else anyHolds read rest

end

mutual

/-- The condition with the target of each comparison set to the place of its reference. -/
def resolve {ε : Type} (place : String → Except ε Path) : Condition → Except ε Condition
  | .compare c => do
    let target ← place c.reference
    return .compare { c with target := some target }
  | .all members => do return .all (← resolveAll place members)
  | .any members => do return .any (← resolveAll place members)
  | .not member => do return .not (← member.resolve place)

/-- Several conditions with the target of each comparison set. -/
def resolveAll {ε : Type} (place : String → Except ε Path) :
    List Condition → Except ε (List Condition)
  | [] => .ok []
  | c :: rest => do
    let c ← c.resolve place
    let rest ← resolveAll place rest
    return c :: rest

end

end Condition

end FormCheck
