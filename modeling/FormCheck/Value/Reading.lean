import FormCheck.Fault
import FormCheck.Number.Decimal
import FormCheck.Value.Literal

/-!
# Reading values as numbers, and comparing them

* `Value.number?` — numbers and complete numerals; truth values are no numbers here;
* `Value.comparableNumber?` — the same with truth values as one and zero;
* `Value.parts` — what a value can be run through for: members, characters or keys;
* `Value.same` — equality of values: numbers by what they count, objects whatever their order;
* `Value.looseEq` — equality across the sorts in which form input arrives.
-/

namespace FormCheck.Value

open FormCheck.Text

/-- The number that a trimmed text writes: a plain numeral or a signed infinity by its name. -/
def numberOfText? (s : String) : Option Binary64 :=
  let cs := trimChars s.toList
  if cs = "Infinity".toList then some (.infinite false)
  else if cs = "-Infinity".toList then some (.infinite true)
  else if Decimal.isPlain cs then (Decimal.ofChars? cs).map Decimal.toBinary64
  else none

/-- The strict reading as a number: of a number that is one, and of a text that is a numeral as a
whole. A whole number beyond the largest binary number is a fault. -/
def number? : Value → Except Fault (Option Binary64)
  | .int n =>
    match Binary64.ofInt? n with
    | some x => .ok (some x)
    | none => .error .overflow
  | .number x => .ok (if x.isNaN then none else some x)
  | .text s => .ok (numberOfText? s)
  | _ => .ok none

/-- The lenient reading as a number, by which values are ordered: truth values count as one and zero. -/
def comparableNumber? : Value → Except Fault (Option Binary64)
  | .bool b => .ok (some (if b then .one else .signedZero false))
  | v => v.number?

/-- What is met when a value is run through: the members of a list, the characters of a text, the keys of
an object. Other values are a fault. -/
def parts : Value → Except Fault (List Value)
  | .list items => .ok items
  | .text s => .ok (s.toList.map fun c => .text (String.singleton c))
  | .object entries => .ok (entries.map fun e => .text e.1)
  | _ => .error .unfitArgument

/-! ### Equality -/

/-- The whole number that a truth value or a whole number counts. -/
def countOf? : Value → Option Int
  | .bool b => some (if b then 1 else 0)
  | .int n => some n
  | _ => none

/-- Equality of values without members. -/
def sameScalar : Value → Value → Bool
  | .absent, .absent => true
  | .null, .null => true
  | .text s, .text t => s == t
  | .number x, .number y => x.eq y
  | .number x, w => match w.countOf? with
    | some n => x.eqInt n
    | none => false
  | v, .number y => match v.countOf? with
    | some n => y.eqInt n
    | none => false
  | v, w => match v.countOf?, w.countOf? with
    | some m, some n => m == n
    | _, _ => false

mutual

/-- Equality of values: numbers and truth values by what they count, lists member by member, objects
by their entries in any order. -/
def same : Value → Value → Bool
  | .list xs, w => match w with
    | .list ys => sameList xs ys
    | _ => false
  | .object xs, w => match w with
    | .object ys => xs.length == ys.length && sameEntries xs ys
    | _ => false
  | v, w => sameScalar v w

/-- Equality of lists, member by member. -/
def sameList : List Value → List Value → Bool
  | [], ys => ys.isEmpty
  | x :: xs, ys => match ys with
    | [] => false
    | y :: ys => same x y && sameList xs ys

/-- Every entry has an equal one under its key in the other table. -/
def sameEntries : List (String × Value) → List (String × Value) → Bool
  | [], _ => true
  | (key, x) :: xs, ys => match entryOf? ys key with
    | some y => same x y && sameEntries xs ys
    | none => false

end

/-- Two values are of one sort. -/
def sameSort : Value → Value → Bool
  | .absent, .absent | .null, .null | .bool _, .bool _ | .int _, .int _ | .number _, .number _
  | .text _, .text _ | .list _, .list _ | .object _, .object _ => true
  | _, _ => false

/-- Equality across the sorts in which form input arrives. What is not there equals only what is not
there. Values of one sort are compared as they are, others by their numbers if both are numbers, and
by their texts if not. -/
def looseEq (v w : Value) : Except Fault Bool :=
  if v.isVoid || w.isVoid then .ok (v.isVoid && w.isVoid)
  else if sameSort v w then .ok (same v w)
  else do
    let x ← v.comparableNumber?
    let y ← w.comparableNumber?
    match x, y with
    | some x, some y => return x.eq y
    | _, _ => return (← v.toText) == (← w.toText)

end FormCheck.Value
