/-!
# Faults

* `Fault` — why an evaluation ends without an answer;
* `Failure` — why a construction ends without a result: what it was given is refused, or there is a fault.

A fault is no finding about the data: it says that a value lies outside what the arithmetic can hold,
or that a check was handed an argument that it has no use for.
-/

namespace FormCheck

/-- Why an evaluation ends without an answer. -/
inductive Fault where
  /-- A whole number beyond the largest binary number is read as a number. -/
  | overflow
  /-- A whole number of too many digits is written. -/
  | longNumber
  /-- Decimal arithmetic would need more digits than it keeps. -/
  | inexact
  /-- A moment's offset from universal time is a day or more. -/
  | offsetOutOfRange
  /-- A check compares or runs through an argument whose sort does not allow it. -/
  | unfitArgument
  /-- A check asks an argument for a part that its sort does not have. -/
  | missingPart
  /-- A check takes an argument of two members apart that has another number of them. -/
  | notTwo (found : Nat)
  /-- An entry that has to be there is not. -/
  | missingEntry
  /-- A pattern matches so that one of its groups ends before it starts. -/
  | turnedGroup
  /-- A pattern looks behind further than places can be counted. -/
  | patternTooWide
  /-- A rule is no longer registered. -/
  | unknownRule (name : String)
  /-- A caller's own check gave up, for a reason of the given sort. -/
  | raised (sort : String) (message : Option String)
deriving DecidableEq, Repr

/-- What is said of a moment whose offset is a day or more. -/
def offsetMessage : String :=
  "offset must be a timedelta strictly between -timedelta(hours=24) and timedelta(hours=24)."

/-- What is said of an argument that does not have two members. -/
def notTwoMessage (found : Nat) : String :=
  if 2 < found then "too many values to unpack (expected 2)"
  else "not enough values to unpack (expected 2, got " ++ toString found ++ ")"

/-- What is said of a rule that is not registered. -/
def unknownRuleMessage (name : String) : String :=
  "unknown rule '" ++ name ++ "'"

/-- How a construction ends without a result. -/
inductive Failure (ε : Type) where
  /-- What it was given is refused, for a reason. -/
  | refused (e : ε)
  /-- What it was given lies outside what can be handled. -/
  | fault (f : Fault)

namespace Failure

/-- The failure with the reason of a refusal restated. -/
def restate {ε δ : Type} (f : ε → δ) : Failure ε → Failure δ
  | .refused e => .refused (f e)
  | .fault g => .fault g

end Failure

end FormCheck
