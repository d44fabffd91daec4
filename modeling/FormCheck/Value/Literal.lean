import FormCheck.Text.Quoted
import FormCheck.Number.Shortest
import FormCheck.Value.Basic

/-!
# Values as text

* `Value.literal` — a value as it is shown in a message: quoted texts, members in brackets;
* `Value.insteadOf` — the wording for a value of another sort than it should be;
* `Value.toText` — the text that a value is compared by: a whole binary number without a fraction,
  truth values in lower case, nothing and null as the empty text;
* `Value.charLength` — the number of characters of that text.

A value that is, or holds, a whole number of too many digits has no such text.
-/

namespace FormCheck.Value

open FormCheck.Text FormCheck.Number

mutual

/-- A value as it is shown in a message. -/
def literal : Value → Except Fault String
  | .absent => .ok "MISSING"
  | .null => .ok "None"
  | .bool true => .ok "True"
  | .bool false => .ok "False"
  | .int n => intText n
  | .number x => .ok x.text
  | .text s => .ok (quote s)
  | .list items => do return "[" ++ (← joinLiterals items) ++ "]"
  | .object entries => do return "\x7b" ++ (← joinEntryLiterals entries) ++ "\x7d"

/-- Members with a comma between neighbours. -/
def joinLiterals : List Value → Except Fault String
  | [] => .ok ""
  | [v] => v.literal
  | v :: rest => do return (← v.literal) ++ ", " ++ (← joinLiterals rest)

/-- Entries with a comma between neighbours. -/
def joinEntryLiterals : List (String × Value) → Except Fault String
  | [] => .ok ""
  | [(key, v)] => do return quote key ++ ": " ++ (← v.literal)
  | (key, v) :: rest => do
    return quote key ++ ": " ++ (← v.literal) ++ ", " ++ (← joinEntryLiterals rest)

end

/-- A row of values as it is shown in a message: a comma follows a single one. -/
def rowLiteral : List Value → Except Fault String
  | [v] => do return "(" ++ (← v.literal) ++ ",)"
  | vs => do return "(" ++ (← joinLiterals vs) ++ ")"

/-- What is said of a value that stands where something else is expected. Where the value cannot be shown, only
this is said. -/
def insteadOf (v : Value) (expected : String) : String :=
  match v.literal with
  | .ok shown => expected ++ ", got " ++ shown
  | .error _ => longNumberMessage

/-- The text that a value is compared by. -/
def toText : Value → Except Fault String
  | .absent | .null => .ok ""
  | .bool true => .ok "true"
  | .bool false => .ok "false"
  | .int n => intText n
  | .number x =>
    match x.toInt? with
    | some n => intText n
    | none => .ok x.text
  | .text s => .ok s
  | v@(.list _) => v.literal
  | v@(.object _) => v.literal

/-- The number of characters of a value's text. -/
def charLength (v : Value) : Except Fault Nat :=
  v.toText.map (·.length)

end FormCheck.Value
