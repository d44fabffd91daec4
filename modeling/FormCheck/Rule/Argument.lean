import FormCheck.Condition.Document
import FormCheck.Pattern.Literal
import FormCheck.Pattern.Matcher
import FormCheck.Path.Notation

/-!
# Arguments of rules

* `Argument` — what a check is handed beside the value: a value, a row of values, a pattern or a
  condition;
* `ArgumentError` — why a declared argument is refused, with its wording;
* `numberArgument`, `countArgument`, `pairArgument`, `listArgument`, `referenceArgument`, `lengthArgument`,
  `patternArgument`, `acceptArgument`, `conditionArgument` — the ways in which declared arguments are
  prepared;
* `Argument.reference`, `Argument.pair`, `Argument.members`, `Argument.bound` — what checks read from
  prepared arguments; each is a fault on an argument of another sort.
-/

namespace FormCheck

open FormCheck.Text FormCheck.Number

/-- What a check is handed beside the value. -/
inductive Argument where
  | value (v : Value)
  /-- A row of values. It never equals a list. -/
  | row (members : List Value)
  | pattern (p : Pattern)
  | condition (c : Condition)

/-- Why a declared argument is refused. -/
inductive ArgumentError where
  | noNumber (v : Value)
  | noCount (v : Value)
  | noPair (v : Value)
  | noList (v : Value)
  | noReference (v : Value)
  | unknownBounds (keys : List String)
  | noPattern (v : Value)
  | badPattern (source : String) (problem : Pattern.Problem) (position : Option Nat)
  /-- A pattern with flags for two alphabets at once. -/
  | twoAlphabets
  /-- A pattern with a numeral of too many digits. -/
  | longNumeral (digits : Nat)
  | badCondition (e : ConditionError)

/-- The wording of a refusal. -/
def ArgumentError.message : ArgumentError → String
  | .noNumber v => v.insteadOf "expected a number"
  | .noCount v => v.insteadOf "expected a non-negative integer"
  | .noPair v => v.insteadOf "expected [min, max]"
  | .noList v => v.insteadOf "expected a list or a comma-separated string"
  | .noReference v => v.insteadOf "expected a field path"
  | .unknownBounds keys => "unknown length bound(s): " ++ joinWith ", " (sortNames keys)
  | .noPattern v => v.insteadOf "expected a regular expression"
  | .badPattern source problem position =>
    "invalid regular expression " ++ quote source ++ ": " ++ problem.messageAt position source
  | .twoAlphabets => "ASCII and UNICODE flags are incompatible"
  | .longNumeral digits => longNumeralMessage digits
  | .badCondition e => e.message

/-! ### Preparing arguments -/

/-- A way to prepare declared arguments. -/
abbrev Preparation := Value → Except (Failure ArgumentError) Argument

/-- A number. -/
def numberOf (v : Value) : Except (Failure ArgumentError) Binary64 :=
  match v.number? with
  | .ok (some x) => .ok x
  | .ok none => .error (.refused (.noNumber v))
  | .error f => .error (.fault f)

/-- A whole number that is not negative. -/
def countOf (v : Value) : Except (Failure ArgumentError) Nat := do
  let x ← numberOf v
  match x.toInt? with
  | some (.ofNat n) => return n
  | _ => .error (.refused (.noCount v))

/-- A count as a value. -/
def countValue (v : Value) : Except (Failure ArgumentError) Value :=
  (countOf v).map fun n => .int n

/-- A number as a value. -/
def numberValue (v : Value) : Except (Failure ArgumentError) Value :=
  (numberOf v).map .number

/-- Prepares a number. -/
def numberArgument : Preparation := fun v =>
  (numberValue v).map .value

/-- Prepares a whole number that is not negative. -/
def countArgument : Preparation := fun v =>
  (countValue v).map .value

/-- A text in its comma-separated parts; other values as they are. -/
def partsOfText : Value → Value
  | .text s => .list ((commaParts s).map .text)
  | v => v

/-- Two values from a list of two, or from a text with one comma. -/
def pairOf (convert : Value → Except (Failure ArgumentError) Value) (v : Value) :
    Except (Failure ArgumentError) (List Value) :=
  match partsOfText v with
  | .list [low, high] => do
    let low ← convert low
    let high ← convert high
    return [low, high]
  | v => .error (.refused (.noPair v))

/-- Prepares a least and a greatest value. -/
def pairArgument (convert : Value → Except (Failure ArgumentError) Value) : Preparation := fun v =>
  (pairOf convert v).map .row

/-- The members of a list, or the trimmed parts of a comma-separated text. -/
def listOf : Value → Except (Failure ArgumentError) (List Value)
  | .text s => .ok ((commaParts s).map fun part => .text (trim part))
  | .list items => .ok items
  | v => .error (.refused (.noList v))

/-- Prepares a list of options. -/
def listArgument : Preparation := fun v =>
  (listOf v).map .row

/-- Prepares a reference to another field. -/
def referenceArgument : Preparation := fun v =>
  match v with
  | .text s => if allBlank s then .error (.refused (.noReference v)) else .ok (.value v)
  | _ => .error (.refused (.noReference v))

/-- The bound under a key, null where there is none. -/
def boundOf (entries : List (String × Value)) (key : String) : Except (Failure ArgumentError) Value :=
  match entryOf? entries key with
  | none | some .null => .ok .null
  | some v => countValue v

/-- Prepares the bounds of a number of items: an object with `min` and `max`, a pair, or the exact
number. -/
def lengthArgument : Preparation := fun v =>
  match v with
  | .object entries =>
    let unknown := (entries.map (·.1)).filter fun key => key != "min" && key != "max"
    if !unknown.isEmpty then .error (.refused (.unknownBounds unknown))
    else do
      let low ← boundOf entries "min"
      let high ← boundOf entries "max"
      return .row [low, high]
  | .list _ => pairArgument countValue v
  | _ => do
    let exact ← countValue v
    return .row [exact, exact]

/-- Prepares a regular expression. -/
def patternArgument : Preparation := fun v =>
  match v with
  | .text s =>
    match Pattern.ofText s with
    | .ok p => .ok (.pattern p)
    | .error (.malformed problem position) => .error (.refused (.badPattern s problem position))
    | .error .twoAlphabets => .error (.refused .twoAlphabets)
    | .error (.longNumeral digits) => .error (.refused (.longNumeral digits))
    | .error .tooManyRepetitions => .error (.fault .overflow)
    | .error .tooFarBehind => .error (.fault .patternTooWide)
  | _ => .error (.refused (.noPattern v))

/-- A text trimmed and in small letters; other values have no such form. -/
def foldedText : Value → Except (Failure ArgumentError) Value
  | .text s => .ok (.text (lowerText (trim s)))
  | _ => .error (.fault .missingPart)

/-- Prepares the endings and types of files. -/
def acceptArgument : Preparation := fun v => do
  let items ← listOf v
  return .row (← items.mapM foldedText)

/-- Prepares a condition. -/
def conditionArgument : Preparation := fun v =>
  match Condition.ofValue v with
  | .ok c => .ok (.condition c)
  | .error e => .error (.refused (.badCondition e))

/-! ### Reading prepared arguments -/

namespace Argument

/-- What counts as yes. -/
def isTruthy : Argument → Bool
  | .value v => v.isTruthy
  | .row members => !members.isEmpty
  | .pattern _ | .condition _ => true

/-- The argument is the truth value false. -/
def isFalse : Argument → Bool
  | .value (.bool false) => true
  | _ => false

/-- The text that a value is compared with. That of a condition, which shows all operands, is like no
other. -/
def toText? : Argument → Except Fault (Option String)
  | .value v => v.toText.map some
  | .row members => (Value.rowLiteral members).map some
  | .pattern p => .ok (some p.literal)
  | .condition c => do
    let _ ← c.comparisons.mapM fun comparison => comparison.operand.literal
    return none

/-- A value without members, such as references are looked up by. -/
def isPlain (v : Value) : Bool :=
  !v.isList && !v.isObject

/-- The operands of a condition are without members. -/
def hasPlainOperands (c : Condition) : Bool :=
  c.comparisons.all fun comparison =>
    if comparison.operator.takesList then comparison.operand.members.all isPlain
    else isPlain comparison.operand

/-- The reference that an argument is. -/
def reference : Argument → Except Fault String
  | .value (.text s) => .ok s
  | .value v => .error (if isPlain v then .missingPart else .unfitArgument)
  | .row members => .error (if members.all isPlain then .missingPart else .unfitArgument)
  | .pattern _ => .error .missingPart
  | .condition c => .error (if hasPlainOperands c then .missingPart else .unfitArgument)

/-- The members that a check runs through: of a row, or what a value can be run through for. -/
def members : Argument → Except Fault (List Value)
  | .row vs => .ok vs
  | .value v => v.parts
  | _ => .error .unfitArgument

/-- The two members of an argument. -/
def pair (a : Argument) : Except Fault (Value × Value) := do
  match ← a.members with
  | [low, high] => return (low, high)
  | vs => .error (.notTwo vs.length)

/-- A single value. -/
def bound : Argument → Except Fault Value
  | .value v => .ok v
  | _ => .error .unfitArgument

end Argument

end FormCheck
