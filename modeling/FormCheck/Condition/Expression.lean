import FormCheck.Text.Blank
import FormCheck.Text.Cut
import FormCheck.Text.Quoted
import FormCheck.Path.Notation
import FormCheck.Condition.Basic

/-!
# Conditions written as expressions

* `ConditionError` — what is wrong with a written condition, with its wording;
* `Condition.literal` — the value that an operand writes;
* `Condition.cutOutside` — the parts of a text between separators that stand outside quotes;
* `Condition.ofExpression` — the condition that an expression writes: alternatives separated by `||`, each
  of conjuncts separated by `&&`, each of a reference, an operator and an operand.
-/

namespace FormCheck

open FormCheck.Text FormCheck.Number

/-- What is wrong with a written condition. -/
inductive ConditionError where
  /-- Neither an expression nor an object. -/
  | badSort (sort : String)
  /-- An object with `all`, `any` or `not` and other keys. -/
  | combined (key : String)
  /-- No members where a list of conditions is due. -/
  | noMembers (key : String)
  /-- No reference. -/
  | noReference
  /-- Keys that name no operator. -/
  | unknownOperators (keys : List String)
  /-- No operator, or several. -/
  | notOneOperator
  /-- An operand that is no list where one is due. -/
  | noList (operand : Value)
  /-- An expression that cannot be read. -/
  | unreadable (text : String)
  /-- A whole number of too many digits. -/
  | longNumeral (digits : Nat)

/-- The wording of an error. -/
def ConditionError.message : ConditionError → String
  | .badSort sort => "condition must be a mapping or an expression string, got " ++ sort
  | .combined key => "'" ++ key ++ "' cannot be combined with other keys"
  | .noMembers key => "'" ++ key ++ "' expects a non-empty list of conditions"
  | .noReference => "condition requires a non-empty 'path'"
  | .unknownOperators keys =>
    "unknown condition operator(s): " ++ joinWith ", " (sortNames keys)
  | .notOneOperator => "condition requires exactly one operator"
  | .noList operand => operand.insteadOf "'in' operand must be a list or a comma-separated string"
  | .unreadable text => "cannot parse condition expression " ++ quote (trim text)
  | .longNumeral digits => longNumeralMessage digits

namespace Condition

/-! ### Literals -/

/-- The text between two equal quotes. -/
def unquoted? : List Char → Option (List Char)
  | q :: rest =>
    if (q = '\'' || q = '"') && rest.getLast? = some q then some rest.dropLast else none
  | [] => none

/-- The whole number that a sign and digits write. -/
def wholeNumber? (cs : List Char) : Option (Bool × List Char) :=
  let (negative, digits) := Decimal.readSign cs
  if !digits.isEmpty && digits.all isDecimal then some (negative, digits) else none

/-- The value that an operand writes: a text between quotes, a truth value, null, a whole number, a
number with a point, or a bare text. -/
def literalOf (text : List Char) : Except ConditionError Value :=
  let cs := trimChars text
  match unquoted? cs with
  | some inner => .ok (.text (String.ofList inner))
  | none =>
    if cs = "true".toList then .ok (.bool true)
    else if cs = "false".toList then .ok (.bool false)
    else if cs = "null".toList then .ok .null
    else match wholeNumber? cs with
      | some (negative, digits) =>
        if readLimit < digits.length then .error (.longNumeral digits.length)
        else .ok (.int (if negative then -(decimalValue digits : Int) else decimalValue digits))
      | none =>
        if Decimal.isPlain cs then
          .ok (match Decimal.ofChars? cs with
            | some x => .number x.toBinary64
            | none => .null)
        else .ok (.text (String.ofList cs))

/-- The values that a comma-separated list of operands writes. -/
def literalsOf (text : List Char) : Except ConditionError (List Value) :=
  (cutAt ',' text).mapM literalOf

/-! ### Separators -/

/-- The character at the front of the first part. -/
def pushFront (c : Char) : List (List Char) → List (List Char)
  | [] => [[c]]
  | part :: parts => (c :: part) :: parts

/-- The parts of a text between the occurrences of a separator outside quotes, from a place inside the
given quote on. A quote lasts up to its next occurrence, or to the end. -/
def cutOutside (separator : List Char) (quote : Option Char) : List Char → List (List Char)
  | [] => [[]]
  | c :: rest =>
    match quote with
    | some q => pushFront c (cutOutside separator (if c = q then none else some q) rest)
    | none =>
      if c = '\'' || c = '"' then pushFront c (cutOutside separator (some c) rest)
      else if separator.isPrefixOf (c :: rest) then
        [] :: cutOutside separator none (rest.drop (separator.length - 1))
      else pushFront c (cutOutside separator none rest)
termination_by cs => cs.length
decreasing_by all_goals simp; try omega

/-! ### Clauses -/

/-- The symbols of the comparing operators, those first that begin with another one. -/
def symbols : List (List Char × Operator) :=
  [(['=', '='], .equals), (['!', '='], .notEquals), (['>', '='], .atLeast), (['<', '='], .atMost),
   (['>'], .above), (['<'], .below)]

/-- The operator whose symbol the text begins with, and what follows it. -/
def leadingSymbol? (cs : List Char) : Option (Operator × List Char) :=
  (symbols.find? fun s => s.1.isPrefixOf cs).map fun s => (s.2, cs.drop s.1.length)

/-- The longest beginning of a word after which a symbol follows, blanks between them allowed after the
whole word only; the operator and the rest. -/
def cutAtSymbol? (word after : List Char) : Option (List Char × Operator × List Char) :=
  match leadingSymbol? (after.dropWhile isBlank) with
  | some (op, operand) => some (word, op, operand)
  | none =>
    ((List.range word.length).reverse.filter (0 < ·)).findSome? fun n =>
      (leadingSymbol? (word.drop n ++ after)).map fun (op, operand) => (word.take n, op, operand)

/-- The text less the given beginning. -/
def stripStart? (start cs : List Char) : Option (List Char) :=
  if start.isPrefixOf cs then some (cs.drop start.length) else none

/-- What follows the blanks that a text has to begin with. -/
def afterBlanks? (cs : List Char) : Option (List Char) :=
  match cs with
  | c :: rest => if isBlank c then some (rest.dropWhile isBlank) else none
  | [] => none

/-- The operand of a membership: what stands between the blanks that have to come first and those at the
end, all in one line. Where nothing but blanks follow, the last one that breaks no line is the operand,
unless it is the first. -/
def memberOperand? (cs : List Char) : Option (List Char) := do
  let body ← afterBlanks? cs
  if body.isEmpty then
    let spare := (cs.drop 1).filter (· != '\n')
    return [← spare.getLast?]
  else
    let operand := trimRightChars body
    if operand.contains '\n' then none else some operand

/-- A membership's keyword at the front of a text: the operator and what follows. -/
def leadingKeyword? (cs : List Char) : Option (Operator × List Char) :=
  let negated := do
    let rest ← stripStart? "not".toList cs
    let rest ← afterBlanks? rest
    let rest ← stripStart? "in".toList rest
    return (Operator.noneOf, rest)
  negated <|> (stripStart? "in".toList cs).map (Operator.oneOf, ·)

/-- A membership clause: a word, a keyword and an operand. -/
def membership? (cs : List Char) : Option (List Char × Operator × List Char) := do
  let body := cs.dropWhile isBlank
  let word := body.takeWhile (!isBlank ·)
  let rest ← afterBlanks? (body.dropWhile (!isBlank ·))
  let (op, rest) ← leadingKeyword? rest
  let operand ← memberOperand? rest
  if word.isEmpty then none else some (word, op, operand)

/-- A comparing clause: a reference, a symbol and an operand in one line. -/
def relation? (cs : List Char) : Option (List Char × Operator × List Char) := do
  let body := cs.dropWhile isBlank
  let word := body.takeWhile (!isBlank ·)
  let (reference, op, operand) ← cutAtSymbol? word (body.dropWhile (!isBlank ·))
  let operand := trimChars operand
  if word.isEmpty || operand.contains '\n' then none else some (reference, op, operand)

/-- The comparison that a clause writes. -/
def ofClause (cs : List Char) : Except ConditionError Condition :=
  match membership? cs with
  | some (reference, op, operand) => do
    let operands ← literalsOf operand
    return .compare ⟨String.ofList reference, op, .list operands, none⟩
  | none =>
    match relation? cs with
    | some (reference, op, operand) => do
      let v ← literalOf operand
      return .compare ⟨String.ofList reference, op, v, none⟩
    | none => .error (.unreadable (String.ofList cs))

/-! ### Expressions -/

/-- A single member by itself, and several joined. -/
def joined (join : List Condition → Condition) : List Condition → Condition
  | [c] => c
  | members => join members

/-- The condition that clauses joined by `&&` write. -/
def ofConjunction (cs : List Char) : Except ConditionError Condition := do
  let members ← (cutOutside ['&', '&'] none cs).mapM ofClause
  return joined .all members

/-- The condition that an expression writes. -/
def ofExpression (text : String) : Except ConditionError Condition := do
  let members ← (cutOutside ['|', '|'] none text.toList).mapM ofConjunction
  return joined .any members

end Condition

end FormCheck
