import FormCheck.Condition.Expression

/-!
# Conditions in a specification

* `Condition.ofValue` — the condition that a specification declares: an expression, or an object with
  `all`, `any` or `not`, or with a `path` and one operator.
-/

namespace FormCheck.Condition

/-- The operands of a membership: the members of a list, or the literals of a comma-separated text. -/
def operandList : Value → Except ConditionError (List Value)
  | .text s => literalsOf s.toList
  | .list items => .ok items
  | v => .error (.noList v)

/-- The operand that an operator takes, from the one that is declared. -/
def operandFor (op : Operator) (operand : Value) : Except ConditionError Value :=
  match op with
  | .oneOf | .noneOf => do return .list (← operandList operand)
  | .empty => .ok (.bool operand.isTruthy)
  | _ => .ok operand

/-- The comparison that an object declares. -/
def ofEntries (entries : List (String × Value)) : Except ConditionError Condition :=
  match entryOf? entries "path" with
  | some (.text reference) =>
    if Text.allBlank reference then .error .noReference
    else
      let declared := entries.filter (·.1 != "path")
      let unknown := (declared.map (·.1)).filter fun key => (Operator.ofKey? key).isNone
      if !unknown.isEmpty then .error (.unknownOperators unknown)
      else match declared with
        | [(key, operand)] =>
          match Operator.ofKey? key with
          | some op => do
            let operand ← operandFor op operand
            return .compare ⟨reference, op, operand, none⟩
          | none => .error (.unknownOperators [key])
        | _ => .error .notOneOperator
  | _ => .error .noReference

/-- The keys of objects that join conditions. -/
def joinKeys : List String := ["all", "any", "not"]

mutual

/-- The condition that a specification declares. -/
def ofValue : Value → Except ConditionError Condition
  | .text s => ofExpression s
  | .object [(key, v)] =>
    if key = "not" then do return .not (← ofValue v)
    else if key = "all" then do return .all (← ofMembers key v)
    else if key = "any" then do return .any (← ofMembers key v)
    else ofEntries [(key, v)]
  | .object entries =>
    match joinKeys.find? (hasEntry entries) with
    | some key => .error (.combined key)
    | none => ofEntries entries
  | v => .error (.badSort v.sortName)

/-- The conditions that a list declares. -/
def ofMembers (key : String) : Value → Except ConditionError (List Condition)
  | .list [] => .error (.noMembers key)
  | .list items => ofList items
  | _ => .error (.noMembers key)

/-- The conditions that the items of a list declare. -/
def ofList : List Value → Except ConditionError (List Condition)
  | [] => .ok []
  | v :: rest => do
    let c ← ofValue v
    let cs ← ofList rest
    return c :: cs

end

end FormCheck.Condition
