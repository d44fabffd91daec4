import FormCheck.Form.Flaw
import FormCheck.Form.Reference

/-!
# Errors of specifications

* `SpecProblem` — why a document is no specification, with its wording;
* `SpecError` — a problem and the place of the field that has it.
-/

namespace FormCheck

/-- Why a document is no specification. -/
inductive SpecProblem where
  /-- The document is no object. -/
  | noObject (sort : String)
  | malformed (problem : FlawProblem)
  | rootNoGroup
  | unknownType (type : String)
  | groupWithChildrenAndItem
  | groupWithItem
  | groupWithoutChildren
  | arrayWithChildren
  | arrayWithoutItem
  /-- A field for a single value that declares fields below it. -/
  | leafWithParts (kind : LeafKind)
  | unknownRule (name : String)
  /-- The rule may not be declared on a field of the kind. -/
  | unfitRule (name : String) (kind : Kind)
  | badArgument (rule : String) (e : ArgumentError)
  | badCondition (e : ConditionError)
  | unresolved (expression : String) (problem : ReferenceProblem)

/-- The wording of a problem. -/
def SpecProblem.message : SpecProblem → Except Fault String
  | .noObject sort => .ok ("spec document must be a mapping, got " ++ sort)
  | .malformed problem => problem.message.map ("malformed spec node: " ++ ·)
  | .rootNoGroup => .ok "root of a spec must be a group"
  | .unknownType type => .ok ("unknown field type '" ++ type ++ "'")
  | .groupWithChildrenAndItem => .ok "group declares both 'properties' and 'items'"
  | .groupWithItem => .ok "group declares 'items'; only arrays have an item template"
  | .groupWithoutChildren => .ok "group must declare 'properties'"
  | .arrayWithChildren =>
    .ok "array declares 'properties'; declare them on its 'items' template"
  | .arrayWithoutItem => .ok "array must declare 'items'"
  | .leafWithParts kind =>
    .ok ("'" ++ kind.key ++ "' field cannot declare 'properties' or 'items'")
  | .unknownRule name => .ok (unknownRuleMessage name)
  | .unfitRule name kind =>
    .ok ("rule '" ++ name ++ "' does not apply to " ++ kind.key ++ " fields")
  | .badArgument rule e => .ok ("invalid argument for rule '" ++ rule ++ "': " ++ e.message)
  | .badCondition e => .ok ("invalid condition: " ++ e.message)
  | .unresolved expression problem =>
    .ok ("cannot resolve reference '" ++ expression ++ "': " ++ problem.message)

/-- A problem of a specification, and the place of the field that has it. -/
structure SpecError where
  place : Path
  problem : SpecProblem

/-- The wording of an error: the place and the problem. -/
def SpecError.message (e : SpecError) : Except Fault String :=
  e.problem.message.map fun problem =>
    (if e.place.text = "" then "<root>" else e.place.text) ++ ": " ++ problem

end FormCheck
