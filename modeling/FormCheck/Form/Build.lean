import FormCheck.Form.Declaration
import FormCheck.Form.SpecError
import FormCheck.Rule.Registry

/-!
# Fields from declarations

* `Declaration.build` — the field that a declaration stands for, its references still open. A repeated group
  stands for an array of that group; the array has the rules, the condition and the messages, and both have
  the label;
* `Field.link` — the field with the places of all references in its conditions and rules.
-/

namespace FormCheck

/-- A step towards a form. -/
abbrev Building := Except (Failure SpecError)

/-- The failure of a step for a problem at a place. -/
def Building.refuse {α : Type} (place : Path) (problem : SpecProblem) : Building α :=
  .error (.refused ⟨place, problem⟩)

/-! ### Building -/

namespace Details

/-- The rule that a field of a kind declares. -/
def buildRule (registry : Registry) (kind : Kind) (place : Path) (name : String) (declared : Value) :
    Building DeclaredRule :=
  match registry.get? name with
  | none => .refuse place (.unknownRule name)
  | some rule =>
    if !rule.targets.contains kind.target then .refuse place (.unfitRule name kind)
    else do
      let prepared ← (rule.prepare declared).mapError
        (Failure.restate fun e => ⟨place, .badArgument name e⟩)
      return ⟨name, declared, prepared, []⟩

/-- The condition that a field declares. -/
def buildCondition (place : Path) (declared : Option Value) : Building (Option Condition) :=
  match declared with
  | none => .ok none
  | some v => (Condition.ofValue v).mapError (fun e => .refused ⟨place, .badCondition e⟩) |>.map some

/-- What a field of a kind has: first its rules are looked at, then its condition. -/
def build (registry : Registry) (kind : Kind) (name : String) (place : Path) (details : Details) :
    Building FieldInfo := do
  let rules ← details.rules.mapM fun (rule, declared) => buildRule registry kind place rule declared
  let condition ← buildCondition place details.condition
  return ⟨name, place, rules, condition, details.label, details.messages⟩

/-- The details that a repeated group leaves to each of its elements. -/
def forElements (details : Details) : Details :=
  { details with rules := [], condition := none, messages := [] }

end Details

namespace Declaration

/-- The type that a declaration names. -/
def type : Declaration → String
  | .mk type _ _ _ _ => type

/-- Whether the field is repeated. -/
def isRepeated : Declaration → Bool
  | .mk _ repeated _ _ _ => repeated

/-- A group, or the array of it where it is repeated. -/
def closeGroup (registry : Registry) (name : String) (place : Path) (repeated : Bool)
    (details : Details) (children : List Field) : Building Field :=
  if repeated then do
    let info ← details.forElements.build registry .group name (place ++ [.each])
    let arrayInfo ← details.build registry .array name place
    return .array arrayInfo (.group info children)
  else do
    let info ← details.build registry .group name place
    return .group info children

mutual

/-- The field of a name at a place that a declaration stands for. What is wrong below a field is found
before what is wrong with its own rules and condition. -/
def build (registry : Registry) (name : String) (place : Path) : Declaration → Building Field
  | .mk type repeated details children item =>
    match Kind.ofKey? type with
    | none => .refuse place (.unknownType type)
    | some .group =>
      let inner := if repeated then place ++ [.each] else place
      match children, item with
      | some _, some _ => .refuse inner .groupWithChildrenAndItem
      | none, some _ => .refuse inner .groupWithItem
      | none, none => .refuse inner .groupWithoutChildren
      | some children, none => do
        let fields ← buildAll registry inner children
        closeGroup registry name place repeated details fields
    | some .array =>
      match children, item with
      | some _, _ => .refuse place .arrayWithChildren
      | none, none => .refuse place .arrayWithoutItem
      | none, some item => do
        let field ← item.build registry name (place ++ [.each])
        let info ← details.build registry .array name place
        return .array info field
    | some (.leaf kind) =>
      match children, item with
      | none, none => do
        let info ← details.build registry (.leaf kind) name place
        return .leaf info kind
      | _, _ => .refuse place (.leafWithParts kind)

/-- The named fields right below a place. -/
def buildAll (registry : Registry) (place : Path) : List (String × Declaration) → Building (List Field)
  | [] => .ok []
  | (name, declaration) :: rest => do
    let field ← declaration.build registry name (place ++ [.name name])
    let fields ← buildAll registry place rest
    return field :: fields

end

end Declaration

/-! ### Linking -/

/-- The failure of a reference on the field at a place. -/
def referenceFailure (place : Path) (expression : String) (failure : Failure ReferenceProblem) :
    Failure SpecError :=
  failure.restate fun problem => ⟨place, .unresolved expression problem⟩

/-- The rule with the places of the references in its argument. -/
def DeclaredRule.link (registry : Registry) (root : Field) (place : Path) (rule : DeclaredRule) :
    Building DeclaredRule :=
  match registry.get? rule.name with
  | none => .refuse place (.unknownRule rule.name)
  | some definition => do
    let expressions ← (definition.referencesIn rule.prepared).mapError .fault
    let references ← expressions.eraseDups.mapM fun expression =>
      (root.rulePlace place expression).map (expression, ·) |>.mapError (referenceFailure place expression)
    return { rule with references := references }

/-- What a field has, with the places of its references: first those in its condition, then those in its
rules. -/
def FieldInfo.link (registry : Registry) (root : Field) (info : FieldInfo) : Building FieldInfo := do
  let condition ← info.condition.mapM fun condition =>
    condition.resolve fun expression =>
      (root.conditionPlace info.place expression).mapError (referenceFailure info.place expression)
  let rules ← info.rules.mapM (·.link registry root info.place)
  return { info with condition := condition, rules := rules }

namespace Field

mutual

/-- The field with the places of all references in it and below it. -/
def link (registry : Registry) (root : Field) : Field → Building Field
  | .leaf info kind => do
    return .leaf (← info.link registry root) kind
  | .group info children => do
    let info ← info.link registry root
    return .group info (← linkAll registry root children)
  | .array info item => do
    let info ← info.link registry root
    return .array info (← link registry root item)

/-- Several fields with the places of all references. -/
def linkAll (registry : Registry) (root : Field) : List Field → Building (List Field)
  | [] => .ok []
  | field :: rest => do
    let field ← link registry root field
    let fields ← linkAll registry root rest
    return field :: fields

end

end Field

end FormCheck
