import FormCheck.Evaluation.Report
import FormCheck.Rule.Standard

/-!
# Evaluating a form

* `Setting` — the registry, the data and the language that an evaluation is made under;
* `Setting.takesPart` — whether a condition lets a field take part;
* `Setting.firstFinding` — the first rule that fails on a value;
* `Setting.visit` — the reports on a field and all below it, in the order of declaration, elements in
  ascending order; whatever lies below a field that does not take part is visited, but no rule looks at it;
* `Form.evaluate` — the reports on a form.
-/

namespace FormCheck

/-- What an evaluation is made under. -/
structure Setting where
  registry : Registry
  /-- Fields for numbers have the rule `number` even where they do not declare it. -/
  implicitNumber : Bool
  data : Value
  language : Option String

/-- The rule that fields for numbers have without declaring it. -/
def DeclaredRule.number : DeclaredRule :=
  ⟨"number", .bool true, .value (.bool true), []⟩

namespace Setting

/-- The value that a comparison reads on the field at a place. -/
def read (s : Setting) (path : Path) (comparison : Comparison) : Value :=
  match comparison.target.bind (Path.fill · path) with
  | some place => s.data.follow place
  | none => .absent

/-- Whether a condition lets the field at a place take part. -/
def takesPart (s : Setting) (path : Path) : Option Condition → Except Fault Bool
  | none => .ok true
  | some condition => condition.holds (s.read path)

/-- The rules of a field that count: those declared, after the one that comes by itself. -/
def rulesOf (s : Setting) (field : Field) : List DeclaredRule :=
  if s.implicitNumber && field.kind = .leaf .number && (field.info.rule? "number").isNone
      && s.registry.contains "number" then
    .number :: field.info.rules
  else field.info.rules

/-- What a rule may consult on the field at a place. -/
def context (s : Setting) (field : Field) (path : Path) (rule : DeclaredRule) : Context :=
  ⟨path, some field, s.data, rule.references, s.language⟩

/-- The message key of a failure: the rule's name where the verdict has none, or an empty one. -/
def keyOf (rule : DeclaredRule) (verdict : Verdict) : String :=
  match verdict.key with
  | none | some "" => rule.name
  | some key => key

/-- The failure of a rule on a value. -/
def findingOf (s : Setting) (path : Path) (v : Value) (rule : DeclaredRule) (verdict : Verdict) :
    Finding :=
  let key := keyOf rule verdict
  let message := match s.registry.get? rule.name with
    | some definition => definition.messageFor key
    | none => genericMessage
  ⟨rule.name, path, key, message, rule.declared, verdict.params, v⟩

/-- The first of several rules that fails on a value of the field at a place. -/
def firstFinding (s : Setting) (field : Field) (path : Path) (v : Value) :
    List DeclaredRule → Except Fault (Option Finding)
  | [] => .ok none
  | rule :: rest => do
    let verdict ← s.registry.evaluate rule.name v rule.prepared (s.context field path rule)
    if verdict.passed then s.firstFinding field path v rest
    else return some (s.findingOf path v rule verdict)

/-- The findings on a field that takes part: one at most. -/
def findings (s : Setting) (field : Field) (path : Path) (raw : Value) :
    Except Fault (List Finding) := do
  let finding ← s.firstFinding field path (field.seen raw) (s.rulesOf field)
  return finding.toList

/-- The report on a field at a place that holds `raw`. The condition of a field counts only where all
around it takes part. -/
def report (s : Setting) (path : Path) (skipped : Bool) (raw : Value) (field : Field) :
    Except Fault Report := do
  let skipped ← if skipped then pure true else (s.takesPart path field.info.condition).map (!·)
  let findings ← if skipped then pure [] else s.findings field path raw
  return ⟨path, field, field.fits raw, skipped, findings⟩

/-- The elements of a list; other values have none. -/
def elementsOf : Value → List Value
  | .list items => items
  | _ => []

mutual

/-- The reports on a field at a place that holds `raw`, and on all below it. -/
def visit (s : Setting) (path : Path) (skipped : Bool) (raw : Value) : Field → Except Fault (List Report)
  | .leaf info kind => do
    return [← s.report path skipped raw (.leaf info kind)]
  | .group info children => do
    let own ← s.report path skipped raw (.group info children)
    let reports ← s.visitAll path own.skipped raw children
    return own :: reports
  | .array info item => do
    let own ← s.report path skipped raw (.array info item)
    let reports ← (elementsOf raw).zipIdx.mapM fun (element, i) =>
      s.visit (path ++ [.index i]) own.skipped element item
    return own :: reports.flatten

/-- The reports on the fields of the group at a place that holds `raw`. -/
def visitAll (s : Setting) (path : Path) (skipped : Bool) (raw : Value) :
    List Field → Except Fault (List Report)
  | [] => .ok []
  | field :: rest => do
    let reports ← s.visit (path ++ [.name field.name]) skipped
      ((raw.entry? field.name).getD .absent) field
    let more ← s.visitAll path skipped raw rest
    return reports ++ more

end

end Setting

/-- The reports on a form, under a registry of rules. -/
def Form.evaluate (form : Form) (registry : Registry) (implicitNumber : Bool) (data : Value)
    (language : Option String) : Except Fault (List Report) :=
  Setting.visit ⟨registry, implicitNumber, data, language⟩ [] false data form.root

end FormCheck
