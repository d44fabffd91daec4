import FormCheck.Corpus.Input
import FormCheck.Validator

/-!
# Corpora of cases

* `agrees` — whether a result agrees with an expectation: in validity, and for what is expected to be
  invalid also in the rule and the path of the first error, where these are given;
* `CaseReport` — how a case went;
* `runSuite` — the reports on all cases of a suite, in order.
-/

namespace FormCheck.Corpus

/-- How a case went. -/
structure CaseReport where
  testId : Value
  /-- The position of the case within its test. -/
  position : Nat
  passed : Bool
  expected : Value
  actual : Value

/-- The entry under a key that has to be there. -/
def entryAt (v : Value) (key : String) : Except Fault Value :=
  match v with
  | .object entries => match entryOf? entries key with
    | some w => .ok w
    | none => .error .missingEntry
  | _ => .error .unfitArgument

/-- The entries of what has to be an object. -/
def entriesOf (v : Value) : Except Fault (List (String × Value)) :=
  match v with
  | .object entries => .ok entries
  | _ => .error .missingPart

/-- The part of a result that expectations are about: its validity, and the rule and the path of the first
error. -/
def summary (result : Result) : Value :=
  .object (("valid", .bool result.isValid) :: match result.errors with
    | [] => []
    | first :: _ => [("error", .text first.rule), ("field", .text first.path)])

/-- The summary has what is expected under a key, if anything is expected there. -/
def agreesAt (expected actual : Value) (key : String) : Bool :=
  match expected.entry? key with
  | some v => !v.isTruthy || ((actual.entry? key).getD .null).same v
  | none => true

/-- Whether a summary agrees with an expectation. -/
def agrees (expected actual : Value) : Except Fault Bool := do
  let valid ← entryAt actual "valid"
  let due ← entryAt expected "valid"
  if !valid.same due then return false
  else if due.isTruthy then return true
  else return agreesAt expected actual "error" && agreesAt expected actual "field"

/-- How a case of a test goes. -/
def runCase (validator : Validator) (spec : List (String × Value)) (language : Option String)
    (testId : Value) (position : Nat) (case : Value) : Except Fault CaseReport := do
  let entries ← entriesOf case
  let data := asData spec ((entryOf? entries "input").getD .null)
  let (result, _) ← validator.validate data language
  let actual := summary result
  let expected ← entryAt case "expected"
  return ⟨testId, position, ← agrees expected actual, expected, actual⟩

/-- How the cases of a test go. -/
def runTest (registry : Registry) (language : Option String) (test : Value) :
    Building (List CaseReport) := do
  let spec ← (entryAt test "spec" >>= entriesOf).mapError .fault
  let validator ← Validator.ofDocument registry (asForm spec) ⟨none, usualLanguage⟩ true
  let testId := (test.entry? "id").getD (.text "")
  let cases ← ((test.entry? "cases").getD (.list [])).parts.mapError .fault
  cases.zipIdx.mapM fun (case, position) =>
    (runCase validator spec language testId position case).mapError .fault

/-- How all cases of a suite go. -/
def runSuite (registry : Registry) (language : Option String) (suite : Value) :
    Building (List CaseReport) := do
  let entries ← (entriesOf suite).mapError .fault
  let tests ← ((entryOf? entries "tests").getD (.list [])).parts.mapError .fault
  return (← tests.mapM (runTest registry language)).flatten

end FormCheck.Corpus
