import FormCheck.Evaluation.Visit
import FormCheck.Result.Wording

/-!
# Validators

* `Validator` — a form with the registry, the wording and the options that its data is validated under;
* `Validator.ofDocument` — the validator for the form that a document describes;
* `Validator.validate` — the result for some data, with the questions that the resolver was asked;
* `Validator.validateField` — the first error at a written path.
-/

namespace FormCheck

/-- The language that is used where no other is given. -/
def usualLanguage : String := "en"

/-- A form with all that its data is validated under. -/
structure Validator where
  form : Form
  registry : Registry
  wording : Wording
  /-- Fields for numbers have the rule `number` even where they do not declare it. -/
  implicitNumber : Bool

namespace Validator

/-- The validator for the form that a document describes, under the registry that the document is checked against. -/
def ofDocument (registry : Registry) (document : Value) (wording : Wording) (implicitNumber : Bool) :
    Building Validator := do
  let form ← Form.ofDocument registry document
  return ⟨form, registry, wording, implicitNumber⟩

/-- The result for some data, with the questions that the resolver was asked. -/
def validate (validator : Validator) (data : Value) (language : Option String) :
    Except Fault (Result × List Question) := do
  let language := some (validator.wording.languageOr language)
  let reports ← validator.form.evaluate validator.registry validator.implicitNumber data language
  let (result, questions) := validator.wording.assemble reports language
  return (← result, questions)

/-- The first error at a written path in the result for some data. A path that cannot be read is refused
before anything is validated. -/
def validateField (validator : Validator) (path : String) (data : Value) (language : Option String) :
    Except (Failure NotationError) (Option FieldError × List Question) := do
  let path ← (Path.ofText path).mapError .refused
  let (result, questions) ← (validator.validate data language).mapError .fault
  return (result.errorAt? path.text, questions)

end Validator

end FormCheck
