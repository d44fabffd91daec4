import FormCheck.Value.Reading

/-!
# Results

* `FieldError` — an error at a place of the data: the rule that failed, a message, and the value;
* `ErrorRecord` — an error as a document tells it, whatever stands for its parts;
* `Result` — the errors of a validation in order; it is valid when there are none;
* `Result.errorAt?`, `Result.paths` — the first error at a path, and the paths that have errors.
-/

namespace FormCheck

/-- An error at a place of the data. -/
structure FieldError where
  path : String
  rule : String
  message : String
  /-- The value that failed, null where there was none. -/
  value : Value

/-- An error as a document tells it: what stands for its parts is not looked at. -/
structure ErrorRecord where
  path : Value
  rule : Value
  message : Value
  /-- The value that failed, null where there was none. -/
  value : Value

namespace ErrorRecord

/-- The entry under a key that has to be there. -/
def partAt (entries : List (String × Value)) (key : String) : Except Fault Value :=
  match entryOf? entries key with
  | some v => .ok v
  | none => .error .missingEntry

/-- The error that an object describes; its value may be missing. -/
def ofValue : Value → Except Fault ErrorRecord
  | .object entries => do
    let path ← partAt entries "path"
    let rule ← partAt entries "rule"
    let message ← partAt entries "message"
    return ⟨path, rule, message, (entryOf? entries "value").getD .null⟩
  | _ => .error .unfitArgument

/-- The error as the entries of an object; its value is mentioned on request, unless it is null. -/
def toEntries (e : ErrorRecord) (withValue : Bool) : List (String × Value) :=
  [("path", e.path), ("rule", e.rule), ("message", e.message)] ++
    match withValue, e.value with
    | false, _ | true, .null => []
    | true, v => [("value", v)]

/-- The object without the value tells all of the error. -/
def isToldWithoutValue (e : ErrorRecord) : Bool :=
  match e.value with
  | .null => true
  | _ => false

/-- An error that is told without its value reads back from the object without the value. -/
theorem ofValue_toEntries {e : ErrorRecord} (h : e.isToldWithoutValue = true) :
    ofValue (.object (e.toEntries false)) = .ok e := by
  obtain ⟨path, rule, message, value⟩ := e
  cases value <;> first | rfl | simp [isToldWithoutValue] at h

end ErrorRecord

namespace FieldError

/-- The error as a document tells it. -/
def record (e : FieldError) : ErrorRecord :=
  ⟨.text e.path, .text e.rule, .text e.message, e.value⟩

/-- The error as the entries of an object; its value is mentioned on request, unless it is null. -/
def toEntries (e : FieldError) (withValue : Bool) : List (String × Value) :=
  e.record.toEntries withValue

end FieldError

/-- The outcome of a validation. -/
structure Result where
  errors : List FieldError

namespace Result

/-- There are no errors. -/
def isValid (result : Result) : Bool :=
  result.errors.isEmpty

/-- The first error at a path. -/
def errorAt? (result : Result) (path : String) : Option FieldError :=
  result.errors.find? (·.path == path)

/-- The paths that have errors, each once, in order. -/
def paths (result : Result) : List String :=
  (result.errors.map (·.path)).eraseDups

end Result

end FormCheck
