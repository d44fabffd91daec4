import FormCheck.Rule.Basic

/-!
# Rules that ask for presence

* `required` — the value is not empty;
* `requiredIf` — the value is not empty where a condition holds.
-/

namespace FormCheck.Check

/-- The value is not empty, unless the argument says no. -/
def required : Check := fun v a _ =>
  .ok (.ofBool (!a.isTruthy || !v.isEmpty))

/-- The value is not empty where the condition holds. -/
def requiredIf : Check := fun v a context =>
  match a with
  | .condition c => do
    let applies ← c.holds fun comparison => context.lookup comparison.reference
    return .ofBool (!applies || !v.isEmpty)
  | _ => .error .missingPart

end FormCheck.Check
