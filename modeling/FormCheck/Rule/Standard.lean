import FormCheck.Rule.Agreement
import FormCheck.Rule.Format
import FormCheck.Rule.Presence
import FormCheck.Rule.Registry
import FormCheck.Rule.Size

/-!
# The standard rules

* `Rule.standard` — the rules that every form can use;
* `Registry.standard` — the registry of these rules.
-/

namespace FormCheck

namespace Rule

/-- A rule for single fields that takes its argument as it is declared. -/
def scalar (name message : String) (check : Check) : Rule where
  name := name
  check := check
  message := message
  variants := []
  presence := false
  targets := [.scalar]
  preparation := none
  references := none

/-- The rule with its argument prepared in a way. -/
def preparing (rule : Rule) (preparation : Preparation) : Rule :=
  { rule with preparation := some preparation }

/-- The rule with references in its argument. -/
def referring (rule : Rule) (references : Argument → Except Fault (List String)) : Rule :=
  { rule with references := some references }

/-- The rule on everything that it may be declared on. -/
def onTargets (rule : Rule) (targets : List Target) : Rule :=
  { rule with targets := targets }

/-- The rule with messages of its own for some failures. -/
def withVariants (rule : Rule) (variants : List (String × String)) : Rule :=
  { rule with variants := variants }

/-- The rule as one that looks at empty values. -/
def ofPresence (rule : Rule) : Rule :=
  { rule with presence := true }

/-- Single fields and arrays. -/
def collections : List Target := [.scalar, .array]

/-- The rules that every form can use. -/
def standard : List Rule := [
  (scalar "required" "\x7bfield\x7d is required" .required).ofPresence.onTargets Target.all,
  ((scalar "required_if" "\x7bfield\x7d is required" .requiredIf).ofPresence.onTargets Target.all
    |>.preparing conditionArgument |>.referring conditionReferences),
  scalar "email" "Please enter a valid email address" .mailbox,
  ((scalar "min" "Please enter a value greater than or equal to \x7bparam\x7d" (.least "min")).withVariants
      [("min.length", "Please enter at least \x7bparam\x7d characters"),
       ("min.count", "Please select at least \x7bparam\x7d items")]
    |>.preparing numberArgument),
  ((scalar "max" "Please enter a value less than or equal to \x7bparam\x7d" (.greatest "max")).withVariants
      [("max.length", "Please enter no more than \x7bparam\x7d characters"),
       ("max.count", "Please select no more than \x7bparam\x7d items")]
    |>.preparing numberArgument),
  (scalar "pattern" "Please enter a value matching the required format" .pattern).preparing
    patternArgument,
  ((scalar "match" "Please enter the same value again" .sameAs).preparing referenceArgument
    |>.referring singleReference),
  ((scalar "equalTo" "Please enter the same value again" .sameAs).preparing referenceArgument
    |>.referring singleReference),
  ((scalar "length" "Please provide between \x7bmin\x7d and \x7bmax\x7d items" (.itemCount "length")).withVariants
      [("length.min", "Please select at least \x7bmin\x7d items"),
       ("length.max", "Please select no more than \x7bmax\x7d items")]
    |>.onTargets collections |>.preparing lengthArgument),
  (scalar "minlength" "Please enter at least \x7bparam\x7d characters" .shortest).preparing countArgument,
  (scalar "maxlength" "Please enter no more than \x7bparam\x7d characters" .longest).preparing
    countArgument,
  (scalar "rangelength" "Please enter a value between \x7bmin\x7d and \x7bmax\x7d characters"
    .lengthBetween).preparing (pairArgument countValue),
  ((scalar "range" "Please enter a value between \x7bmin\x7d and \x7bmax\x7d" (.between "range")).withVariants
      [("range.number", "Please enter a valid number")]
    |>.preparing (pairArgument numberValue)),
  scalar "number" "Please enter a valid number" .numeric,
  scalar "digits" "Please enter only digits" .digits,
  (scalar "in" "Please select a valid option" .amongst).onTargets collections
    |>.preparing listArgument,
  (scalar "notEqual" "Please enter a different value" .differs).referring relativeReference,
  scalar "url" "Please enter a valid URL" .webAddress,
  scalar "date" "Please enter a valid date" .date,
  scalar "dateISO" "Please enter a valid date in ISO format (YYYY-MM-DD)" .isoDate,
  ((scalar "enddate" "End date must be after the start date" .notBefore).preparing referenceArgument
    |>.referring singleReference),
  ((scalar "mincount" "Please select at least \x7bparam\x7d items" .fewestItems).onTargets collections
    |>.preparing countArgument),
  ((scalar "maxcount" "Please select no more than \x7bparam\x7d items" .mostItems).onTargets collections
    |>.preparing countArgument),
  (scalar "unique" "Duplicate values are not allowed" .distinct).onTargets collections,
  ((scalar "accept" "Please upload a file with a valid format" .fileType).onTargets collections
    |>.preparing acceptArgument),
  (scalar "step" "Please enter a value that is a multiple of \x7bparam\x7d" .multiple).preparing
    numberArgument]

end Rule

/-- The registry of the standard rules. -/
def Registry.standard : Registry := ⟨Rule.standard⟩

end FormCheck
