import FormCheck.Form.Field
import FormCheck.Path.Binding

/-!
# Rules

* `Verdict` — what a check finds: passed, failed under a message key, or not looked at;
* `Context` — what a check may consult beside the value and its argument: the field with all that is declared on
  it and below it, and all of the data; `Context.lookup` is the value at a reference;
* `Rule` — a named check with its messages, the fields it may be declared on, and the way its argument is
  prepared and holds references.
-/

namespace FormCheck

/-- What a check finds. -/
structure Verdict where
  passed : Bool
  /-- The key of the message for a failure; without one the rule's name is taken. -/
  key : Option String
  /-- What the message may mention. -/
  params : List (String × Value)
  /-- The check was not made, because the value is empty. -/
  skipped : Bool

namespace Verdict

/-- The value passes. -/
def pass : Verdict := ⟨true, none, [], false⟩

/-- The value passes, because a rule that does not ask for presence leaves empty values alone. -/
def skip : Verdict := ⟨true, none, [], true⟩

/-- The value fails. -/
def fail (key : Option String) (params : List (String × Value)) : Verdict :=
  ⟨false, key, params, false⟩

/-- The value passes or fails. -/
def ofBool (b : Bool) : Verdict :=
  if b then pass else fail none []

/-- A failure without a message key under the given one. -/
def keyed (verdict : Verdict) (name : String) : Verdict :=
  if verdict.passed then verdict else { verdict with key := some (verdict.key.getD name) }

end Verdict

/-- What a check may consult beside the value and its argument. -/
structure Context where
  /-- Where the value is. -/
  path : Path
  /-- The field, with its rules, its texts and the fields below it; nothing when the rule is asked on its own. -/
  field : Option Field
  /-- All of the data. -/
  data : Value
  /-- The places of the references in the rule's argument. -/
  references : List (String × Path)
  /-- The language that the answer is meant for. -/
  language : Option String

namespace Context

/-- The kind of the field. -/
def kind (context : Context) : Option Kind :=
  context.field.map Field.kind

/-- The place that a reference stands for: the known one, or else that of the reference read as a path.
A relative reference without a known place has none. -/
def place? (context : Context) (expression : String) : Option Path :=
  match entryOf? context.references expression with
  | some place => some place
  | none =>
    if Text.startsWith expression.toList ['.'] then none
    else (Path.ofText expression).toOption

/-- The value at a reference, with open indices filled from the place of the checked value; `absent` when
there is no such value. -/
def lookup (context : Context) (expression : String) : Value :=
  match (context.place? expression).bind (Path.fill · context.path) with
  | some path => context.data.follow path
  | none => .absent

end Context

/-- A check of a value. -/
abbrev Check := Value → Argument → Context → Except Fault Verdict

/-- The message of a rule that has none of its own. -/
def genericMessage : String := "\x7bfield\x7d is invalid"

/-- A rule. -/
structure Rule where
  name : String
  check : Check
  /-- The message of a failure. -/
  message : String
  /-- The messages of failures under other keys than the rule's name. -/
  variants : List (String × String)
  /-- The rule looks at empty values too. -/
  presence : Bool
  /-- What the rule may be declared on. -/
  targets : List Target
  /-- How the declared argument is prepared, if it is. -/
  preparation : Option Preparation
  /-- The references in a prepared argument, if the rule has any. -/
  references : Option (Argument → Except Fault (List String))

namespace Rule

/-- The message of a failure under a key. -/
def messageFor (rule : Rule) (key : String) : String :=
  (entryOf? rule.variants key).getD rule.message

/-- The prepared form of a declared argument. -/
def prepare (rule : Rule) (declared : Value) : Except (Failure ArgumentError) Argument :=
  match rule.preparation with
  | some preparation => preparation declared
  | none => .ok (.value declared)

/-- The references in a prepared argument. -/
def referencesIn (rule : Rule) (argument : Argument) : Except Fault (List String) :=
  match rule.references with
  | some references => references argument
  | none => .ok []

/-- What the rule finds about a value. A rule that does not ask for presence leaves empty values alone, and
a failure without a message key has the rule's name for one. -/
def evaluate (rule : Rule) (v : Value) (argument : Argument) (context : Context) :
    Except Fault Verdict :=
  if !rule.presence && v.isEmpty then .ok .skip
  else (rule.check v argument context).map (·.keyed rule.name)

end Rule

/-- The argument is one reference. -/
def singleReference (a : Argument) : Except Fault (List String) :=
  match a with
  | .value (.text s) => .ok [s]
  | _ => .error .missingPart

/-- The argument is a reference if it is a text with a leading point. -/
def relativeReference (a : Argument) : Except Fault (List String) :=
  match a with
  | .value (.text s) => .ok (if Text.startsWith s.toList ['.'] then [s] else [])
  | _ => .ok []

/-- The references of a condition. -/
def conditionReferences (a : Argument) : Except Fault (List String) :=
  match a with
  | .condition c => .ok (c.comparisons.map (·.reference))
  | _ => .error .missingPart

end FormCheck
