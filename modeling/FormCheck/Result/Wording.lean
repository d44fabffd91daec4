import FormCheck.Evaluation.Report
import FormCheck.Message.Catalog
import FormCheck.Message.Template
import FormCheck.Result.Basic

/-!
# Errors in words

* `Wording` — where templates come from, and the language that is used by default;
* `Wording.template` — the template for a finding: the field's own, else the resolver's, else the rule's, with
  the questions that the resolver was asked on the way;
* `Finding.names` — the names that a message about a finding may use, with their texts: those that every message
  may use, the rule's parameters and the entries of its argument, in this order of precedence;
* `Wording.message` — the template filled with these texts;
* `Wording.assemble` — the result that reports amount to.

The texts are written whether the template uses them or not. Where one of them cannot be written there is no
message, and no result; the resolver has been asked by then.
-/

namespace FormCheck

open FormCheck.Message

/-- Where templates come from, and the language that is used by default. -/
structure Wording where
  resolver : Option Resolver
  defaultLanguage : String

/-- A question to a resolver: a message key and a language. -/
abbrev Question := String × String

/-- A value as a message shows it: the members of a list and the entries of an object by their texts. -/
def Value.shown : Value → Except Fault String
  | .list items => do return Text.joinWith ", " (← items.mapM Value.toText)
  | .object entries => do
    return Text.joinWith ", " (← entries.mapM fun e => do return e.1 ++ "=" ++ (← e.2.toText))
  | v => v.toText

/-- The names of entries, with the values as messages show them. -/
def namesOf (entries : List (String × Value)) : Except Fault (List (String × String)) :=
  entries.mapM fun e => do return (e.1, ← e.2.shown)

/-- The names that a message about a finding may use, each with its text. What every message may use comes
first, then the parameters of the failure, then the entries of the rule's argument; the first entry under a name
counts. -/
def Finding.names (finding : Finding) (label : String) : Except Fault (List (String × String)) := do
  let entries ← namesOf finding.declared.entriesOf
  let params ← namesOf finding.params
  let value ← finding.value.shown
  let param ← finding.declared.shown
  return [("field", label), ("path", finding.path.text), ("rule", finding.rule), ("value", value), ("param", param)]
    ++ params ++ entries

namespace Wording

/-- The language that is asked for; the default one if none is, or an empty one. -/
def languageOr (w : Wording) (language : Option String) : String :=
  match language with
  | none | some "" => w.defaultLanguage
  | some language => language

/-- The rule's own message for a finding, or the message of rules that have none. -/
def ownMessage (finding : Finding) : String :=
  if finding.message = "" then genericMessage else finding.message

/-- The template that a resolver gives in one of two languages, with the questions it was asked. -/
def askResolver (resolver : Resolver) (key language default : String) :
    Option String × List Question :=
  match resolver key language with
  | some template => (some template, [(key, language)])
  | none => (resolver key default, [(key, language), (key, default)])

/-- The template for a finding, with the questions that the resolver was asked. -/
def template (w : Wording) (finding : Finding) (info : FieldInfo) (language : String) :
    String × List Question :=
  match info.messageFor finding.rule (some language) (some w.defaultLanguage) with
  | some template => (template, [])
  | none => match w.resolver with
    | none => (ownMessage finding, [])
    | some resolver =>
      let (template, questions) := askResolver resolver finding.key language w.defaultLanguage
      (template.getD (ownMessage finding), questions)

/-- The message for a finding, with the questions that the resolver was asked. -/
def message (w : Wording) (finding : Finding) (info : FieldInfo) (language : String) :
    Except Fault String × List Question :=
  let (template, questions) := w.template finding info language
  let names := finding.names (info.labelFor (some language) (some w.defaultLanguage))
  (names.map fun names => fillTemplate (entryOf? names) template, questions)

/-- The error that a finding amounts to, with the questions that the resolver was asked. -/
def errorOf (w : Wording) (language : String) (info : FieldInfo) (finding : Finding) :
    Except Fault FieldError × List Question :=
  let (message, questions) := w.message finding info language
  (message.map fun message => ⟨finding.path.text, finding.rule, message, finding.value⟩, questions)

/-- The errors that a report amounts to: none if the field does not take part. -/
def errorsOf (w : Wording) (language : String) (report : Report) :
    List (Except Fault FieldError × List Question) :=
  if report.skipped then [] else report.findings.map (w.errorOf language report.field.info)

/-- Several errors, and all questions that the resolver was asked. After the first finding without a message no
further one is put into words. -/
def collect : List (Except Fault FieldError × List Question) → Except Fault (List FieldError) × List Question
  | [] => (.ok [], [])
  | (.error f, questions) :: _ => (.error f, questions)
  | (.ok e, questions) :: rest =>
    let (errors, more) := collect rest
    (errors.map (e :: ·), questions ++ more)

/-- The result that reports amount to, with the questions that the resolver was asked. -/
def assemble (w : Wording) (reports : List Report) (language : Option String) :
    Except Fault Result × List Question :=
  let (errors, questions) := collect (reports.flatMap (w.errorsOf (w.languageOr language)))
  (errors.map Result.mk, questions)

end Wording

end FormCheck
