import FormCheck.Proofs.Evaluation.Texts
import FormCheck.Proofs.Form.Untexted
import FormCheck.Proofs.Result.Undeclared

/-!
# Verdicts do not depend on texts

A validation is asked for in a language and words its errors by labels, messages and a resolver.  All this reaches the
messages of the errors, and nothing else of the result.

* `Result.verdict` — a result less the messages: whether the data is valid, and the place, the rule and the value of each
  error;
* `Wording.verdict_assemble` — **proved**: the verdict is in the reports already;
* `Validator.verdict_ignores_texts` — **proved**: documents that differ in texts only have the same verdict on all data,
  in all languages and under all wordings.
-/

namespace FormCheck

open Fallible

/-- The place, the rule and the value of an error. -/
abbrev Failing := String × String × Value

/-- An error less its message. -/
def FieldError.failing (e : FieldError) : Failing :=
  (e.path, e.rule, e.value)

/-- A result less the messages: whether the data is valid, and the errors. -/
def Result.verdict (result : Result) : Bool × List Failing :=
  (result.isValid, result.errors.map FieldError.failing)

/-- What a report finds, in no language: nothing if the field does not take part. -/
def Report.failings (r : Report) : List Failing :=
  r.told.map fun t => (t.2.path.text, t.2.rule, t.2.value)

/-- The verdict that reports amount to: none if there is a failure without a message. -/
def Report.verdictOf (reports : List Report) : Except Fault (Bool × List Failing) :=
  if AllWritten reports then .ok ((reports.flatMap failings).isEmpty, reports.flatMap failings) else .error .longNumber

/-- The findings that reports tell of do not change with the fields that they carry. -/
theorem Report.told_mapInfo (g : FieldInfo → FieldInfo) (reports : List Report) :
    ((reports.map (mapInfo g)).flatMap told).map Prod.snd = (reports.flatMap told).map Prod.snd := by
  have hone : ∀ r : Report, (r.mapInfo g).told.map Prod.snd = r.told.map Prod.snd := by
    intro r
    rw [told, told]
    show (if r.skipped then [] else r.findings.map _).map _ = _
    cases r.skipped with
    | true => rfl
    | false =>
      rw [if_neg Bool.false_ne_true, if_neg Bool.false_ne_true, List.map_map, List.map_map]
      rfl
  rw [List.flatMap_map, List.map_flatMap, List.map_flatMap]
  exact List.flatMap_congr fun r _ => hone r

/-- The fields that reports carry are of no account for the verdict. -/
theorem Report.verdictOf_mapInfo (g : FieldInfo → FieldInfo) (reports : List Report) :
    verdictOf (reports.map (mapInfo g)) = verdictOf reports := by
  have hsame := told_mapInfo g reports
  have hfailings : ∀ rs : List Report, rs.flatMap failings
      = ((rs.flatMap told).map Prod.snd).map fun f => (f.path.text, f.rule, f.value) := by
    intro rs
    rw [List.map_map, List.map_flatMap]
    rfl
  have hwritten : ∀ rs : List Report,
      AllWritten rs ↔ ∀ f ∈ (rs.flatMap told).map Prod.snd, ¬ f.HasLongNumber := by
    intro rs
    rw [List.forall_mem_map]
    exact Iff.rfl
  simp only [verdictOf, hfailings, hwritten, hsame]

theorem FieldInfo.keepsSubstance_untexted : KeepsSubstance untexted :=
  ⟨fun _ => rfl, fun _ => rfl, fun _ => rfl⟩

namespace Wording

/-- **The verdict is in the reports already**, whatever they are worded in. -/
theorem verdict_assemble (w : Wording) (reports : List Report) (language : Option String) :
    (w.assemble reports language).1.map Result.verdict = Report.verdictOf reports := by
  rw [Report.verdictOf]
  by_cases hwritten : Report.AllWritten reports
  · obtain ⟨result, hresult⟩ := w.exists_assemble language hwritten
    have herrors : result.errors.map FieldError.failing = reports.flatMap Report.failings := by
      rw [map_errors_of_assemble (g := fun f => (f.path.text, f.rule, f.value)) hresult fun _ _ => rfl, List.map_flatMap]
      rfl
    rw [hresult, if_pos hwritten, ← herrors, List.isEmpty_map]
    rfl
  · have hfault := (w.assemble_fails language reports _).mpr ⟨Report.not_allWritten_iff.mp hwritten, rfl⟩
    rw [hfault, if_neg hwritten]
    rfl

end Wording

namespace Validator

/-- The verdict of a validation is that of the evaluation. -/
theorem verdict_validate (validator : Validator) (data : Value) (language : Option String) :
    (validator.validate data language).map (·.1.verdict)
      = validator.form.evaluate validator.registry validator.implicitNumber data
          (some (validator.wording.languageOr language)) >>= Report.verdictOf := by
  have hfst : (validator.validate data language).map (·.1.verdict)
      = ((validator.validate data language).map Prod.fst).map Result.verdict := by
    cases validator.validate data language <;> rfl
  rw [hfst, map_fst_validate]
  cases validator.form.evaluate validator.registry validator.implicitNumber data
      (some (validator.wording.languageOr language)) with
  | error f => rfl
  | ok reports => exact validator.wording.verdict_assemble reports _

/-- The evaluation of the form without texts, asked for in no language, has the same verdict. -/
theorem verdict_untexted {validator : Validator} (hregistry : validator.registry.IgnoresLanguage)
    (hkind : validator.registry.LooksAtKind) (data : Value) (language : Option String) :
    (validator.validate data language).map (·.1.verdict)
      = validator.form.untexted.evaluate validator.registry validator.implicitNumber data none >>= Report.verdictOf := by
  rw [verdict_validate, Form.untexted, Form.evaluate_mapInfo hregistry hkind FieldInfo.keepsSubstance_untexted
    validator.form validator.implicitNumber data (some (validator.wording.languageOr language)) none]
  cases validator.form.evaluate validator.registry validator.implicitNumber data
      (some (validator.wording.languageOr language)) with
  | error f => rfl
  | ok reports => exact (Report.verdictOf_mapInfo _ reports).symm

variable {document other : Value} {wording otherWording : Wording} {implicitNumber : Bool}
  {validator otherValidator : Validator}

/-- **The verdict does not depend on languages and texts.**  Take two documents that differ in labels and messages only,
and validators for the forms that they describe over the standard rules, with any resolvers and default languages.  On
the same data, asked for in any languages, both validations have the same verdict, or end in the same fault. -/
theorem verdict_ignores_texts (htexts : document.SameButTexts other)
    (hvalidator : ofDocument Registry.standard document wording implicitNumber = .ok validator)
    (hother : ofDocument Registry.standard other otherWording implicitNumber = .ok otherValidator)
    (data : Value) (language otherLanguage : Option String) :
    (validator.validate data language).map (·.1.verdict)
      = (otherValidator.validate data otherLanguage).map (·.1.verdict) := by
  obtain ⟨form, hform, hmade⟩ := bind_eq_ok_iff.mp hvalidator
  obtain ⟨otherForm, hotherForm, hotherMade⟩ := bind_eq_ok_iff.mp hother
  cases hmade
  cases hotherMade
  rw [verdict_untexted Registry.standard_ignoresLanguage Registry.standard_looksAtKind,
    verdict_untexted Registry.standard_ignoresLanguage Registry.standard_looksAtKind,
    Form.untexted_eq_of_sameButTexts htexts hform hotherForm]

/-- A guest list, with some texts for the list and for the guests. -/
def guestList (texts : List (String × Value)) : Value :=
  .object [("type", .text "group"), ("properties", .object [
    ("label", .object ([("type", .text "text"), ("rules", .object [("required", .bool true)])] ++ texts)),
    ("guests", .object [("type", .text "array"), ("items", .object (texts ++ [("type", .text "text"),
      ("rules", .object [("minlength", .int 3)])]))])])]

/-- The list has no name, and the name of the first guest is too short. -/
def shortGuest : Value :=
  .object [("guests", .list [.text "Al", .text "Berta"])]

/-- A list without texts. -/
def guestsUntexted : Value := guestList []

/-- A list with texts in two languages. -/
def guestsTexted : Value :=
  guestList [("messages", .object [("required", .object [("de", .text "Bitte angeben"), ("en", .text "Please tell")])]),
    ("label", .object [("de", .text "Name"), ("*", .text "name")])]

/-- Messages that tell the key and the language. -/
def keyAndLanguage : Wording :=
  ⟨some fun key language => some (key ++ " in " ++ language), "de"⟩

/-- What is told about a list without texts in the words of the rules, and about a list with texts in German: different
messages, and the same verdict. -/
theorem verdict_ignores_texts_of_guests : ∃ validator other,
    guestsUntexted.SameButTexts guestsTexted ∧
    ofDocument Registry.standard guestsUntexted ⟨none, "en"⟩ true = .ok validator ∧
    ofDocument Registry.standard guestsTexted keyAndLanguage true = .ok other ∧
    (validator.validate shortGuest none).toOption.map (·.1.told) = some (false,
      [("label", "required", "label is required"), ("guests[0]", "minlength", "Please enter at least 3 characters")]) ∧
    (other.validate shortGuest (some "")).toOption.map (·.1.told) = some (false,
      [("label", "required", "Bitte angeben"), ("guests[0]", "minlength", "minlength in de")]) ∧
    (validator.validate shortGuest none).map (·.1.verdict) = (other.validate shortGuest (some "")).map (·.1.verdict) := by
  have htexts : guestsUntexted.SameButTexts guestsTexted := rfl
  have hrun : ((ofDocument Registry.standard guestsUntexted ⟨none, "en"⟩ true).toOption.bind fun validator =>
      some ((validator.validate shortGuest none).toOption.map (·.1.told))) = some (some (false,
        [("label", "required", "label is required"),
          ("guests[0]", "minlength", "Please enter at least 3 characters")])) := by
    decide +kernel
  have hotherRun : ((ofDocument Registry.standard guestsTexted keyAndLanguage true).toOption.bind fun validator =>
      some ((validator.validate shortGuest (some "")).toOption.map (·.1.told))) = some (some (false,
        [("label", "required", "Bitte angeben"), ("guests[0]", "minlength", "minlength in de")])) := by
    decide +kernel
  obtain ⟨validator, hvalidator, hrun⟩ := exists_eq_ok_of_bind hrun
  obtain ⟨other, hother, hotherRun⟩ := exists_eq_ok_of_bind hotherRun
  exact ⟨validator, other, htexts, hvalidator, hother, Option.some.inj hrun, Option.some.inj hotherRun,
    verdict_ignores_texts htexts hvalidator hother shortGuest none (some "")⟩

end Validator

end FormCheck
