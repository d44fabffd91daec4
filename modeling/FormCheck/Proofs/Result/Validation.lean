import FormCheck.Proofs.Result.Assembly
import FormCheck.Validator

/-!
# What a validation consists of

* `Validator.validate_eq_ok_iff`, `Validator.validate_eq_error_iff` — **proved**: a validation is an evaluation,
  the reports of which are put into words; it fails where one of the two does;
* `Wording.languageOr_some`, `Wording.languageOr_languageOr` — **proved**: which language is used, and that it stays the
  same when it is asked for;
* `Validator.plain` — the validator that asks for no other words than those of the rules.
-/

namespace FormCheck

open Fallible

theorem Wording.languageOr_some (w : Wording) (language : String) :
    w.languageOr (some language) = if language = "" then w.defaultLanguage else language := by
  by_cases hempty : language = ""
  · rw [if_pos hempty, hempty]
    rfl
  · rw [if_neg hempty, languageOr]
    exact hempty

/-- The language that is used in place of another one is used for itself. -/
theorem Wording.languageOr_languageOr (w : Wording) (language : Option String) :
    w.languageOr (some (w.languageOr language)) = w.languageOr language := by
  have hdefault : w.languageOr (some w.defaultLanguage) = w.defaultLanguage := by rw [languageOr_some, ite_self]
  cases language with
  | none => exact hdefault
  | some l =>
    by_cases hempty : l = ""
    · rw [languageOr_some w l, if_pos hempty, hdefault]
    · rw [languageOr_some w l, if_neg hempty, languageOr_some w l, if_neg hempty]

namespace Validator

variable {validator : Validator} {data : Value} {language : Option String}

theorem validate_eq_ok_iff {result : Result} {questions : List Question} :
    validator.validate data language = .ok (result, questions) ↔
      ∃ reports, validator.form.evaluate validator.registry validator.implicitNumber data
          (some (validator.wording.languageOr language)) = .ok reports ∧
        validator.wording.assemble reports (some (validator.wording.languageOr language))
          = (.ok result, questions) := by
  rw [validate, bind_eq_ok_iff]
  refine exists_congr fun reports => and_congr_right fun _ => ?_
  show ((validator.wording.assemble reports _).1 >>= fun result => pure (result, _)) = _ ↔ _
  rw [bind_eq_ok_iff, Prod.ext_iff]
  constructor
  · rintro ⟨r, hr, h⟩
    obtain ⟨rfl, rfl⟩ := Prod.mk.inj (Except.ok.inj h)
    exact ⟨hr, rfl⟩
  · rintro ⟨hr, rfl⟩
    exact ⟨result, hr, rfl⟩

/-- The result of a validation, without the questions. -/
theorem map_fst_validate (validator : Validator) (data : Value) (language : Option String) :
    (validator.validate data language).map Prod.fst
      = validator.form.evaluate validator.registry validator.implicitNumber data
          (some (validator.wording.languageOr language)) >>= fun reports =>
        (validator.wording.assemble reports (some (validator.wording.languageOr language))).1 := by
  rw [validate]
  cases validator.form.evaluate validator.registry validator.implicitNumber data
      (some (validator.wording.languageOr language)) with
  | error f => rfl
  | ok reports =>
    show Except.map _ ((validator.wording.assemble reports _).1 >>= fun result => pure (result, _)) = _
    rw [ok_bind]
    cases (validator.wording.assemble reports (some (validator.wording.languageOr language))).1 <;> rfl

theorem validate_eq_error_iff {f : Fault} : validator.validate data language = .error f ↔
    validator.form.evaluate validator.registry validator.implicitNumber data
        (some (validator.wording.languageOr language)) = .error f ∨
      ∃ reports, validator.form.evaluate validator.registry validator.implicitNumber data
          (some (validator.wording.languageOr language)) = .ok reports ∧
        ¬ Report.AllWritten reports ∧ f = .longNumber := by
  rw [validate, bind_eq_error_iff]
  refine or_congr_right (exists_congr fun reports => and_congr_right fun _ => ?_)
  show ((validator.wording.assemble reports _).1 >>= fun result => pure (result, _)) = _ ↔ _
  rw [bind_eq_error_iff, validator.wording.assemble_fails _ reports f, ← Report.not_allWritten_iff]
  simp only [pure_eq_ok, reduceCtorEq, and_false, exists_false, or_false]

/-- The validator that asks for no other words than those of the rules. -/
def plain (form : Form) : Validator :=
  ⟨form, Registry.standard, ⟨none, usualLanguage⟩, true⟩

end Validator

end FormCheck
