import FormCheck.Proofs.Path.RoundTrip
import FormCheck.Proofs.Result.Keyed

/-!
# The error at one written path

The error at a single place can be asked for by a written path.  The answer is looked up in the result of the whole
validation by the written form of the path that the text stands for.  So it is right only as long as this form tells
the place from all others.

* `Path.isPlain_of_ofText` — **proved**: a path that is read from a text is told from its written form;
* `Wording.AnswersAt` — an answer is the error of the report on a place, and there is none where no report has one;
* `Wording.answersAt_errorAt?` — **proved**: the look-up by the written form gives the answer about a place whose written
  form is that of no other place;
* `Validator.validateField_agrees` — **proved**: asking for one written path agrees with the whole validation, over
  forms whose names do not look like steps.
-/

namespace FormCheck

open Fallible

/-! ### Paths that are read -/

namespace Path

/-- The names of a path that can be written hold nothing that looks like a step. -/
theorem IsWritable.isPlain {allowOpen : Bool} {p : Path} (h : p.IsWritable allowOpen) : p.IsPlain := by
  have hplain : ∀ s ∈ p, s.IsPlain := by
    intro s hs
    have hwritable := h.steps s hs
    cases s with
    | index k => exact trivial
    | each => exact trivial
    | name n =>
      show (n.toList.all fun c => !startsStep c) = true
      rw [List.all_eq_true]
      intro c hc
      have hnone := hwritable.2 c hc
      simp only [List.mem_cons, not_or] at hnone
      simp [startsStep, hnone.1, hnone.2.1]
  refine ⟨hplain, ?_⟩
  intro hhead
  have hempty := h.steps (.name "") (List.mem_of_head? hhead)
  exact hempty.1 rfl

/-- A path that is read from a text is told from its written form. -/
theorem isPlain_of_ofText {text : String} {p : Path} (h : ofText text = .ok p) : p.IsPlain := by
  obtain ⟨stretches, hproper, _, rfl⟩ : ∃ stretches : List Stretch, (∀ s ∈ stretches, s.IsProper false) ∧
      text.toList = written stretches ∧ p = stretches.flatMap Stretch.steps := readFrom_eq_ok_iff.mp h
  have hwritable : IsWritable false (stretches.flatMap Stretch.steps) := isWritable_steps hproper
  exact hwritable.isPlain

end Path

/-! ### Errors and reports -/

namespace Wording

variable {w : Wording} {language : String} {reports : List Report} {p : Path}

/-- An answer about a place is the error of the report on it, and it is missing exactly where no report on the place
amounts to an error. -/
structure AnswersAt (w : Wording) (language : String) (reports : List Report) (p : Path)
    (answer : Option FieldError) : Prop where
  report : ∀ r ∈ reports, r.path = p → (w.errorsOf language r).map (·.1) = answer.toList.map .ok
  missing : answer = none ↔ ∀ r ∈ reports, r.path = p → w.errorsOf language r = []

variable {result : Result}

/-- A report of a result amounts to no error, or to one that has the place of the report for its path. -/
theorem errorsOf_cases (herrors : (reports.flatMap (w.errorsOf language)).map (·.1) = result.errors.map .ok)
    {r : Report} (hr : r ∈ reports) (h : r.FindsOneAtMost) :
    w.errorsOf language r = [] ∨
      ∃ e ∈ result.errors, (w.errorsOf language r).map (·.1) = [.ok e] ∧ e.path = r.path.text := by
  rcases h with hnone | ⟨hon, finding, hone, hpath⟩
  · rw [errorsOf, hnone, List.map_nil, ite_self]
    exact .inl rfl
  · have hfound : w.errorsOf language r = [w.errorOf language r.field.info finding] := by
      rw [errorsOf, hon, if_neg Bool.false_ne_true, hone]
      rfl
    have hmem : (w.errorOf language r.field.info finding).1 ∈ result.errors.map Except.ok := by
      rw [← herrors]
      exact List.mem_map_of_mem (List.mem_flatMap.mpr ⟨r, hr, hfound ▸ List.mem_singleton_self _⟩)
    obtain ⟨e, he, herror⟩ := List.mem_map.mp hmem
    obtain ⟨_, _, hparts⟩ := errorOf_eq_ok_iff.mp herror.symm
    refine .inr ⟨e, he, ?_, ?_⟩
    · rw [hfound, List.map_singleton, herror]
    · rw [hparts, ← hpath]

/-- **The first error under the written form of a place is the answer about it**, where there is one report on each
place, and no report is on another place with the same written form. -/
theorem answersAt_errorAt? (herrors : (reports.flatMap (w.errorsOf language)).map (·.1) = result.errors.map .ok)
    (hcases : ∀ r ∈ reports, r.FindsOneAtMost) (hone : ∀ r ∈ reports, ∀ t ∈ reports, r.path = t.path → r = t)
    (htold : ∀ r ∈ reports, r.path.text = p.text → r.path = p) :
    w.AnswersAt language reports p (result.errorAt? p.text) := by
  -- An error under the written form of the place comes from a report on the place.
  have hfrom : ∀ e ∈ result.errors, e.path = p.text →
      ∃ r ∈ reports, r.path = p ∧ (w.errorsOf language r).map (·.1) = [.ok e] := by
    intro e he hpath
    have hmem : Except.ok e ∈ (reports.flatMap (w.errorsOf language)).map (·.1) :=
      herrors ▸ List.mem_map_of_mem he
    rw [List.map_flatMap] at hmem
    obtain ⟨r, hr, he⟩ := List.mem_flatMap.mp hmem
    rcases errorsOf_cases herrors hr (hcases r hr) with hnone | ⟨d, _, hd, hplace⟩
    · rw [hnone] at he
      cases he
    · rw [hd, List.mem_singleton, Except.ok.injEq] at he
      subst he
      exact ⟨r, hr, htold r hr (hplace.symm.trans hpath), hd⟩
  have hmissing : result.errorAt? p.text = none ↔ ∀ r ∈ reports, r.path = p → w.errorsOf language r = [] := by
    rw [Result.errorAt?, List.find?_eq_none]
    constructor
    · intro hnone r hr hplace
      rcases errorsOf_cases herrors hr (hcases r hr) with hempty | ⟨e, he, _, hpath⟩
      · exact hempty
      · have hother := hnone e he
        rw [hpath, hplace, beq_self_eq_true] at hother
        exact absurd rfl hother
    · intro hall e he hfound
      obtain ⟨r, hr, hplace, hd⟩ := hfrom e he (beq_iff_eq.mp hfound)
      rw [hall r hr hplace] at hd
      cases hd
  refine ⟨?_, hmissing⟩
  intro r hr hplace
  rw [Result.errorAt?] at hmissing ⊢
  cases hanswer : result.errors.find? (·.path == p.text) with
  | none =>
    rw [hmissing.mp hanswer r hr hplace]
    rfl
  | some e =>
    have he : e ∈ result.errors := List.mem_of_find?_eq_some hanswer
    have hpath : e.path = p.text := by simpa using List.find?_some hanswer
    obtain ⟨t, ht, hsame, hd⟩ := hfrom e he hpath
    rw [hone r hr t ht (hplace.trans hsame.symm), hd]
    rfl

end Wording

namespace Validator

variable {validator : Validator}

/-- **Asking for the error at one written path agrees with the whole validation.**  Over a form whose names do not look
like steps, a text that is no path is refused, whatever the data.  For any other text, written with short indices or not,
validating ends in a fault exactly as the whole validation does; and where this one has a result, the answer is the error
of the report on the path that the text stands for, and it is missing exactly where there is no such report, or the
report has no error. -/
theorem validateField_agrees {compiled : Registry} {document : Value} (hkeys : document.keysOnce = true)
    (hform : Form.ofDocument compiled document = .ok validator.form) (hnames : validator.form.NamesApart)
    (text : String) (data : Value) (language : Option String) :
    (∀ e, Path.ofText text = .error e → validator.validateField text data language = .error (.refused e)) ∧
    ∀ p, Path.ofText text = .ok p →
      (∀ f, validator.validate data language = .error f →
        validator.validateField text data language = .error (.fault f)) ∧
      ∀ result questions, validator.validate data language = .ok (result, questions) →
        ∃ reports answer, validator.form.evaluate validator.registry validator.implicitNumber data
            (some (validator.wording.languageOr language)) = .ok reports ∧
          validator.validateField text data language = .ok (answer, questions) ∧
          validator.wording.AnswersAt (validator.wording.languageOr language) reports p answer := by
  refine ⟨fun e he => ?refused, fun p hp => ⟨fun f hf => ?fault, fun result questions hvalidate => ?answer⟩⟩
  case refused =>
    rw [validateField, he]
    rfl
  case fault =>
    rw [validateField, hp, hf]
    rfl
  case answer =>
    obtain ⟨reports, hreports, hassembled⟩ := validate_eq_ok_iff.mp hvalidate
    have hfield : validator.validateField text data language = .ok (result.errorAt? p.text, questions) := by
      rw [validateField, hp, hvalidate]
      rfl
    have herrors : (reports.flatMap (validator.wording.errorsOf (validator.wording.languageOr language))).map (·.1)
        = result.errors.map .ok := by
      have hall := Wording.errorsOf_of_assemble (congrArg Prod.fst hassembled)
      rwa [Wording.languageOr_languageOr] at hall
    have hplaced := Form.root_placed hkeys hform
    have hnodup : (reports.map Report.path).Nodup :=
      (Form.paths_increasing hplaced hreports).imp Form.Before.ne
    have htold : ∀ r ∈ reports, r.path.text = p.text → r.path = p := by
      intro r hr htext
      have hreached := (Form.mem_reports_iff_reaches hplaced hreports).mp (List.mem_map_of_mem hr)
      exact Path.text_injective (Form.isPlain_of_reaches hnames hreached) (Path.isPlain_of_ofText hp) htext
    have hone : ∀ r ∈ reports, ∀ t ∈ reports, r.path = t.path → r = t :=
      fun r hr t ht => List.inj_on_of_nodup_map hnodup hr ht
    have hcases := Form.findsOneAtMost hplaced hreports
    exact ⟨reports, _, hreports, hfield, Wording.answersAt_errorAt? herrors hcases hone htold⟩

/-- The second phone, of which the index is written with a zero in front. -/
def secondPhone : String := "address.phones[01]"

/-- The error on the second phone is found, although the text is not the written form of its path; and a text with an
empty step in it is refused. -/
theorem validateField_agrees_on_phones : ∃ form reports answer questions,
    Form.ofDocument Registry.standard contact = .ok form ∧ form.NamesApart ∧
    form.evaluate Registry.standard true noContact (some "en") = .ok reports ∧
    Path.ofText secondPhone = .ok [.name "address", .name "phones", .index 1] ∧
    (plain form).validateField secondPhone noContact none = .ok (answer, questions) ∧
    answer.map (fun e => (e.path, e.rule)) = some ("address.phones[1]", "digits") ∧
    Wording.AnswersAt ⟨none, "en"⟩ "en" reports [.name "address", .name "phones", .index 1] answer ∧
    ∃ e, (plain form).validateField "address..phones" noContact none = .error (.refused e) := by
  have hrun : ((Form.ofDocument Registry.standard contact).toOption.bind fun form =>
      (form.evaluate Registry.standard true noContact (some "en")).toOption.bind fun _ =>
        ((plain form).validate noContact none).toOption.bind fun _ =>
          ((plain form).validateField secondPhone noContact none).toOption.bind fun told =>
            some (told.1.map fun e => (e.path, e.rule), decide form.NamesApart)) =
      some (some ("address.phones[1]", "digits"), true) := by
    decide +kernel
  obtain ⟨form, hform, hrun⟩ := exists_eq_ok_of_bind hrun
  obtain ⟨reports, hreports, hrun⟩ := exists_eq_ok_of_bind hrun
  obtain ⟨⟨result, asked⟩, hresult, hrun⟩ := exists_eq_ok_of_bind hrun
  obtain ⟨⟨answer, questions⟩, hanswer, hfound⟩ := exists_eq_ok_of_bind hrun
  obtain ⟨herror, hnames⟩ := Prod.mk.inj (Option.some.inj hfound)
  have hnames : form.NamesApart := of_decide_eq_true hnames
  have hpath : Path.ofText secondPhone = .ok [.name "address", .name "phones", .index 1] := by decide +kernel
  have hkeys : contact.keysOnce = true := by decide +kernel
  have hagrees := fun text => @validateField_agrees (plain form) _ _ hkeys hform hnames text noContact none
  obtain ⟨found, _, hfound, hfield, hanswers⟩ := ((hagrees secondPhone).2 _ hpath).2 result asked hresult
  cases hreports.symm.trans hfound
  cases hanswer.symm.trans hfield
  refine ⟨form, reports, _, _, hform, hnames, hreports, hpath, hanswer, herror, hanswers, ?_⟩
  have hrefused : Path.ofText "address..phones" = .error (.emptySegment 8 "address..phones") := by decide +kernel
  exact ⟨_, (hagrees "address..phones").1 _ hrefused⟩

end Validator

end FormCheck
