import FormCheck.Proofs.Evaluation.Addressed
import FormCheck.Proofs.Form.Declared
import FormCheck.Proofs.Rule.Answers
import FormCheck.Proofs.Result.Validation
import Mathlib.Algebra.Group.Int.Defs

/-!
# A validation has a result

Data of any shape is validated: what is missing, what has another sort than it should and what nobody declared
leads to findings or to none.  Only where a condition or a rule has no answer at a place of the form, or where what
has been found there cannot be written, is there no result.

* `Setting.exists_of_isOff_error`, `Setting.exists_of_firstFinding_error` — **proved**: an evaluation breaks off
  at one condition or at one rule;
* `Form.Unanswerable` — a place of the form over the data at which a condition or a rule has no answer, or at which
  something has been found about which there is no message;
* `Validator.validates_or_breaks_off` — **proved**: over the standard rules every validation of every data has
  a result, unless there is such a place;
* `Validator.not_every_validation_has_a_result` — **proved**: there is data with such places.
-/

namespace FormCheck

open Fallible

/-! ### One rule -/

theorem Rule.check_error_of_evaluate {rule : Rule} {v : Value} {a : Argument} {context : Context} {f : Fault}
    (h : rule.evaluate v a context = .error f) : rule.check v a context = .error f := by
  rw [Rule.evaluate] at h
  split at h
  · cases h
  · exact map_eq_error_iff.mp h

/-- The rule that fields for numbers have without declaring it is as if it had been declared. -/
theorem DeclaredRule.number_isPrepared (kind : LeafKind) :
    DeclaredRule.number.IsPrepared Registry.standard (.leaf kind) :=
  ⟨_, rfl, List.mem_singleton_self _, rfl⟩

namespace Setting

variable {s : Setting} {field : Field} {path : Path} {v : Value} {f : Fault}

theorem isPrepared_of_asked {rules : List DeclaredRule} (hasked : s.Asked field rules)
    (hdeclared : ∀ rule ∈ field.info.rules, rule.IsPrepared Registry.standard field.kind) {rule : DeclaredRule}
    (hrule : rule ∈ rules) : rule.IsPrepared Registry.standard field.kind := by
  cases hasked with
  | declared _ => exact hdeclared rule hrule
  | withNumber hadds =>
    rcases List.mem_cons.mp hrule with rfl | hrule
    · rw [hadds.2.1]
      exact DeclaredRule.number_isPrepared _
    · exact hdeclared rule hrule

/-- Where a declared standard rule has no answer. -/
theorem unanswerable_of_verdict {rule : DeclaredRule} {kind : Kind} (hs : s.registry = Registry.standard)
    (hrule : rule.IsPrepared Registry.standard kind) (h : s.verdictOf field path v rule = .error f) :
    Rule.Unanswerable v rule.prepared (s.context field path rule) rule.name f := by
  obtain ⟨definition, hdefinition, _, hprepared⟩ := hrule
  rw [verdictOf, Registry.evaluate, hs, hdefinition] at h
  have hcause := Rule.unanswerable_of_standard (List.mem_of_find?_eq_some hdefinition) hprepared
    (Rule.check_error_of_evaluate h)
  rwa [Registry.name_of_get? hdefinition] at hcause

/-- Asking the rules of a field breaks off at one of them. -/
theorem exists_of_firstFinding_error {rules : List DeclaredRule}
    (h : s.firstFinding field path v rules = .error f) :
    ∃ rule ∈ rules, s.verdictOf field path v rule = .error f := by
  induction rules with
  | nil => cases h
  | cons rule rules ih =>
    rcases bind_eq_error_iff.mp h with hrule | ⟨verdict, _, h⟩
    · exact ⟨rule, List.mem_cons_self, hrule⟩
    · split at h
      · obtain ⟨r, hr, hfail⟩ := ih h
        exact ⟨r, List.mem_cons_of_mem rule hr, hfail⟩
      · cases h

/-- Whether a place is switched off cannot be told only where one of the conditions on the way has no answer. -/
theorem exists_of_isOff_error {rest : Path} (h : s.isOff field path rest = .error f) :
    ∃ q, q <+: rest ∧ ∃ g, field.at? q = some g ∧ s.takesPart (path ++ q) g.info.condition = .error f := by
  induction rest generalizing field path with
  | nil =>
    refine ⟨[], List.prefix_refl _, field, rfl, ?_⟩
    rw [List.append_nil]
    exact map_eq_error_iff.mp h
  | cons step rest ih =>
    rcases bind_eq_error_iff.mp h with hpart | ⟨b, _, h⟩
    · refine ⟨[], List.nil_prefix, field, rfl, ?_⟩
      rwa [List.append_nil]
    · cases b with
      | false => cases h
      | true =>
        cases hstep : field.step? step with
        | none => simp [hstep] at h
        | some next =>
          rw [if_pos rfl, hstep] at h
          obtain ⟨q, hq, g, hg, hpart⟩ := ih h
          refine ⟨step :: q, List.cons_prefix_cons.mpr ⟨rfl, hq⟩, g, ?_, ?_⟩
          · rw [Field.at?_cons, hstep]
            exact hg
          · rwa [List.append_cons]

theorem exists_condition_of_takesPart_error {condition : Option Condition}
    (h : s.takesPart path condition = .error f) :
    ∃ c, condition = some c ∧ c.holds (Comparison.valueAt s.data path) = .error f := by
  cases condition with
  | none => cases h
  | some c => exact ⟨c, rfl, h⟩

end Setting

/-! ### Places without an answer -/

namespace Form

/-- A place of the form over the data at which there is no answer, and the fault that a validation ends with: the
condition of the field compares a value that it cannot look at, a rule of the field has no answer on the value that
it looks at, or there is no message about what has been found there, for one of the values behind its names is not
written. -/
inductive Unanswerable (form : Form) (s : Setting) : Fault → Prop where
  | condition {p : Path} {field : Field} {c : Condition} {comparison : Comparison} {w : Value} {f : Fault} :
      form.Reaches s.data p → form.fieldAt? p = some field → field.info.condition = some c →
      comparison ∈ c.comparisons →
      w ∈ (comparison.valueAt s.data p).members ++ comparison.operand.members →
      comparison.operator.BreaksOff w f → Unanswerable form s f
  | rule {p : Path} {field : Field} {rules : List DeclaredRule} {rule : DeclaredRule} {f : Fault} :
      form.Reaches s.data p → form.fieldAt? p = some field → s.Asked field rules → rule ∈ rules →
      Rule.Unanswerable (field.seen (s.data.follow p)) rule.prepared (s.context field p rule) rule.name f →
      Unanswerable form s f
  | message {reports : List Report} {report : Report} {finding : Finding} :
      form.evaluate s.registry s.implicitNumber s.data s.language = .ok reports → report ∈ reports →
      report.skipped = false → finding ∈ report.findings → finding.HasLongNumber →
      Unanswerable form s .longNumber

variable {form : Form} {s : Setting} {f : Fault}

theorem unanswerable_of_condition {p : Path} {field : Field} {c : Condition} (hp : form.Reaches s.data p)
    (hfield : form.fieldAt? p = some field) (hc : field.info.condition = some c) (hmembers : c.HasMembers)
    (h : c.holds (Comparison.valueAt s.data p) = .error f) : form.Unanswerable s f := by
  obtain ⟨comparison, hmem, hfail⟩ := Condition.exists_of_holds_error h
  obtain ⟨w, hw, hbreaks⟩ := Operator.holds_error (hmembers comparison hmem) hfail
  exact .condition hp hfield hc hmem hw hbreaks

/-- Where there is no report on a visited place, there is a place without an answer. -/
theorem unanswerable_of_report {document : Value} (hkeys : document.keysOnce = true)
    (hform : Form.ofDocument Registry.standard document = .ok form) (hs : s.registry = Registry.standard)
    {v : Visit} (hv : v ∈ form.root.visits s.data) (h : s.reportFrom [] false form.root v = .error f) :
    form.Unanswerable s f := by
  have hplaced := Form.root_placed hkeys hform
  have hreached : form.Reaches s.data v.path := (mem_visits_iff_reaches hplaced).mp ⟨v, hv, rfl⟩
  rcases bind_eq_error_iff.mp h with hoff | ⟨off, _, h⟩
  · obtain ⟨q, hq, g, hg, hpart⟩ := Setting.exists_of_isOff_error hoff
    obtain ⟨c, hc, hholds⟩ := Setting.exists_condition_of_takesPart_error hpart
    have hdeclared := Form.isDeclared_of_mem hform (Field.mem_preorder_of_at? hg)
    exact unanswerable_of_condition (hreached.of_prefix hq) (fieldAt?_eq_at? form q ▸ hg) hc
      (hdeclared.condition c hc) hholds
  · rcases bind_eq_error_iff.mp h with hfindings | ⟨_, _, h⟩
    · cases off with
      | true => cases hfindings
      | false =>
        rcases bind_eq_error_iff.mp hfindings with hfirst | ⟨_, _, h⟩
        · obtain ⟨rule, hrule, hverdict⟩ := Setting.exists_of_firstFinding_error hfirst
          have hfield := fieldAt?_of_mem_visits hplaced hv
          have hasked := s.asked_rulesOf v.field
          have hdeclared := Form.isDeclared_of_mem hform
            (Field.mem_preorder_of_at? (fieldAt?_eq_at? form v.path ▸ hfield))
          have hcause := Setting.unanswerable_of_verdict hs
            (Setting.isPrepared_of_asked hasked hdeclared.rules hrule) hverdict
          rw [List.nil_append, ← Field.follow_of_mem_visits hv] at hcause
          exact .rule hreached hfield hasked hrule hcause
        · cases h
    · cases h

end Form

/-! ### Validations -/

namespace Validator

/-- **Every validation has a result**, for all data, languages and wordings, unless at some place of the form over
the data a condition or a rule has no answer, or something has been found that cannot be told: a number beyond the
binary ones is to be read as a number, a whole number of too many digits is to be written, a text has too many
decimals for a moment, two moments have offsets of a day or more, or a pattern matches with a group that ends before
it starts. -/
theorem validates_or_breaks_off {document : Value} {form : Form} (hkeys : document.keysOnce = true)
    (hform : Form.ofDocument Registry.standard document = .ok form) (wording : Wording) (implicitNumber : Bool)
    (data : Value) (language : Option String) :
    (∃ result questions, validate ⟨form, Registry.standard, wording, implicitNumber⟩ data language
      = .ok (result, questions)) ∨
    ∃ f, validate ⟨form, Registry.standard, wording, implicitNumber⟩ data language = .error f ∧
      form.Unanswerable ⟨Registry.standard, implicitNumber, data, some (wording.languageOr language)⟩ f := by
  cases h : validate ⟨form, Registry.standard, wording, implicitNumber⟩ data language with
  | ok answer => exact .inl ⟨answer.1, answer.2, rfl⟩
  | error f =>
    refine .inr ⟨f, rfl, ?_⟩
    rcases validate_eq_error_iff.mp h with hreports | ⟨reports, hreports, hwritten, rfl⟩
    · rw [Form.evaluate_eq_mapM (Form.root_placed hkeys hform)] at hreports
      obtain ⟨v, hv, hreport⟩ := exists_of_mapM_eq_error hreports
      exact Form.unanswerable_of_report hkeys hform rfl hv hreport
    · obtain ⟨t, ht, hlong⟩ := Report.not_allWritten_iff.mp hwritten
      obtain ⟨report, hreport, ht⟩ := List.mem_flatMap.mp ht
      obtain ⟨hskipped, _, hfinding⟩ := Report.mem_told.mp ht
      exact .message hreports hreport hskipped hfinding hlong

/-- A form for a journey: how many take part, when it starts and when it ends. -/
def journey : Value :=
  .object [("type", .text "group"), ("properties", .object [
    ("people", .object [("type", .text "number")]),
    ("start", .object [("type", .text "date"), ("rules", .object [("date", .bool true)])]),
    ("end", .object [("type", .text "date"), ("rules", .object [("enddate", .text "start")])])])]

/-- A journey with more people than there are binary numbers for. -/
def crowd : Value :=
  .object [("people", .int (10 ^ 400))]

/-- The fault that the validation of a journey ends with, if it does. -/
def journeyFault? (data : Value) : Option (Option Fault) :=
  (Form.ofDocument Registry.standard journey).toOption.map fun form =>
    match (plain form).validate data none with
    | .ok _ => none
    | .error f => some f

theorem exists_of_journeyFault (data : Value) {f : Fault} (h : journeyFault? data = some (some f)) :
    ∃ form, Form.ofDocument Registry.standard journey = .ok form ∧
      (plain form).validate data none = .error f := by
  cases hform : Form.ofDocument Registry.standard journey with
  | error e => rw [journeyFault?, hform] at h; cases h
  | ok form =>
    rw [journeyFault?, hform] at h
    refine ⟨form, rfl, ?_⟩
    cases hrun : (plain form).validate data none with
    | ok answer => simp [Except.toOption, hrun] at h
    | error g => simpa [Except.toOption, hrun] using h

/-- The people of a crowd cannot be counted, and the place where this is so is told. -/
theorem validates_or_breaks_off_at_crowd : ∃ form, Form.ofDocument Registry.standard journey = .ok form ∧
    form.Unanswerable ⟨Registry.standard, true, crowd, some usualLanguage⟩ .overflow := by
  obtain ⟨form, hform, hfault⟩ := exists_of_journeyFault crowd (f := .overflow) (by decide +kernel)
  rcases validates_or_breaks_off (by decide +kernel) hform ⟨none, usualLanguage⟩ true crowd none with
    ⟨result, questions, hresult⟩ | ⟨f, hbroken, hcause⟩
  · rw [plain, hresult] at hfault
    cases hfault
  · rw [plain, hbroken] at hfault
    cases hfault
    exact ⟨form, hform, hcause⟩

/-- **Not every validation has a result.**  It breaks off on a number beyond the binary ones, on a start that has
an offset of more than a day, and on hours with too many decimals. -/
theorem not_every_validation_has_a_result : ∃ form, Form.ofDocument Registry.standard journey = .ok form ∧
    (plain form).validate crowd none = .error .overflow ∧
    (plain form).validate (.object [("start", .text "2024-03-04T10:30+25:00"),
      ("end", .text "2024-03-05T10:30+01:00")]) none = .error .offsetOutOfRange ∧
    (plain form).validate (.object [("start", .text "99999999999999999999999999999.5 h")]) none
      = .error .inexact ∧
    ¬ ∀ data, ∃ result questions, (plain form).validate data none = .ok (result, questions) := by
  obtain ⟨form, hform, hcrowd⟩ := exists_of_journeyFault crowd (f := .overflow) (by decide +kernel)
  obtain ⟨same, hsame, hoffset⟩ := exists_of_journeyFault
    (.object [("start", .text "2024-03-04T10:30+25:00"), ("end", .text "2024-03-05T10:30+01:00")])
    (f := .offsetOutOfRange) (by decide +kernel)
  obtain ⟨other, hother, hhours⟩ := exists_of_journeyFault
    (.object [("start", .text "99999999999999999999999999999.5 h")]) (f := .inexact) (by decide +kernel)
  obtain rfl := Except.ok.inj (hform.symm.trans hsame)
  obtain rfl := Except.ok.inj (hform.symm.trans hother)
  refine ⟨form, hform, hcrowd, hoffset, hhours, fun hall => ?_⟩
  obtain ⟨result, questions, hresult⟩ := hall crowd
  rw [hcrowd] at hresult
  cases hresult

end Validator

end FormCheck
