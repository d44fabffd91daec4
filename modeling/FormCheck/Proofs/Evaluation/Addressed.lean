import FormCheck.Proofs.Evaluation.Findings
import FormCheck.Proofs.Evaluation.Switching

/-!
# Reports by place

An evaluation hands the value, the place and whether it is off down from field to field.  A report can be
told from its place alone, by looking the field up in the form and the value up in the data:

* `Field.Holds` — the value has the sort that a field asks for;
* `Setting.AddsNumber`, `Setting.Asked` — the rules that a field is asked, with the one that may come by
  itself;
* `Setting.Finds` — what rules find: nothing, or the failure of the first rule that the value fails;
* `Report.Agrees` — the report says what the form and the data say about its place;
* `Form.evaluate_agrees` — **proved**: every report of an evaluation does, and there is an evaluation if no
  condition and no rule ends without an answer.
-/

namespace FormCheck

open Fallible

/-! ### Values and rules at a place -/

/-- The value has the sort that the field asks for: an object for a group, a list for an array, and for other
fields anything there is but objects. -/
def Field.Holds : Field → Value → Prop
  | .group _ _, v => ∃ entries, v = .object entries
  | .array _ _, v => ∃ items, v = .list items
  | .leaf _ _, v => v ≠ .absent ∧ ∀ entries, v ≠ .object entries

theorem Field.fits_iff {field : Field} {v : Value} : field.fits v = true ↔ field.Holds v := by
  cases field with
  | leaf info kind => cases v <;> simp [fits, Holds]
  | group info children => cases v <;> simp [fits, Holds, Value.isObject]
  | array info item => cases v <;> simp [fits, Holds, Value.isList]

namespace Setting

variable (s : Setting)

/-- The field has the rule for numbers without declaring it: it is a field for numbers, it declares no rule of
that name, and the registry has one. -/
def AddsNumber (field : Field) : Prop :=
  s.implicitNumber = true ∧ field.kind = .leaf .number ∧
    (∀ rule ∈ field.info.rules, rule.name ≠ "number") ∧ ∃ rule, s.registry.get? "number" = some rule

/-- The rules that a field is asked, in order. -/
inductive Asked (field : Field) : List DeclaredRule → Prop where
  | declared : ¬ s.AddsNumber field → Asked field field.info.rules
  | withNumber : s.AddsNumber field → Asked field (.number :: field.info.rules)

/-- What the rules of a field at a place find on a value: nothing if it passes all of them, and else the
failure of the first one that it fails, under the key that the registry gives. -/
inductive Finds (field : Field) (path : Path) (v : Value) : List DeclaredRule → List Finding → Prop where
  | nothing {rules : List DeclaredRule} :
      (∀ rule ∈ rules, s.Passes field path v rule) → Finds field path v rules []
  | first {before after : List DeclaredRule} {rule : DeclaredRule} {verdict : Verdict} {key : String}
      {definition : Rule} :
      (∀ b ∈ before, s.Passes field path v b) → s.verdictOf field path v rule = .ok verdict →
      verdict.passed = false → s.registry.get? rule.name = some definition →
      (verdict.key = some key ∧ key ≠ "" ∨ verdict.key = some "" ∧ key = rule.name) →
      Finds field path v (before ++ rule :: after)
        [⟨rule.name, path, key, definition.messageFor key, rule.declared, verdict.params, v⟩]

theorem addsNumber_iff {field : Field} : s.AddsNumber field ↔
    (s.implicitNumber && field.kind = .leaf .number && (field.info.rule? "number").isNone
      && s.registry.contains "number") = true := by
  rw [AddsNumber, FieldInfo.rule?, Registry.contains]
  simp [and_assoc, Option.isSome_iff_exists]

theorem asked_rulesOf (field : Field) : s.Asked field (s.rulesOf field) := by
  rw [rulesOf]
  split
  · next h => exact .withNumber (s.addsNumber_iff.mpr h)
  · next h => exact .declared fun hadds => h (s.addsNumber_iff.mp hadds)

/-- The key of a finding is that of the verdict, or the rule's name in place of an empty one. -/
theorem keyOf_cases (rule : DeclaredRule) {verdict : Verdict} {key : String} (h : verdict.key = some key) :
    verdict.key = some (keyOf rule verdict) ∧ keyOf rule verdict ≠ "" ∨
      verdict.key = some "" ∧ keyOf rule verdict = rule.name := by
  by_cases hempty : key = ""
  · rw [keyOf, h, hempty]
    exact .inr ⟨rfl, rfl⟩
  · have hkey : keyOf rule verdict = key := by
      rw [keyOf, h]
      split
      · next hnone => cases hnone
      · next hsome => exact absurd (Option.some.inj hsome) hempty
      · next hsome => exact (Option.some.inj hsome).symm
    rw [hkey, h]
    exact .inl ⟨rfl, hempty⟩

theorem finds_of_firstFinding {field : Field} {path : Path} {v : Value} {rules : List DeclaredRule}
    {found : Option Finding} (h : s.firstFinding field path v rules = .ok found) :
    s.Finds field path v rules found.toList := by
  cases found with
  | none => exact .nothing (s.firstFinding_eq_none_iff.mp h)
  | some finding =>
    obtain ⟨before, rule, after, verdict, rfl, hbefore, hverdict, hfail, rfl⟩ :=
      s.firstFinding_eq_some_iff.mp h
    obtain ⟨definition, hdefinition, _⟩ := Registry.exists_of_evaluate hverdict
    obtain ⟨key, hkey⟩ := Registry.exists_key hverdict hfail
    have hfinding : s.findingOf path v rule verdict = ⟨rule.name, path, keyOf rule verdict,
        definition.messageFor (keyOf rule verdict), rule.declared, verdict.params, v⟩ := by
      rw [findingOf, hdefinition]
    rw [Option.toList_some, hfinding]
    exact .first hbefore hverdict hfail hdefinition (keyOf_cases rule hkey)

end Setting

/-! ### Reports -/

/-- The report says what the form and the data say about its place. -/
structure Report.Agrees (s : Setting) (form : Form) (r : Report) : Prop where
  /-- The field is the one that governs the place. -/
  field : form.fieldAt? r.path = some r.field
  /-- The data has a value of the right sort there. -/
  present : r.present = true ↔ r.field.Holds (s.data.follow r.path)
  /-- The place, or one on the way to it, is switched off. -/
  skipped : r.skipped = true ↔ ∃ q, q <+: r.path ∧ form.SwitchesOff s.data q
  /-- Nothing is found where the place is off. -/
  silent : r.skipped = true → r.findings = []
  /-- What is found elsewhere is what the rules find on the value there, or on null without one. -/
  found : r.skipped = false → ∃ rules, s.Asked r.field rules ∧
    s.Finds r.field r.path (if r.present then s.data.follow r.path else .null) rules r.findings

/-- No condition and no rule of the field ends without an answer at the place. -/
structure Setting.Answers (s : Setting) (field : Field) (path : Path) : Prop where
  condition : ∀ c, field.info.condition = some c →
    ∃ b, c.holds (Comparison.valueAt s.data path) = .ok b
  rules : ∀ rules, s.Asked field rules → ∀ rule ∈ rules,
    ∃ verdict, s.verdictOf field path (field.seen (s.data.follow path)) rule = .ok verdict

namespace Form

variable {form : Form} {s : Setting}

theorem agrees_of_reportFrom (hplaced : form.root.Placed []) {v : Visit}
    (hv : v ∈ form.root.visits s.data) {r : Report} (h : s.reportFrom [] false form.root v = .ok r) :
    r.Agrees s form := by
  have hfindings := s.findings_of_reportFrom h
  obtain ⟨off, findings, hoff, _, rfl⟩ := s.reportFrom_eq_ok_iff.mp h
  have hraw := Field.follow_of_mem_visits hv
  rw [List.nil_append] at hfindings ⊢
  refine ⟨fieldAt?_of_mem_visits hplaced hv, ?_, ?_, ?_, ?_⟩
  · show v.field.fits v.raw = true ↔ v.field.Holds (s.data.follow v.path)
    rw [hraw, Field.fits_iff]
  · show off = true ↔ _
    rw [isOff_root hoff, isGated_iff]
  · intro hskipped
    rcases hfindings with ⟨_, hnone⟩ | ⟨hon, _⟩
    · exact hnone
    · exact absurd (hskipped.symm.trans hon) (by decide)
  · intro hon
    rcases hfindings with ⟨hskipped, _⟩ | ⟨_, found, hfound, hout⟩
    · exact absurd (hskipped.symm.trans hon) (by decide)
    · refine ⟨s.rulesOf v.field, s.asked_rulesOf v.field, ?_⟩
      rw [hout]
      show s.Finds v.field v.path (if v.field.fits v.raw then s.data.follow v.path else .null) _ _
      rw [hraw]
      exact s.finds_of_firstFinding hfound

/-- There is a report on a place if nothing on the way to it ends without an answer. -/
theorem exists_reportFrom (hplaced : form.root.Placed []) {v : Visit} (hv : v ∈ form.root.visits s.data)
    (h : ∀ p field, form.Reaches s.data p → form.fieldAt? p = some field → s.Answers field p) :
    ∃ r, s.reportFrom [] false form.root v = .ok r := by
  have hreached : form.Reaches s.data v.path := (mem_visits_iff_reaches hplaced).mp ⟨v, hv, rfl⟩
  obtain ⟨off, hoff⟩ : ∃ off, s.isOff form.root [] v.path = .ok off :=
    exists_isOff_root hplaced (fun p field c hp _ hfield => (h p field hp hfield).condition c) hv
  obtain ⟨findings, hfindings⟩ : ∃ findings, s.findingsUnless off v.field v.path v.raw = .ok findings := by
    cases off with
    | true => exact ⟨[], rfl⟩
    | false =>
      have hanswers := h v.path v.field hreached (fieldAt?_of_mem_visits hplaced hv)
      have hrules := hanswers.rules _ (s.asked_rulesOf v.field)
      rw [Field.follow_of_mem_visits hv] at hrules
      obtain ⟨found, hfound⟩ := s.exists_firstFinding hrules
      exact ⟨found.toList, bind_eq_ok_iff.mpr ⟨found, hfound, rfl⟩⟩
  exact ⟨_, s.reportFrom_eq_ok_iff.mpr ⟨off, findings, hoff, hfindings, rfl⟩⟩

/-- **An evaluation agrees with what the form and the data say about each place.**  Whatever the registry and
the data are: it has a result if no condition and no rule ends without an answer, and each report of a result
can be told from its place alone. -/
theorem evaluate_agrees {compiled : Registry} {document : Value} (hkeys : document.keysOnce = true)
    (hform : Form.ofDocument compiled document = .ok form) (s : Setting) :
    ((∀ p field, form.Reaches s.data p → form.fieldAt? p = some field → s.Answers field p) →
      ∃ reports, form.evaluate s.registry s.implicitNumber s.data s.language = .ok reports) ∧
    ∀ reports, form.evaluate s.registry s.implicitNumber s.data s.language = .ok reports →
      ∀ r ∈ reports, r.Agrees s form := by
  have hplaced := Form.root_placed hkeys hform
  constructor
  · intro hanswers
    rw [evaluate_eq_mapM hplaced]
    exact exists_mapM_eq_ok fun v hv => exists_reportFrom hplaced hv hanswers
  · intro reports h r hr
    obtain ⟨v, hv, hreport⟩ := exists_visit_of_mem hplaced h hr
    exact agrees_of_reportFrom hplaced hv hreport

/-- A form for guests, each with a meal to choose once the name is given. -/
def guestList : Value :=
  .object [("type", .text "group"), ("properties", .object [
    ("guests", .object [("type", .text "array"), ("items", .object [("type", .text "group"),
      ("properties", .object [
        ("name", .object [("type", .text "text")]),
        ("age", .object [("type", .text "number")]),
        ("meal", .object [("type", .text "text"), ("rules", .object [("required", .bool true)]),
          ("condition", .object [("path", .text ".name"), ("empty", .bool false)])])])])])])]

/-- A guest without a name, and one without a meal. -/
def twoGuests : Value :=
  .object [("guests", .list [
    .object [("age", .text "old")],
    .object [("name", .text "Ann"), ("age", .int 30)]])]

/-- The first guest's age is no number and the meal is off, the second guest's meal is missing. -/
theorem evaluate_agrees_on_guests : ∃ form reports,
    Form.ofDocument Registry.standard guestList = .ok form ∧
    form.evaluate Registry.standard true twoGuests none = .ok reports ∧
    reports.map (fun r => (r.path.text, r.skipped, r.findings.map (·.rule))) =
      [("", false, []), ("guests", false, []),
        ("guests[0]", false, []), ("guests[0].name", false, []), ("guests[0].age", false, ["number"]),
        ("guests[0].meal", true, []),
        ("guests[1]", false, []), ("guests[1].name", false, []), ("guests[1].age", false, []),
        ("guests[1].meal", false, ["required"])] ∧
    ∀ r ∈ reports, r.Agrees ⟨Registry.standard, true, twoGuests, none⟩ form := by
  have hrun : ((Form.ofDocument Registry.standard guestList).toOption.bind fun form =>
      (form.evaluate Registry.standard true twoGuests none).toOption.bind fun reports =>
        some (reports.map fun r => (r.path.text, r.skipped, r.findings.map (·.rule)))) =
      some [("", false, []), ("guests", false, []),
        ("guests[0]", false, []), ("guests[0].name", false, []), ("guests[0].age", false, ["number"]),
        ("guests[0].meal", true, []),
        ("guests[1]", false, []), ("guests[1].name", false, []), ("guests[1].age", false, []),
        ("guests[1].meal", false, ["required"])] := by
    decide +kernel
  obtain ⟨form, hform, hrun⟩ := exists_eq_ok_of_bind hrun
  obtain ⟨reports, hreports, hfound⟩ := exists_eq_ok_of_bind hrun
  obtain ⟨_, hagrees⟩ := evaluate_agrees (by decide +kernel) hform ⟨Registry.standard, true, twoGuests, none⟩
  exact ⟨form, reports, hform, hreports, Option.some.inj hfound, hagrees reports hreports⟩

end Form

end FormCheck
