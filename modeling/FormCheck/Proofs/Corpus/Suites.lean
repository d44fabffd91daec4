import FormCheck.Corpus.Suite
import FormCheck.Proofs.Fallible
import FormCheck.Proofs.Form.Construction
import FormCheck.Proofs.Value.Reading
import Mathlib.Data.List.Forall2

/-!
# What a suite reports

A suite is run test by test and case by case.  Each case is reported on, and passes where the result of the validation
is as expected: as valid as it should be, and if it is not valid, with the expected rule and the expected path in its
first error, as far as these are given.

* `IsSuite` — a document that is a suite: of tests with a specification, of cases with an expectation;
* `placedCases` — its cases in the order of the document, each with its test and its position there;
* `Meets`, `IsAsExpected` — what is expected under a key, and of a result as a whole;
* `agrees_iff` — **proved**: the comparison finds whether a result is as expected, unless an empty text is expected;
* `runSuite_tells` — **proved**: a suite is reported on case by case, and a case passes exactly where the result is as
  expected;
* `not_every_suite_tells` — **proved**: an expected path that is empty, which is that of the root, is not compared: a
  case passes with an error somewhere else.
-/

namespace FormCheck.Corpus

open Fallible

/-! ### Suites -/

/-- The members of the list under a key; none where there is nothing. -/
def listAt (v : Value) (key : String) : List Value :=
  match v.entry? key with
  | some (.list items) => items
  | _ => []

/-- If there is anything under a key, it is a list. -/
def IsListed (v : Value) (key : String) : Prop :=
  ((v.entry? key).getD (.list [])).isList = true

/-- The tests of a suite. -/
def testsOf (suite : Value) : List Value :=
  listAt suite "tests"

/-- The cases of a test. -/
def casesOf (test : Value) : List Value :=
  listAt test "cases"

/-- The specification of a test. -/
def specOf (test : Value) : List (String × Value) :=
  ((test.entry? "spec").getD .null).entriesOf

/-- The name of a test. -/
def idOf (test : Value) : Value :=
  (test.entry? "id").getD (.text "")

/-- The data that a case of a test is about. -/
def dataOf (test case : Value) : Value :=
  asData (specOf test) ((case.entry? "input").getD .null)

/-- What is expected in a case. -/
def expectedOf (case : Value) : Value :=
  (case.entry? "expected").getD .null

/-- A case says whether the input is expected to be valid. -/
def IsCase (case : Value) : Prop :=
  (Value.entry? (expectedOf case) "valid").isSome = true

/-- A test has a specification and cases. -/
structure IsTest (test : Value) : Prop where
  spec : ((test.entry? "spec").getD .null).isObject = true
  listed : IsListed test "cases"
  cases : ∀ case ∈ casesOf test, IsCase case

/-- A suite has tests. -/
structure IsSuite (suite : Value) : Prop where
  object : suite.isObject = true
  listed : IsListed suite "tests"
  tests : ∀ test ∈ testsOf suite, IsTest test

instance (case : Value) : Decidable (IsCase case) :=
  inferInstanceAs (Decidable (_ = true))

instance (v : Value) (key : String) : Decidable (IsListed v key) :=
  inferInstanceAs (Decidable (_ = true))

instance (test : Value) : Decidable (IsTest test) :=
  decidable_of_iff (((test.entry? "spec").getD .null).isObject = true ∧ IsListed test "cases" ∧
    ∀ case ∈ casesOf test, IsCase case) ⟨fun h => ⟨h.1, h.2.1, h.2.2⟩, fun h => ⟨h.spec, h.listed, h.cases⟩⟩

instance (suite : Value) : Decidable (IsSuite suite) :=
  decidable_of_iff (suite.isObject = true ∧ IsListed suite "tests" ∧ ∀ test ∈ testsOf suite, IsTest test)
    ⟨fun h => ⟨h.1, h.2.1, h.2.2⟩, fun h => ⟨h.object, h.listed, h.tests⟩⟩

/-- The cases of a suite in the order of the document, each with its test and its position there. -/
def placedCases (suite : Value) : List (Value × Value × Nat) :=
  (testsOf suite).flatMap fun test => (casesOf test).zipIdx.map fun c => (test, c)

/-- The validator that a test is run with. -/
def validatorOf (registry : Registry) (test : Value) : Building Validator :=
  Validator.ofDocument registry (asForm (specOf test)) ⟨none, usualLanguage⟩ true

/-- The specifications of a suite describe forms, and all its cases can be validated. -/
def Runs (registry : Registry) (language : Option String) (suite : Value) : Prop :=
  ∀ test ∈ testsOf suite, ∃ validator, validatorOf registry test = .ok validator ∧
    ∀ case ∈ casesOf test, ∃ outcome, validator.validate (dataOf test case) language = .ok outcome

/-- The suite runs, as it is found by running it. -/
def runsThrough (registry : Registry) (language : Option String) (suite : Value) : Bool :=
  (testsOf suite).all fun test => match validatorOf registry test with
    | .ok validator => (casesOf test).all fun case =>
      (validator.validate (dataOf test case) language).toOption.isSome
    | .error _ => false

theorem runs_of_runsThrough {registry : Registry} {language : Option String} {suite : Value}
    (h : runsThrough registry language suite = true) : Runs registry language suite := by
  intro test htest
  have hthrough := List.all_eq_true.mp h test htest
  split at hthrough
  · next validator hvalidator =>
    refine ⟨validator, hvalidator, fun case hcase => ?_⟩
    have hsome := List.all_eq_true.mp hthrough case hcase
    cases hrun : validator.validate (dataOf test case) language with
    | ok outcome => exact ⟨outcome, rfl⟩
    | error f => rw [hrun] at hsome; cases hsome
  · cases hthrough

theorem parts_of_isListed {v : Value} {key : String} (h : IsListed v key) :
    ((v.entry? key).getD (.list [])).parts = .ok (listAt v key) := by
  rw [listAt]
  rw [IsListed] at h
  cases hentry : v.entry? key with
  | none => rfl
  | some w =>
    rw [hentry] at h
    cases w <;> first | rfl | cases h

theorem entryAt_eq_ok {v w : Value} {key : String} (h : v.entry? key = some w) : entryAt v key = .ok w := by
  cases v with
  | object entries =>
    have hentry : entryOf? entries key = some w := h
    simp only [entryAt, hentry]
  | _ => cases h

/-- An entry of what is expected in a case is there only if something is expected. -/
theorem entry?_expected {case w : Value} {key : String} (h : Value.entry? (expectedOf case) key = some w) :
    case.entry? "expected" = some (expectedOf case) := by
  rw [expectedOf] at h ⊢
  cases hexpected : case.entry? "expected" with
  | none => rw [hexpected] at h; cases h
  | some expected => rfl

/-! ### Expectations -/

/-- What is expected under a key is met by a text: a text by the same one only, whatever counts as nothing by every
text, and all else by none. -/
def Meets (expected : Value) (key actual : String) : Prop :=
  match expected.entry? key with
  | some (.text s) => s = actual
  | some v => v.isTruthy = false
  | none => True

/-- A result is as expected: as valid as it should be, and with the expected rule and path in its first error. -/
structure IsAsExpected (expected : Value) (result : Result) : Prop where
  valid : ∃ due, expected.entry? "valid" = some due ∧ (Value.bool result.isValid).same due = true
  rule : ∀ first, result.errors.head? = some first → Meets expected "error" first.rule
  place : ∀ first, result.errors.head? = some first → Meets expected "field" first.path

/-- Under none of the two keys an empty text is expected. -/
def ExpectsNoEmptyText (expected : Value) : Prop :=
  ∀ key ∈ ["error", "field"], expected.entry? key ≠ some (.text "")

instance (v : Option Value) (s : String) : Decidable (v = some (.text s)) :=
  match v with
  | some (.text t) => decidable_of_iff (t = s) (by rw [Option.some.injEq, Value.text.injEq])
  | none | some .absent | some .null | some (.bool _) | some (.int _) | some (.number _) | some (.list _)
  | some (.object _) => isFalse nofun

instance (expected : Value) : Decidable (ExpectsNoEmptyText expected) :=
  inferInstanceAs (Decidable (∀ key ∈ ["error", "field"], expected.entry? key ≠ some (.text "")))

/-- A text under a key is as expected, unless an empty one is expected there. -/
theorem agreesAt_iff {expected actual : Value} {key s : String} (hempty : expected.entry? key ≠ some (.text ""))
    (hactual : actual.entry? key = some (.text s)) : agreesAt expected actual key = true ↔ Meets expected key s := by
  rw [agreesAt, Meets]
  cases hentry : expected.entry? key with
  | none => exact ⟨fun _ => trivial, fun _ => rfl⟩
  | some v =>
    show (!v.isTruthy || (((actual.entry? key).getD .null).same v)) = true ↔ _
    rw [hactual, Option.getD_some, Bool.or_eq_true, Value.same_text_iff, Bool.not_eq_true']
    cases v with
    | text t =>
      have ht : t ≠ "" := fun h => hempty (h ▸ hentry)
      have htruthy : (Value.text t).isTruthy = true := bne_iff_ne.mpr ht
      rw [htruthy]
      simp only [Bool.true_eq_false, false_or, Value.text.injEq]
    | _ => simp only [reduceCtorEq, or_false]

theorem entryAt_valid_summary (result : Result) : entryAt (summary result) "valid" = .ok (.bool result.isValid) := rfl

/-- **The comparison finds whether a result is as expected**, unless an empty text is expected. -/
theorem agrees_iff {expected : Value} (hvalid : ∃ due, expected.entry? "valid" = some due) (result : Result) :
    ∃ b, agrees expected (summary result) = .ok b ∧
      (ExpectsNoEmptyText expected → (b = true ↔ IsAsExpected expected result)) := by
  obtain ⟨due, hdue⟩ := hvalid
  rw [agrees, entryAt_valid_summary, ok_bind, entryAt_eq_ok hdue, ok_bind]
  cases hsame : (Value.bool result.isValid).same due with
  | false =>
    refine ⟨false, rfl, fun _ => ⟨(by cases ·), fun h => ?_⟩⟩
    obtain ⟨same, hsameDue, htrue⟩ := h.valid
    cases hdue.symm.trans hsameDue
    rw [hsame] at htrue
    cases htrue
  | true =>
    rw [Value.isTruthy_of_same hsame]
    cases herrors : result.errors with
    | nil =>
      have hisValid : result.isValid = true := by rw [Result.isValid, herrors]; rfl
      have hnone : ∀ first, result.errors.head? ≠ some first := by
        intro first h
        rw [herrors] at h
        cases h
      rw [hisValid]
      exact ⟨true, rfl, fun _ => ⟨fun _ => ⟨⟨due, hdue, hsame⟩, fun first h => absurd h (hnone first),
        fun first h => absurd h (hnone first)⟩, fun _ => rfl⟩⟩
    | cons first rest =>
      have hisValid : result.isValid = false := by rw [Result.isValid, herrors]; rfl
      have hfirst : result.errors.head? = some first := by rw [herrors]; rfl
      have hrule : Value.entry? (summary result) "error" = some (.text first.rule) := by rw [summary, herrors]; rfl
      have hplace : Value.entry? (summary result) "field" = some (.text first.path) := by rw [summary, herrors]; rfl
      rw [hisValid]
      refine ⟨_, rfl, fun hempty => ?_⟩
      rw [Bool.and_eq_true, agreesAt_iff (hempty "error" (by decide)) hrule,
        agreesAt_iff (hempty "field" (by decide)) hplace]
      constructor
      · rintro ⟨hmeetsRule, hmeetsPlace⟩
        refine ⟨⟨due, hdue, hsame⟩, fun e he => ?_, fun e he => ?_⟩
        · cases hfirst.symm.trans he
          exact hmeetsRule
        · cases hfirst.symm.trans he
          exact hmeetsPlace
      · exact fun h => ⟨h.rule first hfirst, h.place first hfirst⟩

/-! ### Cases, tests and suites -/

variable {registry : Registry} {language : Option String}

/-- A report tells how a case went: it names the test and the position of the case, it holds what is expected and the
summary of the result, and where the expectation is one that is compared in full, the case has passed exactly if the
result is as expected. -/
structure Tells (registry : Registry) (language : Option String) (compared : Value → Prop) (c : Value × Value × Nat)
    (report : CaseReport) : Prop where
  testId : report.testId = idOf c.1
  position : report.position = c.2.2
  expected : report.expected = expectedOf c.2.1
  outcome : ∃ validator result questions, validatorOf registry c.1 = .ok validator ∧
    validator.validate (dataOf c.1 c.2.1) language = .ok (result, questions) ∧ report.actual = summary result ∧
    (compared report.expected → (report.passed = true ↔ IsAsExpected report.expected result))

/-- Each case is reported on. -/
theorem runCase_tells {test case : Value} {validator : Validator} (hcase : IsCase case)
    (hvalidator : validatorOf registry test = .ok validator)
    (houtcome : ∃ outcome, validator.validate (dataOf test case) language = .ok outcome) (position : Nat) :
    ∃ report, runCase validator (specOf test) language (idOf test) position case = .ok report ∧
      Tells registry language ExpectsNoEmptyText (test, case, position) report := by
  obtain ⟨due, hdue⟩ := Option.isSome_iff_exists.mp hcase
  have hexpected := entry?_expected hdue
  obtain ⟨⟨result, questions⟩, hresult⟩ := houtcome
  obtain ⟨passed, hagrees, hpassed⟩ := agrees_iff ⟨due, hdue⟩ result
  obtain ⟨entries, rfl⟩ : ∃ entries, case = .object entries := by
    cases case <;> first | exact ⟨_, rfl⟩ | cases hexpected
  refine ⟨⟨idOf test, position, passed, expectedOf (.object entries), summary result⟩, ?_,
    ⟨rfl, rfl, rfl, validator, result, questions, hvalidator, hresult, rfl, hpassed⟩⟩
  rw [runCase, entriesOf, ok_bind]
  show (validator.validate (dataOf test (.object entries)) language >>= _) = _
  rw [hresult, ok_bind]
  show (entryAt (.object entries) "expected" >>= _) = _
  rw [entryAt_eq_ok hexpected, ok_bind, hagrees]
  rfl

/-- Each test is reported on, case by case. -/
theorem runTest_tells {test : Value} (htest : IsTest test) {validator : Validator}
    (hvalidator : validatorOf registry test = .ok validator)
    (houtcomes : ∀ case ∈ casesOf test, ∃ outcome, validator.validate (dataOf test case) language = .ok outcome) :
    ∃ reports, runTest registry language test = .ok reports ∧
      List.Forall₂ (Tells registry language ExpectsNoEmptyText) ((casesOf test).zipIdx.map fun c => (test, c)) reports := by
  have hspec : (entryAt test "spec" >>= entriesOf) = .ok (specOf test) := by
    have hobject := htest.spec
    rw [specOf]
    cases hentry : test.entry? "spec" with
    | none => rw [hentry] at hobject; cases hobject
    | some spec =>
      rw [hentry, Option.getD_some] at hobject
      rw [entryAt_eq_ok hentry, ok_bind, Option.getD_some]
      cases spec <;> first | rfl | cases hobject
  have hcases : ∀ c ∈ (casesOf test).zipIdx, ∃ report,
      (runCase validator (specOf test) language (idOf test) c.2 c.1).mapError Failure.fault
        = (.ok report : Building CaseReport) ∧
          Tells registry language ExpectsNoEmptyText (test, c) report := by
    intro c hc
    have hmem : c.1 ∈ casesOf test := List.fst_mem_of_mem_zipIdx hc
    obtain ⟨report, hreport, htells⟩ := runCase_tells (htest.cases c.1 hmem) hvalidator (houtcomes c.1 hmem) c.2
    exact ⟨report, mapError_eq_ok_iff.mpr hreport, htells⟩
  obtain ⟨reports, hreports, htells⟩ := exists_mapM_of_forall₂
    (R := fun c => Tells registry language ExpectsNoEmptyText (test, c)) (List.forall₂_same.mpr hcases)
  refine ⟨reports, ?_, List.forall₂_map_left_iff.mpr htells⟩
  rw [runTest, hspec]
  show (validatorOf registry test >>= _) = _
  rw [hvalidator, ok_bind, parts_of_isListed htest.listed]
  exact hreports

/-- **A suite is reported on case by case, in the order of the document, and a case passes exactly where the result is as
expected.**  Take a suite of which the specifications describe forms and all cases can be validated: each report tells of
the test and the position of its case; and unless an empty text is expected, the case has passed if and only if the
result is valid or not as it should be, and if it is not, the rule and the path of its first error are those that are
expected. -/
theorem runSuite_tells {suite : Value} (hsuite : IsSuite suite) (hruns : Runs registry language suite) :
    ∃ reports, runSuite registry language suite = .ok reports ∧
      List.Forall₂ (Tells registry language ExpectsNoEmptyText) (placedCases suite) reports := by
  have htests : ∀ test ∈ testsOf suite, ∃ reports, runTest registry language test = .ok reports ∧
      List.Forall₂ (Tells registry language ExpectsNoEmptyText) ((casesOf test).zipIdx.map fun c => (test, c))
        reports := by
    intro test htest
    obtain ⟨validator, hvalidator, houtcomes⟩ := hruns test htest
    exact runTest_tells (hsuite.tests test htest) hvalidator houtcomes
  obtain ⟨reports, hreports, htells⟩ := exists_mapM_of_forall₂
    (R := fun test => List.Forall₂ (Tells registry language ExpectsNoEmptyText)
      ((casesOf test).zipIdx.map fun c => (test, c))) (List.forall₂_same.mpr htests)
  refine ⟨reports.flatten, ?_, List.rel_flatten (List.forall₂_map_left_iff.mpr htells)⟩
  obtain ⟨entries, rfl⟩ : ∃ entries, suite = .object entries := by
    have hobject := hsuite.object
    cases suite <;> first | exact ⟨_, rfl⟩ | cases hobject
  rw [runSuite, entriesOf]
  show (((Value.entry? (.object entries) "tests").getD (.list [])).parts.mapError Failure.fault >>= _) = _
  rw [parts_of_isListed hsuite.listed]
  show ((testsOf (.object entries)).mapM (runTest registry language) >>= _) = _
  rw [hreports]
  rfl

/-- A case of an input. -/
def caseOf (input : Value) (expected : List (String × Value)) : Value :=
  .object [("input", input), ("expected", .object expected)]

/-- A suite on a nickname, a single field, and on the names of guests; one expectation is wrong. -/
def nicknames : Value :=
  .object [("tests", .list [
    .object [("id", .text "nickname"),
      ("spec", .object [("type", .text "text"),
        ("rules", .object [("required", .bool true), ("minlength", .int 3)])]),
      ("cases", .list [
        caseOf (.text undefinedMarker)
          [("valid", .bool false), ("error", .text "required"), ("field", .text "value")],
        caseOf (.text "Al") [("valid", .bool false), ("error", .text "required")],
        caseOf (.text "Alice") [("valid", .bool true)]])],
    .object [
      ("spec", .object [("type", .text "group"), ("properties", .object [
        ("guests", .object [("type", .text "group"), ("multiple", .bool true), ("properties", .object [
          ("name", .object [("type", .text "text"), ("rules", .object [("required", .bool true)])])])])])]),
      ("cases", .list [
        caseOf (.object [("guests", .list [.object [("name", .text "Ann")], .object []])])
          [("valid", .bool false), ("field", .text "guests[1].name")]])]])]

/-- The four cases of the suite are reported on, and the one with the wrong expectation has not passed. -/
theorem runSuite_tells_nicknames : IsSuite nicknames ∧ Runs Registry.standard none nicknames ∧
    ∃ reports, runSuite Registry.standard none nicknames = .ok reports ∧
      (∀ r ∈ reports, ExpectsNoEmptyText r.expected) ∧
      reports.map (fun r => (r.testId.toText, r.position, r.passed))
        = [(.ok "nickname", 0, true), (.ok "nickname", 1, false), (.ok "nickname", 2, true), (.ok "", 0, true)] ∧
      List.Forall₂ (Tells Registry.standard none ExpectsNoEmptyText) (placedCases nicknames) reports := by
  have hsuite : IsSuite nicknames := by decide
  have hruns : Runs Registry.standard none nicknames := runs_of_runsThrough (by decide +kernel)
  have hrun : ((runSuite Registry.standard none nicknames).toOption.bind fun reports =>
      some (decide (∀ r ∈ reports, ExpectsNoEmptyText r.expected),
        reports.map fun r => (r.testId.toText, r.position, r.passed)))
          = some (true, [(.ok "nickname", 0, true), (.ok "nickname", 1, false), (.ok "nickname", 2, true),
            (.ok "", 0, true)]) := by
    decide +kernel
  obtain ⟨reports, hreports, htold⟩ := exists_eq_ok_of_bind hrun
  obtain ⟨hnoEmpty, hpassed⟩ := Prod.mk.inj (Option.some.inj htold)
  obtain ⟨found, hfound, htells⟩ := runSuite_tells hsuite hruns
  cases hreports.symm.trans hfound
  exact ⟨hsuite, hruns, reports, hreports, of_decide_eq_true hnoEmpty, hpassed, htells⟩

/-- A suite on a form with a field that has to be given, where the error is expected at the root. -/
def errorAtRoot : Value :=
  .object [("tests", .list [
    .object [("id", .text "t"),
      ("spec", .object [("type", .text "group"), ("properties", .object [
        ("a", .object [("type", .text "text"), ("rules", .object [("required", .bool true)])])])]),
      ("cases", .list [caseOf (.object [])
        [("valid", .bool false), ("error", .text "required"), ("field", .text "")]])]])]

/-- **Not every suite is reported on like this**: where the error is expected at the root, the path of which is empty,
the case has passed although the error is at the field below. -/
theorem not_every_suite_tells : ¬ ∀ suite, IsSuite suite → Runs Registry.standard none suite →
    ∃ reports, runSuite Registry.standard none suite = .ok reports ∧
      List.Forall₂ (Tells Registry.standard none fun _ => True) (placedCases suite) reports := by
  intro h
  obtain ⟨reports, hreports, htells⟩ :=
    h errorAtRoot (by decide) (runs_of_runsThrough (by decide +kernel))
  have hrun : ((runSuite Registry.standard none errorAtRoot).toOption.bind fun reports =>
      some (reports.map fun r => (r.passed, decide (r.expected.entry? "field" = some (.text "")),
        decide (r.actual.entry? "field" = some (.text "a"))))) = some [(true, true, true)] := by
    decide +kernel
  obtain ⟨found, hfound, hgone⟩ := exists_eq_ok_of_bind hrun
  cases hreports.symm.trans hfound
  obtain ⟨report, rfl, hreport⟩ := List.map_eq_singleton_iff.mp (Option.some.inj hgone)
  obtain ⟨hpassed, hplaces⟩ := Prod.mk.inj hreport
  obtain ⟨hroot, hfield⟩ := Prod.mk.inj hplaces
  obtain ⟨c, _, htold, _, _⟩ := List.forall₂_cons_right_iff.mp htells
  obtain ⟨_, result, _, _, _, hactual, hiff⟩ := htold.outcome
  have hfield := of_decide_eq_true hfield
  rw [hactual, summary] at hfield
  cases herrors : result.errors with
  | nil => rw [herrors] at hfield; cases hfield
  | cons first rest =>
    rw [herrors] at hfield
    have hplace : first.path = "a" := Value.text.inj (Option.some.inj hfield)
    have hmeets := ((hiff trivial).mp hpassed).place first (by rw [herrors]; rfl)
    rw [Meets, of_decide_eq_true hroot, hplace] at hmeets
    exact absurd hmeets (by decide)

end FormCheck.Corpus
