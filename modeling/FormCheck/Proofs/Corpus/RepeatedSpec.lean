import FormCheck.Proofs.Corpus.Suites
import FormCheck.Proofs.Form.RootGroup
import FormCheck.Proofs.Form.SpelledOut
import FormCheck.Proofs.Value.Change

/-!
# Tests of repeated groups

A repeated group is short for an array of groups.  A test of the array puts it into a form, as its only field, and its
inputs with it.  A test of the repeated group itself does not, as it is taken for a form already, and then it is refused
because its root is no group.

* `inForm`, `testInForm` — a specification, and a test with its inputs, put into a form by hand;
* `runTest_congr` — **proved**: a test sees of its specification whether that is a single field, and the form;
* `runTest_testInForm` — **proved**: by hand, a repeated group is put into the form that a test of the array makes;
* `runs_as_array_iff` — **proved**: a test of a repeated group goes as that of the array only if the group declares no
  fields, so that both are refused.
-/

namespace FormCheck

open Fallible

/-! ### Entries put into objects -/

theorem entryOf?_map_put {α : Type} (entries : List (String × α)) (key other : String) (w : α) :
    entryOf? (entries.map fun e => if e.1 == key then (key, w) else e) other
      = if other = key then (entryOf? entries key).map fun _ => w else entryOf? entries other := by
  induction entries with
  | nil => simp [entryOf?]
  | cons e entries ih =>
    rw [List.map_cons, entryOf?_cons, entryOf?_cons, entryOf?_cons, ih]
    by_cases he : e.1 = key <;> by_cases ho : other = key <;> grind

/-- An entry that is put into a table is found there, and the others are as they were. -/
theorem entryOf?_putEntry {α : Type} (entries : List (String × α)) (key other : String) (w : α) :
    entryOf? (putEntry entries key w) other = if other = key then some w else entryOf? entries other := by
  rw [putEntry]
  cases hentry : entryOf? entries key with
  | some v =>
    rw [Flaw.hasEntry_eq_isSome, hentry, Option.isSome_some, if_pos rfl, entryOf?_map_put, hentry, Option.map_some]
  | none =>
    rw [Flaw.hasEntry_eq_isSome, hentry, Option.isSome_none, if_neg Bool.false_ne_true, entryOf?_append, entryOf?_cons]
    by_cases ho : other = key
    · rw [if_pos ho, ho, hentry, if_pos rfl, Option.none_or]
    · rw [if_neg ho, if_neg (Ne.symm ho)]
      exact Option.or_none

namespace Value

/-- The value with another entry under a key; what is no object is left as it is. -/
def withEntry (v : Value) (key : String) (w : Value) : Value :=
  match v with
  | .object entries => .object (putEntry entries key w)
  | v => v

variable {v w : Value} {key other : String}

theorem isObject_of_entry? (h : v.entry? key = some w) : v.isObject = true := by
  cases v with
  | object entries => rfl
  | _ => cases h

theorem isObject_withEntry : (v.withEntry key w).isObject = v.isObject := by
  cases v <;> rfl

theorem entry?_withEntry_self (h : v.isObject = true) : Value.entry? (v.withEntry key w) key = some w := by
  cases v with
  | object entries =>
    show entryOf? (putEntry entries key w) key = some w
    rw [entryOf?_putEntry, if_pos rfl]
  | _ => cases h

theorem entry?_withEntry_of_ne (h : other ≠ key) : Value.entry? (v.withEntry key w) other = v.entry? other := by
  cases v with
  | object entries =>
    show entryOf? (putEntry entries key w) other = entryOf? entries other
    rw [entryOf?_putEntry, if_neg h]
  | _ => rfl

end Value

namespace Corpus

/-! ### Specifications in a form -/

/-- The entries of a form with a specification as its only field. -/
def formEntries (spec : Value) : List (String × Value) :=
  [("type", .text "group"), ("properties", .object [(fieldName, spec)])]

/-- A form with a specification as its only field. -/
def inForm (spec : Value) : Value :=
  .object (formEntries spec)

variable {registry : Registry} {language : Option String} {entries others : List (String × Value)}

theorem flaws_inForm (spec : Value) : Flaw.all (inForm spec) = Flaw.ofField ["properties", fieldName] spec := by
  show Flaw.ofField (["properties"] ++ [fieldName]) spec ++ [] ++ [] = _
  rw [List.append_nil, List.append_nil]
  rfl

theorem ofValue_inForm (spec : Value) : Declaration.ofValue (inForm spec) =
    .mk Kind.group.key false (.ofEntries []) (some [(fieldName, .ofValue spec)]) none :=
  rfl

/-- A form of one field is the same where the fields are built alike. -/
theorem ofDocument_inForm_congr {v w : Value} (hv : Flaw.all v = []) (hw : Flaw.all w = [])
    (h : ∀ name place,
      (Declaration.ofValue v).build registry name place = (Declaration.ofValue w).build registry name place) :
    Form.ofDocument registry (inForm v) = Form.ofDocument registry (inForm w) := by
  have hread : ∀ {u : Value}, Flaw.all u = [] → Form.readDocument (inForm u) = .ok (.ofValue (inForm u)) := by
    intro u hu
    apply Form.readDocument_of_flawless
    rw [flaws_inForm]
    exact Flaw.nil_of_location.1 [] _ hu
  have hbuild : (Declaration.ofValue (inForm v)).build registry "" []
      = (Declaration.ofValue (inForm w)).build registry "" [] := by
    have hkind : Kind.ofKey? Kind.group.key = some .group := Kind.ofKey?_key .group
    rw [ofValue_inForm, ofValue_inForm, Declaration.build, Declaration.build, hkind]
    simp only [Declaration.buildAll, h]
  rw [Form.ofDocument, Form.ofDocument, hread hv, hread hw, ok_bind, ok_bind, hbuild]
  rfl

/-- The array of a repeated group is the same form as the group, where either is its only field. -/
theorem ofDocument_inForm_arrayEntries (hgroup : Value.areRepeatedGroup entries = true)
    (hflaws : Flaw.all (.object entries) = []) :
    Form.ofDocument registry (inForm (.object (Value.arrayEntries entries)))
      = Form.ofDocument registry (inForm (.object entries)) :=
  ofDocument_inForm_congr (Flaw.nil_of_arrayEntries hflaws) hflaws (Declaration.build_arrayEntries hgroup)

/-- A form of one field is not refused for its root. -/
theorem sparesRoot_ofDocument_inForm (spec : Value) : SparesRoot (Form.ofDocument registry (inForm spec)) := by
  intro e he
  rw [← Bool.not_eq_true]
  intro hblames
  obtain ⟨_, _, hroot⟩ := Form.ofDocument_eq_rootNoGroup_iff.mp (SpecError.eq_of_blamesRoot hblames ▸ he)
  rw [ofValue_inForm] at hroot
  rcases hroot with htype | hrepeated
  · exact htype rfl
  · cases hrepeated

/-! ### Single fields -/

/-- An array is a single field. -/
theorem isSingleField_arrayEntries (entries : List (String × Value)) :
    isSingleField (Value.arrayEntries entries) = true :=
  rfl

theorem entryOf?_type {name : String} (hname : name ≠ "") (h : typeIn entries = name) :
    entryOf? entries "type" = some (.text name) := by
  rw [typeIn] at h
  split at h
  · next s hs => rw [hs, h]
  · exact absurd h.symm hname

/-- A repeated group is taken for a single field only if it declares no fields. -/
theorem isSingleField_of_repeated (hgroup : Value.areRepeatedGroup entries = true) :
    isSingleField entries = !hasEntry entries "properties" := by
  rw [Value.areRepeatedGroup, Bool.and_eq_true, beq_iff_eq] at hgroup
  rw [isSingleField, entryOf?_type (by decide) hgroup.1]
  rfl

/-- A form is no single field. -/
theorem isSingleField_formEntries (spec : Value) : isSingleField (formEntries spec) = false :=
  rfl

theorem asForm_formEntries (spec : Value) : asForm (formEntries spec) = inForm spec :=
  rfl

theorem asForm_of_single (h : isSingleField entries = true) : asForm entries = inForm (.object entries) := by
  rw [asForm, if_pos h]
  rfl

/-- Inputs are put into a form according to whether the specification is a single field. -/
theorem asData_congr (h : isSingleField entries = isSingleField others) : asData entries = asData others := by
  funext input
  rw [asData, asData, h]

theorem runCase_congr {validator : Validator} (h : isSingleField entries = isSingleField others) :
    runCase validator entries language = runCase validator others language := by
  funext testId position case
  rw [runCase, runCase, asData_congr h]

/-! ### Tests -/

variable {test other : Value}

/-- A test is run with the form of its specification, case by case. -/
theorem runTest_eq (hspec : test.entry? "spec" = some (.object entries)) :
    runTest registry language test = (Form.ofDocument registry (asForm entries) >>= fun form =>
      (((test.entry? "cases").getD (.list [])).parts.mapError .fault >>= fun cases => cases.zipIdx.mapM fun c =>
        (runCase ⟨form, registry, ⟨none, usualLanguage⟩, true⟩ entries language (idOf test) c.2 c.1).mapError
          .fault)) := by
  rw [runTest, entryAt_eq_ok hspec]
  show (Validator.ofDocument registry (asForm entries) ⟨none, usualLanguage⟩ true >>= _) = _
  rw [Validator.ofDocument]
  cases Form.ofDocument registry (asForm entries) <;> rfl

/-- A test sees of its specification whether it is a single field, and the form that it describes. -/
theorem runTest_congr (hspec : test.entry? "spec" = some (.object entries))
    (hother : other.entry? "spec" = some (.object others))
    (hsame : ∀ key, key ≠ "spec" → other.entry? key = test.entry? key)
    (hsingle : isSingleField entries = isSingleField others)
    (hform : Form.ofDocument registry (asForm entries) = Form.ofDocument registry (asForm others)) :
    runTest registry language test = runTest registry language other := by
  rw [runTest_eq hspec, runTest_eq hother, hform, idOf, idOf, hsame "cases" (by decide), hsame "id" (by decide)]
  simp only [runCase_congr hsingle]

/-- A test of a repeated group with fields is refused: the group is taken for a form, and a form is not repeated. -/
theorem runTest_of_fields (hspec : test.entry? "spec" = some (.object entries))
    (hgroup : Value.areRepeatedGroup entries = true) (hflaws : Flaw.all (.object entries) = [])
    (hfields : hasEntry entries "properties" = true) :
    runTest registry language test = .error (.refused ⟨[], .rootNoGroup⟩) := by
  have hsingle : isSingleField entries = false := by rw [isSingleField_of_repeated hgroup, hfields, Bool.not_true]
  have hrepeated : (Declaration.ofValue (.object entries)).isRepeated = true := by
    rw [Value.areRepeatedGroup, Bool.and_eq_true] at hgroup
    rw [Declaration.ofValue_object]
    exact hgroup.2
  have hroot : Form.ofDocument registry (asForm entries) = .error (.refused ⟨[], .rootNoGroup⟩) := by
    rw [asForm, if_neg (by rw [hsingle]; exact Bool.false_ne_true)]
    exact Form.ofDocument_eq_rootNoGroup_iff.mpr ⟨rfl, hflaws, Or.inr hrepeated⟩
  rw [runTest_eq hspec, hroot, error_bind]

/-- A test of a single field is not refused for its root. -/
theorem sparesRoot_runTest (hspec : test.entry? "spec" = some (.object entries))
    (hsingle : isSingleField entries = true) : SparesRoot (runTest registry language test) := by
  rw [runTest_eq hspec, asForm_of_single hsingle]
  refine RefusesOnly.bind (sparesRoot_ofDocument_inForm _) fun form => ?_
  exact .bind (.fault _) fun cases => .mapM fun c _ => .fault _

/-! ### Tests put into a form by hand -/

/-- A case with its input as the only field of a form. -/
def caseInForm (case : Value) : Value :=
  case.withEntry "input" (.object [(fieldName, (case.entry? "input").getD .null)])

/-- A list of cases with their inputs in a form. -/
def casesInForm : Value → Value
  | .list cases => .list (cases.map caseInForm)
  | v => v

/-- A test with its specification as the only field of a form, and its inputs likewise. -/
def testInForm (test spec : Value) : Value :=
  (test.withEntry "spec" (inForm spec)).withEntry "cases" (casesInForm ((test.entry? "cases").getD (.list [])))

/-- The members of a text and of an object are no cases with an input. -/
theorem parts_casesInForm (v : Value) : (casesInForm v).parts = v.parts.map (List.map caseInForm) := by
  have hplain : ∀ {α : Type} (xs : List α) (text : α → String),
      (xs.map fun x => Value.text (text x)).map caseInForm = xs.map fun x => Value.text (text x) := by
    intro α xs text
    rw [List.map_map]
    rfl
  cases v with
  | text s =>
    show _ = Except.ok ((s.toList.map fun c => Value.text (String.singleton c)).map caseInForm)
    rw [hplain]
    rfl
  | object entries =>
    show _ = Except.ok ((entries.map fun e => Value.text e.1).map caseInForm)
    rw [hplain]
    rfl
  | _ => rfl

/-- An input that is put into a form by hand is the data that a single field is tested with. -/
theorem asData_inForm (hsingle : isSingleField entries = true) (hform : isSingleField others = false) (input : Value) :
    asData others (.object [(fieldName, input)]) = asData entries input := by
  rw [asData, asData, hsingle, hform]
  cases hundefined : input.isUndefined with
  | true => simp [Value.withoutUndefined, Value.entriesWithoutUndefined, hundefined]
  | false => simp [Value.withoutUndefined, Value.entriesWithoutUndefined, hundefined]

/-- A case is validated with its input, and what is expected in it is compared with the result. -/
theorem runCase_of_isObject {validator : Validator} {case : Value} (h : case.isObject = true) (testId : Value)
    (position : Nat) : runCase validator entries language testId position case =
      (validator.validate (asData entries ((case.entry? "input").getD .null)) language >>= fun outcome =>
        entryAt case "expected" >>= fun expected => agrees expected (summary outcome.1) >>= fun passed =>
          .ok ⟨testId, position, passed, expected, summary outcome.1⟩) := by
  cases case with
  | object members => rfl
  | _ => cases h

theorem entryAt_withEntry_of_ne {v w : Value} {key name : String} (h : name ≠ key) :
    entryAt (v.withEntry key w) name = entryAt v name := by
  cases v with
  | object members =>
    show entryAt (.object (putEntry members key w)) name = _
    rw [entryAt, entryAt, entryOf?_putEntry, if_neg h]
  | _ => rfl

theorem runCase_of_not_isObject {validator : Validator} {case : Value} (h : case.isObject = false) (testId : Value)
    (position : Nat) : runCase validator entries language testId position case = .error .missingPart := by
  cases case with
  | object members => cases h
  | _ => rfl

/-- A case in a form goes as the case of the single field. -/
theorem runCase_caseInForm {validator : Validator} (hsingle : isSingleField entries = true)
    (hform : isSingleField others = false) (testId : Value) (position : Nat) (case : Value) :
    runCase validator others language testId position (caseInForm case)
      = runCase validator entries language testId position case := by
  have hput : (caseInForm case).isObject = case.isObject := Value.isObject_withEntry
  cases hobject : case.isObject with
  | true =>
    rw [runCase_of_isObject (hput.trans hobject), runCase_of_isObject hobject, caseInForm,
      Value.entry?_withEntry_self hobject, Option.getD_some, asData_inForm hsingle hform,
      entryAt_withEntry_of_ne (by decide)]
  | false => rw [runCase_of_not_isObject (hput.trans hobject), runCase_of_not_isObject hobject]

/-- **A specification can be put into a form by hand**, and the inputs with it: the test goes as that of any single
field which makes the same form. -/
theorem runTest_testInForm {spec : Value} (hobject : test.isObject = true)
    (hother : other.entry? "spec" = some (.object entries))
    (hsame : ∀ key, key ≠ "spec" → other.entry? key = test.entry? key) (hsingle : isSingleField entries = true)
    (hform : Form.ofDocument registry (inForm spec) = Form.ofDocument registry (inForm (.object entries))) :
    runTest registry language (testInForm test spec) = runTest registry language other := by
  have hputSpec : Value.entry? (testInForm test spec) "spec" = some (inForm spec) := by
    rw [testInForm, Value.entry?_withEntry_of_ne (by decide), Value.entry?_withEntry_self hobject]
  have hputCases : Value.entry? (testInForm test spec) "cases"
      = some (casesInForm ((other.entry? "cases").getD (.list []))) := by
    rw [testInForm, Value.entry?_withEntry_self (Value.isObject_withEntry.trans hobject), hsame "cases" (by decide)]
  have hputId : idOf (testInForm test spec) = idOf other := by
    rw [idOf, idOf, testInForm, Value.entry?_withEntry_of_ne (by decide), Value.entry?_withEntry_of_ne (by decide),
      hsame "id" (by decide)]
  rw [runTest_eq hputSpec, runTest_eq hother, asForm_formEntries, asForm_of_single hsingle, ← hform, hputCases, hputId,
    Option.getD_some, parts_casesInForm]
  refine bind_congr_of_ok fun form _ => ?_
  cases ((other.entry? "cases").getD (.list [])).parts with
  | error f => simp only [Except.map, Except.mapError, error_bind]
  | ok cases =>
    simp only [Except.map, Except.mapError, ok_bind, List.zipIdx_map, List.mapM_map]
    refine mapM_congr fun c _ => ?_
    simp only [Function.comp_apply, Prod.map_fst, Prod.map_snd, id_eq,
      runCase_caseInForm hsingle (isSingleField_formEntries spec)]

/-! ### Repeated groups -/

/-- **A test of a repeated group goes as that of the array it stands for only if the group declares no fields.**  With
fields it is refused, because the root of a form is not repeated; the test of the array is not, as it puts the array
into a form, and this is the same form as the repeated group makes when it is put there by hand. -/
theorem runs_as_array_iff (registry : Registry) (language : Option String)
    (hspec : test.entry? "spec" = some (.object entries)) (hgroup : Value.areRepeatedGroup entries = true)
    (hflaws : Flaw.all (.object entries) = []) :
    (runTest registry language test
        = runTest registry language (test.withEntry "spec" (.object (Value.arrayEntries entries)))
      ↔ hasEntry entries "properties" = false) ∧
    (hasEntry entries "properties" = true → runTest registry language test = .error (.refused ⟨[], .rootNoGroup⟩)) ∧
    runTest registry language (testInForm test (.object entries))
      = runTest registry language (test.withEntry "spec" (.object (Value.arrayEntries entries))) := by
  have hobject : test.isObject = true := Value.isObject_of_entry? hspec
  have harraySpec : Value.entry? (test.withEntry "spec" (.object (Value.arrayEntries entries))) "spec"
      = some (.object (Value.arrayEntries entries)) := Value.entry?_withEntry_self hobject
  have hsame : ∀ key, key ≠ "spec" →
      Value.entry? (test.withEntry "spec" (.object (Value.arrayEntries entries))) key = test.entry? key :=
    fun key hkey => Value.entry?_withEntry_of_ne hkey
  have harraySingle := isSingleField_arrayEntries entries
  have hform : Form.ofDocument registry (inForm (.object (Value.arrayEntries entries)))
      = Form.ofDocument registry (inForm (.object entries)) := ofDocument_inForm_arrayEntries hgroup hflaws
  refine ⟨⟨?_, ?_⟩, runTest_of_fields hspec hgroup hflaws, ?_⟩
  · intro hruns
    rw [← Bool.not_eq_true]
    intro hfields
    rw [runTest_of_fields hspec hgroup hflaws hfields] at hruns
    cases sparesRoot_runTest harraySpec harraySingle _ hruns.symm
  · intro hfields
    have hsingle : isSingleField entries = true := by rw [isSingleField_of_repeated hgroup, hfields, Bool.not_false]
    refine runTest_congr hspec harraySpec hsame (hsingle.trans harraySingle.symm) ?_
    rw [asForm_of_single hsingle, asForm_of_single harraySingle, hform]
  · exact runTest_testInForm hobject harraySpec hsame harraySingle hform.symm

/-- Guests, each of whom has to have a name. -/
def namedGuests : List (String × Value) :=
  [("type", .text "group"), ("multiple", .bool true), ("properties", .object [
    ("name", .object [("type", .text "text"), ("rules", .object [("required", .bool true)])])])]

/-- A test of named guests, with a guest who has no name. -/
def guestTest : Value :=
  .object [("id", .text "guests"), ("spec", .object namedGuests), ("cases", .list [
    caseOf (.list [.object [("name", .text "Ann")], .object []])
      [("valid", .bool false), ("error", .text "required"), ("field", .text "value[1].name")]])]

theorem flaws_namedGuests : Flaw.all (.object namedGuests) = [] := by
  decide +kernel

/-- The test of the guests is refused; put into a form by hand it passes, as that of the array does. -/
theorem runs_as_array_iff_of_guests : guestTest.entry? "spec" = some (.object namedGuests) ∧
    Value.areRepeatedGroup namedGuests = true ∧ Flaw.all (.object namedGuests) = [] ∧
    runTest Registry.standard none guestTest = .error (.refused ⟨[], .rootNoGroup⟩) ∧
    ∃ reports, runTest Registry.standard none (testInForm guestTest (.object namedGuests)) = .ok reports ∧
      runTest Registry.standard none (guestTest.withEntry "spec" (.object (Value.arrayEntries namedGuests)))
        = .ok reports ∧
      reports.map (·.passed) = [true] := by
  have hspec : guestTest.entry? "spec" = some (.object namedGuests) := rfl
  have hgroup : Value.areRepeatedGroup namedGuests = true := by decide
  obtain ⟨_, hrefused, hbyHand⟩ := runs_as_array_iff Registry.standard none hspec hgroup flaws_namedGuests
  have hrun : ((runTest Registry.standard none (testInForm guestTest (.object namedGuests))).toOption.bind
      fun reports => some (reports.map (·.passed))) = some [true] := by
    decide +kernel
  obtain ⟨reports, hreports, hpassed⟩ := exists_eq_ok_of_bind hrun
  exact ⟨hspec, hgroup, flaws_namedGuests, hrefused rfl, reports, hreports, hbyHand.symm.trans hreports,
    Option.some.inj hpassed⟩

/-- **Not every test of a repeated group goes as that of the array**: the guests are refused, and the array of them is
not. -/
theorem not_every_test_runs_as_array : ¬ ∀ (registry : Registry) (language : Option String) (test : Value)
    (entries : List (String × Value)), test.entry? "spec" = some (.object entries) →
    Value.areRepeatedGroup entries = true →
    runTest registry language test
      = runTest registry language (test.withEntry "spec" (.object (Value.arrayEntries entries))) := by
  intro h
  have hruns := h Registry.standard none guestTest namedGuests rfl (by decide)
  rw [runTest_of_fields rfl (by decide) flaws_namedGuests rfl] at hruns
  have harray := isSingleField_arrayEntries namedGuests
  cases sparesRoot_runTest (Value.entry?_withEntry_self rfl) harray _ hruns.symm

end Corpus

end FormCheck
