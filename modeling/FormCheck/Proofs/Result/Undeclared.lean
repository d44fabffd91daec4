import FormCheck.Proofs.Evaluation.Undeclared
import FormCheck.Proofs.Message.Mention
import FormCheck.Proofs.Result.Validation

/-!
# Undeclared keys and the errors of a validation

A result tells the places of the errors, the rules and the messages.  With an undeclared key in the data it tells the
same, as long as nothing looks at the objects and lists that hold the key.

* `Result.told` — what a result tells;
* `Validator.wordsPast` — the messages about the places on the way to a key do not mention the values there;
* `Validator.ignores_undeclared` — **proved**: where a form overlooks what stands on the way to an undeclared key, and
  the messages do so too, a validation tells the same with the key and without it;
* `Validator.not_every_undeclared_key_is_ignored` — **proved**: elsewhere a key may make data valid or invalid.
-/

namespace FormCheck

open Fallible

/-- What is told about an error: its place, the rule, and the message. -/
def FieldError.told (e : FieldError) : String × String × String :=
  (e.path, e.rule, e.message)

/-- What a result tells: whether the data is valid, and about each error. -/
def Result.told (result : Result) : Bool × List (String × String × String) :=
  (result.isValid, result.errors.map FieldError.told)

namespace Wording

variable {w : Wording} {data : Value}

/-- The message about a finding does not depend on the value: it does not mention it, and there is one about the other
value exactly if there is one about this value. -/
def SaysAlike (w : Wording) (language : String) (info : FieldInfo) (finding : Finding) (v : Value) : Prop :=
  w.mentionsValue language info finding = false ∧ ((finding.withValue v).HasLongNumber ↔ finding.HasLongNumber)

/-- An error about another value is told alike, unless the message depends on the value. -/
theorem told_errorsOf_withData {language : String} {r : Report}
    (h : ∀ finding ∈ r.findings, finding.value = r.field.seen (data.follow r.path) ∨
      w.SaysAlike language r.field.info finding (r.field.seen (data.follow r.path))) :
    (w.errorsOf language (r.withData data)).map (·.1.map FieldError.told)
      = (w.errorsOf language r).map (·.1.map FieldError.told) := by
  rw [errorsOf, errorsOf]
  show List.map _ (if r.skipped then [] else (r.findings.map _).map (w.errorOf language r.field.info)) = _
  cases r.skipped with
  | true => rfl
  | false =>
    rw [if_neg Bool.false_ne_true, if_neg Bool.false_ne_true, List.map_map, List.map_map, List.map_map]
    refine List.map_congr_left fun finding hfinding => ?_
    show (w.errorOf language r.field.info (finding.withValue _)).1.map _ = (w.errorOf language r.field.info finding).1.map _
    rcases h finding hfinding with hvalue | ⟨hmentions, hwritten⟩
    · rw [← hvalue]
      rfl
    · rw [errorOf_withValue hmentions hwritten]
      cases (w.errorOf language r.field.info finding).1 <;> rfl

theorem map_told_assemble (language : Option String) (reports : List Report) :
    (w.assemble reports language).1.map Result.told
      = ((reports.flatMap fun r => (w.errorsOf (w.languageOr language) r).map
          fun e : Except Fault FieldError × List Question => e.1.map FieldError.told).mapM id).map
            fun told => (told.isEmpty, told) := by
  rw [← List.map_flatMap, List.mapM_map]
  show Except.map _ ((collect (reports.flatMap (w.errorsOf (w.languageOr language)))).1.map Result.mk) = _
  have hmap := map_mapM (fun e : Except Fault FieldError × List Question => e.1) FieldError.told
    (reports.flatMap (w.errorsOf (w.languageOr language)))
  rw [collect_fst]
  show _ = Except.map _ (List.mapM (fun e : Except Fault FieldError × List Question => e.1.map FieldError.told) _)
  rw [← hmap]
  cases hall : (reports.flatMap (w.errorsOf (w.languageOr language))).mapM (·.1) with
  | error f => rfl
  | ok errors => exact congrArg Except.ok (Prod.ext List.isEmpty_map.symm rfl)

/-- Reports on other values amount to errors that are told alike, unless a message depends on a value that is
another one. -/
theorem told_assemble_withData {language : Option String} {reports : List Report}
    (h : ∀ r ∈ reports, ∀ finding ∈ r.findings, finding.value = r.field.seen (data.follow r.path) ∨
      w.SaysAlike (w.languageOr language) r.field.info finding (r.field.seen (data.follow r.path))) :
    (w.assemble (reports.map (Report.withData data)) language).1.map Result.told
      = (w.assemble reports language).1.map Result.told := by
  rw [map_told_assemble, map_told_assemble, List.flatMap_map]
  exact congrArg (fun told => Except.map _ (List.mapM id told))
    (List.flatMap_congr fun r hr => told_errorsOf_withData (h r hr))

end Wording

/-- The value in a finding is the one that the data holds at the place of the report. -/
theorem Form.value_of_mem_findings {form : Form} {registry : Registry} {implicitNumber : Bool} {data : Value}
    {language : Option String} {reports : List Report} (hplaced : form.root.Placed [])
    (h : form.evaluate registry implicitNumber data language = .ok reports) {r : Report} (hr : r ∈ reports)
    {finding : Finding} (hfinding : finding ∈ r.findings) :
    form.root.at? r.path = some r.field ∧ finding.value = r.field.seen (data.follow r.path) := by
  obtain ⟨v, hv, hreport⟩ := exists_visit_of_mem hplaced h hr
  have hat := Field.at?_of_mem_visits hplaced hv
  have hraw := Field.follow_of_mem_visits hv
  rcases Setting.findings_of_reportFrom _ hreport with ⟨_, hnone⟩ | ⟨_, found, hfound, hall⟩
  · rw [hnone] at hfinding
    cases hfinding
  · obtain ⟨_, _, _, _, rfl⟩ := (Setting.reportFrom_eq_ok_iff _).mp hreport
    refine ⟨hat, ?_⟩
    rw [hall, Option.mem_toList] at hfinding
    cases hfinding
    obtain ⟨_, _, _, _, _, _, _, _, rfl⟩ := (Setting.firstFinding_eq_some_iff _).mp hfound
    show v.field.seen v.raw = v.field.seen (data.follow v.path)
    rw [hraw]

namespace Validator

/-- The messages of the errors at the places on the way to `p` do not mention the values there; and if the value that is
to be added cannot be written, then there were no messages before. -/
def WordsPast (validator : Validator) (data : Value) (language : Option String) (value : Value) (p : Path) : Prop :=
  ∀ reports, validator.form.evaluate validator.registry validator.implicitNumber data
      (some (validator.wording.languageOr language)) = .ok reports →
    ∀ r ∈ reports, r.path <+: p → ∀ finding ∈ r.findings,
      validator.wording.mentionsValue (validator.wording.languageOr language) r.field.info finding = false ∧
        (value.HasLongNumber → finding.HasLongNumber)

variable {validator : Validator} {key : String} {value data grown : Value} {p : Path} {document : Value}

theorem told_validate (validator : Validator) (data : Value) (language : Option String) :
    (validator.validate data language).map (·.1.told)
      = (validator.form.evaluate validator.registry validator.implicitNumber data
          (some (validator.wording.languageOr language)) >>= fun reports =>
        (validator.wording.assemble reports (some (validator.wording.languageOr language))).1).map Result.told := by
  rw [← map_fst_validate]
  cases validator.validate data language <;> rfl

/-- **A validation tells the same with an undeclared key and without it**, where the form and the messages overlook
what stands on the way to the key. -/
theorem ignores_undeclared (hkeys : document.keysOnce = true) (hregistry : validator.registry = Registry.standard)
    (hform : Form.ofDocument Registry.standard document = .ok validator.form)
    (h : validator.form.GainsUndeclared key value p data grown) (hover : validator.form.Overlooks data p)
    {language : Option String} (hwords : validator.WordsPast data language value p) :
    (validator.validate grown language).map (·.1.told) = (validator.validate data language).map (·.1.told) := by
  have hplaced := Form.root_placed hkeys hform
  rw [WordsPast] at hwords
  rw [told_validate, told_validate]
  rw [hregistry] at hwords ⊢
  rw [Form.evaluate_grown hkeys hform h hover]
  cases hreports : validator.form.evaluate Registry.standard validator.implicitNumber data
      (some (validator.wording.languageOr language)) with
  | error f => rfl
  | ok reports =>
    refine Wording.told_assemble_withData fun r hr finding hfinding => ?_
    obtain ⟨hat, hvalue⟩ := Form.value_of_mem_findings hplaced hreports hr hfinding
    by_cases hway : r.path <+: p
    · obtain ⟨hmentions, hwritten⟩ := hwords reports hreports r hr hway finding hfinding
      obtain ⟨hbefore, hafter⟩ := h.hasLongNumber_seen hway r.field
      rw [← hvalue] at hbefore hafter
      rw [Wording.languageOr_languageOr]
      refine .inr ⟨hmentions, ?_, Or.imp_left hbefore⟩
      rintro (hlong | hrest)
      · exact (hafter hlong).elim .inl hwritten
      · exact .inr hrest
    · exact .inl (by rw [hvalue, h.follow_eq hat hway])

/-- A form for guests with their addresses.  There have to be three of them, and a meal if there are any. -/
def party : Value :=
  .object [("type", .text "group"), ("properties", .object [
    ("guests", .object [("type", .text "array"), ("rules", .object [("mincount", .int 3)]),
      ("items", .object [("type", .text "group"), ("properties", .object [
        ("name", .object [("type", .text "text"), ("rules", .object [("required", .bool true)])]),
        ("address", .object [("type", .text "group"), ("properties", .object [
          ("city", .object [("type", .text "text")])])])])])]),
    ("meal", .object [("type", .text "text"), ("rules", .object [("required", .bool true)]),
      ("condition", .object [("path", .text "guests"), ("empty", .bool false)])])])]

/-- Two guests, the first one with an address and the second one without a name. -/
def twoNeighbours (address : List (String × Value)) : Value :=
  .object [("guests", .list [
    .object [("name", .text "Ann"), ("address", .object address)],
    .object [("address", .object [])]])]

/-- The address of the first guest. -/
def firstAddress : Path := [.name "guests", .index 0, .name "address"]

/-- The two guests, with a city in the address. -/
def knownCity : Value :=
  twoNeighbours [("city", .text "Berlin")]

/-- The same, with a code in the address. -/
def knownCode : Value :=
  twoNeighbours [("city", .text "Berlin"), ("zip", .int 10115)]

theorem gains_knownCode : Value.Gains "zip" (.int 10115) firstAddress knownCity knownCode := by
  refine @Value.Gains.entry _ _ "guests" _ [] [] _ _ (List.forall_mem_nil _) ?_
  refine @Value.Gains.member _ _ _ [] [.object [("address", .object [])]] _ _ ?_
  refine @Value.Gains.entry _ _ "address" _ [("name", .text "Ann")] [] _ _ (by decide) ?_
  exact @Value.Gains.here _ _ [("city", .text "Berlin")] [] (by decide)

/-- The errors that are told at the party. -/
def partyErrors : List (String × String × String) :=
  [("guests", "mincount", "Please select at least 3 items"), ("guests[1].name", "required", "name is required"),
    ("meal", "required", "meal is required")]

/-- With a code in the address of the first guest, of which the form knows nothing, the same three errors are told as
without it. -/
theorem ignores_undeclared_at_party : ∃ form, Form.ofDocument Registry.standard party = .ok form ∧
    form.GainsUndeclared "zip" (.int 10115) firstAddress knownCity knownCode ∧
    form.Overlooks knownCity firstAddress ∧ (plain form).WordsPast knownCity none (.int 10115) firstAddress ∧
    ((plain form).validate knownCity none).map (·.1.told) = .ok (false, partyErrors) ∧
    ((plain form).validate knownCode none).map (·.1.told) = .ok (false, partyErrors) := by
  have hrun : ((Form.ofDocument Registry.standard party).toOption.bind fun form =>
      (form.evaluate Registry.standard true knownCity (some usualLanguage)).toOption.bind fun reports =>
        (((plain form).wording.assemble reports (some usualLanguage)).1.map Result.told).toOption.bind fun told =>
          some (told, form.namesAt? firstAddress, decide (form.Overlooks knownCity firstAddress),
            reports.all fun r => r.findings.all fun finding =>
              !(plain form).wording.mentionsValue usualLanguage r.field.info finding)) =
      some ((false, partyErrors), some ["city"], true, true) := by
    decide +kernel
  obtain ⟨form, hform, hrun⟩ := exists_eq_ok_of_bind hrun
  obtain ⟨reports, hreports, hrun⟩ := exists_eq_ok_of_bind hrun
  obtain ⟨told, htold, hfound⟩ := exists_eq_ok_of_bind hrun
  obtain ⟨rfl, hparts⟩ := Prod.mk.inj (Option.some.inj hfound)
  obtain ⟨hnames, hfound⟩ := Prod.mk.inj hparts
  obtain ⟨hover, hmentions⟩ := Prod.mk.inj hfound
  have hgains : form.GainsUndeclared "zip" (.int 10115) firstAddress knownCity knownCode :=
    ⟨gains_knownCode, _, hnames, by decide⟩
  have hover : form.Overlooks knownCity firstAddress := of_decide_eq_true hover
  have hwords : (plain form).WordsPast knownCity none (.int 10115) firstAddress := by
    intro same hsame r hr _ finding hfinding
    obtain rfl := Except.ok.inj (hreports.symm.trans hsame)
    have hfinding := List.all_eq_true.mp (List.all_eq_true.mp hmentions r hr) finding hfinding
    exact ⟨(Bool.not_eq_true' _).mp hfinding, fun hlong => absurd hlong (by decide +kernel)⟩
  have hcity : ((plain form).validate knownCity none).map (·.1.told) = .ok (false, partyErrors) := by
    rw [told_validate]
    show Except.map _ (form.evaluate Registry.standard true knownCity (some usualLanguage) >>= _) = _
    rw [hreports]
    exact htold
  refine ⟨form, hform, hgains, hover, hwords, hcity, ?_⟩
  rw [ignores_undeclared (by decide +kernel) rfl hform hgains hover hwords, hcity]

/-- A form for a group that has to be given, and for pairs of which no two may be alike. -/
def askedGroup : Value :=
  .object [("type", .text "group"), ("properties", .object [
    ("g", .object [("type", .text "group"), ("rules", .object [("required", .bool true)]),
      ("properties", .object [("a", .object [("type", .text "text")])])]),
    ("pairs", .object [("type", .text "array"), ("rules", .object [("unique", .bool true)]),
      ("items", .object [("type", .text "group"), ("properties", .object [
        ("a", .object [("type", .text "text")])])])])])]

/-- What is told about the group and the pairs in some data. -/
def askedGroupTold? (data : List (String × Value)) : Option (Bool × List (String × String × String)) :=
  (Form.ofDocument Registry.standard askedGroup).toOption.bind fun form =>
    ((plain form).validate (.object data) none).toOption.map (·.1.told)

theorem told_of_askedGroupTold? {form : Form} (hform : Form.ofDocument Registry.standard askedGroup = .ok form)
    {data : List (String × Value)} {told : Bool × List (String × String × String)}
    (h : askedGroupTold? data = some told) :
    ((plain form).validate (.object data) none).map (·.1.told) = .ok told := by
  rw [askedGroupTold?, hform] at h
  obtain ⟨outcome, houtcome, rfl⟩ := Option.map_eq_some_iff.mp (show _ = some told from h)
  cases hvalidate : (plain form).validate (.object data) none with
  | error f => rw [hvalidate] at houtcome; cases houtcome
  | ok found =>
    rw [hvalidate] at houtcome
    cases houtcome
    rfl

/-- **Not every undeclared key is ignored.**  A group that has to be given is not given as long as its object is empty,
and it is with a key of which the form knows nothing; and two pairs are alike until one of them gets such a key. -/
theorem not_every_undeclared_key_is_ignored : ∃ form, Form.ofDocument Registry.standard askedGroup = .ok form ∧
    (form.GainsUndeclared "zzz" (.int 1) [.name "g"] (.object [("g", .object [])])
        (.object [("g", .object [("zzz", .int 1)])]) ∧
      ((plain form).validate (.object [("g", .object [])]) none).map (·.1.told)
        = .ok (false, [("g", "required", "g is required")]) ∧
      ((plain form).validate (.object [("g", .object [("zzz", .int 1)])]) none).map (·.1.told)
        = .ok (true, [])) ∧
    ∃ alike unlike, form.GainsUndeclared "zzz" (.int 1) [.name "pairs", .index 0] (.object alike) (.object unlike) ∧
      ((plain form).validate (.object alike) none).map (·.1.told)
        = .ok (false, [("pairs", "unique", "Duplicate values are not allowed")]) ∧
      ((plain form).validate (.object unlike) none).map (·.1.told) = .ok (true, []) := by
  have hrun : ((Form.ofDocument Registry.standard askedGroup).toOption.bind fun form =>
      some (form.namesAt? [.name "g"], form.namesAt? [.name "pairs", .index 0])) =
      some (some ["a"], some ["a"]) := by
    decide +kernel
  obtain ⟨form, hform, hnames⟩ := exists_eq_ok_of_bind hrun
  obtain ⟨hgroup, hpair⟩ := Prod.mk.inj (Option.some.inj hnames)
  refine ⟨form, hform, ⟨⟨?_, _, hgroup, by decide⟩, ?_, ?_⟩, ?_⟩
  · refine @Value.Gains.entry _ _ "g" _ [] [] _ _ (List.forall_mem_nil _) ?_
    exact @Value.Gains.here _ _ [] [] (List.forall_mem_nil _)
  · exact told_of_askedGroupTold? hform (by decide +kernel)
  · exact told_of_askedGroupTold? hform (by decide +kernel)
  · refine ⟨[("g", .object [("a", .text "x")]), ("pairs", .list [.object [], .object []])],
      [("g", .object [("a", .text "x")]), ("pairs", .list [.object [("zzz", .int 1)], .object []])],
      ⟨?_, _, hpair, by decide⟩, ?_, ?_⟩
    · refine @Value.Gains.entry _ _ "pairs" _ [("g", .object [("a", .text "x")])] [] _ _ (by decide) ?_
      refine @Value.Gains.member _ _ _ [] [.object []] _ _ ?_
      exact @Value.Gains.here _ _ [] [] (List.forall_mem_nil _)
    · exact told_of_askedGroupTold? hform (by decide +kernel)
    · exact told_of_askedGroupTold? hform (by decide +kernel)

end Validator

end FormCheck
