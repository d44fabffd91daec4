import FormCheck.Proofs.Evaluation.Switching
import FormCheck.Proofs.Evaluation.Texts
import FormCheck.Proofs.Form.Unconditioned
import FormCheck.Proofs.Result.Assembly

/-!
# Conditions filter errors

A place that is switched off is still visited, and rules and conditions elsewhere still read what the data
holds there.  So a form with conditions says nothing but what the form without them says, and leaves some of it
out.

* `Field.visits_unconditioned` — **proved**: conditions do not change where an evaluation goes;
* `Setting.findings_unconditioned` — **proved**: nor what the rules find;
* `Form.Filters` — how a report of the form goes with the report on the same place without conditions;
* `Form.conditions_filter_errors` — **proved**: the errors of the form are those of the form without
  conditions, in the same order, less those at or below a place that is switched off.
-/

namespace FormCheck

open Fallible

/-! ### The evaluation without conditions -/

/-- The visit with the field that is there without conditions. -/
def Visit.unconditioned (v : Visit) : Visit :=
  { v with field := v.field.unconditioned }

namespace Field

/-- **Conditions do not change where an evaluation goes.** -/
theorem visits_unconditioned (field : Field) (raw : Value) :
    field.unconditioned.visits raw = (field.visits raw).map Visit.unconditioned := by
  have hvisit : Visit.unconditioned = Visit.mapInfo FieldInfo.unconditioned := by
    funext v
    rw [Visit.unconditioned, Visit.mapInfo, unconditioned_eq_mapInfo]
  rw [unconditioned_eq_mapInfo, hvisit]
  exact visits_mapInfo FieldInfo.name_unconditioned field raw

theorem fits_unconditioned (field : Field) (v : Value) : field.unconditioned.fits v = field.fits v := by
  rw [unconditioned_eq_mapInfo, fits_mapInfo]

end Field

namespace Setting

variable (s : Setting)

theorem isOff_unconditioned (field : Field) (path rest : Path) :
    s.isOff field.unconditioned path rest = .ok false := by
  induction rest generalizing field path with
  | nil =>
    rw [isOff, Field.unconditioned_info]
    rfl
  | cons step rest ih =>
    rw [isOff, Field.unconditioned_info, Field.step?_unconditioned]
    cases field.step? step with
    | none => rfl
    | some next => exact ih next _

variable {s} (hs : s.registry.LooksAtKind)

include hs

/-- **Conditions do not change what the rules of a field find.** -/
theorem findings_unconditioned (field : Field) (path : Path) (raw : Value) :
    s.findings field.unconditioned path raw = s.findings field path raw := by
  rw [Field.unconditioned_eq_mapInfo]
  exact findings_mapInfo hs FieldInfo.rules_unconditioned field path raw

/-- What the report on a place is without conditions. -/
theorem reportFrom_unconditioned_iff {path : Path} {field : Field} {v : Visit} {bare : Report} :
    s.reportFrom path false field.unconditioned v.unconditioned = .ok bare ↔
      ∃ findings, s.findings v.field (path ++ v.path) v.raw = .ok findings ∧
        bare = ⟨path ++ v.path, v.field.unconditioned, v.field.fits v.raw, false, findings⟩ := by
  rw [reportFrom_eq_ok_iff]
  show (∃ off findings, s.isOff field.unconditioned path v.path = .ok off ∧
    s.findingsUnless off v.field.unconditioned (path ++ v.path) v.raw = .ok findings ∧
    bare = ⟨path ++ v.path, v.field.unconditioned, v.field.unconditioned.fits v.raw, off, findings⟩) ↔ _
  rw [Field.fits_unconditioned, isOff_unconditioned]
  constructor
  · rintro ⟨off, findings, hoff, hfindings, hbare⟩
    cases hoff
    exact ⟨findings, (findings_unconditioned hs v.field _ v.raw).symm.trans hfindings, hbare⟩
  · rintro ⟨findings, hfindings, hbare⟩
    exact ⟨false, findings, rfl, (findings_unconditioned hs v.field _ v.raw).trans hfindings, hbare⟩

end Setting

/-! ### Reports with and without conditions -/

namespace Form

/-- The second report is the first one, made without conditions, after the form's conditions on the data: off
and without findings where the place is gated, and the same elsewhere. -/
structure Filters (form : Form) (data : Value) (bare r : Report) : Prop where
  path : r.path = bare.path
  field : bare.field = r.field.unconditioned
  present : r.present = bare.present
  /-- Without conditions nothing is off. -/
  on : bare.skipped = false
  skipped : r.skipped = form.isGated data r.path
  findings : r.findings = if form.isGated data r.path then [] else bare.findings

variable {form : Form} {s : Setting}

/-- The report on a place, from the report without conditions and the conditions on the way. -/
theorem exists_filtered (hs : s.registry.LooksAtKind) {v : Visit} {bare : Report} {off : Bool}
    (hbare : s.reportFrom [] false form.root.unconditioned v.unconditioned = .ok bare)
    (hoff : s.isOff form.root [] v.path = .ok off) :
    ∃ r, s.reportFrom [] false form.root v = .ok r ∧ form.Filters s.data bare r := by
  obtain ⟨findings, hfindings, rfl⟩ := (Setting.reportFrom_unconditioned_iff hs).mp hbare
  have hgated := isOff_root hoff
  refine ⟨⟨[] ++ v.path, v.field, v.field.fits v.raw, off, if off then [] else findings⟩, ?_, ?_⟩
  · refine s.reportFrom_eq_ok_iff.mpr ⟨off, _, hoff, ?_, rfl⟩
    cases off with
    | true => rfl
    | false => exact hfindings
  · exact ⟨rfl, rfl, rfl, rfl, hgated, by rw [hgated]; rfl⟩

end Form

/-! ### Errors -/

namespace Wording

/-- The errors of a report are those of the report without conditions, unless its place is gated. -/
theorem attempts_of_filters (w : Wording) (language : String) {form : Form} {data : Value}
    {bare r : Report} (h : form.Filters data bare r) :
    (w.errorsOf language r).map (fun e => (r.path, e.1)) =
      ((w.errorsOf language bare).map fun e => (bare.path, e.1)).filter fun e => !form.isGated data e.1 := by
  have hplace : ∀ e ∈ (w.errorsOf language bare).map fun e => (bare.path, e.1),
      form.isGated data e.1 = form.isGated data r.path := by
    intro e he
    obtain ⟨_, _, rfl⟩ := List.mem_map.mp he
    rw [h.path]
  have hskipped := h.skipped
  have hfindings := h.findings
  cases hgated : form.isGated data r.path with
  | true =>
    rw [hgated] at hskipped hplace
    rw [errorsOf, if_pos hskipped, List.map_nil]
    exact (List.filter_eq_nil_iff.mpr fun e he => by rw [hplace e he]; decide).symm
  | false =>
    rw [hgated] at hskipped hplace hfindings
    rw [List.filter_eq_self.mpr fun e he => by rw [hplace e he]; rfl, errorsOf, errorsOf, hskipped, h.on,
      h.path, hfindings, h.field, Field.unconditioned_info]
    rfl

/-- **The errors are those without conditions**, less those whose place is gated. -/
theorem located_filter {w : Wording} {language : Option String} {form : Form} {data : Value}
    {bares reports : List Report} {errors : List (Path × FieldError)}
    (h : List.Forall₂ (form.Filters data) bares reports) (herrors : w.located language bares = .ok errors) :
    w.located language reports = .ok (errors.filter fun e => !form.isGated data e.1) := by
  have hattempts : w.attempts language reports
      = (w.attempts language bares).filter fun e => !form.isGated data e.1 := by
    clear herrors
    induction h with
    | nil => rfl
    | cons hr _ ih =>
      rw [attempts, List.flatMap_cons, attempts, List.flatMap_cons, List.filter_append,
        w.attempts_of_filters (w.languageOr language) hr]
      exact congrArg _ ih
  rw [located, hattempts]
  refine mapM_filter_eq_ok herrors fun e located he => ?_
  obtain ⟨error, _, rfl⟩ := map_eq_ok_iff.mp he
  rfl

end Wording

namespace Form

theorem Filters.paths {form : Form} {data : Value} {bares reports : List Report}
    (h : List.Forall₂ (form.Filters data) bares reports) :
    reports.map Report.path = bares.map Report.path := by
  induction h with
  | nil => rfl
  | cons hr _ ih => rw [List.map_cons, List.map_cons, hr.path, ih]

/-- **Conditions filter errors.**  Take a document that describes a form, and the same document without
conditions: it describes a form too.  Over data on which the latter can be evaluated, and the conditions of
the former have an answer, both report on the same places; each report without conditions is turned off
where the place is gated, and is the same elsewhere; and the errors are those without conditions, in the same
order, less those whose place is gated.  The rules of the registry are taken to see no more of a field than its kind, as
the standard ones do. -/
theorem conditions_filter_errors {compiled : Registry} {document : Value} {form : Form}
    (hkeys : document.keysOnce = true) (hform : Form.ofDocument compiled document = .ok form) :
    ∃ bare, Form.ofDocument compiled document.unconditioned = .ok bare ∧
      ∀ (s : Setting) (bares : List Report), s.registry.LooksAtKind →
        bare.evaluate s.registry s.implicitNumber s.data s.language = .ok bares →
        (∀ p field c, form.Reaches s.data p →
          (∀ q, q <+: p → q ≠ p → ¬ form.SwitchesOff s.data q) → form.fieldAt? p = some field →
          field.info.condition = some c → ∃ b, c.holds (Comparison.valueAt s.data p) = .ok b) →
        ∃ reports, form.evaluate s.registry s.implicitNumber s.data s.language = .ok reports ∧
          reports.map Report.path = bares.map Report.path ∧
          List.Forall₂ (form.Filters s.data) bares reports ∧
          ∀ (w : Wording) (shown : Option String),
            (w.assemble bares shown).1 = (w.located shown bares).map (fun errors => ⟨errors.map (·.2)⟩) ∧
            ∀ errors, w.located shown bares = .ok errors →
              (w.assemble reports shown).1
                = .ok ⟨(errors.filter fun e => !form.isGated s.data e.1).map (·.2)⟩ := by
  have hplaced := Form.root_placed hkeys hform
  refine ⟨form.unconditioned, Form.ofDocument_unconditioned hform, fun s bares hs hbares hconditions => ?_⟩
  have hbare : form.unconditioned.root.Placed [] := hplaced.unconditioned
  rw [evaluate_eq_mapM hbare] at hbares
  rw [evaluate_eq_mapM hplaced]
  have hvisits : form.unconditioned.root.visits s.data = (form.root.visits s.data).map Visit.unconditioned :=
    Field.visits_unconditioned form.root s.data
  rw [hvisits, mapM_eq_ok_iff, List.forall₂_map_left_iff] at hbares
  have hmem := (List.forall₂_and_left (p := (· ∈ form.root.visits s.data)) _ _).mpr ⟨fun v hv => hv, hbares⟩
  have hall := hmem.imp fun v bare (hv : v ∈ form.root.visits s.data ∧ _) =>
    exists_filtered hs hv.2 (exists_isOff_root hplaced hconditions hv.1).choose_spec
  obtain ⟨reports, hreports, hfilters⟩ := exists_mapM_of_forall₂ hall
  refine ⟨reports, hreports, Filters.paths hfilters, hfilters, fun w shown => ⟨w.assemble_eq_located shown bares, ?_⟩⟩
  intro errors herrors
  rw [w.assemble_eq_located, Wording.located_filter hfilters herrors]
  rfl

/-- A form for a delivery, which counts only where a courier is asked for, and which the address to confirm
has to match all the same. -/
def delivery : Value :=
  .object [("type", .text "group"), ("properties", .object [
    ("courier", .object [("type", .text "text")]),
    ("delivery", .object [("type", .text "group"),
      ("condition", .object [("path", .text "courier"), ("equals", .text "yes")]),
      ("properties", .object [
        ("street", .object [("type", .text "text"), ("rules", .object [("required", .bool true)])]),
        ("parcels", .object [("type", .text "array"), ("items", .object [("type", .text "group"),
          ("properties", .object [
            ("weight", .object [("type", .text "number"),
              ("rules", .object [("required", .bool true)])])])])])])]),
    ("confirmed", .object [("type", .text "text"),
      ("rules", .object [("match", .text "delivery.street")])])])]

/-- No courier, and a parcel without a weight. -/
def oneParcel : Value :=
  .object [("courier", .text "no"), ("delivery", .object [("parcels", .list [.object []])]),
    ("confirmed", .text "Main Road")]

/-- The condition of the field at a place, if there is one, has an answer. -/
def answersAt (form : Form) (data : Value) (p : Path) : Bool :=
  match (form.fieldAt? p).bind (·.info.condition) with
  | none => true
  | some c => (c.holds (Comparison.valueAt data p)).toOption.isSome

theorem exists_holds_of_answersAt {form : Form} {data : Value} {p : Path} {field : Field} {c : Condition}
    (h : form.answersAt data p = true) (hfield : form.fieldAt? p = some field)
    (hcondition : field.info.condition = some c) : ∃ b, c.holds (Comparison.valueAt data p) = .ok b := by
  rw [answersAt, hfield, Option.bind_some, hcondition] at h
  change (c.holds (Comparison.valueAt data p)).toOption.isSome = true at h
  cases hholds : c.holds (Comparison.valueAt data p) with
  | ok b => exact ⟨b, rfl⟩
  | error e => rw [hholds] at h; cases h

/-- Without a courier, the errors in the delivery do not count, and that of the address to confirm does. -/
theorem conditions_filter_delivery : ∃ form bare reports bares,
    Form.ofDocument Registry.standard delivery = .ok form ∧
    Form.ofDocument Registry.standard delivery.unconditioned = .ok bare ∧
    form.evaluate Registry.standard true oneParcel none = .ok reports ∧
    bare.evaluate Registry.standard true oneParcel none = .ok bares ∧
    (Wording.assemble ⟨none, "en"⟩ reports none).1.map (·.errors.map FieldError.path) = .ok ["confirmed"] ∧
    ∃ errors, Wording.located ⟨none, "en"⟩ none bares = .ok errors ∧
      errors.map (·.2.path) = ["delivery.street", "delivery.parcels[0].weight", "confirmed"] ∧
      (Wording.assemble ⟨none, "en"⟩ reports none).1
        = .ok ⟨(errors.filter fun e => !form.isGated oneParcel e.1).map (·.2)⟩ := by
  have hrun : ((Form.ofDocument Registry.standard delivery).toOption.bind fun form =>
      (form.evaluate Registry.standard true oneParcel none).toOption.bind fun reports =>
        (Wording.assemble ⟨none, "en"⟩ reports none).1.toOption.bind fun result =>
          some (result.errors.map FieldError.path, (reports.map Report.path).all (form.answersAt oneParcel)))
      = some (["confirmed"], true) := by
    decide +kernel
  have hbareRun : ((Form.ofDocument Registry.standard delivery.unconditioned).toOption.bind fun bare =>
      (bare.evaluate Registry.standard true oneParcel none).toOption.bind fun bares =>
        (Wording.located ⟨none, "en"⟩ none bares).toOption.bind fun errors => some (errors.map (·.2.path))) =
      some ["delivery.street", "delivery.parcels[0].weight", "confirmed"] := by
    decide +kernel
  obtain ⟨form, hform, hrun⟩ := exists_eq_ok_of_bind hrun
  obtain ⟨reports, hreports, hrun⟩ := exists_eq_ok_of_bind hrun
  obtain ⟨result, hresult, hrun⟩ := exists_eq_ok_of_bind hrun
  obtain ⟨hpaths, hanswers⟩ := Prod.mk.inj (Option.some.inj hrun)
  obtain ⟨bare, hbare, hbareRun⟩ := exists_eq_ok_of_bind hbareRun
  obtain ⟨bares, hbares, hbareRun⟩ := exists_eq_ok_of_bind hbareRun
  obtain ⟨errors, herrors, hbarePaths⟩ := exists_eq_ok_of_bind hbareRun
  have hkeys : delivery.keysOnce = true := by decide +kernel
  obtain ⟨found, hfound, hfilter⟩ := conditions_filter_errors hkeys hform
  obtain rfl : found = bare := Except.ok.inj (hfound.symm.trans hbare)
  have hconditions : ∀ p field c, form.Reaches oneParcel p →
      (∀ q, q <+: p → q ≠ p → ¬ form.SwitchesOff oneParcel q) → form.fieldAt? p = some field →
      field.info.condition = some c → ∃ b, c.holds (Comparison.valueAt oneParcel p) = .ok b := by
    intro p field c hp _ hfield hcondition
    have hmem := (mem_reports_iff_reaches (Form.root_placed hkeys hform) hreports).mpr hp
    exact exists_holds_of_answersAt (List.all_eq_true.mp hanswers p hmem) hfield hcondition
  obtain ⟨filtered, hfiltered, _, _, hwords⟩ :=
    hfilter ⟨Registry.standard, true, oneParcel, none⟩ bares Registry.standard_looksAtKind hbares hconditions
  obtain rfl : filtered = reports := Except.ok.inj (hfiltered.symm.trans hreports)
  refine ⟨form, found, filtered, bares, hform, hbare, hreports, hbares, ?_, errors, herrors, Option.some.inj hbarePaths,
    (hwords ⟨none, "en"⟩ none).2 errors herrors⟩
  rw [hresult, ← hpaths]
  rfl

end Form

end FormCheck
