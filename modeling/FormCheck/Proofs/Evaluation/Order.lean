import FormCheck.Proofs.Evaluation.Findings
import FormCheck.Proofs.Result.Assembly
import Mathlib.Data.List.Sort

/-!
# The order of reports and errors

Places are compared step by step, names by where the group declares them and elements by their indices, and a
place comes before all that lie below it.

* `Field.ranks` — the numbers that a place is compared by;
* `Form.Before` — the order of places that they give;
* `Field.visits_increasing` — **proved**: an evaluation comes to later and later places;
* `Form.failedAt` — the places with findings, in the order of the reports;
* `Form.evaluate_in_order` — **proved**: an evaluation reports on each place of the form over the data once
  and in order, the errors of the result follow, and the result is valid exactly when there are none.
-/

namespace FormCheck

open Fallible

namespace Field

/-! ### Ranks -/

/-- The number of a step from a field: for a name the position of its declaration, for an element the
index. -/
def rank (field : Field) : Segment → Nat
  | .name s => (field.parts.map Field.name).idxOf s
  | .index n => n.toNat
  | .each => 0

/-- The numbers of the steps of a place below a field. -/
def ranks : Field → Path → List Nat
  | _, [] => []
  | field, s :: rest =>
    field.rank s :: match field.step? s with
      | some next => next.ranks rest
      | none => []

theorem ranks_cons {field next : Field} {s : Segment} (h : field.step? s = some next) (rest : Path) :
    field.ranks (s :: rest) = field.rank s :: next.ranks rest := by
  rw [ranks, h]

/-! ### Visits -/

/-- In a list without repetitions the positions increase. -/
theorem pairwise_idxOf {names : List String} (h : names.Nodup) :
    names.Pairwise fun a b => names.idxOf a < names.idxOf b := by
  rw [List.pairwise_iff_getElem]
  intro i j hi hj hij
  rw [h.idxOf_getElem i hi, h.idxOf_getElem j hj]
  exact hij

theorem pairwise_zipIdx (items : List Value) : items.zipIdx.Pairwise fun a b => a.2 < b.2 := by
  have hmap : (items.zipIdx.map (·.2)).Pairwise (· < ·) := by
    rw [List.zipIdx_map_snd]
    exact List.pairwise_lt_range' 1
  exact List.pairwise_map.mp hmap

/-- The visits below one step stand in the order in which they stand below the next field. -/
theorem under_increasing {field next : Field} {s : Segment} (hs : field.step? s = some next)
    {visits : List Visit} (h : visits.Pairwise fun v w => next.ranks v.path < next.ranks w.path) :
    (visits.map (Visit.under s)).Pairwise fun v w => field.ranks v.path < field.ranks w.path := by
  rw [List.pairwise_map]
  refine h.imp fun {v w} hvw => ?_
  rw [Visit.under_path, Visit.under_path, ranks_cons hs, ranks_cons hs, List.cons_lt_cons_iff]
  exact .inr ⟨rfl, hvw⟩

/-- Visits below a step come before those below a step of a greater number. -/
theorem under_lt_under {field next other : Field} {s t : Segment} (hs : field.step? s = some next)
    (ht : field.step? t = some other) (hlt : field.rank s < field.rank t) {visits more : List Visit} :
    ∀ v ∈ visits.map (Visit.under s), ∀ w ∈ more.map (Visit.under t),
      field.ranks v.path < field.ranks w.path := by
  intro v hv w hw
  obtain ⟨v, _, rfl⟩ := List.mem_map.mp hv
  obtain ⟨w, _, rfl⟩ := List.mem_map.mp hw
  rw [Visit.under_path, Visit.under_path, ranks_cons hs, ranks_cons ht, List.cons_lt_cons_iff]
  exact .inl hlt

/-- **An evaluation comes to later and later places.** -/
theorem visits_increasing {place : Path} {field : Field} (hplaced : field.Placed place) (raw : Value) :
    (field.visits raw).Pairwise fun v w => field.ranks v.path < field.ranks w.path := by
  induction hplaced generalizing raw with
  | leaf _ => exact List.pairwise_singleton _ _
  | @group _ info children _ hnames _ ih =>
    rw [visits, visitsOfAll_eq_flatMap, List.pairwise_cons, List.pairwise_flatMap]
    have hstep : ∀ c ∈ children, (Field.group info children).step? (.name c.name) = some c :=
      fun c hc => child?_eq_some info hnames hc
    refine ⟨?_, fun c hc => under_increasing (hstep c hc) (ih c hc _), ?_⟩
    · intro v hv
      obtain ⟨c, _, hv⟩ := List.mem_flatMap.mp hv
      obtain ⟨v, _, rfl⟩ := List.mem_map.mp hv
      exact List.nil_lt_cons _ _
    · have hpositions := List.pairwise_map.mp (pairwise_idxOf hnames)
      refine hpositions.imp_of_mem fun {c d} hc hd hcd => ?_
      exact under_lt_under (hstep c hc) (hstep d hd) hcd
  | @array _ info item _ _ ih =>
    rw [visits, List.pairwise_cons, List.pairwise_flatMap]
    have hstep : ∀ i : Nat, (Field.array info item).step? (.index i) = some item := fun _ => rfl
    refine ⟨?_, fun e _ => under_increasing (hstep e.2) (ih e.1), ?_⟩
    · intro v hv
      obtain ⟨e, _, hv⟩ := List.mem_flatMap.mp hv
      obtain ⟨v, _, rfl⟩ := List.mem_map.mp hv
      exact List.nil_lt_cons _ _
    · refine (pairwise_zipIdx _).imp fun {a b} hab => ?_
      exact under_lt_under (hstep a.2) (hstep b.2) hab

end Field

/-! ### Reports and errors -/

namespace Form

/-- The one place comes before the other one. -/
def Before (form : Form) (p q : Path) : Prop :=
  form.root.ranks p < form.root.ranks q

theorem Before.ne {form : Form} {p q : Path} (h : form.Before p q) : p ≠ q := by
  rintro rfl
  exact List.lt_irrefl _ h

/-- The places with findings, in the order of the reports. -/
def failedAt (reports : List Report) : List Path :=
  (reports.filter fun r => !r.findings.isEmpty).map Report.path

variable {form : Form} {registry : Registry} {implicitNumber : Bool} {data : Value}
  {language : Option String} {reports : List Report}

theorem paths_increasing (hplaced : form.root.Placed [])
    (h : form.evaluate registry implicitNumber data language = .ok reports) :
    (reports.map Report.path).Pairwise form.Before := by
  rw [paths_of_evaluate hplaced h, List.pairwise_map]
  exact Field.visits_increasing hplaced data

/-- Reports in order are the same list if they are the same reports. -/
theorem reports_ext {xs ys : List Report} (hxs : (xs.map Report.path).Pairwise form.Before)
    (hys : (ys.map Report.path).Pairwise form.Before) (h : ∀ r, r ∈ xs ↔ r ∈ ys) : xs = ys := by
  let before : Report → Report → Prop := fun r t => form.Before r.path t.path
  have hirrefl : Std.Irrefl before := ⟨fun r hr => hr.ne rfl⟩
  have hantisymm : Std.Antisymm before := ⟨fun r t hrt htr => absurd (List.lt_trans hrt htr) (List.lt_irrefl _)⟩
  exact (List.pairwise_map.mp hxs : xs.Pairwise before).eq_of_mem_iff (List.pairwise_map.mp hys) h

theorem failedAt_sublist (reports : List Report) :
    (failedAt reports).Sublist (reports.map Report.path) :=
  List.filter_sublist.map Report.path

theorem failedAt_eq_nil_iff : failedAt reports = [] ↔ ∀ r ∈ reports, r.findings = [] := by
  rw [failedAt, List.map_eq_nil_iff, List.filter_eq_nil_iff]
  simp

theorem findsOneAtMost (hplaced : form.root.Placed [])
    (h : form.evaluate registry implicitNumber data language = .ok reports) : ∀ r ∈ reports, r.FindsOneAtMost := by
  intro r hr
  obtain ⟨v, _, hv⟩ := exists_visit_of_mem hplaced h hr
  exact Setting.findsOneAtMost_of_reportFrom _ hv

/-- Reports with one finding at most tell of the findings at the places with findings. -/
theorem told_paths (h : ∀ r ∈ reports, r.FindsOneAtMost) :
    (reports.flatMap Report.told).map (·.2.path) = failedAt reports := by
  induction reports with
  | nil => rfl
  | cons r reports ih =>
    rw [List.forall_mem_cons] at h
    have hown : r.told.map (·.2.path) = if !r.findings.isEmpty then [r.path] else [] := by
      rw [Report.told]
      rcases h.1 with hnone | ⟨hon, finding, hone, hpath⟩
      · rw [hnone, List.map_nil, ite_self]
        rfl
      · rw [hone, hon, ← hpath]
        rfl
    rw [List.flatMap_cons, List.map_append, ih h.2, hown, failedAt, failedAt, List.filter_cons]
    split <;> rfl

theorem errors_of_reports {w : Wording} {language : Option String} {result : Result}
    (h : ∀ r ∈ reports, r.FindsOneAtMost) (hresult : (w.assemble reports language).1 = .ok result) :
    result.errors.map FieldError.path = (failedAt reports).map Path.text := by
  rw [Wording.map_errors_of_assemble (g := fun finding => finding.path.text) hresult fun _ _ => rfl, ← told_paths h,
    List.map_map]
  rfl

theorem isValid_iff_failedAt {result : Result}
    (h : result.errors.map FieldError.path = (failedAt reports).map Path.text) :
    result.isValid = true ↔ failedAt reports = [] := by
  rw [Result.isValid, List.isEmpty_iff, ← List.map_eq_nil_iff (f := FieldError.path), h, List.map_eq_nil_iff]

/-- **Reports and errors stand in the order of the places.**  The reports are on the places of the form over
the data, on each once and in order; with every wording the errors are at the places with findings, in the
same order; and the result is valid exactly when there are no errors, that is no findings. -/
theorem evaluate_in_order {compiled : Registry} {document : Value} (hkeys : document.keysOnce = true)
    (hform : Form.ofDocument compiled document = .ok form)
    (h : form.evaluate registry implicitNumber data language = .ok reports) :
    (∀ p, p ∈ reports.map Report.path ↔ form.Reaches data p) ∧
    (reports.map Report.path).Nodup ∧
    (reports.map Report.path).Pairwise form.Before ∧
    (failedAt reports).Pairwise form.Before ∧
    ∀ (w : Wording) (shown : Option String),
      (Report.AllWritten reports → ∃ result, (w.assemble reports shown).1 = .ok result) ∧
      ∀ result, (w.assemble reports shown).1 = .ok result →
        result.errors.map FieldError.path = (failedAt reports).map Path.text ∧
        (result.isValid = true ↔ result.errors = []) ∧ (result.isValid = true ↔ ∀ r ∈ reports, r.findings = []) := by
  have hplaced := Form.root_placed hkeys hform
  have hincreasing := paths_increasing hplaced h
  refine ⟨fun p => mem_reports_iff_reaches hplaced h, hincreasing.imp Before.ne, hincreasing,
    hincreasing.sublist (failedAt_sublist reports), fun w shown => ⟨w.exists_assemble shown, fun result hresult => ?_⟩⟩
  have herrors := errors_of_reports (findsOneAtMost hplaced h) hresult
  refine ⟨herrors, List.isEmpty_iff, ?_⟩
  rw [isValid_iff_failedAt herrors]
  exact failedAt_eq_nil_iff

/-- A form with a group in an array, and in it an array. -/
def orders : Value :=
  .object [("type", .text "group"), ("properties", .object [
    ("customer", .object [("type", .text "text"), ("rules", .object [("required", .bool true)])]),
    ("orders", .object [("type", .text "array"), ("items", .object [("type", .text "group"),
      ("properties", .object [
        ("title", .object [("type", .text "text"), ("rules", .object [("required", .bool true)])]),
        ("prices", .object [("type", .text "array"), ("items", .object [("type", .text "number")])])])])])])]

/-- Two orders, of which the second one is no object. -/
def twoOrders : Value :=
  .object [("orders", .list [.object [("prices", .list [.int 3, .text "free"])], .int 7])]

/-- Over two orders the form has eleven places, and there are errors at four of them. -/
theorem evaluate_in_order_of_orders : ∃ form reports,
    Form.ofDocument Registry.standard orders = .ok form ∧
    form.evaluate Registry.standard true twoOrders none = .ok reports ∧
    failedAt reports = [[.name "customer"], [.name "orders", .index 0, .name "title"],
      [.name "orders", .index 0, .name "prices", .index 1], [.name "orders", .index 1, .name "title"]] ∧
    reports.length = 11 ∧ (reports.map Report.path).Nodup ∧
    (reports.map Report.path).Pairwise form.Before := by
  have hrun : ((Form.ofDocument Registry.standard orders).toOption.bind fun form =>
      (form.evaluate Registry.standard true twoOrders none).toOption.bind fun reports =>
        some (failedAt reports, reports.length)) =
      some ([[.name "customer"], [.name "orders", .index 0, .name "title"],
        [.name "orders", .index 0, .name "prices", .index 1],
        [.name "orders", .index 1, .name "title"]], 11) := by
    decide +kernel
  obtain ⟨form, hform, hrun⟩ := exists_eq_ok_of_bind hrun
  obtain ⟨reports, hreports, hfound⟩ := exists_eq_ok_of_bind hrun
  obtain ⟨hfailed, hlength⟩ := Prod.mk.inj (Option.some.inj hfound)
  obtain ⟨_, hnodup, hordered, _⟩ := evaluate_in_order (by decide +kernel) hform hreports
  exact ⟨form, reports, hform, hreports, hfailed, hlength, hnodup, hordered⟩

end Form

end FormCheck
