import FormCheck.Evaluation.Visit
import FormCheck.Proofs.Form.Skeleton

/-!
# The places that an evaluation comes to

An evaluation hands three things down from field to field: the place, the value there, and whether a field
above has been switched off.  This file separates where the evaluation goes from what it says there:

* `Visit`, `Field.visits` — the places below a field in the order in which they are come to, each with the
  field that governs it and the value that the data holds;
* `Field.at?_of_mem_visits`, `Field.follow_of_mem_visits` — **proved**: both are those that the place by
  itself leads to;
* `Field.append_mem_visits` — **proved**: an evaluation goes on from wherever it has come to;
* `Field.visits_mapInfo`, `Setting.isOff_mapInfo` — **proved**: where it goes depends on nothing of what fields have but
  their names, and what is switched off on their conditions besides;
* `Setting.isOff` — whether a place is switched off, asked from above: condition after condition on the way;
* `Setting.reportFrom` — the report on a place, made without what has been handed down;
* `Setting.visit_eq_mapM` — **proved**: the evaluation makes exactly these reports, and where one of them
  ends without an answer, so does the evaluation, for the same reason.
-/

namespace FormCheck

open Fallible

/-! ### Where an evaluation goes -/

/-- A place that an evaluation comes to, counted from the field where it began: the steps to it, the field
that governs it, and the value that the data holds there. -/
structure Visit where
  path : Path
  field : Field
  raw : Value

/-- The visit as it is counted from one step further up. -/
def Visit.under (s : Segment) (v : Visit) : Visit :=
  { v with path := s :: v.path }

@[simp] theorem Visit.under_path (s : Segment) (v : Visit) : (v.under s).path = s :: v.path := rfl

/-- The value that an object holds under a name, `absent` where there is none. -/
def Value.child (v : Value) (name : String) : Value :=
  (v.entry? name).getD .absent

namespace Field

mutual

/-- The places at and below a field that holds `raw`, in the order of declaration, elements in ascending
order. -/
def visits (raw : Value) : Field → List Visit
  | .leaf info kind => [⟨[], .leaf info kind, raw⟩]
  | .group info children => ⟨[], .group info children, raw⟩ :: visitsOfAll raw children
  | .array info item => ⟨[], .array info item, raw⟩ ::
      (Setting.elementsOf raw).zipIdx.flatMap fun (element, i) =>
        (item.visits element).map (Visit.under (.index i))

/-- The places at and below the children of a group that holds `raw`. -/
def visitsOfAll (raw : Value) : List Field → List Visit
  | [] => []
  | c :: rest =>
    (c.visits (raw.child c.name)).map (Visit.under (.name c.name)) ++ visitsOfAll raw rest

end

theorem visitsOfAll_eq_flatMap (raw : Value) (children : List Field) :
    visitsOfAll raw children = children.flatMap fun c =>
      (c.visits (raw.child c.name)).map (Visit.under (.name c.name)) := by
  induction children with
  | nil => rfl
  | cons c children ih => rw [visitsOfAll, List.flatMap_cons, ih]

theorem mem_visits_leaf {info : FieldInfo} {kind : LeafKind} {raw : Value} {v : Visit} :
    v ∈ (Field.leaf info kind).visits raw ↔ v = ⟨[], .leaf info kind, raw⟩ := by
  rw [visits, List.mem_singleton]

theorem mem_visits_group {info : FieldInfo} {children : List Field} {raw : Value} {v : Visit} :
    v ∈ (Field.group info children).visits raw ↔ v = ⟨[], .group info children, raw⟩ ∨
      ∃ c ∈ children, ∃ w ∈ c.visits (raw.child c.name), v = w.under (.name c.name) := by
  rw [visits, List.mem_cons, visitsOfAll_eq_flatMap, List.mem_flatMap]
  simp only [List.mem_map, eq_comm]

theorem mem_visits_array {info : FieldInfo} {item : Field} {raw : Value} {v : Visit} :
    v ∈ (Field.array info item).visits raw ↔ v = ⟨[], .array info item, raw⟩ ∨
      ∃ (i : Nat) (element : Value), (Setting.elementsOf raw)[i]? = some element ∧
        ∃ w ∈ item.visits element, v = w.under (.index i) := by
  rw [visits, List.mem_cons, List.mem_flatMap]
  refine or_congr_right ⟨?_, ?_⟩
  · rintro ⟨⟨element, i⟩, hi, hv⟩
    obtain ⟨w, hw, rfl⟩ := List.mem_map.mp hv
    exact ⟨i, element, List.mk_mem_zipIdx_iff_getElem?.mp hi, w, hw, rfl⟩
  · rintro ⟨i, element, hi, w, hw, rfl⟩
    exact ⟨(element, i), List.mk_mem_zipIdx_iff_getElem?.mpr hi, List.mem_map_of_mem hw⟩

/-- An evaluation comes to the field where it begins. -/
theorem self_mem_visits (field : Field) (raw : Value) : ⟨[], field, raw⟩ ∈ field.visits raw := by
  cases field with
  | leaf info kind => exact mem_visits_leaf.mpr rfl
  | group info children => exact mem_visits_group.mpr (.inl rfl)
  | array info item => exact mem_visits_array.mpr (.inl rfl)

/-! ### Each place leads to its field and its value -/

theorem follow_name_cons (raw : Value) (s : String) (p : Path) :
    raw.follow (.name s :: p) = (raw.child s).follow p := by
  have hstep : raw.step? (.name s) = raw.entry? s := by cases raw <;> rfl
  rw [Value.follow_cons, hstep, Value.child]
  cases raw.entry? s with
  | none => exact (Value.follow_absent p).symm
  | some w => rfl

theorem follow_index_cons {raw element : Value} {i : Nat} (p : Path)
    (h : (Setting.elementsOf raw)[i]? = some element) :
    raw.follow (.index i :: p) = element.follow p := by
  cases raw with
  | list items =>
    have hstep : (Value.list items).step? (.index i) = some element := by
      show (if (0 : Int) ≤ i then items[(i : Int).toNat]? else none) = some element
      rw [if_pos (Int.natCast_nonneg i), Int.toNat_natCast]
      exact h
    rw [Value.follow_cons, hstep]
  | _ => cases h

theorem at?_of_mem_visits {place : Path} {field : Field} {raw : Value} {v : Visit}
    (hplaced : field.Placed place) (hv : v ∈ field.visits raw) : field.at? v.path = some v.field := by
  induction hplaced generalizing raw v with
  | leaf _ =>
    rw [mem_visits_leaf.mp hv]
    rfl
  | @group _ info children _ hnames _ ih =>
    rcases mem_visits_group.mp hv with rfl | ⟨c, hc, w, hw, rfl⟩
    · rfl
    · rw [Visit.under_path, at?_cons]
      show ((Field.group info children).child? c.name).bind (·.at? w.path) = some w.field
      rw [child?_eq_some info hnames hc]
      exact ih c hc hw
  | array _ _ ih =>
    rcases mem_visits_array.mp hv with rfl | ⟨i, element, _, w, hw, rfl⟩
    · rfl
    · exact ih hw

theorem follow_of_mem_visits {field : Field} {raw : Value} {v : Visit} (hv : v ∈ field.visits raw) :
    raw.follow v.path = v.raw := by
  induction field using Field.induction_parts generalizing raw v with
  | leaf info kind =>
    rw [mem_visits_leaf.mp hv]
    exact Value.follow_nil raw
  | group info children ih =>
    rcases mem_visits_group.mp hv with rfl | ⟨c, hc, w, hw, rfl⟩
    · exact Value.follow_nil raw
    · rw [Visit.under_path, follow_name_cons]
      exact ih c hc hw
  | array info item ih =>
    rcases mem_visits_array.mp hv with rfl | ⟨i, element, hi, w, hw, rfl⟩
    · exact Value.follow_nil raw
    · rw [Visit.under_path, follow_index_cons _ hi]
      exact ih hw

/-- What is visited below a visited field is visited. -/
theorem append_mem_visits {field : Field} {raw : Value} {v w : Visit} (hv : v ∈ field.visits raw)
    (hw : w ∈ v.field.visits v.raw) : ⟨v.path ++ w.path, w.field, w.raw⟩ ∈ field.visits raw := by
  induction field using Field.induction_parts generalizing raw v with
  | leaf info kind =>
    rw [mem_visits_leaf.mp hv] at hw ⊢
    exact hw
  | group info children ih =>
    rcases mem_visits_group.mp hv with rfl | ⟨c, hc, u, hu, rfl⟩
    · exact hw
    · exact mem_visits_group.mpr (.inr ⟨c, hc, _, ih c hc hu hw, rfl⟩)
  | array info item ih =>
    rcases mem_visits_array.mp hv with rfl | ⟨i, element, hi, u, hu, rfl⟩
    · exact hw
    · exact mem_visits_array.mpr (.inr ⟨i, element, hi, _, ih hu hw, rfl⟩)

end Field

/-! ### Fields that have something else -/

/-- The visit with what the field there has changed. -/
def Visit.mapInfo (g : FieldInfo → FieldInfo) (v : Visit) : Visit :=
  { v with field := v.field.mapInfo g }

/-- **Where an evaluation goes depends on nothing of what fields have but their names.** -/
theorem Field.visits_mapInfo {g : FieldInfo → FieldInfo} (hg : ∀ info, (g info).name = info.name) (field : Field)
    (raw : Value) : (field.mapInfo g).visits raw = (field.visits raw).map (Visit.mapInfo g) := by
  induction field using Field.induction_parts generalizing raw with
  | leaf info kind => rfl
  | group info children ih =>
    rw [mapInfo_group, visits, visits, visitsOfAll_eq_flatMap, visitsOfAll_eq_flatMap, List.map_cons,
      List.flatMap_map, List.map_flatMap, Visit.mapInfo, mapInfo_group]
    congr 1
    refine List.flatMap_congr fun c hc => ?_
    rw [name_mapInfo hg, ih c hc, List.map_map, List.map_map]
    rfl
  | array info item ih =>
    rw [mapInfo, visits, visits, List.map_cons, List.map_flatMap]
    congr 1
    refine List.flatMap_congr fun e _ => ?_
    show ((item.mapInfo g).visits e.1).map (Visit.under (.index e.2))
      = ((item.visits e.1).map (Visit.under (.index e.2))).map (Visit.mapInfo g)
    rw [ih, List.map_map, List.map_map]
    rfl

/-! ### What an evaluation says there -/

namespace Setting

/-- Whether the place at `rest` below the field at `path` is switched off: some condition on the way to it,
from the field on, does not hold.  Conditions below the first such one are not looked at. -/
def isOff (s : Setting) (field : Field) (path : Path) : Path → Except Fault Bool
  | [] => (s.takesPart path field.info.condition).map (!·)
  | step :: rest => do
    if ← s.takesPart path field.info.condition then
      match field.step? step with
      | some next => s.isOff next (path ++ [step]) rest
      | none => return false
    else return true

/-- The same, where all of it is off if `skipped` says so. -/
def isOffBelow (s : Setting) (skipped : Bool) (field : Field) (path rest : Path) : Except Fault Bool :=
  match skipped with
  | true => .ok true
  | false => s.isOff field path rest

/-- The findings on a field at a place that holds `raw`: none where it is off. -/
def findingsUnless (s : Setting) (off : Bool) (field : Field) (path : Path) (raw : Value) :
    Except Fault (List Finding) :=
  match off with
  | true => .ok []
  | false => s.findings field path raw

/-- The report on a visited place below the field at `path`, made from the place alone. -/
def reportFrom (s : Setting) (path : Path) (skipped : Bool) (field : Field) (v : Visit) :
    Except Fault Report := do
  let off ← s.isOffBelow skipped field path v.path
  let findings ← s.findingsUnless off v.field (path ++ v.path) v.raw
  return ⟨path ++ v.path, v.field, v.field.fits v.raw, off, findings⟩

variable (s : Setting)

theorem report_eq_reportFrom (path : Path) (skipped : Bool) (raw : Value) (field : Field) :
    s.report path skipped raw field = s.reportFrom path skipped field ⟨[], field, raw⟩ := by
  rw [reportFrom, List.append_nil]
  cases skipped with
  | true => rfl
  | false =>
    refine bind_congr_of_ok fun off _ => ?_
    cases off <;> rfl

theorem reportFrom_eq_ok_iff {path : Path} {skipped : Bool} {field : Field} {v : Visit} {r : Report} :
    s.reportFrom path skipped field v = .ok r ↔ ∃ off findings,
      s.isOffBelow skipped field path v.path = .ok off ∧
      s.findingsUnless off v.field (path ++ v.path) v.raw = .ok findings ∧
      r = ⟨path ++ v.path, v.field, v.field.fits v.raw, off, findings⟩ := by
  rw [reportFrom, bind_eq_ok_iff]
  constructor
  · rintro ⟨off, hoff, h⟩
    obtain ⟨findings, hfindings, h⟩ := bind_eq_ok_iff.mp h
    cases h
    exact ⟨off, findings, hoff, hfindings, rfl⟩
  · rintro ⟨off, findings, hoff, hfindings, rfl⟩
    exact ⟨off, hoff, bind_eq_ok_iff.mpr ⟨findings, hfindings, rfl⟩⟩

/-- What a report says of being off is what has been handed down, or else what the field's condition says. -/
theorem skipped_of_report {path : Path} {skipped : Bool} {raw : Value} {field : Field} {own : Report}
    (h : s.report path skipped raw field = .ok own) :
    (skipped = true ∧ own.skipped = true) ∨
      (skipped = false ∧ s.takesPart path field.info.condition = .ok (!own.skipped)) := by
  rw [report_eq_reportFrom] at h
  obtain ⟨off, findings, hoff, _, rfl⟩ := s.reportFrom_eq_ok_iff.mp h
  cases skipped with
  | true =>
    cases hoff
    exact .inl ⟨rfl, rfl⟩
  | false =>
    obtain ⟨b, hb, rfl⟩ := map_eq_ok_iff.mp hoff
    exact .inr ⟨rfl, by rw [hb, Bool.not_not]⟩

/-- A report on a place below a child is the same whether it is made from the field or from the child, once
the field itself has been reported on. -/
theorem reportFrom_under {path : Path} {skipped : Bool} {raw : Value} {field next : Field} {own : Report}
    (step : Segment) (h : s.report path skipped raw field = .ok own) (hstep : field.step? step = some next)
    (v : Visit) :
    s.reportFrom path skipped field (v.under step)
      = s.reportFrom (path ++ [step]) own.skipped next v := by
  have hoff : s.isOffBelow skipped field path (v.under step).path
      = s.isOffBelow own.skipped next (path ++ [step]) v.path := by
    rcases s.skipped_of_report h with ⟨rfl, hown⟩ | ⟨rfl, hpart⟩
    · rw [hown]
      rfl
    · show s.isOff field path (step :: v.path) = _
      rw [isOff, hpart, hstep]
      cases own.skipped <;> rfl
  rw [reportFrom, reportFrom, hoff, Visit.under_path, List.append_assoc, List.singleton_append]
  rfl

/-- The reports on the children of a group, once the group itself has been reported on. -/
theorem visitAll_eq_mapM {path : Path} {skipped : Bool} {raw : Value} {field : Field} {own : Report}
    (h : s.report path skipped raw field = .ok own) (children : List Field)
    (hstep : ∀ c ∈ children, field.step? (.name c.name) = some c)
    (ih : ∀ c ∈ children, ∀ (path : Path) (skipped : Bool) (raw : Value),
      s.visit path skipped raw c = (c.visits raw).mapM (s.reportFrom path skipped c)) :
    s.visitAll path own.skipped raw children
      = (Field.visitsOfAll raw children).mapM (s.reportFrom path skipped field) := by
  induction children with
  | nil => rfl
  | cons c rest ihRest =>
    have hc : s.visit (path ++ [.name c.name]) own.skipped (raw.child c.name) c
        = ((c.visits (raw.child c.name)).map (Visit.under (.name c.name))).mapM
          (s.reportFrom path skipped field) := by
      rw [ih c List.mem_cons_self, List.mapM_map]
      exact mapM_congr fun v _ => (s.reportFrom_under (.name c.name) h (hstep c List.mem_cons_self) v).symm
    have hrest := ihRest (fun d hd => hstep d (List.mem_cons_of_mem c hd))
      (fun d hd => ih d (List.mem_cons_of_mem c hd))
    rw [visitAll, Field.visitsOfAll, List.mapM_append, ← hc, ← hrest]
    rfl

/-- The reports on the elements of an array, once the array itself has been reported on. -/
theorem elements_eq_mapM {path : Path} {skipped : Bool} {raw : Value} {info : FieldInfo} {item : Field}
    {own : Report} (h : s.report path skipped raw (.array info item) = .ok own)
    (ih : ∀ (path : Path) (skipped : Bool) (raw : Value),
      s.visit path skipped raw item = (item.visits raw).mapM (s.reportFrom path skipped item))
    (elements : List (Value × Nat)) :
    (elements.mapM fun e => s.visit (path ++ [.index e.2]) own.skipped e.1 item).map
        List.flatten
      = (elements.flatMap fun e => (item.visits e.1).map (Visit.under (.index e.2))).mapM
          (s.reportFrom path skipped (.array info item)) := by
  rw [List.flatMap, ← flatten_mapM, List.mapM_map]
  congr 1
  refine mapM_congr fun e _ => ?_
  show s.visit (path ++ [.index e.2]) own.skipped e.1 item
    = ((item.visits e.1).map (Visit.under (.index e.2))).mapM (s.reportFrom path skipped (.array info item))
  rw [ih, List.mapM_map]
  exact mapM_congr fun v _ => (s.reportFrom_under (.index e.2) h rfl v).symm

/-- **An evaluation makes the report on each place that it comes to**, and ends without an answer at the
first place where there is none. -/
theorem visit_eq_mapM {place : Path} {field : Field} (hplaced : field.Placed place) (path : Path)
    (skipped : Bool) (raw : Value) :
    s.visit path skipped raw field = (field.visits raw).mapM (s.reportFrom path skipped field) := by
  induction hplaced generalizing path skipped raw with
  | @leaf _ info kind _ =>
    rw [visit, Field.visits, List.mapM_cons, ← s.report_eq_reportFrom]
    rfl
  | @group _ info children _ hnames _ ih =>
    rw [visit, Field.visits, List.mapM_cons, ← s.report_eq_reportFrom]
    refine bind_congr_of_ok fun own hown => ?_
    rw [s.visitAll_eq_mapM hown children (fun c hc => Field.child?_eq_some info hnames hc)
      (fun c hc => ih c hc)]
  | @array _ info item _ _ ih =>
    rw [visit, Field.visits, List.mapM_cons, ← s.report_eq_reportFrom]
    refine bind_congr_of_ok fun own hown => ?_
    rw [← s.elements_eq_mapM hown ih]
    generalize (elementsOf raw).zipIdx.mapM (fun e =>
      s.visit (path ++ [.index e.2]) own.skipped e.1 item) = reports
    cases reports <;> rfl

end Setting

/-- **The evaluation of a form, place by place.** -/
theorem Form.evaluate_eq_mapM {form : Form} (hplaced : form.root.Placed []) (registry : Registry)
    (implicitNumber : Bool) (data : Value) (language : Option String) :
    form.evaluate registry implicitNumber data language
      = (form.root.visits data).mapM
          (Setting.reportFrom ⟨registry, implicitNumber, data, language⟩ [] false form.root) :=
  Setting.visit_eq_mapM _ hplaced [] false data

end FormCheck
