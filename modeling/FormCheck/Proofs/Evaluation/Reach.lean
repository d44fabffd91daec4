import FormCheck.Proofs.Evaluation.Visits

/-!
# The places of a form over some data

Which places there are is no matter of the order in which they are come to.  This file says it by steps from
the root, with nothing but the form and the data:

* `Form.Reaches` — the root; from a group every name that it declares, whatever the data holds; from an
  array the indices of the list that the data holds, and none where it holds something else;
* `Form.mem_visits_iff_reaches` — **proved**: an evaluation comes to these places and to no other;
* `Form.mem_reports_iff_reaches` — **proved**: it reports on these places and on no other.
-/

namespace FormCheck

open Fallible

namespace Form

/-- The places of a form over some data. -/
inductive Reaches (form : Form) (data : Value) : Path → Prop where
  | root : Reaches form data []
  | child {q : Path} {info : FieldInfo} {children : List Field} {c : Field} : Reaches form data q →
      form.fieldAt? q = some (.group info children) → c ∈ children →
      Reaches form data (q ++ [.name c.name])
  | element {q : Path} {info : FieldInfo} {item : Field} {items : List Value} {i : Nat} :
      Reaches form data q → form.fieldAt? q = some (.array info item) → data.follow q = .list items →
      i < items.length → Reaches form data (q ++ [.index i])

theorem fieldAt?_eq_at? (form : Form) (p : Path) : form.fieldAt? p = form.root.at? p :=
  Field.at?_outline form.root p

theorem fieldAt?_append (form : Form) (p q : Path) :
    form.fieldAt? (p ++ q) = (form.fieldAt? p).bind (·.at? q) := by
  rw [fieldAt?_eq_at?, fieldAt?_eq_at?, Field.at?_append]

variable {form : Form} {data : Value}

theorem fieldAt?_of_mem_visits (hplaced : form.root.Placed []) {v : Visit}
    (hv : v ∈ form.root.visits data) : form.fieldAt? v.path = some v.field := by
  rw [fieldAt?_eq_at?]
  exact Field.at?_of_mem_visits hplaced hv

/-- What lies on the way to a reached place is reached. -/
theorem Reaches.of_prefix {p q : Path} (hp : form.Reaches data p) (hq : q <+: p) : form.Reaches data q := by
  induction hp with
  | root =>
    rw [List.prefix_nil.mp hq]
    exact .root
  | child h hfield hc ih =>
    rcases List.prefix_concat_iff.mp hq with rfl | hq
    · exact .child h hfield hc
    · exact ih hq
  | element h hfield hitems hi ih =>
    rcases List.prefix_concat_iff.mp hq with rfl | hq
    · exact .element h hfield hitems hi
    · exact ih hq

/-- What is visited from a reached place on is reached. -/
theorem reaches_of_mem_visits (hplaced : form.root.Placed []) {field : Field} {q : Path} {v : Visit}
    (hq : form.Reaches data q) (hfield : form.fieldAt? q = some field)
    (hv : v ∈ field.visits (data.follow q)) : form.Reaches data (q ++ v.path) := by
  induction field using Field.induction_parts generalizing q v with
  | leaf info kind =>
    rw [Field.mem_visits_leaf.mp hv, List.append_nil]
    exact hq
  | group info children ih =>
    rcases Field.mem_visits_group.mp hv with rfl | ⟨c, hc, w, hw, rfl⟩
    · rwa [List.append_nil]
    · have hgroup : (Field.group info children).Placed ([] ++ q.outline) :=
        hplaced.of_at? (fieldAt?_eq_at? form q ▸ hfield)
      have hnext : form.fieldAt? (q ++ [.name c.name]) = some c := by
        rw [fieldAt?_append, hfield]
        show ((Field.group info children).child? c.name).bind some = some c
        rw [Field.child?_eq_some info hgroup.names_nodup hc]
        rfl
      have hraw : data.follow (q ++ [.name c.name]) = (data.follow q).child c.name := by
        rw [Value.follow_append, Field.follow_name_cons, Value.follow_nil]
      rw [Visit.under_path, List.append_cons]
      exact ih c hc (.child hq hfield hc) hnext (hraw ▸ hw)
  | array info item ih =>
    rcases Field.mem_visits_array.mp hv with rfl | ⟨i, element, hi, w, hw, rfl⟩
    · rwa [List.append_nil]
    · have hnext : form.fieldAt? (q ++ [.index i]) = some item := by
        rw [fieldAt?_append, hfield]
        rfl
      have hraw : data.follow (q ++ [.index i]) = element := by
        rw [Value.follow_append, Field.follow_index_cons _ hi, Value.follow_nil]
      obtain ⟨items, hitems, hlt⟩ : ∃ items, data.follow q = .list items ∧ i < items.length := by
        cases hlist : data.follow q with
        | list items =>
          rw [hlist] at hi
          exact ⟨items, rfl, (List.getElem?_eq_some_iff.mp hi).1⟩
        | _ => rw [hlist] at hi; cases hi
      rw [Visit.under_path, List.append_cons]
      exact ih (.element hq hfield hitems hlt) hnext (hraw ▸ hw)

/-- What is reached is visited. -/
theorem Reaches.exists_visit (hplaced : form.root.Placed []) {p : Path} (hp : form.Reaches data p) :
    ∃ v ∈ form.root.visits data, v.path = p := by
  induction hp with
  | root => exact ⟨_, Field.self_mem_visits form.root data, rfl⟩
  | @child q info children c _ hfield hc ih =>
    obtain ⟨v, hv, rfl⟩ := ih
    have hvfield : v.field = .group info children :=
      Option.some.inj ((fieldAt?_of_mem_visits hplaced hv).symm.trans hfield)
    have hw : (⟨[.name c.name], c, v.raw.child c.name⟩ : Visit) ∈ (Field.group info children).visits v.raw :=
      Field.mem_visits_group.mpr (.inr ⟨c, hc, _, Field.self_mem_visits c (v.raw.child c.name), rfl⟩)
    exact ⟨_, Field.append_mem_visits hv (hvfield ▸ hw), rfl⟩
  | @element q info item items i _ hfield hitems hi ih =>
    obtain ⟨v, hv, rfl⟩ := ih
    have hvfield : v.field = .array info item :=
      Option.some.inj ((fieldAt?_of_mem_visits hplaced hv).symm.trans hfield)
    have hvraw : v.raw = .list items := by
      rw [← Field.follow_of_mem_visits hv, hitems]
    have helement : (Setting.elementsOf v.raw)[i]? = some items[i] := by
      rw [hvraw]
      exact List.getElem?_eq_getElem hi
    have hw : (⟨[.index i], item, items[i]⟩ : Visit) ∈ (Field.array info item).visits v.raw :=
      Field.mem_visits_array.mpr (.inr ⟨i, items[i], helement, _, Field.self_mem_visits item items[i], rfl⟩)
    exact ⟨_, Field.append_mem_visits hv (hvfield ▸ hw), rfl⟩

/-- **An evaluation comes to the places of the form over the data, and to no other.** -/
theorem mem_visits_iff_reaches (hplaced : form.root.Placed []) {p : Path} :
    (∃ v ∈ form.root.visits data, v.path = p) ↔ form.Reaches data p := by
  constructor
  · rintro ⟨v, hv, rfl⟩
    exact reaches_of_mem_visits (q := []) hplaced .root rfl hv
  · exact Reaches.exists_visit hplaced

/-! ### Reports -/

variable {registry : Registry} {implicitNumber : Bool} {language : Option String} {reports : List Report}

/-- Each report of an evaluation is that on a place which the evaluation has come to. -/
theorem exists_visit_of_mem (hplaced : form.root.Placed [])
    (h : form.evaluate registry implicitNumber data language = .ok reports) {r : Report} (hr : r ∈ reports) :
    ∃ v ∈ form.root.visits data,
      Setting.reportFrom ⟨registry, implicitNumber, data, language⟩ [] false form.root v = .ok r :=
  exists_of_mem_mapM (evaluate_eq_mapM hplaced registry implicitNumber data language ▸ h) hr

/-- The reports of an evaluation stand in the order of the visits. -/
theorem paths_of_evaluate (hplaced : form.root.Placed [])
    (h : form.evaluate registry implicitNumber data language = .ok reports) :
    reports.map Report.path = (form.root.visits data).map Visit.path := by
  rw [evaluate_eq_mapM hplaced] at h
  refine map_eq_of_mapM h fun v r hr => ?_
  obtain ⟨off, findings, _, _, rfl⟩ := (Setting.reportFrom_eq_ok_iff _).mp hr
  rfl

/-- **An evaluation reports on the places of the form over the data, and on no other.** -/
theorem mem_reports_iff_reaches (hplaced : form.root.Placed [])
    (h : form.evaluate registry implicitNumber data language = .ok reports) {p : Path} :
    p ∈ reports.map Report.path ↔ form.Reaches data p := by
  rw [paths_of_evaluate hplaced h, List.mem_map]
  exact mem_visits_iff_reaches hplaced

end Form

end FormCheck
