import FormCheck.Proofs.Evaluation.Order
import FormCheck.Proofs.Evaluation.Texts
import FormCheck.Proofs.Form.Alike

/-!
# Evaluating forms that are alike

An evaluation goes through the fields in the order of declaration, and nothing that it says about one of them depends on
this order, as long as the rules see no more of a field than its kind.

* `Form.Reaches.of_alike` — **proved**: forms that are alike have the same places over the data;
* `Setting.isOff_of_alike`, `Setting.findings_of_own` — **proved**: the same places are switched off, and the same is
  found on fields that have the same by themselves;
* `Report.outcome` — what a report says, with nothing of the field but what it has by itself;
* `Form.evaluate_of_alike` — **proved**: where one of two forms that are alike can be evaluated, so can the other one, and
  the reports say the same, perhaps in another order.
-/

namespace FormCheck

open Fallible

/-! ### Places -/

namespace Form

variable {form other : Form} {data : Value}

/-- **Forms that are alike have the same places over the data.** -/
theorem Reaches.of_alike (hplaced : form.root.Placed []) (h : form.root.Alike other.root) {p : Path}
    (hp : form.Reaches data p) : other.Reaches data p := by
  induction hp with
  | root => exact .root
  | @child q info children c _ hfield hc ih =>
    rw [fieldAt?_eq_at?] at hfield
    obtain ⟨g, hg, halike⟩ := h.exists_at? hfield
    have hnames := (hplaced.of_at? hfield).names_nodup
    obtain ⟨d, hd, hcd⟩ := halike.exists_step? (s := .name c.name) (Field.child?_eq_some info hnames hc)
    cases g with
    | group other others =>
      obtain ⟨hmem, hname⟩ := Field.mem_of_child? other hd
      rw [← hname]
      exact .child ih (fieldAt?_eq_at? _ q ▸ hg) hmem
    | leaf _ _ => cases halike.kind_eq
    | array _ _ => cases halike.kind_eq
  | @element q info item items i _ hfield hitems hi ih =>
    rw [fieldAt?_eq_at?] at hfield
    obtain ⟨g, hg, halike⟩ := h.exists_at? hfield
    cases g with
    | array other inner => exact .element ih (fieldAt?_eq_at? _ q ▸ hg) hitems hi
    | leaf _ _ => cases halike.kind_eq
    | group _ _ => cases halike.kind_eq

/-- To each visit there is one in the other form, at the same place and to the same value. -/
theorem exists_visit_of_alike (hplaced : form.root.Placed []) (hother : other.root.Placed [])
    (h : form.root.Alike other.root) {v : Visit} (hv : v ∈ form.root.visits data) :
    ∃ w ∈ other.root.visits data, w.path = v.path ∧ w.raw = v.raw ∧ v.field.own = w.field.own := by
  have hreached : form.Reaches data v.path := (mem_visits_iff_reaches hplaced).mp ⟨v, hv, rfl⟩
  obtain ⟨w, hw, hpath⟩ := (hreached.of_alike hplaced h).exists_visit hother
  obtain ⟨g, hg, halike⟩ := h.exists_at? (Field.at?_of_mem_visits hplaced hv)
  have hat := Field.at?_of_mem_visits hother hw
  rw [hpath, hg, Option.some.injEq] at hat
  refine ⟨w, hw, hpath, ?_, ?_⟩
  · rw [← Field.follow_of_mem_visits hw, ← Field.follow_of_mem_visits hv, hpath]
  · rw [← hat, halike.own_eq]

end Form

/-! ### Reports -/

theorem Field.fits_of_kind {c d : Field} (h : c.kind = d.kind) (v : Value) : c.fits v = d.fits v := by
  cases c <;> cases d <;> first | rfl | cases h

namespace Setting

variable (s : Setting) {c d : Field}

/-- **In forms that are alike the same places are switched off.** -/
theorem isOff_of_alike (h : c.Alike d) (path rest : Path) : s.isOff c path rest = s.isOff d path rest := by
  induction rest generalizing c d path with
  | nil => rw [isOff, isOff, h.info_eq]
  | cons step rest ih =>
    rw [isOff, isOff, h.info_eq]
    cases hc : c.step? step with
    | none => rw [h.step?_eq_none hc]
    | some next =>
      obtain ⟨other, hother, halike⟩ := h.exists_step? hc
      rw [hother]
      simp only [ih halike]

/-- **What is found on a field depends on what it has by itself.** -/
theorem findings_of_own (hs : s.registry.LooksAtKind) (h : c.own = d.own) (path : Path) (raw : Value) :
    s.findings c path raw = s.findings d path raw := by
  have hkind : c.kind = d.kind := congrArg Prod.fst h
  have hinfo : c.info = d.info := congrArg Prod.snd h
  rw [findings, findings, firstFinding_of_kind hs hkind, rulesOf, rulesOf, hkind, hinfo, Field.seen, Field.seen,
    Field.fits_of_kind hkind]

end Setting

/-- What a report says, with nothing of the field but what it has by itself. -/
def Report.outcome (r : Report) : Path × (Kind × FieldInfo) × Bool × Bool × List Finding :=
  (r.path, r.field.own, r.present, r.skipped, r.findings)

namespace Form

variable {form other : Form} {registry : Registry} {implicitNumber : Bool} {data : Value} {language : Option String}
  {reports others : List Report}

/-- The reports on a place of two forms that are alike say the same. -/
theorem exists_reportFrom_of_alike {s : Setting} (hs : s.registry.LooksAtKind) (h : form.root.Alike other.root)
    {v w : Visit} (hpath : w.path = v.path) (hraw : w.raw = v.raw) (hown : v.field.own = w.field.own) {r : Report}
    (hr : s.reportFrom [] false form.root v = .ok r) :
    ∃ t, s.reportFrom [] false other.root w = .ok t ∧ t.outcome = r.outcome := by
  obtain ⟨off, findings, hoff, hfindings, rfl⟩ := s.reportFrom_eq_ok_iff.mp hr
  refine ⟨⟨[] ++ w.path, w.field, w.field.fits w.raw, off, findings⟩, ?_, ?_⟩
  · refine s.reportFrom_eq_ok_iff.mpr ⟨off, findings, ?_, ?_, rfl⟩
    · show s.isOff other.root [] w.path = .ok off
      rw [← s.isOff_of_alike h, hpath]
      exact hoff
    · rw [← hfindings, hpath, hraw]
      cases off with
      | true => rfl
      | false => exact (s.findings_of_own hs hown _ _).symm
  · rw [Report.outcome, Report.outcome, hpath, hraw, hown, Field.fits_of_kind (congrArg Prod.fst hown)]

/-- What one of the reports says, one of those on the other form says. -/
theorem mem_outcomes_of_alike (hlooks : registry.LooksAtKind) (hplaced : form.root.Placed []) (hother : other.root.Placed [])
    (h : form.root.Alike other.root) (hreports : form.evaluate registry implicitNumber data language = .ok reports)
    (hothers : other.evaluate registry implicitNumber data language = .ok others) :
    ∀ o ∈ reports.map Report.outcome, o ∈ others.map Report.outcome := by
  intro o ho
  obtain ⟨r, hr, rfl⟩ := List.mem_map.mp ho
  obtain ⟨v, hv, hreport⟩ := exists_visit_of_mem hplaced hreports hr
  obtain ⟨w, hw, hpath, hraw, hown⟩ := exists_visit_of_alike hplaced hother h hv
  obtain ⟨t, ht, hsame⟩ := exists_reportFrom_of_alike hlooks h hpath hraw hown hreport
  rw [evaluate_eq_mapM hother] at hothers
  obtain ⟨u, hu, hagain⟩ := exists_mem_of_mapM hothers hw
  rw [ht, Except.ok.injEq] at hagain
  exact List.mem_map.mpr ⟨u, hu, hagain ▸ hsame⟩

theorem outcomes_nodup (hplaced : form.root.Placed [])
    (h : form.evaluate registry implicitNumber data language = .ok reports) : (reports.map Report.outcome).Nodup := by
  have hpaths : (reports.map Report.path).Nodup := (paths_increasing hplaced h).imp Before.ne
  apply List.Nodup.of_map Prod.fst
  rw [List.map_map]
  exact hpaths

/-- **Forms that are alike are evaluated alike.** -/
theorem evaluate_of_alike (hlooks : registry.LooksAtKind) (hplaced : form.root.Placed []) (hother : other.root.Placed [])
    (h : form.root.Alike other.root) (hreports : form.evaluate registry implicitNumber data language = .ok reports) :
    ∃ others, other.evaluate registry implicitNumber data language = .ok others ∧
      (reports.map Report.outcome).Perm (others.map Report.outcome) := by
  have hall : ∀ w ∈ other.root.visits data, ∃ t,
      Setting.reportFrom ⟨registry, implicitNumber, data, language⟩ [] false other.root w = .ok t := by
    intro w hw
    obtain ⟨v, hv, hpath, hraw, hown⟩ := exists_visit_of_alike hother hplaced h.symm hw
    obtain ⟨r, _, hr⟩ := exists_mem_of_mapM (evaluate_eq_mapM hplaced _ _ _ _ ▸ hreports) hv
    obtain ⟨t, ht, _⟩ := exists_reportFrom_of_alike hlooks h hpath.symm hraw.symm hown.symm hr
    exact ⟨t, ht⟩
  obtain ⟨others, hothers⟩ := exists_mapM_eq_ok hall
  rw [← evaluate_eq_mapM hother] at hothers
  refine ⟨others, hothers, ?_⟩
  rw [List.perm_ext_iff_of_nodup (outcomes_nodup hplaced hreports) (outcomes_nodup hother hothers)]
  intro o
  exact ⟨mem_outcomes_of_alike hlooks hplaced hother h hreports hothers o,
    mem_outcomes_of_alike hlooks hother hplaced h.symm hothers hreports o⟩

end Form

end FormCheck
