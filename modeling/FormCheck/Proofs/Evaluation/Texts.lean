import FormCheck.Evaluation.Visit
import FormCheck.Proofs.Fallible
import FormCheck.Proofs.Form.Skeleton

/-!
# Evaluations and texts

An evaluation is told a language, which every check may consult, and so it may the field, with its labels and messages.
The standard rules do not ask for the language, and of the field they ask for nothing but the kind; the texts are only
carried along to the reports.

* `Registry.IgnoresLanguage`, `Registry.standard_ignoresLanguage` — **proved**: what a standard rule finds does not
  depend on the language;
* `Registry.LooksAtKind`, `Registry.standard_looksAtKind` — **proved**: nor does it depend on more of the field than the
  kind;
* `Setting.findings_mapInfo` — **proved**: then what is found on a field depends on its kind and its rules alone;
* `FieldInfo.KeepsSubstance` — a change to what fields have that concerns texts and places only;
* `Form.evaluate_mapInfo` — **proved**: such a change, and another language, change nothing about the reports but the
  fields that they carry.
-/

namespace FormCheck

open Fallible

/-! ### The language -/

/-- The same question, asked in another language. -/
def Context.inLanguage (context : Context) (language : Option String) : Context :=
  { context with language := language }

/-- What the rules of the registry find does not depend on the language. -/
def Registry.IgnoresLanguage (registry : Registry) : Prop :=
  ∀ name v argument context language, registry.evaluate name v argument (Context.inLanguage context language)
    = registry.evaluate name v argument context

theorem Rule.evaluate_inLanguage {rule : Rule} (hrule : rule ∈ standard) (v : Value) (argument : Argument)
    (context : Context) (language : Option String) :
    rule.evaluate v argument (context.inLanguage language) = rule.evaluate v argument context := by
  have hall : ∀ rule ∈ standard,
      rule.check v argument (context.inLanguage language) = rule.check v argument context := by
    simp only [standard, List.forall_mem_cons]
    -- One entry for each rule, in the order of the table: no check looks at the language.
    exact ⟨rfl, rfl, rfl, rfl, rfl, rfl, rfl, rfl, rfl, rfl, rfl, rfl, rfl, rfl, rfl, rfl, rfl, rfl, rfl, rfl, rfl, rfl,
      rfl, rfl, rfl, rfl, List.forall_mem_nil _⟩
  rw [evaluate, evaluate, hall rule hrule]

/-- **No standard rule asks for the language.** -/
theorem Registry.standard_ignoresLanguage : standard.IgnoresLanguage := by
  intro name v argument context language
  rw [evaluate, evaluate]
  cases hrule : standard.get? name with
  | none => rfl
  | some rule => exact Rule.evaluate_inLanguage (List.mem_of_find?_eq_some hrule) v argument context language

/-! ### The field -/

/-- The same question, asked on another field. -/
def Context.onField (context : Context) (field : Field) : Context :=
  { context with field := some field }

/-- What the rules of the registry find depends on no more of the field than its kind. -/
def Registry.LooksAtKind (registry : Registry) : Prop :=
  ∀ name v argument context field other, Field.kind field = Field.kind other →
    registry.evaluate name v argument (Context.onField context field)
      = registry.evaluate name v argument (Context.onField context other)

section

variable {field other : Field} (hkind : field.kind = other.kind) (v : Value) (argument : Argument) (context : Context)

include hkind

theorem Check.measure_onField : measure v (context.onField field) = measure v (context.onField other) := by
  have hsame : (context.onField field).kind = (context.onField other).kind := congrArg some hkind
  rw [measure.eq_def, measure.eq_def, hsame]

theorem Check.least_onField (name : String) :
    least name v argument (context.onField field) = least name v argument (context.onField other) := by
  rw [least, least, measure_onField hkind]

theorem Check.greatest_onField (name : String) :
    greatest name v argument (context.onField field) = greatest name v argument (context.onField other) := by
  rw [greatest, greatest, measure_onField hkind]

theorem Rule.evaluate_onField {rule : Rule} (hrule : rule ∈ standard) :
    rule.evaluate v argument (context.onField field) = rule.evaluate v argument (context.onField other) := by
  have hall : ∀ rule ∈ standard,
      rule.check v argument (context.onField field) = rule.check v argument (context.onField other) := by
    simp only [standard, List.forall_mem_cons]
    -- One entry for each rule, in the order of the table: the kind matters for the bounds `min` and `max` only.
    exact ⟨rfl, rfl, rfl, Check.least_onField hkind v argument context _, Check.greatest_onField hkind v argument context _,
      rfl, rfl, rfl, rfl, rfl, rfl, rfl, rfl, rfl, rfl, rfl, rfl, rfl, rfl, rfl, rfl, rfl, rfl, rfl, rfl, rfl,
      List.forall_mem_nil _⟩
  rw [evaluate, evaluate, hall rule hrule]

end

/-- **No standard rule looks at more of a field than its kind.** -/
theorem Registry.standard_looksAtKind : standard.LooksAtKind := by
  intro name v argument context field other hkind
  rw [evaluate, evaluate]
  cases hrule : standard.get? name with
  | none => rfl
  | some rule => exact Rule.evaluate_onField hkind v argument context (List.mem_of_find?_eq_some hrule)

/-! ### Evaluations -/

/-- The same evaluation, asked for in another language. -/
def Setting.inLanguage (s : Setting) (language : Option String) : Setting :=
  { s with language := language }

/-! ### What fields have -/

/-- A change to what a field has that leaves it its name, its rules and its condition. -/
structure FieldInfo.KeepsSubstance (g : FieldInfo → FieldInfo) : Prop where
  name : ∀ info, (g info).name = info.name
  rules : ∀ info, (g info).rules = info.rules
  condition : ∀ info, (g info).condition = info.condition

/-- The report, with what the field has changed. -/
def Report.mapInfo (g : FieldInfo → FieldInfo) (r : Report) : Report :=
  { r with field := r.field.mapInfo g }

variable {g : FieldInfo → FieldInfo}

theorem Field.fits_mapInfo (field : Field) (v : Value) : (field.mapInfo g).fits v = field.fits v := by
  cases field <;> rfl

namespace Setting

variable {s : Setting}

/-- Rules that say the same about a value on two fields find the same there. -/
theorem firstFinding_congr_field {field other : Field} {path : Path} {v : Value} {rules : List DeclaredRule}
    (h : ∀ rule ∈ rules, s.registry.evaluate rule.name v rule.prepared (s.context field path rule)
      = s.registry.evaluate rule.name v rule.prepared (s.context other path rule)) :
    s.firstFinding field path v rules = s.firstFinding other path v rules := by
  induction rules with
  | nil => rfl
  | cons rule rest ih =>
    rw [List.forall_mem_cons] at h
    rw [firstFinding, firstFinding, h.1, ih h.2]

/-- A registry that looks at kinds finds the same on two fields of one kind. -/
theorem firstFinding_of_kind (hs : s.registry.LooksAtKind) {field other : Field} (hkind : field.kind = other.kind)
    (path : Path) (v : Value) (rules : List DeclaredRule) :
    s.firstFinding field path v rules = s.firstFinding other path v rules :=
  firstFinding_congr_field fun rule _ =>
    hs rule.name v rule.prepared (s.context field path rule) field other hkind

/-- **What is found on a field depends on its kind and its rules alone.** -/
theorem findings_mapInfo (hs : s.registry.LooksAtKind) (hrules : ∀ info, (g info).rules = info.rules) (field : Field)
    (path : Path) (raw : Value) : s.findings (field.mapInfo g) path raw = s.findings field path raw := by
  rw [findings, findings, firstFinding_of_kind hs (Field.kind_mapInfo field), rulesOf, rulesOf, Field.kind_mapInfo,
    Field.info_mapInfo, FieldInfo.rule?, FieldInfo.rule?, hrules, Field.seen, Field.seen, Field.fits_mapInfo]

variable (hs : s.registry.IgnoresLanguage) (language : Option String)

include hs

theorem firstFinding_inLanguage (field : Field) (path : Path) (v : Value) (rules : List DeclaredRule) :
    (s.inLanguage language).firstFinding field path v rules = s.firstFinding field path v rules := by
  induction rules with
  | nil => rfl
  | cons rule rest ih =>
    have hrule : (s.inLanguage language).registry.evaluate rule.name v rule.prepared
        ((s.inLanguage language).context field path rule)
          = s.registry.evaluate rule.name v rule.prepared (s.context field path rule) :=
      hs rule.name v rule.prepared (s.context field path rule) language
    rw [firstFinding, firstFinding, hrule, ih]
    rfl

theorem findings_inLanguage (field : Field) (path : Path) (raw : Value) :
    (s.inLanguage language).findings field path raw = s.findings field path raw := by
  rw [findings, findings, firstFinding_inLanguage hs]
  rfl

/-! ### Reports -/

variable (hkind : s.registry.LooksAtKind)

include hkind

theorem report_mapInfo (hg : FieldInfo.KeepsSubstance g) (path : Path) (skipped : Bool) (raw : Value) (field : Field) :
    (s.inLanguage language).report path skipped raw (field.mapInfo g)
      = (s.report path skipped raw field).map (Report.mapInfo g) := by
  have htaking : (s.inLanguage language).takesPart path field.info.condition
      = s.takesPart path field.info.condition := rfl
  rw [report, report, Field.info_mapInfo, hg.condition, htaking, findings_inLanguage hs,
    findings_mapInfo hkind hg.rules, Field.fits_mapInfo]
  cases skipped with
  | true => rfl
  | false =>
    cases s.takesPart path field.info.condition with
    | error f => rfl
    | ok takes =>
      cases takes with
      | false => rfl
      | true => cases hfindings : s.findings field path raw <;> rfl

omit hs hkind in
theorem visitAll_mapInfo (hg : FieldInfo.KeepsSubstance g) {path : Path} {skipped : Bool} {raw : Value}
    {children : List Field}
    (ih : ∀ c ∈ children, ∀ path skipped raw, (s.inLanguage language).visit path skipped raw (c.mapInfo g)
      = (s.visit path skipped raw c).map (List.map (Report.mapInfo g))) :
    (s.inLanguage language).visitAll path skipped raw (children.map (Field.mapInfo g))
      = (s.visitAll path skipped raw children).map (List.map (Report.mapInfo g)) := by
  induction children with
  | nil => rfl
  | cons c rest ihRest =>
    rw [List.forall_mem_cons] at ih
    rw [List.map_cons, visitAll, visitAll, Field.name_mapInfo hg.name, ih.1, ihRest ih.2]
    exact map_bind_eq fun reports => map_bind_eq fun more => congrArg Except.ok List.map_append.symm

theorem visit_mapInfo (hg : FieldInfo.KeepsSubstance g) (path : Path) (skipped : Bool) (raw : Value) (field : Field) :
    (s.inLanguage language).visit path skipped raw (field.mapInfo g)
      = (s.visit path skipped raw field).map (List.map (Report.mapInfo g)) := by
  induction field using Field.induction_parts generalizing path skipped raw with
  | leaf info kind =>
    have hown := report_mapInfo hs language hkind hg path skipped raw (.leaf info kind)
    rw [Field.mapInfo] at hown ⊢
    rw [visit, visit, hown]
    exact map_bind_eq fun own => rfl
  | group info children ih =>
    have hown := report_mapInfo hs language hkind hg path skipped raw (.group info children)
    rw [Field.mapInfo_group] at hown ⊢
    rw [visit, visit, hown]
    refine map_bind_eq fun own => ?_
    show ((s.inLanguage language).visitAll path own.skipped raw _ >>= _) = _
    rw [visitAll_mapInfo language hg ih]
    exact map_bind_eq fun reports => rfl
  | array info item ih =>
    have hown := report_mapInfo hs language hkind hg path skipped raw (.array info item)
    rw [Field.mapInfo] at hown ⊢
    rw [visit, visit, hown]
    refine map_bind_eq fun own => ?_
    have hbelow : ((elementsOf raw).zipIdx.mapM fun e =>
        (s.inLanguage language).visit (path ++ [.index e.2]) own.skipped e.1 (item.mapInfo g))
          = ((elementsOf raw).zipIdx.mapM fun e => s.visit (path ++ [.index e.2]) own.skipped e.1 item).map
              (List.map (List.map (Report.mapInfo g))) := by
      rw [map_mapM]
      exact mapM_congr fun e _ => ih _ _ _
    show ((elementsOf raw).zipIdx.mapM (fun e =>
      (s.inLanguage language).visit (path ++ [.index e.2]) own.skipped e.1 (item.mapInfo g)) >>= _) = _
    rw [hbelow]
    exact map_bind_eq fun reports => congrArg (fun rs => Except.ok (own.mapInfo g :: rs)) List.map_flatten.symm

end Setting

/-- **Another language, and other texts, change nothing about the reports on a form but the fields that they carry.** -/
theorem Form.evaluate_mapInfo {registry : Registry} (hregistry : registry.IgnoresLanguage)
    (hkind : registry.LooksAtKind) (hg : FieldInfo.KeepsSubstance g) (form : Form) (implicitNumber : Bool) (data : Value)
    (language other : Option String) :
    Form.evaluate ⟨form.root.mapInfo g⟩ registry implicitNumber data other
      = (form.evaluate registry implicitNumber data language).map (List.map (Report.mapInfo g)) :=
  Setting.visit_mapInfo (s := ⟨registry, implicitNumber, data, language⟩) hregistry other hkind hg [] false data form.root

end FormCheck
