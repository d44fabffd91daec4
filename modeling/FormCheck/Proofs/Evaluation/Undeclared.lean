import FormCheck.Proofs.Evaluation.Answers
import FormCheck.Proofs.Evaluation.Locality
import FormCheck.Proofs.Form.Readings
import FormCheck.Proofs.Message.Mention

/-!
# Evaluating data with an undeclared key

An evaluation goes by what a form declares, so that it does not come to a key which no field has.  But the object with
the key is a value too, and so are the objects and lists around it; what looks at these may see the key.

* `Form.GainsUndeclared` — an object at the place of a group gains a key that the group does not declare;
* `Form.Overlooks` — the conditions and rules of a form look at what stands on the way to this place for its shape
  only;
* `Field.visits_of_gains` — **proved**: an evaluation comes to the same places with the key and without it;
* `Setting.verdictOf_grown` — **proved**: and there the rules that overlook the way find the same;
* `Form.evaluate_grown` — **proved**: so the evaluation is the one before, with the values in the findings read anew.
-/

namespace FormCheck

open Fallible Value

/-! ### Where the evaluation goes -/

/-- A place that an evaluation comes to, with the field that governs it. -/
def Visit.site (v : Visit) : Path × Field :=
  (v.path, v.field)

/-- The visit as it is made over other data. -/
def Visit.withData (data : Value) (v : Visit) : Visit :=
  { v with raw := data.follow v.path }

namespace Field

/-- The sites below a step. -/
def sitesUnder (s : Segment) (visits : List Visit) : List (Path × Field) :=
  visits.map fun v => (s :: v.path, v.field)

theorem sitesUnder_congr {s : Segment} {visits others : List Visit}
    (h : visits.map Visit.site = others.map Visit.site) : sitesUnder s visits = sitesUnder s others := by
  have hmap : ∀ vs : List Visit,
      sitesUnder s vs = (vs.map Visit.site).map fun site => (s :: site.1, site.2) := by
    intro vs
    rw [List.map_map]
    rfl
  rw [hmap, hmap, h]

theorem sites_group (info : FieldInfo) (children : List Field) (raw : Value) :
    ((Field.group info children).visits raw).map Visit.site = ([], .group info children) ::
      children.flatMap fun c => sitesUnder (.name c.name) (c.visits (raw.child c.name)) := by
  rw [visits, visitsOfAll_eq_flatMap, List.map_cons, List.map_flatMap]
  simp only [List.map_map]
  rfl

theorem sites_array (info : FieldInfo) (item : Field) (raw : Value) :
    ((Field.array info item).visits raw).map Visit.site = ([], .array info item) ::
      (Setting.elementsOf raw).zipIdx.flatMap fun e => sitesUnder (.index e.2) (item.visits e.1) := by
  rw [visits, List.map_cons, List.map_flatMap]
  simp only [List.map_map]
  rfl

variable {key : String} {value v w : Value} {p : Path}

/-- The sites in an array do not change with one element, if those in the element do not. -/
theorem sites_elements {item : Field} (before after : List Value)
    (h : (item.visits w).map Visit.site = (item.visits v).map Visit.site) :
    ((before ++ w :: after).zipIdx.flatMap fun e => sitesUnder (.index e.2) (item.visits e.1))
      = (before ++ v :: after).zipIdx.flatMap fun e => sitesUnder (.index e.2) (item.visits e.1) := by
  simp only [List.zipIdx_append, List.zipIdx_cons, List.flatMap_append, List.flatMap_cons, sitesUnder_congr h]

/-- **An evaluation comes to the same places** when an object gains a key that is not declared. -/
theorem sites_of_gains {place : Path} {field : Field} (hplaced : field.Placed place)
    (h : Gains key value p v w)
    (hkey : ∀ info children, field.at? p = some (.group info children) → ∀ c ∈ children, c.name ≠ key) :
    (field.visits w).map Visit.site = (field.visits v).map Visit.site := by
  -- A field that asks for another sort of value than it gets has no sites below it, before and after.
  induction h generalizing field place with
  | @here before after _ =>
    cases field with
    | leaf info kind => rfl
    | group info children =>
      rw [sites_group, sites_group]
      refine congrArg _ (List.flatMap_congr fun c hc => ?_)
      have hchild : (Value.object (before ++ (key, value) :: after)).child c.name
          = (Value.object (before ++ after)).child c.name :=
        congrArg (·.getD Value.absent) (entryOf?_middle_of_ne (Ne.symm (hkey info children rfl c hc)))
      rw [hchild]
    | array info item => rfl
  | @entry name p before after v w hbefore _ ih =>
    cases field with
    | leaf info kind => rfl
    | group info children =>
      rw [sites_group, sites_group]
      refine congrArg _ (List.flatMap_congr fun c hc => ?_)
      by_cases hname : name = c.name
      · subst hname
        have hchild : ∀ u : Value, (Value.object (before ++ (c.name, u) :: after)).child c.name = u :=
          fun u => congrArg (·.getD Value.absent) (entryOf?_middle hbefore)
        rw [hchild, hchild]
        refine sitesUnder_congr (ih (hplaced.child hc) fun info' children' hat => hkey info' children' ?_)
        rw [at?_cons]
        show ((Field.group info children).child? c.name).bind _ = _
        rw [child?_eq_some info hplaced.names_nodup hc]
        exact hat
      · have hchild : ∀ u : Value, (Value.object (before ++ (name, u) :: after)).child c.name
            = (Value.object (before ++ after)).child c.name :=
          fun u => congrArg (·.getD Value.absent) (entryOf?_middle_of_ne hname)
        rw [hchild, hchild]
    | array info item => rfl
  | @member p before after v w _ ih =>
    cases field with
    | leaf info kind => rfl
    | group info children =>
      rw [sites_group, sites_group]
      rfl
    | array info item =>
      rw [sites_array, sites_array]
      exact congrArg _ (sites_elements before after (ih hplaced.item hkey))

/-- The visits are those to the sites, each with what the data holds there. -/
theorem visits_of_gains {place : Path} {field : Field} (hplaced : field.Placed place)
    (h : Gains key value p v w)
    (hkey : ∀ info children, field.at? p = some (.group info children) → ∀ c ∈ children, c.name ≠ key) :
    field.visits w = (field.visits v).map (Visit.withData w) := by
  have hover : ∀ visits : List Visit, visits.map (Visit.withData w)
      = (visits.map Visit.site).map fun site => ⟨site.1, site.2, w.follow site.1⟩ := by
    intro visits
    rw [List.map_map]
    rfl
  rw [hover, ← sites_of_gains hplaced h hkey, ← hover]
  refine (List.map_id' _).symm.trans (List.map_congr_left fun u hu => ?_)
  rw [Visit.withData, follow_of_mem_visits hu]

end Field

/-! ### What stands on the way -/

theorem Field.fits_of_sameShape {v w : Value} (h : SameShape v w) (field : Field) :
    field.fits v = field.fits w := by
  cases h <;> cases field <;> rfl

namespace Form

variable {form : Form} {key : String} {value data grown : Value} {p q : Path}

/-- The names of the fields that the group at a place declares; nothing where there is no group. -/
def namesAt? (form : Form) (p : Path) : Option (List String) :=
  match form.fieldAt? p with
  | some (.group _ children) => some (children.map Field.name)
  | _ => none

/-- Data gains a key: in the object at the place of a group, and the group declares no field of that name. -/
structure GainsUndeclared (form : Form) (key : String) (value : Value) (p : Path) (data grown : Value) : Prop where
  gains : Gains key value p data grown
  undeclared : ∃ names, form.namesAt? p = some names ∧ key ∉ names

namespace GainsUndeclared

theorem exists_group (h : form.GainsUndeclared key value p data grown) :
    ∃ info children, form.root.at? p = some (.group info children) ∧ ∀ c ∈ children, c.name ≠ key := by
  obtain ⟨names, hnames, hkey⟩ := h.undeclared
  rw [namesAt?, fieldAt?_eq_at?] at hnames
  split at hnames
  · next info children hgroup =>
    cases hnames
    exact ⟨info, children, hgroup, fun c hc hname => hkey (List.mem_map.mpr ⟨c, hc, hname⟩)⟩
  · cases hnames

/-- No field stands under the key. -/
theorem not_prefix (h : form.GainsUndeclared key value p data grown) {f : Field} (hq : form.root.at? q = some f) :
    ¬ p ++ [.name key] <+: q := by
  obtain ⟨info, children, hgroup, hnames⟩ := h.exists_group
  rintro ⟨rest, rfl⟩
  rw [List.append_assoc, Field.at?_append, hgroup, Option.bind_some] at hq
  obtain ⟨c, hc, _⟩ := Option.bind_eq_some_iff.mp hq
  obtain ⟨hmem, hname⟩ := Field.mem_of_child? info hc
  exact hnames c hmem hname

theorem follow_eq (h : form.GainsUndeclared key value p data grown) {f : Field} (hq : form.root.at? q = some f)
    (hway : ¬ q <+: p) : data.follow q = grown.follow q :=
  h.gains.follow_eq hway (h.not_prefix hq)

theorem sameShape (h : form.GainsUndeclared key value p data grown) (hway : q <+: p) :
    SameShape (data.follow q) (grown.follow q) := by
  obtain ⟨rest, rfl⟩ := hway
  exact h.gains.follow.sameShape

/-- What stands on the way is not empty, unless the object that gains the key was. -/
theorem isEmpty_eq_false (h : form.GainsUndeclared key value p data grown) (hway : q <+: p)
    (hfull : q = p → (data.follow p).isEmpty = false) :
    (data.follow q).isEmpty = false ∧ (grown.follow q).isEmpty = false := by
  obtain ⟨rest, rfl⟩ := hway
  refine ⟨?_, h.gains.follow.isEmpty_eq_false⟩
  cases rest with
  | nil =>
    rw [List.append_nil] at hfull
    exact hfull rfl
  | cons s rest => exact h.gains.follow.isEmpty_of_ne_nil (List.cons_ne_nil s rest)

/-- What is read at the place of a field is the same, or it stands on the way. -/
theorem readAt_cases (h : form.GainsUndeclared key value p data grown) {target : Path} {f : Field}
    (htarget : form.root.at? target = some f) (place : Path) :
    data.readAt target place = grown.readAt target place ∨ ∃ found : Path, found <+: p ∧
      found.outline = target.outline ∧ data.readAt target place = data.follow found ∧
      grown.readAt target place = grown.follow found := by
  rw [readAt, readAt]
  cases hfill : target.fill place with
  | none => exact .inl rfl
  | some found =>
    have hout : found.outline = target.outline := Path.outline_of_fill hfill
    have hat : form.root.at? found = some f := by
      rw [← Field.at?_outline, hout, Field.at?_outline, htarget]
    by_cases hway : found <+: p
    · exact .inr ⟨found, hway, hout, rfl, rfl⟩
    · exact .inl (h.follow_eq hat hway)

/-- What a field sees on the way is written with the new entry only if it has been written without it, and otherwise
it may be the entry that is not written. -/
theorem hasLongNumber_seen (h : form.GainsUndeclared key value p data grown) (hway : q <+: p) (field : Field) :
    ((field.seen (data.follow q)).HasLongNumber → (field.seen (grown.follow q)).HasLongNumber) ∧
      ((field.seen (grown.follow q)).HasLongNumber →
        (field.seen (data.follow q)).HasLongNumber ∨ value.HasLongNumber) := by
  have hfits := Field.fits_of_sameShape (h.sameShape hway) field
  obtain ⟨rest, rfl⟩ := hway
  rw [Field.seen, Field.seen, hfits]
  by_cases hfit : field.fits (grown.follow q) = true
  · rw [if_pos hfit, if_pos hfit, h.gains.follow.hasLongNumber_iff]
    exact ⟨.inl, id⟩
  · rw [if_neg hfit, if_neg hfit]
    exact ⟨id, .inl⟩

/-- Groups and arrays stand on the way. -/
theorem target_ne_scalar (h : form.GainsUndeclared key value p data grown) {f : Field}
    (hq : form.root.at? q = some f) (hway : q <+: p) : f.kind.target ≠ .scalar := by
  obtain ⟨info, children, hgroup, _⟩ := h.exists_group
  obtain ⟨rest, rfl⟩ := hway
  rw [Field.at?_append, hq, Option.bind_some] at hgroup
  cases f with
  | leaf info kind =>
    cases rest with
    | nil => cases hgroup
    | cons s rest => cases s <;> cases hgroup
  | group info children => exact fun h => by cases h
  | array info item => exact fun h => by cases h

end GainsUndeclared

/-! ### What overlooks the way -/

/-- A comparison with an operator at a place overlooks the way to `p`: it looks at other places only, or orders
numbers, or it asks whether a value is empty, and this is not so of the object at `p`. -/
def ComparesPast (data : Value) (p : Path) (reading : Operator × Path) : Prop :=
  reading.2.outline <+: p.outline → reading.1.isOrdering = true ∨
    reading.1 = .empty ∧ (reading.2.outline = p.outline → (data.follow p).isEmpty = false)

/-- A form overlooks what stands on the way to a place: its conditions compare nothing there, except for numbers
and emptiness; its rules take no value there; those of an array on the way do not look at the items; and those of
the group at the place do not see that an object without entries gets one. -/
structure Overlooks (form : Form) (data : Value) (p : Path) : Prop where
  conditions : ∀ f ∈ form.root.preorder, ∀ reading ∈ f.info.readings, ComparesPast data p reading
  references : ∀ f ∈ form.root.preorder, ∀ place ∈ f.info.comparedPlaces, ¬ place.outline <+: p.outline
  items : ∀ q ∈ p.inits, ∀ f ∈ form.fieldAt? q, ∀ rule ∈ f.info.rules, rule.name ∉ Rule.lookingInside
  presence : (data.follow p).isEmpty = true → ∀ f ∈ form.fieldAt? p, f.info.rules.isEmpty = true

instance (data : Value) (p : Path) (reading : Operator × Path) : Decidable (ComparesPast data p reading) :=
  inferInstanceAs (Decidable (_ → _))

instance (form : Form) (data : Value) (p : Path) : Decidable (form.Overlooks data p) :=
  decidable_of_iff
    ((∀ f ∈ form.root.preorder, ∀ reading ∈ f.info.readings, ComparesPast data p reading) ∧
      (∀ f ∈ form.root.preorder, ∀ place ∈ f.info.comparedPlaces, ¬ place.outline <+: p.outline) ∧
      (∀ q ∈ p.inits, ∀ f ∈ form.fieldAt? q, ∀ rule ∈ f.info.rules, rule.name ∉ Rule.lookingInside) ∧
      ((data.follow p).isEmpty = true → ∀ f ∈ form.fieldAt? p, f.info.rules.isEmpty = true))
    ⟨fun ⟨h₁, h₂, h₃, h₄⟩ => ⟨h₁, h₂, h₃, h₄⟩,
      fun h => ⟨h.conditions, h.references, h.items, h.presence⟩⟩

/-- A comparison that overlooks the way finds the same. -/
theorem GainsUndeclared.holds_readAt (h : form.GainsUndeclared key value p data grown) {op : Operator}
    {target : Path} {f : Field} (htarget : form.root.at? target = some f) (hpast : ComparesPast data p (op, target))
    (place : Path) (operand : Value) :
    op.holds (data.readAt target place) operand = op.holds (grown.readAt target place) operand := by
  rcases h.readAt_cases htarget place with hsame | ⟨found, hway, hout, hdata, hgrown⟩
  · rw [hsame]
  · rw [hdata, hgrown]
    rcases hpast (hout ▸ hway.map Segment.outline) with hordering | ⟨rfl, hfull⟩
    · exact Operator.holds_of_sameShape (h.sameShape hway) hordering operand
    · obtain ⟨hdata, hgrown⟩ := h.isEmpty_eq_false hway fun heq => hfull (by rw [← hout, heq])
      show Except.ok _ = Except.ok _
      rw [hdata, hgrown]

end Form

/-! ### What conditions and rules find -/

/-- A rule of a field, as it was declared and linked in a form, overlooks the way to a place. -/
structure DeclaredRule.LooksPast (form : Form) (data : Value) (p : Path) (kind : Kind) (rule : DeclaredRule) :
    Prop where
  prepared : rule.IsPrepared Registry.standard kind
  linked : rule.IsLinked Registry.standard form.root
  readings : ∀ reading ∈ rule.readings, Form.ComparesPast data p reading
  compared : ∀ place ∈ rule.comparedPlaces, ¬ place.outline <+: p.outline

/-- The rule that fields for numbers have without declaring it looks at the number only. -/
theorem DeclaredRule.number_looksPast (form : Form) (data : Value) (p : Path) (kind : LeafKind) :
    DeclaredRule.number.LooksPast form data p (.leaf kind) where
  prepared := number_isPrepared kind
  linked := number_isLinked form.root
  readings := List.forall_mem_nil _
  compared := List.forall_mem_nil _

/-- The failure that a report tells of, on the values that other data holds. -/
def Report.withData (data : Value) (r : Report) : Report :=
  { r with findings := r.findings.map (·.withValue (r.field.seen (data.follow r.path))) }

namespace Setting

variable {s : Setting} {form : Form} {key : String} {value grown : Value} {p : Path}

/-- A condition that overlooks the way says the same. -/
theorem takesPart_grown (h : form.GainsUndeclared key value p s.data grown) {info : FieldInfo}
    (hlinked : info.IsLinked Registry.standard form.root)
    (hpast : ∀ reading ∈ info.readings, Form.ComparesPast s.data p reading) (place : Path) :
    (s.withData grown).takesPart place info.condition = s.takesPart place info.condition := by
  refine takesPart_withData fun condition hcondition c hc => ?_
  obtain ⟨target, f, htarget, hf⟩ := hlinked.condition condition hcondition c hc
  refine ⟨target, htarget, h.holds_readAt hf (hpast _ ?_) place c.operand⟩
  rw [FieldInfo.readings, hcondition]
  refine List.mem_append_left _ (List.mem_filterMap.mpr ⟨c, hc, ?_⟩)
  rw [htarget]
  rfl

/-- What a rule refers to beside the way stands for the same. -/
theorem readsAlike (h : form.GainsUndeclared key value p s.data grown) {field : Field} {rule : DeclaredRule}
    (hrule : rule.LooksPast form s.data p field.kind) {definition : Rule}
    (hdefinition : Registry.standard.get? rule.name = some definition) (place : Path) :
    definition.ReadsAlike rule.prepared (s.context field place rule) grown where
  condition condition hprepared hreferences c hc := by
    obtain ⟨target, f, htarget, hf⟩ := hrule.linked definition _ hdefinition hreferences c.reference
      (List.mem_map_of_mem hc)
    have hmem : (c.operator, target) ∈ rule.readings := by
      rw [DeclaredRule.readings, hprepared]
      refine List.mem_filterMap.mpr ⟨c, hc, ?_⟩
      rw [htarget]
      rfl
    rw [Context.lookup_of_entry htarget, Context.lookup_of_entry htarget]
    exact h.holds_readAt hf (hrule.readings _ hmem) place c.operand
  references expressions hplain hreferences e he := by
    obtain ⟨target, f, htarget, hf⟩ := hrule.linked definition expressions hdefinition hreferences e he
    have hmem : target ∈ rule.comparedPlaces := by
      rw [DeclaredRule.comparedPlaces]
      split
      · next condition hprepared => exact absurd hprepared (hplain condition)
      · exact List.mem_map_of_mem (mem_of_entryOf? htarget)
    rw [Context.lookup_of_entry htarget, Context.lookup_of_entry htarget]
    rcases h.readAt_cases hf place with hsame | ⟨found, hway, hout, _⟩
    · exact hsame
    · exact absurd (hout ▸ hway.map Segment.outline) (hrule.compared target hmem)

/-- A rule that overlooks the way finds the same about the same value. -/
theorem verdictOf_withData (hs : s.registry = Registry.standard) (h : form.GainsUndeclared key value p s.data grown)
    {field : Field} {rule : DeclaredRule} (hrule : rule.LooksPast form s.data p field.kind) (place : Path)
    (v : Value) : (s.withData grown).verdictOf field place v rule = s.verdictOf field place v rule := by
  obtain ⟨definition, hdefinition, _, _⟩ := hrule.prepared
  exact verdictOf_of_readsAlike hs hdefinition (readsAlike h hrule hdefinition place) v

/-- **A rule that overlooks the way finds the same at every place of the form**, also where the value itself has
gained the key. -/
theorem verdictOf_grown (hs : s.registry = Registry.standard) (h : form.GainsUndeclared key value p s.data grown)
    {field : Field} {rule : DeclaredRule} (hrule : rule.LooksPast form s.data p field.kind) {place : Path}
    (hfield : form.root.at? place = some field)
    (hitems : place <+: p → rule.name ∉ Rule.lookingInside)
    (hpresence : place = p → (s.data.follow p).isEmpty = false) :
    (s.withData grown).verdictOf field place (field.seen (grown.follow place)) rule
      = s.verdictOf field place (field.seen (s.data.follow place)) rule := by
  rw [verdictOf_withData hs h hrule]
  -- On the way the two values differ, but a rule on a group or an array does not see in what.
  by_cases hway : place <+: p
  · have hshape := h.sameShape hway
    obtain ⟨hdata, hgrown⟩ := h.isEmpty_eq_false hway hpresence
    rw [Field.seen, Field.seen, ← Field.fits_of_sameShape hshape]
    split
    · obtain ⟨definition, hdefinition, htarget, _⟩ := hrule.prepared
      have hname := Registry.name_of_get? hdefinition
      rw [verdictOf, verdictOf, hs, Registry.evaluate, Registry.evaluate, hdefinition]
      exact (Rule.evaluate_of_sameShape (Registry.mem_of_standard hdefinition) htarget
        (h.target_ne_scalar hfield hway) (hname ▸ hitems hway) hshape (hdata.trans hgrown.symm) _ _).symm
    · rfl
  · rw [h.follow_eq hfield hway]

/-- Rules that say the same of another value find the same about it. -/
theorem firstFinding_withData {field : Field} {place : Path} {v w : Value} {rules : List DeclaredRule}
    (h : ∀ rule ∈ rules, (s.withData grown).verdictOf field place w rule = s.verdictOf field place v rule) :
    (s.withData grown).firstFinding field place w rules
      = (s.firstFinding field place v rules).map (Option.map (·.withValue w)) := by
  induction rules with
  | nil => rfl
  | cons rule rest ih =>
    rw [List.forall_mem_cons] at h
    show ((s.withData grown).verdictOf field place w rule >>= _)
      = Except.map _ (s.verdictOf field place v rule >>= _)
    rw [h.1]
    cases s.verdictOf field place v rule with
    | error f => rfl
    | ok verdict =>
      rw [ok_bind, ok_bind]
      cases verdict.passed with
      | true => exact ih h.2
      | false => rfl

/-- What a field is asked overlooks the way, if its condition and its rules do. -/
theorem looksPast_of_mem {field : Field} (hdeclared : field.info.IsDeclared Registry.standard field.kind)
    (hlinked : field.info.IsLinked Registry.standard form.root)
    (hreadings : ∀ reading ∈ field.info.readings, Form.ComparesPast s.data p reading)
    (hcompared : ∀ place ∈ field.info.comparedPlaces, ¬ place.outline <+: p.outline)
    {rule : DeclaredRule} (hrule : rule ∈ s.rulesOf field) : rule.LooksPast form s.data p field.kind := by
  rcases mem_rulesOf hrule with hrule | ⟨rfl, hnumber⟩
  · refine ⟨hdeclared.rules rule hrule, hlinked.rules rule hrule, fun reading hreading => ?_,
      fun place hplace => ?_⟩
    · exact hreadings reading (List.mem_append_right _ (List.mem_flatMap.mpr ⟨rule, hrule, hreading⟩))
    · exact hcompared place (List.mem_flatMap.mpr ⟨rule, hrule, hplace⟩)
  · rw [hnumber]
    exact DeclaredRule.number_looksPast form s.data p .number

/-- The findings on a field that the form overlooks the way from are those before, on another value. -/
theorem findings_grown (hs : s.registry = Registry.standard) (h : form.GainsUndeclared key value p s.data grown)
    (hover : form.Overlooks s.data p) {field : Field} {place : Path} (hfield : form.root.at? place = some field)
    (hrules : ∀ rule ∈ s.rulesOf field, rule.LooksPast form s.data p field.kind) :
    (s.withData grown).findings field place (grown.follow place)
      = (s.findings field place (s.data.follow place)).map
          (List.map (·.withValue (field.seen (grown.follow place)))) := by
  have hsame : ∀ rule ∈ s.rulesOf field,
      (s.withData grown).verdictOf field place (field.seen (grown.follow place)) rule
        = s.verdictOf field place (field.seen (s.data.follow place)) rule := by
    intro rule hrule
    have hat : form.fieldAt? place = some field := (form.fieldAt?_eq_at? place).trans hfield
    rcases mem_rulesOf hrule with hdeclared | ⟨rfl, hnumber⟩
    · refine verdictOf_grown hs h (hrules rule hrule) hfield ?_ ?_
      · exact fun hway => hover.items place ((List.mem_inits place p).mpr hway) field hat rule hdeclared
      · rintro rfl
        refine Bool.eq_false_iff.mpr fun hempty => ?_
        rw [List.isEmpty_iff.mp (hover.presence hempty field hat)] at hdeclared
        cases hdeclared
    · have hscalar : ¬ place <+: p := fun hway => h.target_ne_scalar hfield hway (by rw [hnumber]; rfl)
      refine verdictOf_grown hs h (hrules _ hrule) hfield (fun hway => absurd hway hscalar) ?_
      rintro rfl
      exact absurd (List.prefix_refl _) hscalar
  show (s.withData grown).firstFinding _ _ _ (s.rulesOf field) >>= _ = _
  rw [firstFinding_withData hsame, findings]
  cases s.firstFinding field place (field.seen (s.data.follow place)) (s.rulesOf field) with
  | error f => rfl
  | ok found => cases found <;> rfl

end Setting

/-! ### The evaluation -/

namespace Form

variable {form : Form} {s : Setting} {key : String} {value grown : Value} {p : Path} {document : Value}

/-- The report on a place that an evaluation comes to is the one before, with the value read anew. -/
theorem reportFrom_grown (hform : Form.ofDocument Registry.standard document = .ok form)
    (hplaced : form.root.Placed []) (hs : s.registry = Registry.standard)
    (h : form.GainsUndeclared key value p s.data grown) (hover : form.Overlooks s.data p)
    {v : Visit} (hv : v ∈ form.root.visits s.data) :
    (s.withData grown).reportFrom [] false form.root (v.withData grown)
      = (s.reportFrom [] false form.root v).map (Report.withData grown) := by
  obtain ⟨place, field, raw⟩ := v
  have hat : form.root.at? place = some field := Field.at?_of_mem_visits hplaced hv
  have hmem : field ∈ form.root.preorder := Field.mem_preorder_of_at? hat
  obtain rfl : s.data.follow place = raw := Field.follow_of_mem_visits hv
  have hoff : (s.withData grown).isOff form.root [] place = s.isOff form.root [] place :=
    Setting.isOff_congr fun q f _ hf => Setting.takesPart_grown h
      (Form.isLinked_of_mem hform (Field.mem_preorder_of_at? hf))
      (hover.conditions f (Field.mem_preorder_of_at? hf)) _
  have hfits : field.fits (grown.follow place) = field.fits (s.data.follow place) := by
    by_cases hway : place <+: p
    · exact (Field.fits_of_sameShape (h.sameShape hway) field).symm
    · rw [h.follow_eq hat hway]
  have hfindings := Setting.findings_grown hs h hover hat fun rule hrule =>
    Setting.looksPast_of_mem (isDeclared_of_mem hform hmem) (isLinked_of_mem hform hmem)
      (hover.conditions _ hmem) (hover.references _ hmem) hrule
  have hreport : ∀ (t : Setting) (raw : Value), t.reportFrom [] false form.root ⟨place, field, raw⟩
      = t.isOff form.root [] place >>= fun off => t.findingsUnless off field place raw >>= fun findings =>
          .ok ⟨place, field, field.fits raw, off, findings⟩ := fun _ _ => rfl
  show (s.withData grown).reportFrom [] false form.root ⟨place, field, grown.follow place⟩ = _
  rw [hreport, hreport, hoff, hfits]
  cases s.isOff form.root [] place with
  | error f => rfl
  | ok off =>
    cases off with
    | true => rfl
    | false =>
      show (s.withData grown).findings field place (grown.follow place) >>= _
        = Except.map _ (s.findings field place (s.data.follow place) >>= _)
      rw [hfindings]
      cases s.findings field place (s.data.follow place) <;> rfl

/-- **An evaluation of data with an undeclared key is the one without the key**, with the values in the findings read
anew, where the form overlooks what stands on the way to the key. -/
theorem evaluate_grown (hkeys : document.keysOnce = true)
    (hform : Form.ofDocument Registry.standard document = .ok form) {data : Value}
    (h : form.GainsUndeclared key value p data grown) (hover : form.Overlooks data p)
    (implicitNumber : Bool) (language : Option String) :
    form.evaluate Registry.standard implicitNumber grown language
      = (form.evaluate Registry.standard implicitNumber data language).map (List.map (Report.withData grown)) := by
  have hplaced := Form.root_placed hkeys hform
  obtain ⟨info, children, hgroup, hnames⟩ := h.exists_group
  have hvisits : form.root.visits grown = (form.root.visits data).map (Visit.withData grown) := by
    refine Field.visits_of_gains hplaced h.gains fun info' children' hat c hc => ?_
    cases hgroup.symm.trans hat
    exact hnames c hc
  rw [evaluate_eq_mapM hplaced, evaluate_eq_mapM hplaced, hvisits, List.mapM_map, map_mapM]
  exact mapM_congr fun v hv =>
    reportFrom_grown (s := ⟨Registry.standard, implicitNumber, data, language⟩) hform hplaced rfl h hover hv

end Form

end FormCheck
