import FormCheck.Proofs.Form.Declared
import FormCheck.Proofs.Form.References
import FormCheck.Proofs.Form.Skeleton

/-!
# What conditions and rules read elsewhere

A form refers to fields that it has, and to nothing else in the data: linking finds a field for each reference and
stores its place, and an evaluation looks the reference up by what is stored.

* `FieldInfo.readings` — the places that the condition of a field and its rule `required_if` compare, with the
  operators, and `FieldInfo.comparedPlaces` the places whose value the other rules take as it is;
* `Field.exists_at?_of_rulePlace` — **proved**: the place of a reference is that of a field;
* `Form.isLinked_of_mem` — **proved**: what is stored at the fields of a form covers all their references, and
  there is a field at each stored place;
* `Form.resolve_of_mem_stored` — **proved**: the stored places are those that the references stand for in the form.
-/

namespace FormCheck

open Fallible

/-! ### Readings -/

/-- The places that the condition in a rule compares, with the operators. -/
def DeclaredRule.readings (rule : DeclaredRule) : List (Operator × Path) :=
  match rule.prepared with
  | .condition condition => condition.comparisons.filterMap fun c =>
      (entryOf? rule.references c.reference).map (c.operator, ·)
  | _ => []

/-- The places whose value a rule without a condition takes as it is. -/
def DeclaredRule.comparedPlaces (rule : DeclaredRule) : List Path :=
  match rule.prepared with
  | .condition _ => []
  | _ => rule.references.map (·.2)

namespace FieldInfo

/-- The places that the conditions of a field compare, its own and those in its rules, with the operators. -/
def readings (info : FieldInfo) : List (Operator × Path) :=
  (info.condition.elim [] fun condition =>
    condition.comparisons.filterMap fun c => c.target.map (c.operator, ·)) ++
  info.rules.flatMap DeclaredRule.readings

/-- The places whose value a rule of the field takes as it is. -/
def comparedPlaces (info : FieldInfo) : List Path :=
  info.rules.flatMap DeclaredRule.comparedPlaces

end FieldInfo

/-! ### References lead to fields -/

namespace Field

variable {registry : Registry} {root : Field}

/-- **The place of a reference is that of a field.** -/
theorem exists_at?_of_rulePlace {base place : Path} {expression : String}
    (h : root.rulePlace base expression = .ok place) : ∃ f, root.at? place = some f := by
  obtain ⟨reference, start, field, _, _, hfield, hdescend⟩ := resolve_eq_ok_iff.mp (rulePlace_eq_ok_iff.mp h).1
  obtain ⟨q, f, rfl, hf⟩ := exists_at?_of_descend hdescend
  exact ⟨f, by rw [at?_append, hfield]; exact hf⟩

end Field

/-! ### What is stored covers all references -/

/-- Each reference in a rule has a place stored with the rule, and there is a field at it. -/
def DeclaredRule.IsLinked (registry : Registry) (root : Field) (rule : DeclaredRule) : Prop :=
  ∀ definition expressions, registry.get? rule.name = some definition →
    definition.referencesIn rule.prepared = .ok expressions →
    ∀ e ∈ expressions, ∃ place f, entryOf? rule.references e = some place ∧ root.at? place = some f

/-- The comparisons in the condition of a field have their targets, and its rules the places of their references;
there is a field at each of them. -/
structure FieldInfo.IsLinked (registry : Registry) (root : Field) (info : FieldInfo) : Prop where
  condition : ∀ condition, info.condition = some condition → ∀ c ∈ condition.comparisons,
    ∃ target f, c.target = some target ∧ root.at? target = some f
  rules : ∀ rule ∈ info.rules, rule.IsLinked registry root

variable {registry : Registry} {root linkedRoot : Field}

/-- A table has an entry under each of its keys. -/
theorem exists_entryOf? {α : Type} {entries : List (String × α)} {key : String}
    (h : key ∈ entries.map (·.1)) : ∃ a, entryOf? entries key = some a := by
  obtain ⟨e, he, rfl⟩ := List.mem_map.mp h
  have hsome : (entries.find? (·.1 == e.1)).isSome = true :=
    List.find?_isSome.mpr ⟨e, he, beq_self_eq_true e.1⟩
  obtain ⟨found, hfound⟩ := Option.isSome_iff_exists.mp hsome
  exact ⟨found.2, by rw [entryOf?, hfound]; rfl⟩

/-- Linking a rule stores one place for each reference in its argument. -/
theorem DeclaredRule.keys_of_link {root : Field} {base : Path} {rule linked : DeclaredRule}
    (h : rule.link registry root base = .ok linked) : ∃ definition expressions,
      registry.get? linked.name = some definition ∧ definition.referencesIn linked.prepared = .ok expressions ∧
        linked.references.map (·.1) = expressions.eraseDups := by
  obtain ⟨definition, expressions, _, hdefinition, hexpressions, ⟨hkeys, _⟩, rfl⟩ := link_eq_ok_iff.mp h
  exact ⟨definition, expressions, hdefinition, hexpressions, hkeys⟩

theorem DeclaredRule.isLinked_of_link {base : Path} {rule linked : DeclaredRule}
    (hroot : Field.link registry root root = .ok linkedRoot)
    (h : rule.link registry root base = .ok linked) : linked.IsLinked registry linkedRoot := by
  obtain ⟨definition, expressions, hdefinition, hexpressions, hkeys⟩ := keys_of_link h
  intro sameDefinition sameExpressions hdef hexp e he
  obtain rfl := Option.some.inj (hdefinition.symm.trans hdef)
  obtain rfl := Except.ok.inj (hexpressions.symm.trans hexp)
  have hkey : e ∈ linked.references.map (·.1) := by
    rw [hkeys]
    exact List.mem_eraseDups.mpr he
  obtain ⟨place, hplace⟩ := exists_entryOf? hkey
  have hfound := Field.rulePlace_of_linkRule h (mem_of_entryOf? hplace)
  obtain ⟨d, hd⟩ := Field.exists_at?_of_rulePlace hfound
  obtain ⟨f, hf⟩ := Field.exists_at?_congr (Field.skeleton_of_link hroot).symm hd
  exact ⟨place, f, hplace, hf⟩

theorem FieldInfo.isLinked_of_link {info linked : FieldInfo}
    (hroot : Field.link registry root root = .ok linkedRoot)
    (h : info.link registry root = .ok linked) : linked.IsLinked registry linkedRoot := by
  obtain ⟨condition, rules, hcondition, hrules, rfl⟩ := FieldInfo.link_iff.mp h
  refine ⟨fun c hc m hm => ?_, fun rule hrule => ?_⟩
  · cases hc
    cases hdeclared : info.condition with
    | none => rw [hdeclared] at hcondition; cases hcondition
    | some declared =>
      rw [hdeclared] at hcondition
      obtain ⟨resolved, hresolved, h⟩ := map_eq_ok_iff.mp hcondition
      cases h
      obtain ⟨target, htarget, hplace⟩ := Condition.target_of_resolve hresolved hm
      obtain ⟨d, hd⟩ := Field.exists_at?_of_rulePlace
        (Field.rulePlace_of_conditionPlace (mapError_eq_ok_iff.mp hplace))
      obtain ⟨f, hf⟩ := Field.exists_at?_congr (Field.skeleton_of_link hroot).symm hd
      exact ⟨target, f, htarget, hf⟩
  · obtain ⟨declared, _, hlink⟩ := exists_of_mem_mapM hrules hrule
    exact DeclaredRule.isLinked_of_link hroot hlink

/-- **What is stored at the fields of a form covers all their references.** -/
theorem Form.isLinked_of_mem {document : Value} {form : Form}
    (hform : Form.ofDocument registry document = .ok form) {f : Field} (hf : f ∈ form.root.preorder) :
    f.info.IsLinked registry form.root := by
  obtain ⟨draft, _, _, _, _, _, hroot⟩ := Form.ofDocument_eq_ok_iff.mp hform
  obtain ⟨d, _, _, hlink⟩ := Field.exists_link_of_mem hroot hf
  exact FieldInfo.isLinked_of_link hroot hlink

/-- Each rule of a field of a form has one place stored for each reference in its argument. -/
theorem Form.keys_of_mem {document : Value} {form : Form} (hform : Form.ofDocument registry document = .ok form)
    {f : Field} (hf : f ∈ form.root.preorder) {rule : DeclaredRule} (hrule : rule ∈ f.info.rules) :
    ∃ definition expressions, registry.get? rule.name = some definition ∧
      definition.referencesIn rule.prepared = .ok expressions ∧
      rule.references.map (·.1) = expressions.eraseDups := by
  obtain ⟨draft, _, _, _, _, _, hroot⟩ := Form.ofDocument_eq_ok_iff.mp hform
  obtain ⟨d, _, _, hlink⟩ := Field.exists_link_of_mem hroot hf
  obtain ⟨condition, rules, _, hrules, hinfo⟩ := FieldInfo.link_iff.mp hlink
  rw [hinfo] at hrule
  obtain ⟨declared, _, hdeclared⟩ := exists_of_mem_mapM hrules hrule
  exact DeclaredRule.keys_of_link hdeclared

/-- The reference of a comparison is stored with its target. -/
theorem FieldInfo.mem_stored_of_target {info : FieldInfo} {condition : Condition}
    (hcondition : info.condition = some condition) {c : Comparison} (hc : c ∈ condition.comparisons) {target : Path}
    (htarget : c.target = some target) : (c.reference, target) ∈ info.stored := by
  rw [FieldInfo.stored, hcondition]
  refine List.mem_append_left _ (List.mem_filterMap.mpr ⟨c, hc, ?_⟩)
  rw [htarget]
  rfl

/-- The places of a rule are stored at the field. -/
theorem FieldInfo.mem_stored_of_rule {info : FieldInfo} {rule : DeclaredRule} (hrule : rule ∈ info.rules)
    {reference : String × Path} (hr : reference ∈ rule.references) : reference ∈ info.stored :=
  List.mem_append_right _ (List.mem_flatMap.mpr ⟨rule, hrule, hr⟩)

/-- **What is stored for a reference is the place that it stands for in the form**, and this can be filled from the
field. -/
theorem Form.resolve_of_mem_stored {document : Value} {form : Form}
    (hform : Form.ofDocument registry document = .ok form) {f : Field} (hf : f ∈ form.root.preorder)
    {reference : String × Path} (hr : reference ∈ f.info.stored) :
    form.root.resolve reference.1 f.place = .ok reference.2 ∧ reference.2.canFill f.place = true := by
  obtain ⟨draft, _, _, _, _, _, hroot⟩ := Form.ofDocument_eq_ok_iff.mp hform
  obtain ⟨d, _, _, hlink⟩ := Field.exists_link_of_mem hroot hf
  have hplace := Field.rulePlace_of_linkInfo hlink hr
  rw [Field.rulePlace_congr (Field.skeleton_of_link hroot).symm] at hplace
  exact Field.rulePlace_eq_ok_iff.mp hplace

end FormCheck
