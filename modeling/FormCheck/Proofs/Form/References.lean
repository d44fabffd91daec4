import FormCheck.Proofs.Evaluation.Reach
import FormCheck.Proofs.Form.Descent
import FormCheck.Proofs.Path.Filling

/-!
# The references of a form, seen from places in data

Linking stores at each field the places that its condition and its rules refer to, and refuses those that
cannot be filled from the outline of the field's place.  An evaluation fills them from the places in the
data.

* `FieldInfo.targets` — the places that linking has stored at a field;
* `Field.canFill_of_link` — **proved**: each of them can be filled from the outline of the field's place;
* `Form.fill_stored_iff` — **proved**: over any data such a place is filled from a place of the field exactly
  when the two are aligned;
* `Form.not_every_stored_place_fills` — **proved**: a place with an index in front of an open one passes the
  check and is not filled from other elements.
-/

namespace FormCheck

open Fallible

/-! ### Conditions -/

namespace Condition

/-- Induction over conditions, with the hypothesis for every member. -/
@[elab_as_elim]
theorem induction_parts {motive : Condition → Prop} (compare : ∀ c, motive (.compare c))
    (all : ∀ members, (∀ c ∈ members, motive c) → motive (.all members))
    (any : ∀ members, (∀ c ∈ members, motive c) → motive (.any members))
    (not : ∀ member, motive member → motive (.not member)) (condition : Condition) : motive condition := by
  refine @Condition.rec motive (fun members => ∀ c ∈ members, motive c) compare all any not
    (List.forall_mem_nil _) (fun head tail ihHead ihTail => ?_) condition
  exact List.forall_mem_cons.mpr ⟨ihHead, ihTail⟩

theorem comparisonsOf_eq_flatMap (members : List Condition) :
    comparisonsOf members = members.flatMap comparisons := by
  induction members with
  | nil => rfl
  | cons c members ih => rw [comparisonsOf, List.flatMap_cons, ih]

variable {ε : Type} {place : String → Except ε Path}

theorem resolveAll_eq_mapM (members : List Condition) :
    resolveAll place members = members.mapM (resolve place) := by
  induction members with
  | nil => rfl
  | cons c members ih =>
    rw [resolveAll, List.mapM_cons, ih]

/-- Each comparison of a resolved condition is one of the condition, with the place of its reference for a target. -/
theorem exists_of_mem_resolve {condition resolved : Condition} (h : condition.resolve place = .ok resolved)
    {c : Comparison} (hc : c ∈ resolved.comparisons) :
    ∃ d ∈ condition.comparisons, ∃ target, place d.reference = .ok target ∧ c = { d with target := some target } := by
  -- The two ways of joining differ in nothing that matters here.
  have hjoined : ∀ {members resolvedMembers : List Condition},
      (∀ m ∈ members, ∀ {r}, m.resolve place = .ok r → c ∈ r.comparisons →
        ∃ d ∈ m.comparisons, ∃ target, place d.reference = .ok target ∧ c = { d with target := some target }) →
      resolveAll place members = .ok resolvedMembers → c ∈ comparisonsOf resolvedMembers →
      ∃ d ∈ comparisonsOf members, ∃ target,
        place d.reference = .ok target ∧ c = { d with target := some target } := by
    intro members resolvedMembers ih h hc
    rw [resolveAll_eq_mapM] at h
    rw [comparisonsOf_eq_flatMap] at hc ⊢
    obtain ⟨r, hr, hcr⟩ := List.mem_flatMap.mp hc
    obtain ⟨m, hm, hmr⟩ := exists_of_mem_mapM h hr
    obtain ⟨d, hd, hsame⟩ := ih m hm hmr hcr
    exact ⟨d, List.mem_flatMap.mpr ⟨m, hm, hd⟩, hsame⟩
  induction condition using induction_parts generalizing resolved with
  | compare comparison =>
    obtain ⟨target, htarget, h⟩ := bind_eq_ok_iff.mp h
    cases h
    exact ⟨comparison, List.mem_singleton_self _, target, htarget, List.mem_singleton.mp hc⟩
  | all members ih =>
    obtain ⟨resolvedMembers, hmembers, h⟩ := bind_eq_ok_iff.mp h
    cases h
    exact hjoined (fun m hm r => ih m hm) hmembers hc
  | any members ih =>
    obtain ⟨resolvedMembers, hmembers, h⟩ := bind_eq_ok_iff.mp h
    cases h
    exact hjoined (fun m hm r => ih m hm) hmembers hc
  | not member ih =>
    obtain ⟨resolvedMember, hmember, h⟩ := bind_eq_ok_iff.mp h
    cases h
    exact ih hmember hc

/-- Each comparison of a resolved condition has the place of its reference for a target. -/
theorem target_of_resolve {condition resolved : Condition} (h : condition.resolve place = .ok resolved)
    {c : Comparison} (hc : c ∈ resolved.comparisons) :
    ∃ target, c.target = some target ∧ place c.reference = .ok target := by
  obtain ⟨d, _, target, hplace, rfl⟩ := exists_of_mem_resolve h hc
  exact ⟨target, rfl, hplace⟩

end Condition

/-! ### What linking stores -/

/-- The references of a field with the places that linking has stored for them: those of the comparisons in its
condition, and those in its rules. -/
def FieldInfo.stored (info : FieldInfo) : List (String × Path) :=
  (info.condition.elim [] fun c => c.comparisons.filterMap fun m => m.target.map (m.reference, ·)) ++
    info.rules.flatMap (·.references)

/-- The places that linking has stored at a field: the targets of the comparisons in its condition, and the
places of the references in its rules. -/
def FieldInfo.targets (info : FieldInfo) : List Path :=
  (info.condition.elim [] fun c => c.comparisons.filterMap (·.target)) ++
    info.rules.flatMap fun rule => rule.references.map (·.2)

theorem FieldInfo.targets_eq_map (info : FieldInfo) : info.targets = info.stored.map (·.2) := by
  rw [targets, stored, List.map_append, List.map_flatMap]
  congr 1
  cases info.condition with
  | none => rfl
  | some condition =>
    simp only [Option.elim_some, List.map_filterMap, Option.map_map, Function.comp_def, Option.map_id']

namespace Field

variable {registry : Registry} {root : Field}

/-- What conditions refer to, rules could refer to. -/
theorem rulePlace_of_conditionPlace {base place : Path} {expression : String}
    (h : root.conditionPlace base expression = .ok place) : root.rulePlace base expression = .ok place := by
  obtain ⟨found, hfound, h⟩ := bind_eq_ok_iff.mp h
  split at h
  · cases h
  · cases h
    exact hfound

/-- What linking a rule stores are the places of references. -/
theorem rulePlace_of_linkRule {base : Path} {rule linked : DeclaredRule}
    (h : rule.link registry root base = .ok linked) {reference : String × Path} (hr : reference ∈ linked.references) :
    root.rulePlace base reference.1 = .ok reference.2 := by
  obtain ⟨_, _, _, _, _, ⟨_, hplaces⟩, rfl⟩ := DeclaredRule.link_eq_ok_iff.mp h
  exact hplaces reference hr

/-- **What linking stores are the places of references.** -/
theorem rulePlace_of_linkInfo {info linked : FieldInfo} (h : info.link registry root = .ok linked)
    {reference : String × Path} (hr : reference ∈ linked.stored) :
    root.rulePlace linked.place reference.1 = .ok reference.2 := by
  obtain ⟨condition, rules, hcondition, hrules, rfl⟩ := FieldInfo.link_iff.mp h
  rcases List.mem_append.mp hr with hr | hr
  · cases hdeclared : info.condition with
    | none =>
      rw [hdeclared] at hcondition
      cases hcondition
      cases hr
    | some declared =>
      rw [hdeclared] at hcondition
      obtain ⟨resolved, hresolved, h⟩ := map_eq_ok_iff.mp hcondition
      cases h
      obtain ⟨c, hc, hct⟩ := List.mem_filterMap.mp hr
      obtain ⟨found, hfound, hplace⟩ := Condition.target_of_resolve hresolved hc
      rw [hfound] at hct
      cases hct
      exact rulePlace_of_conditionPlace (mapError_eq_ok_iff.mp hplace)
  · obtain ⟨rule, hrule, hr⟩ := List.mem_flatMap.mp hr
    obtain ⟨declared, _, hlink⟩ := exists_of_mem_mapM hrules hrule
    exact rulePlace_of_linkRule hlink hr

theorem canFill_of_linkInfo {info linked : FieldInfo} (h : info.link registry root = .ok linked)
    {target : Path} (ht : target ∈ linked.targets) : target.canFill linked.place = true := by
  rw [FieldInfo.targets_eq_map] at ht
  obtain ⟨reference, hr, rfl⟩ := List.mem_map.mp ht
  exact (rulePlace_eq_ok_iff.mp (rulePlace_of_linkInfo h hr)).2

/-- What is found at a place below a linked field has been linked from what was found there before. -/
theorem exists_at?_of_link {field linked found : Field} {p : Path}
    (h : Field.link registry root field = .ok linked) (hp : linked.at? p = some found) :
    ∃ draft, field.at? p = some draft ∧ Field.link registry root draft = .ok found := by
  induction p generalizing field linked with
  | nil =>
    cases hp
    exact ⟨field, rfl, h⟩
  | cons s p ih =>
    rw [at?_cons] at hp
    obtain ⟨next, hs, hp⟩ := Option.bind_eq_some_iff.mp hp
    obtain ⟨draft, hstep, hdraft⟩ :
        ∃ draft, field.step? s = some draft ∧ Field.link registry root draft = .ok next := by
      cases field with
      | leaf info kind =>
        obtain ⟨_, _, rfl⟩ := link_leaf_iff.mp h
        cases s <;> cases hs
      | group info children =>
        obtain ⟨linkedInfo, fields, _, hfields, rfl⟩ := link_group_iff.mp h
        cases s with
        | name n =>
          have hname : ∀ f g : Field, Field.link registry root f = .ok g → (g.name == n) = (f.name == n) :=
            fun f g hlink => by rw [link_name hlink]
          exact exists_find?_of_mapM hfields hname hs
        | index n => cases hs
        | each => cases hs
      | array info item =>
        obtain ⟨_, inner, _, hinner, rfl⟩ := link_array_iff.mp h
        cases s with
        | name n => cases hs
        | index n => cases hs; exact ⟨item, rfl, hinner⟩
        | each => cases hs; exact ⟨item, rfl, hinner⟩
    obtain ⟨below, hbelow, hlink⟩ := ih hdraft hp
    refine ⟨below, ?_, hlink⟩
    rw [at?_cons, hstep]
    exact hbelow

/-- What is found below a linked field has been linked. -/
theorem exists_link_of_at? {field linked found : Field} {p : Path}
    (h : Field.link registry root field = .ok linked) (hp : linked.at? p = some found) :
    ∃ draft, Field.link registry root draft = .ok found := by
  obtain ⟨draft, _, hdraft⟩ := exists_at?_of_link h hp
  exact ⟨draft, hdraft⟩

/-- **What linking stores can be filled from the outline of the field's place.** -/
theorem canFill_of_link {field linked : Field} (h : Field.link registry root field = .ok linked)
    {target : Path} (ht : target ∈ linked.info.targets) : target.canFill linked.place = true :=
  canFill_of_linkInfo (info_of_link h) ht

end Field

/-! ### Seen from places in data -/

namespace Form

theorem Reaches.isConcrete {form : Form} {data : Value} {p : Path} (h : form.Reaches data p) :
    p.IsConcrete := by
  induction h with
  | root => exact List.not_mem_nil
  | child _ _ _ ih => simpa [Path.IsConcrete] using ih
  | element _ _ _ _ ih => simpa [Path.IsConcrete] using ih

/-- **The stored places that an evaluation can fill.**  A place stored at a field is filled from a place of
the field in the data exactly when each index that it has in front of an open one is the index there; and a
path which passes the check of outlines for a base path is filled from all instances of it exactly when each
such index stands in the base path too. -/
theorem fill_stored_iff {registry : Registry} {document : Value} {form : Form}
    (hkeys : document.keysOnce = true) (hform : Form.ofDocument registry document = .ok form) :
    (∀ data p field target, form.Reaches data p → form.fieldAt? p = some field →
      target ∈ field.info.targets → ((target.fill p).isSome = true ↔ target.Aligned p)) ∧
    ∀ path base : Path, path.canFill base = true →
      ((∀ p : Path, p.IsInstance base → (path.fill p).isSome = true) ↔ path.Aligned base) := by
  refine ⟨?_, fun path base h => Path.fillable_everywhere_iff h⟩
  intro data p field target hp hfield ht
  have hat : form.root.at? p = some field := fieldAt?_eq_at? form p ▸ hfield
  have hplace : field.place = p.outline := Form.info_place_of_at? hkeys hform hat
  obtain ⟨_, _, _, _, _, _, hroot⟩ := Form.ofDocument_eq_ok_iff.mp hform
  obtain ⟨_, hlink⟩ := Field.exists_link_of_at? hroot hat
  have hfill := Field.canFill_of_link hlink ht
  rw [hplace, Path.canFill_outline] at hfill
  exact Path.fill_isSome_iff hp.isConcrete hfill

/-- A form for groups of options.  Each option has a copy, which has to match the label in the first
group. -/
def optionGroups : Value :=
  .object [("type", .text "group"), ("properties", .object [
    ("groups", .object [("type", .text "array"), ("items", .object [("type", .text "group"),
      ("properties", .object [
        ("options", .object [("type", .text "array"), ("items", .object [("type", .text "group"),
          ("properties", .object [
            ("label", .object [("type", .text "text")]),
            ("copy", .object [("type", .text "text"),
              ("rules", .object [("match", .text "groups[0].options.label")])])])])])])])])])]

/-- Two groups with an option each. -/
def twoGroups : Value :=
  .object [("groups", .list [
    .object [("options", .list [.object []])],
    .object [("options", .list [.object []])]])]

/-- The copy of the first option in a group. -/
def copyIn (group : Nat) : Path :=
  [.name "groups", .index group, .name "options", .index 0, .name "copy"]

/-- What linking stores at the copies: the label in the first group, at the option of the copy. -/
def firstLabel : Path :=
  [.name "groups", .index 0, .name "options", .each, .name "label"]

theorem optionGroups_copyIn {group : Nat} (hgroup : group = 0 ∨ group = 1) : ∃ form field,
    Form.ofDocument Registry.standard optionGroups = .ok form ∧ form.Reaches twoGroups (copyIn group) ∧
      form.fieldAt? (copyIn group) = some field ∧ firstLabel ∈ field.info.targets := by
  have hrun : ((Form.ofDocument Registry.standard optionGroups).toOption.bind fun form =>
      (form.evaluate Registry.standard true twoGroups none).toOption.bind fun reports =>
        (form.fieldAt? (copyIn group)).bind fun field =>
          some (field.info.targets, decide (copyIn group ∈ reports.map Report.path))) =
      some ([firstLabel], true) := by
    rcases hgroup with rfl | rfl <;> decide +kernel
  obtain ⟨form, hform, hrun⟩ := exists_eq_ok_of_bind hrun
  obtain ⟨reports, hreports, hrun⟩ := exists_eq_ok_of_bind hrun
  obtain ⟨field, hfield, hrun⟩ := Option.bind_eq_some_iff.mp hrun
  obtain ⟨htargets, hmem⟩ := Prod.mk.inj (Option.some.inj hrun)
  have hplaced := Form.root_placed (by decide +kernel) hform
  exact ⟨form, field, hform, (mem_reports_iff_reaches hplaced hreports).mp (of_decide_eq_true hmem), hfield,
    htargets ▸ List.mem_singleton_self _⟩

/-- The copy in the first group is aligned with what is stored there. -/
theorem fill_stored_in_first_group : ∃ form field,
    Form.ofDocument Registry.standard optionGroups = .ok form ∧ form.Reaches twoGroups (copyIn 0) ∧
      form.fieldAt? (copyIn 0) = some field ∧ firstLabel ∈ field.info.targets ∧
      firstLabel.Aligned (copyIn 0) := by
  obtain ⟨form, field, hform, hreaches, hfield, htarget⟩ := optionGroups_copyIn (.inl rfl)
  have hfill := (fill_stored_iff (by decide +kernel) hform).1 twoGroups (copyIn 0) field firstLabel
    hreaches hfield htarget
  exact ⟨form, field, hform, hreaches, hfield, htarget, hfill.mp rfl⟩

/-- **Not every stored place is filled.**  The copy in the second group refers to the label at its own option
in the first one; the check of outlines accepts this, and the evaluation finds no such place. -/
theorem not_every_stored_place_fills : (∃ form field,
    Form.ofDocument Registry.standard optionGroups = .ok form ∧ form.Reaches twoGroups (copyIn 1) ∧
      form.fieldAt? (copyIn 1) = some field ∧ firstLabel ∈ field.info.targets ∧
      firstLabel.fill (copyIn 1) = none) ∧
    ∃ path base p : Path, path.canFill base = true ∧ p.IsInstance base ∧ path.fill p = none := by
  obtain ⟨form, field, hform, hreaches, hfield, htarget⟩ := optionGroups_copyIn (.inr rfl)
  refine ⟨⟨form, field, hform, hreaches, hfield, htarget, rfl⟩, firstLabel, (copyIn 1).outline, copyIn 1, ?_⟩
  refine ⟨by decide, ?_, rfl⟩
  exact .cons (.inl ⟨by decide, rfl⟩) (.cons (.inr ⟨rfl, 1, rfl⟩) (.cons (.inl ⟨by decide, rfl⟩)
    (.cons (.inr ⟨rfl, 0, rfl⟩) (.cons (.inl ⟨by decide, rfl⟩) .nil))))

end Form

end FormCheck
