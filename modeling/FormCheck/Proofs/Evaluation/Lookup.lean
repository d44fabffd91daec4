import FormCheck.Proofs.Evaluation.Locality
import FormCheck.Proofs.Rule.Preparation

/-!
# Conditions and rules read the same

A condition carries the places that it reads in its comparisons.  A rule looks its references up in a table beside its
argument, by the texts in which they are written.  Linking has filled both from the same form, so that they tell the
same.

* `Condition.holds_of_resolve` — **proved**: a condition that reads by its references says the same once they have
  places;
* `Form.exists_entry_of_mem` — **proved**: a rule has a place for each of its references, the one that the reference
  stands for on the field;
* `Form.exists_link_of_declaration` — **proved**: a field of a form has been built and linked from the details that are
  declared for its place;
* `Form.reads_alike` — **proved**: one condition, declared for a field and for its rule `required_if`, says the same as
  the one and as the other.
-/

namespace FormCheck

open Fallible

/-! ### Conditions -/

namespace Condition

variable {read other : Comparison → Value} {members results : List Condition}

/-- Members that say the same, one by one, all hold alike. -/
theorem allHold_of_forall₂ (h : List.Forall₂ (fun m r => r.holds read = m.holds other) members results) :
    allHold read results = allHold other members := by
  induction h with
  | nil => rfl
  | cons hm _ ih => rw [allHold, allHold, hm, ih]

theorem anyHolds_of_forall₂ (h : List.Forall₂ (fun m r => r.holds read = m.holds other) members results) :
    anyHolds read results = anyHolds other members := by
  induction h with
  | nil => rfl
  | cons hm _ ih => rw [anyHolds, anyHolds, hm, ih]

/-- **A condition that reads by its references says the same once they have places.** -/
theorem holds_of_resolve {ε : Type} {place : String → Except ε Path} {value : String → Value}
    {condition resolved : Condition} (h : condition.resolve place = .ok resolved) :
    resolved.holds (fun c => value c.reference) = condition.holds fun c => value c.reference := by
  have hmembers : ∀ {members results : List Condition},
      (∀ m ∈ members, ∀ {r}, m.resolve place = .ok r →
        r.holds (fun c => value c.reference) = m.holds fun c => value c.reference) →
      resolveAll place members = .ok results →
      List.Forall₂ (fun m r => r.holds (fun c => value c.reference) = m.holds fun c => value c.reference)
        members results := by
    intro members results ih h
    rw [resolveAll_eq_mapM] at h
    have hresolved := mapM_eq_ok_iff.mp h
    clear h
    induction hresolved with
    | nil => exact .nil
    | cons hm _ ihrest =>
      rw [List.forall_mem_cons] at ih
      exact .cons (ih.1 hm) (ihrest ih.2)
  induction condition using induction_parts generalizing resolved with
  | compare comparison =>
    obtain ⟨target, _, h⟩ := bind_eq_ok_iff.mp h
    cases h
    rfl
  | all members ih =>
    obtain ⟨results, hresults, h⟩ := bind_eq_ok_iff.mp h
    cases h
    exact allHold_of_forall₂ (hmembers (fun m hm r => ih m hm) hresults)
  | any members ih =>
    obtain ⟨results, hresults, h⟩ := bind_eq_ok_iff.mp h
    cases h
    exact anyHolds_of_forall₂ (hmembers (fun m hm r => ih m hm) hresults)
  | not member ih =>
    obtain ⟨result, hresult, h⟩ := bind_eq_ok_iff.mp h
    cases h
    rw [holds, holds, ih hresult]

end Condition

/-! ### Reading and looking up -/

/-- A comparison reads what a rule finds that has the same place for the reference. -/
theorem Setting.read_eq_lookup (s : Setting) {place target : Path} {field : Field} {rule : DeclaredRule}
    {c : Comparison} (htarget : c.target = some target) (hentry : entryOf? rule.references c.reference = some target) :
    s.read place c = (s.context field place rule).lookup c.reference := by
  rw [Setting.read_of_target htarget, Context.lookup_of_entry hentry]
  rfl

variable {registry : Registry} {document : Value} {form : Form}

namespace Form

/-- A rule has a place for each of its references, the one that the reference stands for on the field. -/
theorem exists_entry_of_mem (hform : Form.ofDocument registry document = .ok form) {f : Field}
    (hf : f ∈ form.root.preorder) {rule : DeclaredRule} (hrule : rule ∈ f.info.rules) {e : String}
    (he : e ∈ rule.references.map (·.1)) :
    ∃ target, entryOf? rule.references e = some target ∧ form.root.resolve e f.place = .ok target := by
  obtain ⟨target, hentry⟩ := exists_entryOf? he
  have hstored : (e, target) ∈ f.info.stored := FieldInfo.mem_stored_of_rule hrule (mem_of_entryOf? hentry)
  exact ⟨target, hentry, (resolve_of_mem_stored hform hf hstored).1⟩

/-- **A field of a form has been built and linked from the details that are declared for its place.** -/
theorem exists_link_of_declaration (hform : Form.ofDocument registry document = .ok form) {p : Path} {f : Field}
    (hf : form.root.at? p = some f) {declaration : Declaration}
    (hdeclaration : (Declaration.ofValue document).at? p = some declaration) :
    ∃ (kind : Kind) (name : String) (place : Path) (info : FieldInfo) (root : Field),
      declaration.details.build registry kind name place = .ok info ∧ info.link registry root = .ok f.info := by
  obtain ⟨draft, _, _, _, _, hdraft, hroot⟩ := Form.ofDocument_eq_ok_iff.mp hform
  obtain ⟨before, hbefore, hlink⟩ := Field.exists_at?_of_link hroot hf
  obtain ⟨found, name, hfound, hbuild⟩ := Declaration.exists_at?_of_build hdraft hbefore
  obtain rfl := Option.some.inj (hdeclaration.symm.trans hfound)
  exact ⟨before.kind, name, _, before.info, draft, Declaration.details_of_build hbuild, Field.info_of_link hlink⟩

/-- A field carries the condition that is declared for it, read and with its places. -/
theorem exists_condition_of_declaration (hform : Form.ofDocument registry document = .ok form) {p : Path} {f : Field}
    (hf : form.root.at? p = some f) {declaration : Declaration}
    (hdeclaration : (Declaration.ofValue document).at? p = some declaration) {v : Value}
    (hv : declaration.details.condition = some v) :
    ∃ condition resolved, Condition.ofValue v = .ok condition ∧ f.info.condition = some resolved ∧
      ∃ place : String → Building Path, condition.resolve place = .ok resolved := by
  obtain ⟨kind, name, place, info, root, hbuild, hlink⟩ := exists_link_of_declaration hform hf hdeclaration
  obtain ⟨_, built, _, hbuilt, rfl⟩ := Details.build_eq_ok_iff.mp hbuild
  obtain ⟨linked, _, hlinked, _, hinfo⟩ := FieldInfo.link_iff.mp hlink
  rw [hv] at hbuilt
  obtain ⟨condition, hread, rfl⟩ := map_eq_ok_iff.mp hbuilt
  obtain ⟨resolved, hresolved, rfl⟩ := map_eq_ok_iff.mp hlinked
  exact ⟨condition, resolved, mapError_eq_ok_iff.mp hread, by rw [hinfo], _, hresolved⟩

/-- A field carries the rules that are declared for it. -/
theorem exists_rule_of_declaration (hform : Form.ofDocument registry document = .ok form) {p : Path} {f : Field}
    (hf : form.root.at? p = some f) {declaration : Declaration}
    (hdeclaration : (Declaration.ofValue document).at? p = some declaration) {name : String} {v : Value}
    (hv : (name, v) ∈ declaration.details.rules) : ∃ rule ∈ f.info.rules, rule.name = name ∧ rule.declared = v := by
  obtain ⟨_, _, _, info, root, hbuild, hlink⟩ := exists_link_of_declaration hform hf hdeclaration
  obtain ⟨rules, _, hrules, _, rfl⟩ := Details.build_eq_ok_iff.mp hbuild
  obtain ⟨_, linkedRules, _, hlinkedRules, hinfo⟩ := FieldInfo.link_iff.mp hlink
  obtain ⟨built, hmem, hbuilt⟩ := exists_mem_of_mapM hrules hv
  obtain ⟨rule, hrule, hlinkRule⟩ := exists_mem_of_mapM hlinkedRules hmem
  obtain ⟨_, _, _, _, _, rfl⟩ := Details.buildRule_eq_ok_iff.mp hbuilt
  obtain ⟨_, _, _, _, _, _, hlinked⟩ := DeclaredRule.link_eq_ok_iff.mp hlinkRule
  refine ⟨rule, hinfo ▸ hrule, ?_⟩
  rw [hlinked]
  exact ⟨rfl, rfl⟩

/-- The rule `required_if` has the condition that it declares, and the references of this condition. -/
theorem prepared_of_requiredIf (hform : Form.ofDocument registry document = .ok form)
    (hregistry : registry.get? "required_if" = Registry.standard.get? "required_if") {f : Field}
    (hf : f ∈ form.root.preorder) {rule : DeclaredRule} (hrule : rule ∈ f.info.rules)
    (hname : rule.name = "required_if") {condition : Condition}
    (hread : Condition.ofValue rule.declared = .ok condition) :
    rule.prepared = .condition condition ∧
      ∀ c ∈ condition.comparisons, c.reference ∈ rule.references.map (·.1) := by
  have hdefinition : ∀ definition, registry.get? rule.name = some definition →
      definition.prepare rule.declared = conditionArgument rule.declared ∧
        definition.referencesIn rule.prepared = conditionReferences rule.prepared := by
    intro definition hdefinition
    rw [hname, hregistry] at hdefinition
    cases hdefinition
    exact ⟨rfl, rfl⟩
  obtain ⟨definition, hdeclared, _, hprepare⟩ := (isDeclared_of_mem hform hf).rules rule hrule
  rw [(hdefinition definition hdeclared).1, conditionArgument, hread] at hprepare
  have hprepared : rule.prepared = .condition condition := (Except.ok.inj hprepare).symm
  obtain ⟨definition, expressions, hlinked, hreferences, hkeys⟩ := keys_of_mem hform hf hrule
  rw [(hdefinition definition hlinked).2, hprepared] at hreferences
  obtain rfl := Except.ok.inj hreferences
  refine ⟨hprepared, fun c hc => ?_⟩
  rw [hkeys]
  exact List.mem_eraseDups.mpr (List.mem_map_of_mem hc)

/-- **Conditions and rules read the same.**  Where one condition is declared for a field and for its rule
`required_if`, evaluating it as the condition of the field gives at each place what evaluating it as the argument of
the rule gives.  For every rule of the field and every reference that it has, looking the reference up gives what a
comparison with this reference reads, whose target is the place that the reference stands for. -/
theorem reads_alike (hform : Form.ofDocument registry document = .ok form) (s : Setting) {p : Path} {field : Field}
    (hfield : form.fieldAt? p = some field) :
    (registry.get? "required_if" = Registry.standard.get? "required_if" → ∀ declaration v,
      (Declaration.ofValue document).at? p = some declaration → declaration.details.condition = some v →
      ("required_if", v) ∈ declaration.details.rules →
      ∃ condition own, Condition.ofValue v = .ok condition ∧ field.info.condition = some own ∧
        (∃ rule ∈ field.info.rules, rule.name = "required_if" ∧ rule.declared = v) ∧
        ∀ rule ∈ field.info.rules, rule.name = "required_if" → rule.declared = v →
          rule.prepared = .condition condition ∧
            own.holds (s.read p) = condition.holds fun c => (s.context field p rule).lookup c.reference) ∧
    ∀ rule ∈ field.info.rules, ∀ e ∈ rule.references.map (·.1), ∃ target,
      form.root.resolve e field.place = .ok target ∧ ∀ operator operand,
        s.read p ⟨e, operator, operand, some target⟩ = (s.context field p rule).lookup e := by
  have hat : form.root.at? p = some field := fieldAt?_eq_at? form p ▸ hfield
  have hmem : field ∈ form.root.preorder := Field.mem_preorder_of_at? hat
  refine ⟨fun hregistry declaration v hdeclaration hv hrequired => ?shared, fun rule hrule e he => ?single⟩
  case single =>
    obtain ⟨target, hentry, hresolve⟩ := exists_entry_of_mem hform hmem hrule he
    exact ⟨target, hresolve, fun _ _ => s.read_eq_lookup rfl hentry⟩
  case shared =>
    obtain ⟨condition, own, hread, hown, place, hplaces⟩ := exists_condition_of_declaration hform hat hdeclaration hv
    refine ⟨condition, own, hread, hown, exists_rule_of_declaration hform hat hdeclaration hrequired, ?_⟩
    intro rule hrule hname hdeclared
    obtain ⟨hprepared, hkeys⟩ := prepared_of_requiredIf hform hregistry hmem hrule hname (hdeclared ▸ hread)
    refine ⟨hprepared, ?_⟩
    rw [← Condition.holds_of_resolve hplaces]
    refine Condition.holds_congr fun c hc => ?_
    -- The comparison has the place that its reference stands for, and so has the rule.
    obtain ⟨target, _, htarget, _⟩ := (isLinked_of_mem hform hmem).condition own hown c hc
    have hstored : (c.reference, target) ∈ field.info.stored := FieldInfo.mem_stored_of_target hown hc htarget
    obtain ⟨d, hd, _, _, rfl⟩ := Condition.exists_of_mem_resolve hplaces hc
    obtain ⟨found, hentry, hfound⟩ := exists_entry_of_mem hform hmem hrule (hkeys d hd)
    obtain rfl := Except.ok.inj ((resolve_of_mem_stored hform hmem hstored).1.symm.trans hfound)
    rw [s.read_eq_lookup htarget hentry]

/-- A guest brings company, and has to name it, if the guest is an adult and the feast is not closed. -/
def bringsCompany : Value :=
  .object [("all", .list [
    .object [("path", .text ".adult"), ("equals", .bool true)],
    .object [("not", .object [("path", .text "closed"), ("equals", .bool true)])]])]

/-- A form for the guests at a feast. -/
def feast : Value :=
  .object [("type", .text "group"), ("properties", .object [
    ("closed", .object [("type", .text "select")]),
    ("guests", .object [("type", .text "array"), ("items", .object [("type", .text "group"),
      ("properties", .object [
        ("adult", .object [("type", .text "select")]),
        ("company", .object [("type", .text "text"), ("condition", bringsCompany),
          ("rules", .object [("required_if", bringsCompany)])])])])])])]

/-- A child and an adult, at an open feast. -/
def guests : Setting :=
  ⟨Registry.standard, true, .object [("guests", .list [
    .object [("adult", .bool false)], .object [("adult", .bool true)]])], none⟩

/-- The company of a guest. -/
def company (guest : Nat) : Path :=
  [.name "guests", .index guest, .name "company"]

/-- The second guest brings company, and so has to name it. -/
theorem reads_alike_for_guests : ∃ form field condition rule,
    Form.ofDocument Registry.standard feast = .ok form ∧ form.fieldAt? (company 1) = some field ∧
      guests.takesPart (company 1) field.info.condition = .ok true ∧
      rule ∈ field.info.rules ∧ rule.prepared = .condition condition ∧
      (condition.holds fun c => (guests.context field (company 1) rule).lookup c.reference) = .ok true := by
  have hrun : ((Form.ofDocument Registry.standard feast).toOption.bind fun form =>
      (form.fieldAt? (company 1)).map fun field =>
        (guests.takesPart (company 1) field.info.condition).toOption) = some (some true) := by
    decide +kernel
  obtain ⟨form, hform, hrun⟩ := exists_eq_ok_of_bind hrun
  obtain ⟨field, hfield, hrun⟩ := Option.map_eq_some_iff.mp hrun
  have htakes : guests.takesPart (company 1) field.info.condition = .ok true := by
    cases htakes : guests.takesPart (company 1) field.info.condition with
    | error f => rw [htakes] at hrun; cases hrun
    | ok b => rw [htakes] at hrun; cases hrun; rfl
  obtain ⟨hshared, _⟩ := reads_alike hform guests hfield
  obtain ⟨condition, own, _, hown, ⟨rule, hrule, hname, hdeclared⟩, hall⟩ :=
    hshared rfl _ bringsCompany rfl rfl List.mem_cons_self
  obtain ⟨hprepared, hsame⟩ := hall rule hrule hname hdeclared
  refine ⟨form, field, condition, rule, hform, hfield, htakes, hrule, hprepared, ?_⟩
  rw [← hsame]
  rw [hown] at htakes
  exact htakes

end Form

end FormCheck
