import FormCheck.Proofs.Form.Declared
import FormCheck.Validator

/-!
# Forms under another registry

A document is checked against a registry, and data is validated under one.  The first one looks at a rule only for the
way in which its argument is prepared and holds references, and for the fields that the rule may stand on; checks and
messages belong to the second one alone.

* `Rule.DeclaredAlike` — two rules are prepared, refer to other fields and may be declared in the same way;
* `Registry.Renews` — of the rules with a name, one registry has what another one has, perhaps with another check and
  other messages;
* `Form.ofDocument_renewed` — **proved**: where the rules that a document declares are renewed, it describes the same
  form;
* `Validator.same_anew` — **proved**: so the validator of a form is the one made anew from the document, also
  after a rule has been replaced in a registry.
-/

namespace FormCheck

open Fallible

/-- The rules prepare their arguments in the same way, find the same references in them, and may be declared on the same
fields.  They may check something else and have other messages. -/
structure Rule.DeclaredAlike (rule other : Rule) : Prop where
  preparation : rule.preparation = other.preparation
  references : rule.references = other.references
  targets : ∀ t, t ∈ rule.targets ↔ t ∈ other.targets

/-- If the registry has a rule of the name, then the other one has a rule of the name that is declared alike. -/
def Registry.Renews (other registry : Registry) (name : String) : Prop :=
  ∀ rule, registry.get? name = some rule → ∃ renewed, other.get? name = some renewed ∧ rule.DeclaredAlike renewed

variable {registry other : Registry}

theorem Rule.DeclaredAlike.refl (rule : Rule) : rule.DeclaredAlike rule :=
  ⟨rfl, rfl, fun _ => Iff.rfl⟩

/-- A registry in which a rule is replaced by one that is declared alike renews every name. -/
theorem Registry.renews_insert {rule : Rule}
    (h : ∀ old, registry.get? rule.name = some old → old.DeclaredAlike rule) (name : String) :
    (registry.insert rule).Renews registry name := by
  intro old hold
  rw [Registry.get?_insert]
  by_cases hname : rule.name = name
  · exact ⟨rule, if_pos hname, h old (hname ▸ hold)⟩
  · exact ⟨old, (if_neg hname).trans hold, .refl old⟩

/-! ### Building -/

namespace Details

theorem buildRule_renewed {kind : Kind} {place : Path} {name : String} {declared : Value} {rule : DeclaredRule}
    (hname : other.Renews registry name) (h : buildRule registry kind place name declared = .ok rule) :
    buildRule other kind place name declared = .ok rule := by
  obtain ⟨definition, prepared, hdefinition, htarget, hprepared, rfl⟩ := buildRule_eq_ok_iff.mp h
  obtain ⟨renewed, hrenewed, halike⟩ := hname definition hdefinition
  refine buildRule_eq_ok_iff.mpr ⟨renewed, prepared, hrenewed, (halike.targets _).mp htarget, ?_, rfl⟩
  rw [← hprepared, Rule.prepare, Rule.prepare, halike.preparation]

theorem build_renewed {kind : Kind} {name : String} {place : Path} {details : Details} {info : FieldInfo}
    (hnames : ∀ r ∈ details.rules, other.Renews registry r.1)
    (h : details.build registry kind name place = .ok info) : details.build other kind name place = .ok info := by
  obtain ⟨rules, condition, hrules, hcondition, rfl⟩ := Details.build_eq_ok_iff.mp h
  have hsame := mapM_eq_ok_of_forall hrules fun r hr rule hrule => buildRule_renewed (hnames r hr) hrule
  exact Details.build_eq_ok_iff.mpr ⟨rules, condition, hsame, hcondition, rfl⟩

end Details

namespace Declaration

/-- **Building looks at a rule for how it is declared.** -/
theorem build_renewed {declaration : Declaration} {name : String} {place : Path} {field : Field}
    (hnames : ∀ rule argument, declaration.Declares rule argument → other.Renews registry rule)
    (h : declaration.build registry name place = .ok field) : declaration.build other name place = .ok field := by
  induction declaration using Declaration.induction_parts generalizing name place field with
  | mk type repeated details children item ihChildren ihItem =>
    have hown : ∀ r ∈ details.rules, other.Renews registry r.1 := fun r hr => hnames r.1 r.2 (.own hr)
    have hbelow : ∀ {inner : Path} {cs : List (String × Declaration)} {fields : List Field}, children = some cs →
        buildAll registry inner cs = .ok fields → buildAll other inner cs = .ok fields := by
      intro inner cs fields hcs hbuild
      rw [buildAll_eq_mapM] at hbuild ⊢
      refine mapM_eq_ok_of_forall hbuild fun c hc field hfield => ihChildren cs hcs c hc ?_ hfield
      intro rule argument hdeclares
      exact hnames rule argument (hcs ▸ .child hc hdeclares)
    cases build_eq_ok_iff.mp h with
    | leaf hkind hinfo => exact build_of_builds (.leaf hkind (Details.build_renewed hown hinfo))
    | group hkind hfields hinfo =>
      exact build_of_builds (.group hkind (hbelow rfl hfields) (Details.build_renewed hown hinfo))
    | repeatedGroup hkind hfields hinfo harray =>
      have hnone : ∀ r ∈ details.forElements.rules, other.Renews registry r.1 := List.forall_mem_nil _
      exact build_of_builds (.repeatedGroup hkind (hbelow rfl hfields) (Details.build_renewed hnone hinfo)
        (Details.build_renewed hown harray))
    | array hkind hfield hinfo =>
      refine build_of_builds (.array hkind (ihItem _ rfl ?_ hfield) (Details.build_renewed hown hinfo))
      exact fun rule argument hdeclares => hnames rule argument (.item hdeclares)

end Declaration

/-! ### Linking -/

theorem DeclaredRule.link_renewed {root : Field} {place : Path} {rule linked : DeclaredRule}
    (hname : other.Renews registry rule.name) (h : rule.link registry root place = .ok linked) :
    rule.link other root place = .ok linked := by
  rw [DeclaredRule.link] at h ⊢
  split at h
  · cases h
  · next definition hdefinition =>
    obtain ⟨renewed, hrenewed, halike⟩ := hname definition hdefinition
    rw [hrenewed]
    rw [Rule.referencesIn, halike.references, ← Rule.referencesIn] at h
    exact h

theorem FieldInfo.link_renewed {root : Field} {info linked : FieldInfo}
    (hnames : ∀ rule ∈ info.rules, other.Renews registry rule.name) (h : info.link registry root = .ok linked) :
    info.link other root = .ok linked := by
  obtain ⟨condition, rules, hcondition, hrules, rfl⟩ := FieldInfo.link_iff.mp h
  have hsame := mapM_eq_ok_of_forall hrules fun rule hrule _ hlink => DeclaredRule.link_renewed (hnames rule hrule) hlink
  exact FieldInfo.link_iff.mpr ⟨condition, rules, hcondition, hsame, rfl⟩

/-- **Linking looks at a rule for the references in its argument.** -/
theorem Field.link_renewed {root field linked : Field}
    (hnames : ∀ f ∈ field.preorder, ∀ rule ∈ f.info.rules, other.Renews registry rule.name)
    (h : Field.link registry root field = .ok linked) : Field.link other root field = .ok linked := by
  induction field using Field.induction_parts generalizing linked with
  | leaf info kind =>
    obtain ⟨linkedInfo, hinfo, rfl⟩ := link_leaf_iff.mp h
    exact link_leaf_iff.mpr ⟨_, FieldInfo.link_renewed (hnames _ (self_mem_preorder _)) hinfo, rfl⟩
  | group info children ih =>
    obtain ⟨linkedInfo, fields, hinfo, hfields, rfl⟩ := link_group_iff.mp h
    refine link_group_iff.mpr ⟨_, _, FieldInfo.link_renewed (hnames _ (self_mem_preorder _)) hinfo, ?_, rfl⟩
    refine mapM_eq_ok_of_forall hfields fun c hc field hlink => ih c hc (fun f hf => hnames f ?_) hlink
    exact mem_preorder_iff.mpr (.inr ⟨c, hc, hf⟩)
  | array info item ih =>
    obtain ⟨linkedInfo, inner, hinfo, hinner, rfl⟩ := link_array_iff.mp h
    refine link_array_iff.mpr ⟨_, _, FieldInfo.link_renewed (hnames _ (self_mem_preorder _)) hinfo, ?_, rfl⟩
    refine ih (fun f hf => hnames f ?_) hinner
    exact mem_preorder_iff.mpr (.inr ⟨item, List.mem_singleton_self item, hf⟩)

/-! ### Forms -/

/-- **Where the rules that a document declares are renewed, it describes the same form.** -/
theorem Form.ofDocument_renewed {document : Value} {form : Form}
    (hnames : ∀ rule argument, (Declaration.ofValue document).Declares rule argument → other.Renews registry rule)
    (h : Form.ofDocument registry document = .ok form) : Form.ofDocument other document = .ok form := by
  obtain ⟨draft, hobject, hflaws, htype, hrepeated, hdraft, hroot⟩ := Form.ofDocument_eq_ok_iff.mp h
  refine Form.ofDocument_eq_ok_iff.mpr ⟨draft, hobject, hflaws, htype, hrepeated,
    Declaration.build_renewed hnames hdraft, Field.link_renewed (fun f hf rule hrule => ?_) hroot⟩
  exact hnames rule.name rule.declared (Declaration.declares_of_build hdraft hf hrule)

namespace Validator

/-- **The validator of a form is the one made anew from the document.**  Take a document that describes a form under one
registry, and another registry that renews the rules that the document declares: under the latter, validating with the
form and with the document anew has the same outcome, be it a result or a fault.  So it is when a rule of the registry is
replaced by one that is declared alike. -/
theorem same_anew {document : Value} {form : Form} (hform : Form.ofDocument registry document = .ok form) :
    (∀ other : Registry,
      (∀ rule argument, (Declaration.ofValue document).Declares rule argument → other.Renews registry rule) →
      ∀ wording implicitNumber, ∃ validator, ofDocument other document wording implicitNumber = .ok validator ∧
        ∀ data language, validator.validate data language
          = validate ⟨form, other, wording, implicitNumber⟩ data language) ∧
    ∀ rule : Rule, (∀ old, registry.get? rule.name = some old → old.DeclaredAlike rule) →
      ∀ wording implicitNumber, ∃ validator,
        ofDocument (registry.insert rule) document wording implicitNumber = .ok validator ∧
        ∀ data language, validator.validate data language
          = validate ⟨form, registry.insert rule, wording, implicitNumber⟩ data language := by
  have hanew : ∀ other : Registry,
      (∀ rule argument, (Declaration.ofValue document).Declares rule argument → other.Renews registry rule) →
      ∀ wording implicitNumber, ofDocument other document wording implicitNumber
        = .ok ⟨form, other, wording, implicitNumber⟩ := by
    intro other hnames wording implicitNumber
    rw [ofDocument, Form.ofDocument_renewed hnames hform]
    rfl
  refine ⟨fun other hnames wording implicitNumber => ⟨_, hanew other hnames wording implicitNumber, fun _ _ => rfl⟩,
    fun rule hrule wording implicitNumber => ⟨_, hanew _ ?_ wording implicitNumber, fun _ _ => rfl⟩⟩
  exact fun name _ _ => Registry.renews_insert hrule name

/-- A form for a name that has to be given and then repeated. -/
def repeatedName : Value :=
  .object [("type", .text "group"), ("properties", .object [
    ("name", .object [("type", .text "text"), ("rules", .object [("required", .bool true)])]),
    ("again", .object [("type", .text "text"), ("rules", .object [("match", .text ".name")])])])]

/-- The rule that a value is given, for which a dash is not enough. -/
def strictlyRequired : Rule :=
  { Rule.scalar "required" "Please tell the \x7bfield\x7d" fun v _ _ => v.toText.map fun s => .ofBool (s != "-") with
    presence := true, targets := Target.all }

/-- A dash for a name, and another one. -/
def dashes : Value :=
  .object [("name", .text "-"), ("again", .text "-")]

/-- The places and the messages of the errors of a validation, if it has a result. -/
def saidOf (validator : Validator) (data : Value) : Option (List (String × String)) :=
  (validator.validate data none).toOption.map fun outcome => outcome.1.errors.map fun e => (e.path, e.message)

/-- Two dashes are a name under the standard rules.  Once the rule that a value is given has been replaced, they are none,
for the form made before as well as for the one made anew. -/
theorem same_anew_for_dashes : ∃ form validator, Form.ofDocument Registry.standard repeatedName = .ok form ∧
    ofDocument (Registry.standard.insert strictlyRequired) repeatedName ⟨none, "en"⟩ true = .ok validator ∧
    saidOf ⟨form, Registry.standard, ⟨none, "en"⟩, true⟩ dashes = some [] ∧
    saidOf ⟨form, Registry.standard.insert strictlyRequired, ⟨none, "en"⟩, true⟩ dashes
      = some [("name", "Please tell the name")] ∧
    saidOf validator dashes = some [("name", "Please tell the name")] := by
  have hrun : ((Form.ofDocument Registry.standard repeatedName).toOption.bind fun form =>
      some (saidOf ⟨form, Registry.standard, ⟨none, "en"⟩, true⟩ dashes,
        saidOf ⟨form, Registry.standard.insert strictlyRequired, ⟨none, "en"⟩, true⟩ dashes)) =
      some (some [], some [("name", "Please tell the name")]) := by
    decide +kernel
  obtain ⟨form, hform, hrun⟩ := exists_eq_ok_of_bind hrun
  obtain ⟨hbefore, hafter⟩ := Prod.mk.inj (Option.some.inj hrun)
  have halike : ∀ old, Registry.standard.get? strictlyRequired.name = some old → old.DeclaredAlike strictlyRequired := by
    intro old hold
    cases hold
    exact ⟨rfl, rfl, fun _ => Iff.rfl⟩
  obtain ⟨validator, hvalidator, hsame⟩ := (same_anew hform).2 strictlyRequired halike ⟨none, "en"⟩ true
  refine ⟨form, validator, hform, hvalidator, hbefore, hafter, ?_⟩
  rw [saidOf, hsame]
  exact hafter

end Validator

end FormCheck
