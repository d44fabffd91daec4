import FormCheck.Proofs.Condition.Operands
import FormCheck.Proofs.Form.Placement
import FormCheck.Proofs.Form.Preorder

/-!
# What a form keeps of the declarations

A field of a form keeps each rule with the argument that the registry has prepared, and its condition as it has
been read.  Building puts them there and linking adds places only.

* `Declaration.Declares` — a field of the declaration declares a rule with an argument;
* `FieldInfo.IsDeclared` — the rules of a field are registered, their arguments are the prepared ones, and the
  comparisons in its condition have the operands that they need;
* `Declaration.exists_details_of_build` — **proved**: what a built field has is built from details that are declared;
* `Declaration.at?`, `Declaration.exists_at?_of_build` — the declaration for a place, and **proved**: the field at this
  place is built from it;
* `Form.isDeclared_of_mem` — **proved**: so it is with every field of a form.
-/

namespace FormCheck

open Fallible

/-- The rule is registered, it may stand on fields of the kind, and its argument has been prepared from the
declared one. -/
def DeclaredRule.IsPrepared (registry : Registry) (kind : Kind) (rule : DeclaredRule) : Prop :=
  ∃ definition, registry.get? rule.name = some definition ∧ kind.target ∈ definition.targets ∧
    definition.prepare rule.declared = .ok rule.prepared

/-- The rules and the condition are such as the declaration of a field of the kind yields. -/
structure FieldInfo.IsDeclared (registry : Registry) (kind : Kind) (info : FieldInfo) : Prop where
  rules : ∀ rule ∈ info.rules, rule.IsPrepared registry kind
  condition : ∀ c, info.condition = some c → c.HasMembers

/-- Some field of the declaration declares the rule with the argument. -/
inductive Declaration.Declares : Declaration → String → Value → Prop where
  | own {type : String} {repeated : Bool} {details : Details} {children : Option (List (String × Declaration))}
      {item : Option Declaration} {rule : String} {argument : Value} : (rule, argument) ∈ details.rules →
      Declares (.mk type repeated details children item) rule argument
  | child {type : String} {repeated : Bool} {details : Details} {children : List (String × Declaration)}
      {item : Option Declaration} {c : String × Declaration} {rule : String} {argument : Value} :
      c ∈ children → c.2.Declares rule argument →
      Declares (.mk type repeated details (some children) item) rule argument
  | item {type : String} {repeated : Bool} {details : Details}
      {children : Option (List (String × Declaration))} {item : Declaration} {rule : String}
      {argument : Value} : item.Declares rule argument →
      Declares (.mk type repeated details children (some item)) rule argument

variable {registry : Registry}

/-! ### Building -/

theorem Details.isPrepared_of_buildRule {kind : Kind} {place : Path} {name : String} {declared : Value}
    {rule : DeclaredRule} (h : buildRule registry kind place name declared = .ok rule) :
    rule.IsPrepared registry kind := by
  obtain ⟨definition, prepared, hdefinition, htarget, hprepared, rfl⟩ := buildRule_eq_ok_iff.mp h
  exact ⟨definition, hdefinition, htarget, hprepared⟩

theorem Details.isDeclared_of_build {kind : Kind} {name : String} {place : Path} {details : Details}
    {info : FieldInfo} (h : details.build registry kind name place = .ok info) :
    info.IsDeclared registry kind := by
  obtain ⟨rules, condition, hrules, hcondition, rfl⟩ := Details.build_eq_ok_iff.mp h
  refine ⟨fun rule hrule => ?_, fun c hc => ?_⟩
  · obtain ⟨declared, _, hbuild⟩ := exists_of_mem_mapM hrules hrule
    exact isPrepared_of_buildRule hbuild
  · cases hc
    rw [buildCondition.eq_def] at hcondition
    split at hcondition
    · cases hcondition
    · obtain ⟨read, hread, h⟩ := map_eq_ok_iff.mp hcondition
      cases h
      exact Condition.hasMembers_ofValue (mapError_eq_ok_iff.mp hread)

theorem Details.mem_of_mem_rules {kind : Kind} {name : String} {place : Path} {details : Details} {info : FieldInfo}
    (h : details.build registry kind name place = .ok info) {rule : DeclaredRule} (hrule : rule ∈ info.rules) :
    (rule.name, rule.declared) ∈ details.rules := by
  obtain ⟨rules, condition, hrules, _, rfl⟩ := Details.build_eq_ok_iff.mp h
  obtain ⟨r, hr, hbuild⟩ := exists_of_mem_mapM hrules hrule
  obtain ⟨_, _, _, _, _, rfl⟩ := buildRule_eq_ok_iff.mp hbuild
  exact hr

namespace Declaration

/-- What a built field has is built from details, the rules of which the declaration declares. -/
theorem exists_details_of_build {declaration : Declaration} {name : String} {place : Path} {field f : Field}
    (h : declaration.build registry name place = .ok field) (hf : f ∈ field.preorder) :
    ∃ (details : Details) (name : String) (place : Path), details.build registry f.kind name place = .ok f.info ∧
      ∀ r ∈ details.rules, declaration.Declares r.1 r.2 := by
  induction declaration using Declaration.induction_parts generalizing name place field with
  | mk type repeated details children item ihChildren ihItem =>
    have hown : ∀ r ∈ details.rules, (Declaration.mk type repeated details children item).Declares r.1 r.2 :=
      fun r hr => .own hr
    -- The fields below a group, wherever the group itself comes to stand.
    have hbelow : ∀ {inner : Path} {cs : List (String × Declaration)} {fields : List Field} {c : Field},
        children = some cs → buildAll registry inner cs = .ok fields → c ∈ fields → f ∈ c.preorder →
        ∃ (own : Details) (name : String) (place : Path), own.build registry f.kind name place = .ok f.info ∧
          ∀ r ∈ own.rules, (Declaration.mk type repeated details children item).Declares r.1 r.2 := by
      intro inner cs fields c hcs hbuild hc hfc
      rw [buildAll_eq_mapM] at hbuild
      obtain ⟨d, hd, hdc⟩ := exists_of_mem_mapM hbuild hc
      obtain ⟨own, name, place, hinfo, hrules⟩ := ihChildren cs hcs d hd hdc hfc
      exact ⟨own, name, place, hinfo, fun r hr => hcs ▸ .child hd (hrules r hr)⟩
    cases build_eq_ok_iff.mp h with
    | leaf _ hinfo =>
      rcases Field.mem_preorder_iff.mp hf with rfl | ⟨c, hc, _⟩
      · exact ⟨details, _, _, hinfo, hown⟩
      · cases hc
    | group _ hbuild hinfo =>
      rcases Field.mem_preorder_iff.mp hf with rfl | ⟨c, hc, hfc⟩
      · exact ⟨details, _, _, hinfo, hown⟩
      · exact hbelow rfl hbuild hc hfc
    | repeatedGroup _ hbuild hinfo harray =>
      rcases Field.mem_preorder_iff.mp hf with rfl | ⟨inner, hinner, hf⟩
      · exact ⟨details, _, _, harray, hown⟩
      · rw [List.mem_singleton.mp hinner] at hf
        rcases Field.mem_preorder_iff.mp hf with rfl | ⟨c, hc, hfc⟩
        · exact ⟨details.forElements, _, _, hinfo, List.forall_mem_nil _⟩
        · exact hbelow rfl hbuild hc hfc
    | array _ hbuild hinfo =>
      rcases Field.mem_preorder_iff.mp hf with rfl | ⟨inner, hinner, hf⟩
      · exact ⟨details, _, _, hinfo, hown⟩
      · rw [List.mem_singleton.mp hinner] at hf
        obtain ⟨own, name, place, hitem, hrules⟩ := ihItem _ rfl hbuild hf
        exact ⟨own, name, place, hitem, fun r hr => .item (hrules r hr)⟩

theorem isDeclared_of_build {declaration : Declaration} {name : String} {place : Path} {field f : Field}
    (h : declaration.build registry name place = .ok field) (hf : f ∈ field.preorder) :
    f.info.IsDeclared registry f.kind := by
  obtain ⟨details, _, _, hinfo, _⟩ := exists_details_of_build h hf
  exact Details.isDeclared_of_build hinfo

/-- The rules of the fields that are built are declared. -/
theorem declares_of_build {declaration : Declaration} {name : String} {place : Path} {field f : Field}
    (h : declaration.build registry name place = .ok field) (hf : f ∈ field.preorder) {rule : DeclaredRule}
    (hrule : rule ∈ f.info.rules) : declaration.Declares rule.name rule.declared := by
  obtain ⟨details, _, _, hinfo, hdeclares⟩ := exists_details_of_build h hf
  exact hdeclares _ (Details.mem_of_mem_rules hinfo hrule)

end Declaration

/-! ### The declaration for a place -/

namespace Declaration

/-- What a declaration declares besides its type and the fields below it. -/
def details : Declaration → Details
  | .mk _ _ details _ _ => details

/-- The declaration one step below.  A repeated group stands for an array, so that its own fields come after a step
to its elements. -/
def step? : Declaration → Segment → Option Declaration
  | .mk type repeated details children item, s =>
    if repeated && Kind.ofKey? type = some .group then
      if s.isName then none else some (.mk type false details.forElements children item)
    else match s with
      | .name n => ((children.getD []).find? (·.1 == n)).map (·.2)
      | .index _ | .each => item

/-- The declaration for a place below. -/
def at? : Declaration → Path → Option Declaration
  | declaration, [] => some declaration
  | declaration, s :: rest => (declaration.step? s).bind (·.at? rest)

variable {declaration : Declaration} {name : String} {place : Path} {field next f : Field} {s : Segment} {p : Path}

/-- A field is built from the details of its declaration. -/
theorem details_of_build (h : declaration.build registry name place = .ok field) :
    declaration.details.build registry field.kind name place = .ok field.info := by
  cases build_eq_ok_iff.mp h with
  | leaf _ hinfo => exact hinfo
  | group _ _ hinfo => exact hinfo
  | repeatedGroup _ _ _ harray => exact harray
  | array _ _ hinfo => exact hinfo

theorem name_of_build (h : declaration.build registry name place = .ok field) : field.name = name :=
  (Details.build_name_place (details_of_build h)).1

/-- The field of a name has been built from the declaration of this name. -/
theorem exists_of_find?_buildAll {children : List (String × Declaration)} {fields : List Field} {n : String}
    (h : buildAll registry place children = .ok fields) (hnext : fields.find? (·.name == n) = some next) :
    ∃ c, children.find? (·.1 == n) = some c ∧ c.2.build registry c.1 (place ++ [.name n]) = .ok next := by
  rw [buildAll_eq_mapM] at h
  obtain ⟨c, hc, hbuild⟩ := exists_find?_of_mapM (p := fun c => c.1 == n) h
    (fun c f hbuild => by rw [name_of_build hbuild]) hnext
  have hname : c.1 = n := by simpa using List.find?_some hc
  exact ⟨c, hc, hname ▸ hbuild⟩

/-- The field one step below has been built from the declaration one step below. -/
theorem exists_step?_of_build (h : declaration.build registry name place = .ok field)
    (hnext : field.step? s = some next) :
    ∃ d n, declaration.step? s = some d ∧ d.build registry n (place ++ [s.outline]) = .ok next := by
  cases build_eq_ok_iff.mp h with
  | leaf _ _ => cases s <;> cases hnext
  | group hkind hbuild _ =>
    cases s with
    | name n =>
      obtain ⟨c, hc, hfield⟩ := exists_of_find?_buildAll hbuild hnext
      refine ⟨c.2, c.1, ?_, hfield⟩
      simp [step?, hc]
    | index n => cases hnext
    | each => cases hnext
  | @repeatedGroup type details children fields info _ hkind hbuild hinfo _ =>
    have helement : (Declaration.mk type false details.forElements (some children) none).build registry name
        (place ++ [.each]) = .ok (.group info fields) :=
      build_eq_ok_iff.mpr (.group hkind hbuild hinfo)
    cases s with
    | name n => cases hnext
    | index n =>
      cases hnext
      exact ⟨_, name, by simp [step?, hkind, Segment.isName], helement⟩
    | each =>
      cases hnext
      exact ⟨_, name, by simp [step?, hkind, Segment.isName], helement⟩
  | @array _ _ _ item _ _ hkind hbuild _ =>
    cases s with
    | name n => cases hnext
    | index n =>
      cases hnext
      exact ⟨item, name, by simp [step?, hkind], hbuild⟩
    | each =>
      cases hnext
      exact ⟨item, name, by simp [step?, hkind], hbuild⟩

/-- **The field at a place has been built from the declaration for this place.** -/
theorem exists_at?_of_build (h : declaration.build registry name place = .ok field) (hf : field.at? p = some f) :
    ∃ d n, declaration.at? p = some d ∧ d.build registry n (place ++ p.outline) = .ok f := by
  induction p generalizing declaration name place field with
  | nil =>
    cases hf
    exact ⟨declaration, name, rfl, (List.append_nil place).symm ▸ h⟩
  | cons s p ih =>
    rw [Field.at?_cons] at hf
    obtain ⟨next, hnext, hf⟩ := Option.bind_eq_some_iff.mp hf
    obtain ⟨below, m, hstep, hbuild⟩ := exists_step?_of_build h hnext
    obtain ⟨d, n, hd, hbuild⟩ := ih hbuild hf
    refine ⟨d, n, ?_, ?_⟩
    · rw [at?, hstep]
      exact hd
    · rw [Path.outline_cons, List.append_cons]
      exact hbuild

end Declaration

/-! ### Linking -/

theorem DeclaredRule.IsPrepared.link {kind : Kind} {root : Field} {place : Path} {rule linked : DeclaredRule}
    (hrule : rule.IsPrepared registry kind) (h : rule.link registry root place = .ok linked) :
    linked.IsPrepared registry kind := by
  obtain ⟨_, _, _, _, _, _, rfl⟩ := DeclaredRule.link_eq_ok_iff.mp h
  exact hrule

theorem FieldInfo.IsDeclared.link {kind : Kind} {root : Field} {info linked : FieldInfo}
    (hinfo : info.IsDeclared registry kind) (h : info.link registry root = .ok linked) :
    linked.IsDeclared registry kind := by
  obtain ⟨condition, rules, hcondition, hrules, rfl⟩ := FieldInfo.link_iff.mp h
  refine ⟨fun rule hrule => ?_, fun c hc => ?_⟩
  · obtain ⟨declared, hdeclared, hlink⟩ := exists_of_mem_mapM hrules hrule
    exact (hinfo.rules declared hdeclared).link hlink
  · cases hc
    cases hdeclared : info.condition with
    | none => rw [hdeclared] at hcondition; cases hcondition
    | some declared =>
      rw [hdeclared] at hcondition
      obtain ⟨resolved, hresolved, h⟩ := map_eq_ok_iff.mp hcondition
      cases h
      exact Condition.hasMembers_of_resolve hresolved (hinfo.condition declared hdeclared)

namespace Field

/-- Each field at and below a linked one has been linked from a field at or below the one before. -/
theorem exists_link_of_mem {root field linked f : Field} (h : Field.link registry root field = .ok linked)
    (hf : f ∈ linked.preorder) :
    ∃ d ∈ field.preorder, d.kind = f.kind ∧ d.info.link registry root = .ok f.info := by
  induction field using Field.induction_parts generalizing linked f with
  | leaf info kind =>
    obtain ⟨linkedInfo, hinfo, rfl⟩ := link_leaf_iff.mp h
    rcases mem_preorder_iff.mp hf with rfl | ⟨c, hc, _⟩
    · exact ⟨_, self_mem_preorder _, rfl, hinfo⟩
    · cases hc
  | group info children ih =>
    obtain ⟨linkedInfo, fields, hinfo, hfields, rfl⟩ := link_group_iff.mp h
    rcases mem_preorder_iff.mp hf with rfl | ⟨c, hc, hfc⟩
    · exact ⟨_, self_mem_preorder _, rfl, hinfo⟩
    · obtain ⟨draft, hdraft, hlink⟩ := exists_of_mem_mapM hfields hc
      obtain ⟨d, hd, hdf⟩ := ih draft hdraft hlink hfc
      exact ⟨d, mem_preorder_iff.mpr (.inr ⟨draft, hdraft, hd⟩), hdf⟩
  | array info item ih =>
    obtain ⟨linkedInfo, inner, hinfo, hinner, rfl⟩ := link_array_iff.mp h
    rcases mem_preorder_iff.mp hf with rfl | ⟨c, hc, hfc⟩
    · exact ⟨_, self_mem_preorder _, rfl, hinfo⟩
    · rw [List.mem_singleton.mp hc] at hfc
      obtain ⟨d, hd, hdf⟩ := ih hinner hfc
      exact ⟨d, mem_preorder_iff.mpr (.inr ⟨item, List.mem_singleton_self item, hd⟩), hdf⟩

end Field

/-! ### Forms -/

/-- **Every field of a form has the rules and the condition that its declaration yields.** -/
theorem Form.isDeclared_of_mem {document : Value} {form : Form}
    (hform : Form.ofDocument registry document = .ok form) {f : Field} (hf : f ∈ form.root.preorder) :
    f.info.IsDeclared registry f.kind := by
  obtain ⟨draft, _, _, _, _, hdraft, hroot⟩ := Form.ofDocument_eq_ok_iff.mp hform
  obtain ⟨d, hd, hkind, hlink⟩ := Field.exists_link_of_mem hroot hf
  exact hkind ▸ (Declaration.isDeclared_of_build hdraft hd).link hlink

end FormCheck
