import FormCheck.Proofs.Form.Linking
import FormCheck.Proofs.Form.Readings

/-!
# What a form holds

A form is made in two passes: the first one builds its fields, and the second one stores the places of their
references, which it looks up in what the first one has built.  This file says what the outcome looks like, in terms of
the finished form alone.

* `Form.Stores` — a stored place is the one that the reference stands for in the form; there is a field at it, and it
  can be filled from the field that has the reference;
* `Form.IsSound` — a field stands at its place, and its rules and its condition have what they need;
* `Declaration.size_of_build`, `Field.size_eq_length` — **proved**: the fields are as many as the first pass has built;
* `Form.isSound_of_document` — **proved**: all fields of a form that a document describes are sound, and the size of
  the form is their number.
-/

namespace FormCheck

open Fallible

/-! ### Sizes -/

namespace Field

theorem sizeOfAll_eq_length {fields : List Field} (h : ∀ f ∈ fields, f.size = f.preorder.length) :
    sizeOfAll fields = (preorderOfAll fields).length := by
  induction fields with
  | nil => rfl
  | cons field fields ih =>
    rw [List.forall_mem_cons] at h
    rw [sizeOfAll, preorderOfAll, List.length_append, h.1, ih h.2]

/-- The size of a field is the number of fields at and below it. -/
theorem size_eq_length (field : Field) : field.size = field.preorder.length := by
  induction field using Field.induction_parts with
  | leaf info kind => rfl
  | group info children ih => rw [size, preorder, List.length_cons, sizeOfAll_eq_length ih]
  | array info item ih => rw [size, preorder, List.length_cons, ih]

theorem sizeOfAll_mapInfo {g : FieldInfo → FieldInfo} {fields : List Field}
    (h : ∀ f ∈ fields, (f.mapInfo g).size = f.size) : sizeOfAll (fields.map (mapInfo g)) = sizeOfAll fields := by
  induction fields with
  | nil => rfl
  | cons field fields ih =>
    rw [List.forall_mem_cons] at h
    rw [List.map_cons, sizeOfAll, sizeOfAll, h.1, ih h.2]

theorem size_mapInfo (g : FieldInfo → FieldInfo) (field : Field) : (field.mapInfo g).size = field.size := by
  induction field using Field.induction_parts with
  | leaf info kind => rfl
  | group info children ih => rw [mapInfo_group, size, size, sizeOfAll_mapInfo ih]
  | array info item ih => rw [mapInfo, size, size, ih]

/-- Linking adds no fields and leaves none out. -/
theorem size_of_link {registry : Registry} {root field linked : Field}
    (h : Field.link registry root field = .ok linked) : linked.size = field.size := by
  rw [← size_mapInfo FieldInfo.bare linked, ← size_mapInfo FieldInfo.bare field]
  exact congrArg size (skeleton_of_link h)

end Field

namespace Declaration

mutual

/-- The number of fields that the declaration of a field stands for: a repeated group stands for two. -/
def fieldCount : Declaration → Nat
  | .mk type repeated _ children item =>
    (if type = Kind.group.key ∧ repeated = true then 2 else 1) + fieldCountIn children + fieldCountOf item

/-- The number of fields that named declarations stand for, if there are any. -/
def fieldCountIn : Option (List (String × Declaration)) → Nat
  | none => 0
  | some children => fieldCountOfAll children

/-- The number of fields that the declaration of an element stands for, if there is one. -/
def fieldCountOf : Option Declaration → Nat
  | none => 0
  | some item => item.fieldCount

/-- The number of fields that named declarations stand for. -/
def fieldCountOfAll : List (String × Declaration) → Nat
  | [] => 0
  | (_, declaration) :: rest => declaration.fieldCount + fieldCountOfAll rest

end

/-- **The first pass builds as many fields as are declared.** -/
theorem size_of_build {registry : Registry} {declaration : Declaration} {name : String} {place : Path}
    {field : Field} (h : declaration.build registry name place = .ok field) :
    field.size = declaration.fieldCount := by
  induction declaration using Declaration.induction_parts generalizing name place field with
  | mk type repeated details children item ihChildren ihItem =>
    -- The fields below a group, wherever the group itself comes to stand.
    have hbelow : ∀ {inner : Path} {cs : List (String × Declaration)} {fields : List Field}, children = some cs →
        buildAll registry inner cs = .ok fields → Field.sizeOfAll fields = fieldCountOfAll cs := by
      intro inner cs fields hcs hbuild
      have hsizes := ihChildren cs hcs
      rw [buildAll_eq_mapM, mapM_eq_ok_iff] at hbuild
      clear hcs
      induction hbuild with
      | nil => rfl
      | cons hc _ ih =>
        rw [List.forall_mem_cons] at hsizes
        rw [Field.sizeOfAll, fieldCountOfAll, hsizes.1 hc, ih hsizes.2]
    have hgroup : Kind.ofKey? type = some .group → type = Kind.group.key := by
      intro hkind
      rw [Kind.ofKey?] at hkind
      have hkey := List.find?_some hkind
      exact (beq_iff_eq.mp hkey).symm
    cases build_eq_ok_iff.mp h with
    | leaf hkind _ =>
      have hnone : type ≠ Kind.group.key := by
        rintro rfl
        cases hkind
      simp only [Field.size, fieldCount, fieldCountIn, fieldCountOf, hnone, false_and, if_false, Nat.add_zero]
    | group _ hbuild _ =>
      simp only [Field.size, fieldCount, fieldCountIn, fieldCountOf, hbelow rfl hbuild, Bool.false_eq_true,
        and_false, if_false]
      omega
    | repeatedGroup hkind hbuild _ _ =>
      simp only [Field.size, fieldCount, fieldCountIn, fieldCountOf, hbelow rfl hbuild, hgroup hkind, and_self,
        if_true]
      omega
    | array hkind hbuild _ =>
      have hnone : type ≠ Kind.group.key := by
        rintro rfl
        cases hkind
      simp only [Field.size, fieldCount, fieldCountIn, fieldCountOf, ihItem _ rfl hbuild, hnone, false_and, if_false]
      omega

end Declaration

/-! ### Sound fields -/

namespace Form

/-- The place that is stored at a field for a reference: the reference stands for it in the form, there is a field at
it, and it can be filled from the field that has the reference. -/
structure Stores (form : Form) (place : Path) (expression : String) (target : Path) : Prop where
  resolved : form.root.resolve expression place = .ok target
  governed : ∃ f, form.fieldAt? target = some f
  fillable : target.canFill place = true

/-- A field is a group, an array or a field for a single value, and has parts accordingly.  It is found at its place, and
those below it stand where the steps from it lead.  Its rules are registered for fields of its kind, and there is a place
stored for each reference in them and in its condition. -/
structure IsSound (registry : Registry) (form : Form) (f : Field) : Prop where
  sort : (f.kind = .group ∧ f.item? = none) ∨
    (f.kind = .array ∧ (∃ item, f.item? = some item) ∧ ∀ n, f.child? n = none) ∨
    ((∃ kind, f.kind = .leaf kind) ∧ f.item? = none ∧ ∀ n, f.child? n = none)
  found : form.fieldAt? f.place = some f
  child : ∀ n c, f.child? n = some c → c.name = n ∧ c.place = f.place ++ [.name n]
  item : ∀ c, f.item? = some c → c.place = f.place ++ [.each]
  rules : ∀ rule ∈ f.info.rules, ∃ definition expressions, registry.get? rule.name = some definition ∧
    f.kind.target ∈ definition.targets ∧ definition.referencesIn rule.prepared = .ok expressions ∧
    rule.references.map (·.1) = expressions.eraseDups ∧
    ∀ reference ∈ rule.references, form.Stores f.place reference.1 reference.2
  condition : ∀ condition, f.info.condition = some condition → ∀ c ∈ condition.comparisons,
    ∃ target, c.target = some target ∧ form.Stores f.place c.reference target

variable {registry : Registry} {document : Value} {form : Form}

theorem sort_of_field (f : Field) : (f.kind = .group ∧ f.item? = none) ∨
    (f.kind = .array ∧ (∃ item, f.item? = some item) ∧ ∀ n, f.child? n = none) ∨
    ((∃ kind, f.kind = .leaf kind) ∧ f.item? = none ∧ ∀ n, f.child? n = none) := by
  cases f with
  | leaf info kind => exact .inr (.inr ⟨⟨kind, rfl⟩, rfl, fun _ => rfl⟩)
  | group info children => exact .inl ⟨rfl, rfl⟩
  | array info item => exact .inr (.inl ⟨rfl, ⟨item, rfl⟩, fun _ => rfl⟩)

theorem stores_of_mem (hform : Form.ofDocument registry document = .ok form) {f : Field}
    (hf : f ∈ form.root.preorder) {reference : String × Path} (hr : reference ∈ f.info.stored) :
    form.Stores f.place reference.1 reference.2 := by
  obtain ⟨hresolve, hfill⟩ := resolve_of_mem_stored hform hf hr
  obtain ⟨g, hg⟩ := Field.exists_at?_of_rulePlace (Field.rulePlace_eq_ok_iff.mpr ⟨hresolve, hfill⟩)
  exact ⟨hresolve, ⟨g, (fieldAt?_eq_at? form _).trans hg⟩, hfill⟩

/-- **Every field of a form is sound.** -/
theorem isSound_of_mem (hkeys : document.keysOnce = true) (hform : Form.ofDocument registry document = .ok form)
    {f : Field} (hf : f ∈ form.root.preorder) : form.IsSound registry f := by
  have hplaced := root_placed hkeys hform
  have hdeclared := isDeclared_of_mem hform hf
  have hlinked := isLinked_of_mem hform hf
  obtain ⟨p, hplace, hat⟩ := hplaced.exists_at?_of_mem hf
  rw [List.nil_append] at hplace
  have hself : f.Placed f.place := by
    have hof := hplaced.of_at? hat
    rwa [List.nil_append, ← info_place_of_at? hkeys hform hat] at hof
  refine ⟨sort_of_field f, ?found, fun n c hc => ?child, fun c hc => ?item, fun rule hrule => ?rules,
    fun condition hcondition c hc => ?condition⟩
  case found =>
    rw [fieldAt?_eq_at?, Field.place, hplace]
    exact hat
  case child =>
    obtain ⟨info, children, rfl⟩ : ∃ info children, f = .group info children := by
      cases f with
      | group info children => exact ⟨info, children, rfl⟩
      | _ => cases hc
    obtain ⟨hmem, rfl⟩ := Field.mem_of_child? info hc
    exact ⟨rfl, (hself.child hmem).info_place⟩
  case item =>
    obtain ⟨info, rfl⟩ : ∃ info, f = .array info c := by
      cases f with
      | array info item => cases hc; exact ⟨info, rfl⟩
      | _ => cases hc
    exact hself.item.info_place
  case rules =>
    obtain ⟨definition, hdefinition, htarget, _⟩ := hdeclared.rules rule hrule
    obtain ⟨sameDefinition, expressions, hsame, hexpressions, hnames⟩ := keys_of_mem hform hf hrule
    obtain rfl := Option.some.inj (hdefinition.symm.trans hsame)
    refine ⟨definition, expressions, hdefinition, htarget, hexpressions, hnames, fun reference hr => ?_⟩
    exact stores_of_mem hform hf (FieldInfo.mem_stored_of_rule hrule hr)
  case condition =>
    obtain ⟨target, _, htarget, _⟩ := hlinked.condition condition hcondition c hc
    exact ⟨target, htarget, stores_of_mem hform hf (FieldInfo.mem_stored_of_target hcondition hc htarget)⟩

/-- **What a document describes is a form of sound fields.**  The root stands at the empty path, all fields are sound,
and the size of the form, which is the number of fields that the first pass has built, is the number of its fields. -/
theorem isSound_of_document (hkeys : document.keysOnce = true)
    (hform : Form.ofDocument registry document = .ok form) :
    form.root.place = [] ∧ (∀ f ∈ form.root.preorder, form.IsSound registry f) ∧
    form.size = (Declaration.ofValue document).fieldCount ∧ form.size = form.root.preorder.length := by
  obtain ⟨draft, _, _, _, _, hdraft, hroot⟩ := Form.ofDocument_eq_ok_iff.mp hform
  refine ⟨(root_placed hkeys hform).info_place, fun f hf => isSound_of_mem hkeys hform hf, ?_, ?_⟩
  · exact (Field.size_of_link hroot).trans (Declaration.size_of_build hdraft)
  · exact Field.size_eq_length form.root

/-- A form for teams, each with a name to be repeated and a captain who is asked for where there is a coach. -/
def teams : Value :=
  .object [("type", .text "group"), ("properties", .object [
    ("coach", .object [("type", .text "text")]),
    ("teams", .object [("type", .text "group"), ("multiple", .bool true),
      ("condition", .object [("not", .object [("path", .text "coach"), ("empty", .bool true)])]),
      ("properties", .object [
        ("name", .object [("type", .text "text")]),
        ("again", .object [("type", .text "text"), ("rules", .object [("match", .text "teams.name")])]),
        ("captain", .object [("type", .text "text"), ("condition", .text ".name != none"),
          ("rules", .object [("required_if", .text "..coach == yes || .again in a,b")])])])])])]

/-- The form for teams has seven fields, with the array and its element for the repeated group, and all of them are
sound. -/
theorem isSound_of_teams : ∃ form captain,
    Form.ofDocument Registry.standard teams = .ok form ∧ form.size = 7 ∧
    form.fieldAt? [.name "teams", .each, .name "captain"] = some captain ∧
    captain.info.stored = [(".name", [.name "teams", .each, .name "name"]), ("..coach", [.name "coach"]),
      (".again", [.name "teams", .each, .name "again"])] ∧
    ∀ f ∈ form.root.preorder, form.IsSound Registry.standard f := by
  have hrun : ((Form.ofDocument Registry.standard teams).toOption.bind fun form =>
      (form.fieldAt? [.name "teams", .each, .name "captain"]).bind fun captain =>
        some (form.size, captain.info.stored)) =
      some (7, [(".name", [.name "teams", .each, .name "name"]), ("..coach", [.name "coach"]),
        (".again", [.name "teams", .each, .name "again"])]) := by
    decide +kernel
  obtain ⟨form, hform, hrun⟩ := exists_eq_ok_of_bind hrun
  obtain ⟨captain, hcaptain, hrun⟩ := Option.bind_eq_some_iff.mp hrun
  obtain ⟨hsize, hstored⟩ := Prod.mk.inj (Option.some.inj hrun)
  obtain ⟨_, hsound, _, _⟩ := isSound_of_document (by decide +kernel) hform
  exact ⟨form, captain, hform, hsize, hcaptain, hstored, hsound⟩

end Form

end FormCheck
