import FormCheck.Proofs.Form.Descent
import FormCheck.Proofs.Form.Placement

/-!
# The skeleton of a form

References are resolved by the names and the kinds of fields.  What else a field has, its rules, its condition and its
texts, is of no account.

* `Field.mapInfo` — a field and all below it, with what they have changed; `Field.skeleton` — nothing is left of it but
  the names;
* `Field.at?_mapInfo`, `Field.resolve_mapInfo` — **proved**: if the names stay, so do the places of the fields and those
  that references stand for;
* `Field.resolve_congr` — **proved**: in forms with one skeleton references stand for the same places;
* `Field.skeleton_of_link` — **proved**: linking keeps the skeleton.
-/

namespace FormCheck

open Fallible

/-- Nothing of what a field has but the name. -/
def FieldInfo.bare (info : FieldInfo) : FieldInfo :=
  ⟨info.name, [], [], none, [], []⟩

theorem FieldInfo.name_bare (info : FieldInfo) : info.bare.name = info.name := rfl

namespace Field

mutual

/-- A field and all below it, with what they have changed. -/
def mapInfo (g : FieldInfo → FieldInfo) : Field → Field
  | .leaf info kind => .leaf (g info) kind
  | .group info children => .group (g info) (mapInfoAll g children)
  | .array info item => .array (g info) (mapInfo g item)

/-- Several fields and all below them, with what they have changed. -/
def mapInfoAll (g : FieldInfo → FieldInfo) : List Field → List Field
  | [] => []
  | field :: rest => mapInfo g field :: mapInfoAll g rest

end

variable {g : FieldInfo → FieldInfo}

theorem mapInfoAll_eq_map (fields : List Field) : mapInfoAll g fields = fields.map (mapInfo g) := by
  induction fields with
  | nil => rfl
  | cons field fields ih => rw [mapInfoAll, ih, List.map_cons]

theorem mapInfo_group (info : FieldInfo) (children : List Field) :
    (Field.group info children).mapInfo g = .group (g info) (children.map (mapInfo g)) := by
  rw [mapInfo, mapInfoAll_eq_map]

@[simp] theorem info_mapInfo (field : Field) : (field.mapInfo g).info = g field.info := by
  cases field <;> rfl

@[simp] theorem kind_mapInfo (field : Field) : (field.mapInfo g).kind = field.kind := by
  cases field <;> rfl

/-! ### Steps -/

section Names

variable (hg : ∀ info, (g info).name = info.name)

include hg

theorem name_mapInfo (field : Field) : (field.mapInfo g).name = field.name := by
  rw [name, name, info_mapInfo, hg]

theorem step?_mapInfo (field : Field) (s : Segment) :
    (field.mapInfo g).step? s = (field.step? s).map (mapInfo g) := by
  cases field with
  | leaf info kind => cases s <;> rfl
  | group info children =>
    rw [mapInfo_group]
    cases s with
    | name n =>
      show (children.map (mapInfo g)).find? (·.name == n) = (children.find? (·.name == n)).map (mapInfo g)
      have hsame : ((fun c : Field => c.name == n) ∘ mapInfo g) = fun c => c.name == n := by
        funext c
        rw [Function.comp_apply, name_mapInfo hg]
      rw [List.find?_map, hsame]
    | index n => rfl
    | each => rfl
  | array info item => cases s <;> rfl

theorem at?_mapInfo (field : Field) (p : Path) : (field.mapInfo g).at? p = (field.at? p).map (mapInfo g) := by
  induction p generalizing field with
  | nil => rfl
  | cons s p ih =>
    rw [at?_cons, at?_cons, step?_mapInfo hg]
    cases field.step? s with
    | none => rfl
    | some next => exact ih next

/-! ### References -/

theorem descend_mapInfo (field : Field) (place p : Path) :
    (field.mapInfo g).descend place p = field.descend place p := by
  induction p generalizing field place with
  | nil => rfl
  | cons s p ih =>
    -- A name is looked up in the holder, an index goes on from the item.
    have hholder : (field.mapInfo g).holder place = ((field.holder place).1.mapInfo g, (field.holder place).2) := by
      cases field with
      | leaf info kind => rfl
      | group info children =>
        rw [mapInfo_group]
        exact Prod.ext (mapInfo_group info children).symm rfl
      | array info item => rfl
    cases s with
    | name n =>
      rw [descend_name, descend_name, hholder]
      show (((field.holder place).1.mapInfo g).step? (.name n)).elim _ _ = _
      rw [step?_mapInfo hg]
      show _ = ((field.holder place).1.step? (.name n)).elim _ _
      cases (field.holder place).1.step? (.name n) with
      | none => rfl
      | some child => exact ih child _
    | index n => cases field <;> first | rfl | exact ih _ _
    | each => cases field <;> first | rfl | exact ih _ _

/-- **Where names stay, references stand for the same places.** -/
theorem resolve_mapInfo (root : Field) (expression : String) (base : Path) :
    (root.mapInfo g).resolve expression base = root.resolve expression base := by
  rw [resolve, resolve]
  cases Reference.ofText expression with
  | error e => rfl
  | ok reference =>
    show (root.mapInfo g).resolveReference reference base = root.resolveReference reference base
    rw [resolveReference, resolveReference]
    cases reference.start? base with
    | none => rfl
    | some start =>
      have hat := at?_mapInfo hg root start
      cases hroot : root.at? start with
      | none =>
        rw [hroot, Option.map_none] at hat
        simp only [hat, hroot]
      | some field =>
        rw [hroot, Option.map_some] at hat
        simp only [hat, hroot, descend_mapInfo hg]

theorem rulePlace_mapInfo (root : Field) (base : Path) (expression : String) :
    (root.mapInfo g).rulePlace base expression = root.rulePlace base expression := by
  rw [rulePlace, rulePlace, resolve_mapInfo hg]

theorem conditionPlace_mapInfo (root : Field) (base : Path) (expression : String) :
    (root.mapInfo g).conditionPlace base expression = root.conditionPlace base expression := by
  rw [conditionPlace, conditionPlace, rulePlace_mapInfo hg]

end Names

/-! ### Skeletons -/

/-- The names and the kinds of a field and of all below it. -/
def skeleton (field : Field) : Field :=
  field.mapInfo FieldInfo.bare

variable {root other : Field}

/-- Forms with one skeleton have fields at the same places. -/
theorem exists_at?_congr (h : root.skeleton = other.skeleton) {p : Path} {f : Field} (hf : root.at? p = some f) :
    ∃ d, other.at? p = some d := by
  have hroot := at?_mapInfo FieldInfo.name_bare root p
  have hother := at?_mapInfo FieldInfo.name_bare other p
  rw [hf, Option.map_some] at hroot
  rw [← skeleton, ← h, skeleton, hroot] at hother
  exact Option.map_eq_some_iff.mp hother.symm |>.imp fun d hd => hd.1

/-- **In forms with one skeleton references stand for the same places.** -/
theorem resolve_congr (h : root.skeleton = other.skeleton) (expression : String) (base : Path) :
    root.resolve expression base = other.resolve expression base := by
  have hbare : ∀ field : Field, field.skeleton.resolve expression base = field.resolve expression base :=
    fun field => resolve_mapInfo FieldInfo.name_bare field expression base
  rw [← hbare root, h, hbare other]

theorem rulePlace_congr (h : root.skeleton = other.skeleton) (base : Path) (expression : String) :
    root.rulePlace base expression = other.rulePlace base expression := by
  rw [rulePlace, rulePlace, resolve_congr h]

/-- **Linking keeps the skeleton.** -/
theorem skeleton_of_link {registry : Registry} {field linked : Field}
    (h : Field.link registry root field = .ok linked) : linked.skeleton = field.skeleton := by
  have hbare : ∀ {info linkedInfo : FieldInfo}, info.link registry root = .ok linkedInfo →
      linkedInfo.bare = info.bare := by
    intro info linkedInfo hinfo
    rw [FieldInfo.bare, FieldInfo.bare, (FieldInfo.link_name_place hinfo).1]
  induction field using Field.induction_parts generalizing linked with
  | leaf info kind =>
    obtain ⟨linkedInfo, hinfo, rfl⟩ := link_leaf_iff.mp h
    exact congrArg (Field.leaf · kind) (hbare hinfo)
  | group info children ih =>
    obtain ⟨linkedInfo, fields, hinfo, hfields, rfl⟩ := link_group_iff.mp h
    have hmap : fields.map skeleton = children.map skeleton := by
      rw [mapM_eq_ok_iff] at hfields
      clear h
      induction hfields with
      | nil => rfl
      | cons hc _ ihRest =>
        rw [List.forall_mem_cons] at ih
        rw [List.map_cons, List.map_cons, ih.1 hc, ihRest ih.2]
    show (Field.group linkedInfo fields).mapInfo _ = (Field.group info children).mapInfo _
    rw [mapInfo_group, mapInfo_group, hbare hinfo]
    exact congrArg _ hmap
  | array info item ih =>
    obtain ⟨linkedInfo, inner, hinfo, hinner, rfl⟩ := link_array_iff.mp h
    exact congrArg₂ Field.array (hbare hinfo) (ih hinner)

end Field

end FormCheck
