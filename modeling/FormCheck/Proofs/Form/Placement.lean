import FormCheck.Proofs.Form.Construction

/-!
# Every field of a form stands at its place

A document is an object in which no key is written twice, and a form inherits from it that no group has two
fields of one name.  With that, a field can be found again by its place:

* `Field.Placed` — a field and all below it carry the places at which they stand, and the children of
  every group have different names;
* `Form.root_placed` — **proved**: the root of every form that a document describes is placed at the empty
  path, through building and linking alike;
* `Field.child?_eq_some`, `Field.Placed.of_at?` — **proved**: going down from a placed field by a name finds
  the child of this name, and what is found by any steps is placed where one has gone.
-/

namespace FormCheck

open Fallible

/-! ### Declarations -/

namespace Declaration

/-- No declaration of a group names two children alike. -/
inductive NamesOnce : Declaration → Prop where
  | mk {type : String} {repeated : Bool} {details : Details}
      {children : Option (List (String × Declaration))} {item : Option Declaration} :
      (∀ cs, children = some cs → (cs.map (·.1)).Nodup) →
      (∀ cs, children = some cs → ∀ c ∈ cs, NamesOnce c.2) →
      (∀ d, item = some d → NamesOnce d) →
      NamesOnce (.mk type repeated details children item)

theorem namesOnce_parts {v : Value} (h : v.keysOnce = true) :
    (ofValue v).NamesOnce ∧ ((childrenOf v).map (·.1)).Nodup ∧ ∀ c ∈ childrenOf v, c.2.NamesOnce := by
  induction v using Value.induction_parts with
  | plain v hlist hobject =>
    have hnone := ofValue_of_not_object hobject
    rw [hnone.1, hnone.2]
    exact ⟨.mk (fun cs h => by cases h) (fun cs h => by cases h) (fun d h => by cases h),
      List.nodup_nil, fun c hc => by cases hc⟩
  | list items _ =>
    exact ⟨.mk (fun cs h => by cases h) (fun cs h => by cases h) (fun d h => by cases h),
      List.nodup_nil, fun c hc => by cases hc⟩
  | object entries ih =>
    obtain ⟨hnodup, hvalues⟩ := Value.keysOnce_object_iff.mp h
    refine ⟨?_, ?_, ?_⟩
    · rw [ofValue_object]
      refine .mk (fun cs hcs => ?_) (fun cs hcs => ?_) (fun d hd => ?_)
      · obtain ⟨v, hv, rfl⟩ := Option.map_eq_some_iff.mp hcs
        exact (ih _ (mem_of_entryOf? hv) (hvalues _ (mem_of_entryOf? hv))).2.1
      · obtain ⟨v, hv, rfl⟩ := Option.map_eq_some_iff.mp hcs
        exact (ih _ (mem_of_entryOf? hv) (hvalues _ (mem_of_entryOf? hv))).2.2
      · obtain ⟨v, hv, rfl⟩ := Option.map_eq_some_iff.mp hd
        exact (ih _ (mem_of_entryOf? hv) (hvalues _ (mem_of_entryOf? hv))).1
    · rw [childrenOf, childrenIn_eq_map, List.map_map]
      exact hnodup
    · rw [childrenOf, childrenIn_eq_map]
      intro c hc
      obtain ⟨e, he, rfl⟩ := List.mem_map.mp hc
      exact (ih e he (hvalues e he)).1

theorem namesOnce_ofValue {v : Value} (h : v.keysOnce = true) : (ofValue v).NamesOnce :=
  (namesOnce_parts h).1

end Declaration

/-! ### Fields -/

namespace Field

/-- The field carries the given place, its children and its item the places below it, and no two children of
a group have the same name. -/
inductive Placed : Path → Field → Prop where
  | leaf {place : Path} {info : FieldInfo} {kind : LeafKind} :
      info.place = place → Placed place (.leaf info kind)
  | group {place : Path} {info : FieldInfo} {children : List Field} :
      info.place = place → (children.map Field.name).Nodup →
      (∀ c ∈ children, Placed (place ++ [.name c.name]) c) → Placed place (.group info children)
  | array {place : Path} {info : FieldInfo} {item : Field} :
      info.place = place → Placed (place ++ [.each]) item → Placed place (.array info item)

theorem Placed.info_place {place : Path} {field : Field} (h : field.Placed place) :
    field.info.place = place := by
  cases h with
  | leaf h => exact h
  | group h _ _ => exact h
  | array h _ => exact h

theorem Placed.names_nodup {place : Path} {info : FieldInfo} {children : List Field}
    (h : (Field.group info children).Placed place) : (children.map Field.name).Nodup := by
  cases h with
  | group _ h _ => exact h

theorem Placed.child {place : Path} {info : FieldInfo} {children : List Field} {c : Field}
    (h : (Field.group info children).Placed place) (hc : c ∈ children) :
    c.Placed (place ++ [.name c.name]) := by
  cases h with
  | group _ _ h => exact h c hc

theorem Placed.item {place : Path} {info : FieldInfo} {item : Field}
    (h : (Field.array info item).Placed place) : item.Placed (place ++ [.each]) := by
  cases h with
  | array _ h => exact h

/-! ### Going down -/

theorem child?_eq_some {children : List Field} {c : Field} (info : FieldInfo)
    (hnodup : (children.map Field.name).Nodup) (hc : c ∈ children) :
    (Field.group info children).child? c.name = some c := by
  show children.find? (·.name == c.name) = some c
  induction children with
  | nil => cases hc
  | cons d children ih =>
    rw [List.map_cons, List.nodup_cons] at hnodup
    rcases List.mem_cons.mp hc with rfl | hc
    · rw [List.find?_cons, beq_self_eq_true]
    · have hne : d.name ≠ c.name := fun h => hnodup.1 (h ▸ List.mem_map_of_mem hc)
      rw [List.find?_cons, beq_false_of_ne hne]
      exact ih hnodup.2 hc

theorem mem_of_child? (info : FieldInfo) {children : List Field} {s : String} {c : Field}
    (h : (Field.group info children).child? s = some c) : c ∈ children ∧ c.name = s :=
  ⟨List.mem_of_find?_eq_some h, by simpa using List.find?_some h⟩

/-- The index of an element is of no account to the field that stands for it. -/
theorem step?_outline (field : Field) (s : Segment) : field.step? s.outline = field.step? s := by
  cases s <;> rfl

theorem at?_outline (field : Field) (p : Path) : field.at? p.outline = field.at? p := by
  induction p generalizing field with
  | nil => rfl
  | cons s p ih =>
    rw [Path.outline_cons, at?_cons, at?_cons, step?_outline]
    cases field.step? s with
    | none => rfl
    | some next => exact ih next

/-- One step down from a placed field leads to a placed field. -/
theorem Placed.of_step? {place : Path} {field next : Field} {s : Segment} (h : field.Placed place)
    (hs : field.step? s = some next) : next.Placed (place ++ [s.outline]) := by
  cases h with
  | leaf _ => cases s <;> cases hs
  | @group _ info children hplace hnames hchildren =>
    cases s with
    | name n =>
      obtain ⟨hmem, hname⟩ := mem_of_child? info hs
      rw [Segment.outline, ← hname]
      exact hchildren next hmem
    | index n => cases hs
    | each => cases hs
  | array hplace hitem =>
    cases s with
    | name n => cases hs
    | index n => cases hs; exact hitem
    | each => cases hs; exact hitem

/-- **What is found below a placed field stands where one has gone to find it.** -/
theorem Placed.of_at? {place : Path} {field found : Field} {p : Path} (h : field.Placed place)
    (hp : field.at? p = some found) : found.Placed (place ++ p.outline) := by
  induction p generalizing place field with
  | nil =>
    cases hp
    simpa using h
  | cons s p ih =>
    rw [at?_cons] at hp
    obtain ⟨next, hs, hp⟩ := Option.bind_eq_some_iff.mp hp
    have := ih (h.of_step? hs) hp
    rwa [List.append_assoc] at this

end Field

/-! ### Building -/

theorem Details.build_name_place {registry : Registry} {kind : Kind} {name : String} {place : Path}
    {details : Details} {info : FieldInfo} (h : details.build registry kind name place = .ok info) :
    info.name = name ∧ info.place = place := by
  obtain ⟨rules, condition, _, _, rfl⟩ := Details.build_eq_ok_iff.mp h
  exact ⟨rfl, rfl⟩

/-- Fields with given names at given places, each placed, make the children of a placed group. -/
theorem Field.Placed.of_children {place : Path} {info : FieldInfo} {fields : List Field}
    {children : List (String × Declaration)} (hplace : info.place = place)
    (hnames : (children.map (·.1)).Nodup)
    (hall : List.Forall₂ (fun c f => f.name = c.1 ∧ f.Placed (place ++ [.name c.1])) children fields) :
    (Field.group info fields).Placed place := by
  have hmap : fields.map Field.name = children.map (·.1) := by
    clear hnames
    induction hall with
    | nil => rfl
    | cons h _ ih => rw [List.map_cons, List.map_cons, ih, h.1]
  refine .group hplace (hmap ▸ hnames) fun f hf => ?_
  clear hnames hmap
  induction hall with
  | nil => cases hf
  | cons h _ ih =>
    rcases List.mem_cons.mp hf with rfl | hf
    · rw [h.1]
      exact h.2
    · exact ih hf

theorem Declaration.build_placed {registry : Registry} {declaration : Declaration} {name : String}
    {place : Path} {field : Field} (hnames : declaration.NamesOnce)
    (h : declaration.build registry name place = .ok field) :
    field.name = name ∧ field.Placed place := by
  induction declaration using Declaration.induction_parts generalizing name place field with
  | mk type repeated details children item ihChildren ihItem =>
    obtain ⟨hnodup, hchildren, hitem⟩ := hnames
    -- The children of a group, wherever the group itself comes to stand.
    have hfields : ∀ {inner : Path} {cs : List (String × Declaration)} {fields : List Field},
        children = some cs → buildAll registry inner cs = .ok fields →
        List.Forall₂ (fun c f => f.name = c.1 ∧ f.Placed (inner ++ [.name c.1])) cs fields := by
      intro inner cs fields hcs hbuild
      rw [buildAll_eq_mapM, mapM_eq_ok_iff] at hbuild
      have hmem := (List.forall₂_and_left (p := (· ∈ cs)) cs fields).mpr ⟨fun c hc => hc, hbuild⟩
      refine hmem.imp fun c f hcf => ?_
      exact ihChildren cs hcs c hcf.1 (hchildren cs hcs c hcf.1) hcf.2
    cases build_eq_ok_iff.mp h with
    | leaf _ hinfo =>
      obtain ⟨hname, hplace⟩ := Details.build_name_place hinfo
      exact ⟨hname, .leaf hplace⟩
    | group _ hbuild hinfo =>
      obtain ⟨hname, hplace⟩ := Details.build_name_place hinfo
      exact ⟨hname, .of_children hplace (hnodup _ rfl) (hfields rfl hbuild)⟩
    | repeatedGroup _ hbuild hinfo harray =>
      obtain ⟨hname, hplace⟩ := Details.build_name_place harray
      obtain ⟨_, hinner⟩ := Details.build_name_place hinfo
      exact ⟨hname, .array hplace (.of_children hinner (hnodup _ rfl) (hfields rfl hbuild))⟩
    | array _ hbuild hinfo =>
      obtain ⟨hname, hplace⟩ := Details.build_name_place hinfo
      exact ⟨hname, .array hplace (ihItem _ rfl (hitem _ rfl) hbuild).2⟩

/-! ### Linking -/

theorem FieldInfo.link_name_place {registry : Registry} {root : Field} {info linked : FieldInfo}
    (h : info.link registry root = .ok linked) : linked.name = info.name ∧ linked.place = info.place := by
  obtain ⟨condition, rules, _, _, rfl⟩ := FieldInfo.link_iff.mp h
  exact ⟨rfl, rfl⟩

theorem Field.link_name {registry : Registry} {root field linked : Field}
    (h : Field.link registry root field = .ok linked) : linked.name = field.name :=
  (FieldInfo.link_name_place (Field.info_of_link h)).1

theorem Field.link_placed {registry : Registry} {root field linked : Field} {place : Path}
    (hplaced : field.Placed place) (h : Field.link registry root field = .ok linked) :
    linked.Placed place := by
  induction hplaced generalizing linked with
  | leaf hplace =>
    obtain ⟨linked, hinfo, rfl⟩ := Field.link_leaf_iff.mp h
    exact .leaf ((FieldInfo.link_name_place hinfo).2.trans hplace)
  | group hplace hnames _ ih =>
    obtain ⟨linked, fields, hinfo, hfields, rfl⟩ := Field.link_group_iff.mp h
    have hmap := map_eq_of_mapM (g := Field.name) hfields fun _ _ => Field.link_name
    refine .group ((FieldInfo.link_name_place hinfo).2.trans hplace) (hmap ▸ hnames) fun f hf => ?_
    obtain ⟨c, hc, hlink⟩ := exists_of_mem_mapM hfields hf
    rw [Field.link_name hlink]
    exact ih c hc hlink
  | array hplace _ ih =>
    obtain ⟨linked, inner, hinfo, hinner, rfl⟩ := Field.link_array_iff.mp h
    exact .array ((FieldInfo.link_name_place hinfo).2.trans hplace) (ih hinner)

/-! ### Forms -/

/-- **The root of a form is placed at the empty path.** -/
theorem Form.root_placed {registry : Registry} {document : Value} {form : Form}
    (hkeys : document.keysOnce = true) (h : Form.ofDocument registry document = .ok form) :
    form.root.Placed [] := by
  obtain ⟨draft, _, _, _, _, hdraft, hroot⟩ := Form.ofDocument_eq_ok_iff.mp h
  have hplaced := Declaration.build_placed (Declaration.namesOnce_ofValue hkeys) hdraft
  exact Field.link_placed hplaced.2 hroot

/-- **A field of a form carries the place at which it is found.** -/
theorem Form.info_place_of_at? {registry : Registry} {document : Value} {form : Form} {p : Path}
    {field : Field} (hkeys : document.keysOnce = true)
    (h : Form.ofDocument registry document = .ok form) (hp : form.root.at? p = some field) :
    field.info.place = p.outline := by
  have := ((Form.root_placed hkeys h).of_at? hp).info_place
  rwa [List.nil_append] at this

end FormCheck
