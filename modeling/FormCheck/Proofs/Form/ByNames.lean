import FormCheck.Proofs.Form.Resolution
import FormCheck.Proofs.Form.Scope
import FormCheck.Proofs.Path.Referring

/-!
# References by names alone

A reference may leave the arrays out that lie on its way: the names of a place, with points between them, lead to the
place.  They do so through arrays of groups.  Through an array of arrays they do not, since only one open index is
filled in before a name.

* `Path.names`, `Path.byNames` — the names on the way to a place, and the reference that consists of them;
* `Path.IsNested` — an array of arrays lies on the way to the place;
* `Reference.ofText_byNames` — **proved**: the reference by names is read as its names;
* `Field.descend_names` — **proved**: names lead to the place unless it is nested, and then to no field;
* `Form.names_lead` — **proved**: from every field of a form, the reference by the names of a field leads to this field
  exactly when no array of arrays lies on the way;
* `Form.not_every_array_is_transparent` — **proved**: a sibling in an array of arrays is not found by its names.
-/

namespace FormCheck

open Text Fallible

/-! ### Names -/

/-- A name that a reference can spell: not empty, without blanks at its ends, and without points or brackets in it. -/
structure IsSpelled (n : String) : Prop where
  tight : IsTight n.toList
  plain : ∀ c ∈ n.toList, c ∉ ['.', '[', ']']

instance (n : String) : Decidable (IsSpelled n) :=
  decidable_of_iff (IsTight n.toList ∧ n.toList.all Path.isNameChar = true) <| by
    rw [Path.all_isNameChar_iff]
    exact ⟨fun h => ⟨h.1, h.2⟩, fun h => ⟨h.tight, h.plain⟩⟩

namespace Path

/-- The names on the way to a place. -/
def names : Path → List String
  | [] => []
  | .name n :: p => n :: names p
  | _ :: p => names p

/-- The names on the way to a place, with points between them. -/
def byNames (p : Path) : String :=
  ".".intercalate p.names

/-- An array whose elements are arrays lies on the way to the place. -/
def IsNested (p : Path) : Prop :=
  [.each, .each] <:+: p

instance (p : Path) : Decidable p.IsNested :=
  inferInstanceAs (Decidable (_ <:+: _))

variable {p : Path} {n : String}

theorem mem_names_iff : n ∈ p.names ↔ .name n ∈ p := by
  induction p with
  | nil => simp [names]
  | cons s p ih => cases s <;> simp [names, ih]

/-- A path that ends in a name has names. -/
theorem names_ne_nil (hlast : ∀ s ∈ p.getLast?, s.isName = true) (hne : p ≠ []) : p.names ≠ [] := by
  have hs := hlast _ (List.getLast?_eq_some_getLast hne)
  cases hlast : p.getLast hne with
  | name n =>
    have hn : n ∈ p.names := mem_names_iff.mpr (hlast ▸ List.getLast_mem hne)
    exact List.ne_nil_of_mem hn
  | index k => rw [hlast] at hs; cases hs
  | each => rw [hlast] at hs; cases hs

/-- What a path ends in, it also ends in less its first step, if a step is left. -/
theorem last_of_cons {s : Segment} {P : Segment → Prop} (hlast : ∀ t ∈ (s :: p).getLast?, P t) :
    ∀ t ∈ p.getLast?, P t := by
  intro t ht
  refine hlast t ?_
  rw [List.getLast?_cons, Option.mem_def.mp ht]
  rfl

theorem isNested_name_cons : IsNested (.name n :: p) ↔ p.IsNested := by
  simp [IsNested, List.infix_cons_iff]

theorem isNested_each_name_cons : IsNested (.each :: .name n :: p) ↔ p.IsNested := by
  simp [IsNested, List.infix_cons_iff]

theorem isNested_each_each_cons : IsNested (.each :: .each :: p) :=
  (List.prefix_append [Segment.each, .each] p).isInfix

end Path

/-! ### The reference is read -/

namespace Reference

/-- A text that begins with no point, and has no blanks at its ends, is read as a path from the root. -/
theorem ofText_of_tight {text : String} {c : Char} (htight : IsTight text.toList) (hfirst : c ∈ text.toList.head?)
    (hpoint : c ≠ '.') {segments : Path} (hread : Path.readFrom true text .start 0 text.toList = .ok segments) :
    ofText text = .ok ⟨text, segments, none⟩ := by
  have hwritten : written "" 0 text "" = text := by simp [written]
  have hne : ∀ d ∈ text.toList.head?, d ≠ '.' := fun d hd => Option.mem_unique hfirst hd ▸ hpoint
  have hread := @ofText_written "" "" rfl rfl _ htight hne _ hread 0
  rwa [hwritten] at hread

/-- **Names with points between them are read as these names**, from the root on. -/
theorem ofText_byNames {p : Path} (hne : p.names ≠ []) (h : ∀ n ∈ p.names, IsSpelled n) :
    ofText p.byNames = .ok ⟨p.byNames, p.names.map .name, none⟩ := by
  have hchars : p.byNames.toList = ['.'].intercalate (p.names.map String.toList) := String.toList_intercalate
  have hstretches : p.byNames.toList = Path.written (p.names.map fun n => ⟨n.toList, []⟩) := by
    rw [hchars, Path.written, List.map_map]
    simp [Function.comp_def, Path.Stretch.chars]
  have hread : Path.readFrom true p.byNames .start 0 p.byNames.toList = .ok (p.names.map .name) := by
    refine Path.readFrom_eq_ok_iff.mpr ⟨p.names.map fun n => ⟨n.toList, []⟩, fun s hs => ?_, hstretches, ?_⟩
    · obtain ⟨n, hn, rfl⟩ := List.mem_map.mp hs
      exact ⟨(h n hn).tight.ne_nil, (h n hn).plain, List.forall_mem_nil _⟩
    · rw [List.flatMap_map, List.map_eq_flatMap]
      simp [Path.Stretch.steps]
  have htight : IsTight p.byNames.toList := by
    rw [hchars]
    refine .intercalate (by simpa using hne) (fun part hpart => ?_) ['.']
    obtain ⟨n, hn, rfl⟩ := List.mem_map.mp hpart
    exact (h n hn).tight
  obtain ⟨n, ns, hnames⟩ := List.exists_cons_of_ne_nil hne
  have hn : IsSpelled n := h n (hnames ▸ List.mem_cons_self)
  obtain ⟨c, hc, _⟩ := hn.tight.first
  have hfirst : c ∈ p.byNames.toList.head? := by
    rw [hstretches, hnames, List.map_cons, Path.written_cons, List.head?_append, Option.mem_def.mp hc]
    rfl
  refine ofText_of_tight htight hfirst ?_ hread
  rintro rfl
  exact hn.plain '.' (List.mem_of_mem_head? hc) List.mem_cons_self

end Reference

/-! ### Where names lead -/

namespace Field

variable {f : Field}

/-- Only a group has a field under a name. -/
theorem at?_name_cons {field : Field} {n : String} {p : Path} (h : field.at? (.name n :: p) = some f) :
    ∃ child, field.child? n = some child ∧ child.at? p = some f ∧ field.item? = none := by
  obtain ⟨child, hchild, hf⟩ := Option.bind_eq_some_iff.mp h
  refine ⟨child, hchild, hf, ?_⟩
  cases field with
  | group info children => rfl
  | _ => cases hchild

/-- Only an array has a field for its elements. -/
theorem at?_each_cons {field : Field} {p : Path} (h : field.at? (.each :: p) = some f) :
    ∃ item, field.item? = some item ∧ item.at? p = some f ∧ ∀ n, field.child? n = none := by
  obtain ⟨item, hitem, hf⟩ := Option.bind_eq_some_iff.mp h
  refine ⟨item, hitem, hf, ?_⟩
  cases field with
  | array info item => exact fun _ => rfl
  | _ => cases hitem

/-- **Names lead to a place unless an array of arrays lies on the way.**  Where one does, a name is looked up in an
array, which has no fields. -/
theorem descend_names : ∀ {p : Path} {field : Field} (start : Path), field.at? p = some f →
    (∀ s ∈ p.getLast?, s.isName = true) → (∀ k, .index k ∉ p) →
    (¬ p.IsNested ∧ field.descend start (p.names.map .name) = .ok (start ++ p)) ∨
      (p.IsNested ∧ ∃ n q, field.descend start (p.names.map .name) = .error (.noField n q))
  | [], field, start, _, _, _ => by
    refine .inl ⟨by simp [Path.IsNested], ?_⟩
    rw [List.append_nil]
    rfl
  | .name n :: p, field, start, h, hlast, hindex => by
    obtain ⟨child, hchild, hf, hitem⟩ := at?_name_cons h
    have hrest := descend_names (start ++ [.name n]) hf (Path.last_of_cons hlast) fun k hk =>
      hindex k (List.mem_cons_of_mem _ hk)
    have hstep : field.descend start ((Path.names (.name n :: p)).map .name) =
        child.descend (start ++ [.name n]) ((Path.names p).map .name) := by
      rw [Path.names, List.map_cons, descend_name, holder, hitem]
      simp [hchild]
    have happend : start ++ (.name n :: p) = start ++ [.name n] ++ p := by simp
    rw [hstep, Path.isNested_name_cons, happend]
    exact hrest
  | .each :: .name n :: p, field, start, h, hlast, hindex => by
    obtain ⟨item, hitem, hf, _⟩ := at?_each_cons h
    obtain ⟨child, hchild, hf, _⟩ := at?_name_cons hf
    have hrest := descend_names (start ++ [.each] ++ [.name n]) hf (Path.last_of_cons (Path.last_of_cons hlast)) fun k hk =>
      hindex k (List.mem_cons_of_mem _ (List.mem_cons_of_mem _ hk))
    have hstep : field.descend start ((Path.names (.each :: .name n :: p)).map .name) =
        child.descend (start ++ [.each] ++ [.name n]) ((Path.names p).map .name) := by
      show field.descend start (.name n :: (Path.names p).map .name) = _
      rw [descend_name, holder, hitem]
      simp [hchild]
    have happend : start ++ (.each :: .name n :: p) = start ++ [.each] ++ [.name n] ++ p := by simp
    rw [hstep, Path.isNested_each_name_cons, happend]
    exact hrest
  | .each :: .each :: p, field, start, h, hlast, _ => by
    obtain ⟨item, hitem, hf, _⟩ := at?_each_cons h
    obtain ⟨_, _, _, hnone⟩ := at?_each_cons hf
    refine .inr ⟨Path.isNested_each_each_cons, ?_⟩
    -- The place ends in a name, so that a name is still to come.
    obtain ⟨n, ns, hnames⟩ := List.exists_cons_of_ne_nil (Path.names_ne_nil hlast (List.cons_ne_nil _ _))
    refine ⟨n, start ++ [.each], ?_⟩
    rw [hnames, List.map_cons, descend_name, holder, hitem]
    simp [hnone]
  | [.each], _, _, _, hlast, _ => by cases hlast .each rfl
  | .index k :: p, _, _, _, _, hindex => absurd List.mem_cons_self (hindex k)
  | .each :: .index k :: p, _, _, _, _, hindex => absurd (List.mem_cons_of_mem _ List.mem_cons_self) (hindex k)

end Field

/-! ### Forms -/

namespace Form

variable {registry : Registry} {document : Value} {form : Form}

/-- **The names of a field lead to it unless an array of arrays lies on the way.**  The reference consists of the names
on the way to a field `m` whose place ends in a name and can be filled from `base`, with points between them.  On the
field at `base` it leads to the place of `m`, also as a reference in a rule, if no array on the way has arrays for
elements; otherwise there is no field of some name where it looks for one. -/
theorem names_lead (hkeys : document.keysOnce = true) (hform : Form.ofDocument registry document = .ok form)
    {base : Path} {m : Field} (hm : m ∈ form.root.preorder) (hlast : ∃ q s, m.place = q ++ [.name s])
    (hspelled : ∀ name ∈ m.place.names, IsSpelled name) (hfill : m.place.canFill base = true) :
    (¬ m.place.IsNested ∧ form.root.resolve m.place.byNames base = .ok m.place ∧
      form.root.rulePlace base m.place.byNames = .ok m.place) ∨
    (m.place.IsNested ∧ ∃ name q,
      form.root.resolve m.place.byNames base = .error (.refused (.noField name q)) ∧
      form.root.rulePlace base m.place.byNames = .error (.refused (.noField name q))) := by
  have hplace := outline_place hkeys hform hm
  obtain ⟨p, hp, hat⟩ := (root_placed hkeys hform).exists_at?_of_mem hm
  obtain rfl : m.place = p := hp
  obtain ⟨q, s, hq⟩ := hlast
  have hname : ∀ t ∈ m.place.getLast?, t.isName = true := by
    rw [hq, List.getLast?_concat]
    rintro t ⟨⟩
    rfl
  have hne : m.place ≠ [] := by simp [hq]
  have hindex : ∀ k, .index k ∉ m.place := by
    intro k hk
    rw [← hplace] at hk
    exact Path.index_not_mem_outline m.place k hk
  -- The reference starts at the root, and its steps are the names.
  have hread := Reference.ofText_byNames (Path.names_ne_nil hname hne) hspelled
  have hresolve : form.root.resolve m.place.byNames base =
      (form.root.descend [] (m.place.names.map .name)).mapError .refused := by
    rw [Field.resolve, hread]
    rfl
  rcases Field.descend_names [] hat hname hindex with ⟨hnested, hlead⟩ | ⟨hnested, name, place, hlead⟩
  · have hleads : form.root.resolve m.place.byNames base = .ok m.place := by
      rw [hresolve, hlead]
      rfl
    exact .inl ⟨hnested, hleads, Field.rulePlace_eq_ok_iff.mpr ⟨hleads, hfill⟩⟩
  · have hnowhere : form.root.resolve m.place.byNames base = .error (.refused (.noField name place)) := by
      rw [hresolve, hlead]
      rfl
    refine .inr ⟨hnested, name, place, hnowhere, ?_⟩
    rw [Field.rulePlace, hnowhere]
    rfl

/-- A form for a legend, and for a grid: rows of cells, each cell a group. -/
def grid : Value :=
  .object [("type", .text "group"), ("properties", .object [
    ("legend", .object [("type", .text "array"), ("items", .object [("type", .text "group"),
      ("properties", .object [
        ("label", .object [("type", .text "text")]),
        ("note", .object [("type", .text "text")])])])]),
    ("grid", .object [("type", .text "array"), ("items", .object [("type", .text "array"),
      ("items", .object [("type", .text "group"), ("properties", .object [
        ("x", .object [("type", .text "text")]),
        ("y", .object [("type", .text "text")])])])])])])]

/-- The fields of a name in the legend. -/
def inLegend (n : String) : Path :=
  [.name "legend", .each, .name n]

/-- The fields of a name in the cells of the grid. -/
def inCells (n : String) : Path :=
  [.name "grid", .each, .each, .name n]

/-- From the notes in the legend, `legend.label` leads to the labels. -/
theorem names_lead_in_legend : ∃ form, Form.ofDocument Registry.standard grid = .ok form ∧
    form.root.resolve "legend.label" (inLegend "note") = .ok (inLegend "label") := by
  have hrun : ((Form.ofDocument Registry.standard grid).toOption.bind fun form =>
      (form.root.at? (inLegend "label")).map Field.name) = some "label" := by
    decide +kernel
  obtain ⟨form, hform, hrun⟩ := exists_eq_ok_of_bind hrun
  obtain ⟨label, hlabel, _⟩ := Option.map_eq_some_iff.mp hrun
  have hkeys : grid.keysOnce = true := by decide +kernel
  have hplace : label.place = inLegend "label" := info_place_of_at? hkeys hform hlabel
  have hspelled : ∀ name ∈ label.place.names, IsSpelled name := by
    rw [hplace]
    decide +kernel
  have hfill : label.place.canFill (inLegend "note") = true := by
    rw [hplace]
    decide
  refine ⟨form, hform, ?_⟩
  rcases names_lead hkeys hform (Field.mem_preorder_of_at? hlabel) ⟨[.name "legend", .each], "label", hplace⟩
      hspelled hfill with ⟨_, hleads, _⟩ | ⟨hnested, _⟩
  · rw [hplace] at hleads
    exact hleads
  · rw [hplace] at hnested
    exact absurd hnested (by decide)

/-- **Not every array is passed through.**  In the cells of a grid, whose rows are arrays, a field is not found by its
names, not even from the field beside it. -/
theorem not_every_array_is_transparent : ∃ form x y, Form.ofDocument Registry.standard grid = .ok form ∧
    (∀ f ∈ form.root.preorder, ∀ name ∈ f.place.names, IsSpelled name) ∧
    x ∈ form.root.preorder ∧ x.place = inCells "x" ∧ y ∈ form.root.preorder ∧ y.place = inCells "y" ∧
    x.place.canFill y.place = true ∧ form.root.resolve x.place.byNames y.place ≠ .ok x.place := by
  have hrun : ((Form.ofDocument Registry.standard grid).toOption.bind fun form =>
      (form.root.at? (inCells "x")).bind fun x => (form.root.at? (inCells "y")).map fun y =>
        ((form.root.resolve "grid.x" (inCells "y")).toOption, x.name, y.name,
          decide (∀ f ∈ form.root.preorder, ∀ name ∈ f.place.names, IsSpelled name))) =
      some (none, "x", "y", true) := by
    decide +kernel
  obtain ⟨form, hform, hrun⟩ := exists_eq_ok_of_bind hrun
  obtain ⟨x, hx, hrun⟩ := Option.bind_eq_some_iff.mp hrun
  obtain ⟨y, hy, hrun⟩ := Option.map_eq_some_iff.mp hrun
  obtain ⟨hnowhere, hrun⟩ := Prod.mk.inj hrun
  obtain ⟨_, _, hspelled⟩ := by simpa only [Prod.mk.injEq] using hrun
  have hkeys : grid.keysOnce = true := by decide +kernel
  have hxplace : x.place = inCells "x" := info_place_of_at? hkeys hform hx
  have hyplace : y.place = inCells "y" := info_place_of_at? hkeys hform hy
  refine ⟨form, x, y, hform, of_decide_eq_true hspelled, Field.mem_preorder_of_at? hx, hxplace,
    Field.mem_preorder_of_at? hy, hyplace, ?_, ?_⟩
  · rw [hxplace, hyplace]
    decide
  · rw [hxplace, hyplace]
    intro hfound
    rw [show (inCells "x").byNames = "grid.x" from by decide +kernel] at hfound
    rw [hfound] at hnowhere
    cases hnowhere

end Form

end FormCheck
