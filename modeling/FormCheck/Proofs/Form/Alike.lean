import FormCheck.Proofs.Form.Linking
import FormCheck.Proofs.Form.References
import FormCheck.Proofs.Form.Skeleton

/-!
# Fields that are alike

Two fields are alike if the same is found by the same steps, whatever else the order of declaration may be.  Everything
that looks a field up by its place cannot tell them apart.

* `Field.Alike` — at every place below the two fields there is a field of the same kind with the same rules, condition
  and texts, or none on either side;
* `Field.alike_of_perm`, `Field.alike_of_forall₂`, `Field.alike_of_item` — **proved**: groups with the same children in
  another order are alike, and so are groups and arrays whose parts are alike;
* `Field.Alike.resolve` — **proved**: in forms that are alike references stand for the same places;
* `Field.Alike.link` — **proved**: where one of two drafts that are alike can be linked, so can the other one, and what
  they are linked to is alike.
-/

namespace FormCheck

open Fallible

namespace Field

/-- What a field has by itself, whatever lies below it. -/
def own (field : Field) : Kind × FieldInfo :=
  (field.kind, field.info)

/-- At every place below the two fields there are fields that have the same by themselves, or none. -/
def Alike (c d : Field) : Prop :=
  ∀ p, (c.at? p).map own = (d.at? p).map own

variable {c d e : Field}

namespace Alike

theorem refl (c : Field) : c.Alike c :=
  fun _ => rfl

theorem symm (h : c.Alike d) : d.Alike c :=
  fun p => (h p).symm

theorem trans (h : c.Alike d) (h' : d.Alike e) : c.Alike e :=
  fun p => (h p).trans (h' p)

theorem own_eq (h : c.Alike d) : c.own = d.own :=
  Option.some.inj (h [])

theorem kind_eq (h : c.Alike d) : c.kind = d.kind :=
  congrArg Prod.fst h.own_eq

theorem info_eq (h : c.Alike d) : c.info = d.info :=
  congrArg Prod.snd h.own_eq

theorem name_eq (h : c.Alike d) : c.name = d.name :=
  congrArg FieldInfo.name h.info_eq

/-- Steps that lead somewhere from the one field lead to a field that is alike from the other one. -/
theorem exists_at? (h : c.Alike d) {p : Path} {f : Field} (hf : c.at? p = some f) :
    ∃ g, d.at? p = some g ∧ f.Alike g := by
  have hhere := h p
  rw [hf, Option.map_some] at hhere
  obtain ⟨g, hg, _⟩ := Option.map_eq_some_iff.mp hhere.symm
  refine ⟨g, hg, ?_⟩
  intro q
  have hbelow := h (p ++ q)
  rwa [at?_append, at?_append, hf, hg] at hbelow

theorem exists_step? (h : c.Alike d) {s : Segment} {f : Field} (hf : c.step? s = some f) :
    ∃ g, d.step? s = some g ∧ f.Alike g := by
  have hone : ∀ field : Field, field.at? [s] = field.step? s := by
    intro field
    rw [at?_cons]
    cases field.step? s <;> rfl
  rw [← hone] at hf ⊢
  exact h.exists_at? hf

theorem step?_eq_none (h : c.Alike d) {s : Segment} (hs : c.step? s = none) : d.step? s = none := by
  cases hd : d.step? s with
  | none => rfl
  | some g =>
    obtain ⟨f, hf, _⟩ := h.symm.exists_step? hd
    rw [hs] at hf
    cases hf

end Alike

/-! ### Parts that are alike -/

/-- Fields are alike if they have the same by themselves, and what is one step below is alike. -/
theorem alike_of_step? (hown : c.own = d.own) (hstep : ∀ s, Option.Rel Alike (c.step? s) (d.step? s)) : c.Alike d := by
  intro p
  cases p with
  | nil => exact congrArg some hown
  | cons s p =>
    rw [at?_cons, at?_cons]
    have hrel := hstep s
    revert hrel
    generalize c.step? s = f
    generalize d.step? s = g
    intro hrel
    cases hrel with
    | none => rfl
    | some halike => exact halike p

/-- Groups are alike if the same names lead to children that are alike. -/
theorem alike_of_child? (info : FieldInfo) {cs ds : List Field}
    (hchild : ∀ n, Option.Rel Alike ((group info cs).child? n) ((group info ds).child? n)) :
    (group info cs).Alike (group info ds) := by
  refine alike_of_step? rfl ?_
  intro s
  cases s with
  | name n => exact hchild n
  | index k => exact .none
  | each => exact .none

/-- **The same children in another order make up a group that is alike.** -/
theorem alike_of_perm (info : FieldInfo) {cs ds : List Field} (hnames : (cs.map Field.name).Nodup)
    (h : cs.Perm ds) : (group info cs).Alike (group info ds) := by
  have hothers : (ds.map Field.name).Nodup := (h.map Field.name).nodup_iff.mp hnames
  refine alike_of_child? info ?_
  intro n
  cases hc : (group info cs).child? n with
  | some f =>
    obtain ⟨hmem, rfl⟩ := mem_of_child? info hc
    rw [child?_eq_some info hothers (h.mem_iff.mp hmem)]
    exact .some (.refl f)
  | none =>
    cases hd : (group info ds).child? n with
    | none => exact .none
    | some g =>
      obtain ⟨hmem, rfl⟩ := mem_of_child? info hd
      rw [child?_eq_some info hnames (h.mem_iff.mpr hmem)] at hc
      cases hc

/-- Of children that are alike, one after the other, the same names find such as are alike. -/
theorem rel_find?_of_forall₂ {cs ds : List Field} (h : List.Forall₂ Alike cs ds) (n : String) :
    Option.Rel Alike (cs.find? (·.name == n)) (ds.find? (·.name == n)) := by
  induction h with
  | nil => exact .none
  | @cons c d cs ds hcd _ ih =>
    rw [List.find?_cons, List.find?_cons, ← hcd.name_eq]
    cases c.name == n with
    | true => exact .some hcd
    | false => exact ih

theorem alike_of_forall₂ (info : FieldInfo) {cs ds : List Field} (h : List.Forall₂ Alike cs ds) :
    (group info cs).Alike (group info ds) :=
  alike_of_child? info (rel_find?_of_forall₂ h)

theorem alike_of_item (info : FieldInfo) (h : c.Alike d) : (array info c).Alike (array info d) := by
  refine alike_of_step? rfl ?_
  intro s
  cases s with
  | name n => exact .none
  | index k => exact .some h
  | each => exact .some h

/-! ### References -/

theorem item?_eq_step? (field : Field) : field.item? = field.step? .each := rfl

/-- A step that is not a name goes on from the item of an array. -/
theorem descend_of_not_name (field : Field) (place : Path) {s : Segment} (hs : ∀ n, s ≠ .name n) (rest : Path) :
    field.descend place (s :: rest) = (field.step? .each).elim (.error (.noArray place))
      fun item => item.descend (place ++ [s]) rest := by
  cases s with
  | name n => exact absurd rfl (hs n)
  | index k => cases field <;> rfl
  | each => cases field <;> rfl

/-! ### Linked fields -/

theorem kind_of_link {registry : Registry} {root field linked : Field}
    (h : Field.link registry root field = .ok linked) : linked.kind = field.kind := by
  cases field with
  | leaf info kind =>
    obtain ⟨_, _, rfl⟩ := link_leaf_iff.mp h
    rfl
  | group info children =>
    obtain ⟨_, _, _, _, rfl⟩ := link_group_iff.mp h
    rfl
  | array info item =>
    obtain ⟨_, _, _, _, rfl⟩ := link_array_iff.mp h
    rfl

/-- What is found by steps before linking is found, linked, by the same steps after it. -/
theorem exists_linked_at? {registry : Registry} {root field linked draft : Field} {p : Path}
    (h : Field.link registry root field = .ok linked) (hp : field.at? p = some draft) :
    ∃ found, linked.at? p = some found ∧ Field.link registry root draft = .ok found := by
  obtain ⟨found, hfound⟩ := exists_at?_congr (skeleton_of_link h).symm hp
  obtain ⟨also, halso, hlink⟩ := exists_at?_of_link h hfound
  rw [hp, Option.some.injEq] at halso
  exact ⟨found, hfound, halso ▸ hlink⟩

namespace Alike

/-- From fields that are alike the same steps lead to the same place. -/
theorem descend (h : c.Alike d) (place p : Path) : c.descend place p = d.descend place p := by
  induction p generalizing c d place with
  | nil => rfl
  | cons s p ih =>
    by_cases hs : ∃ n, s = .name n
    · obtain ⟨n, rfl⟩ := hs
      -- A name is looked up in the field itself, or in the item of the array.
      obtain ⟨hplace, hholder⟩ : (c.holder place).2 = (d.holder place).2 ∧
          (c.holder place).1.Alike (d.holder place).1 := by
        rw [holder, holder, item?_eq_step?, item?_eq_step?]
        cases hitem : c.step? .each with
        | none =>
          rw [h.step?_eq_none hitem]
          exact ⟨rfl, h⟩
        | some item =>
          obtain ⟨other, hother, halike⟩ := h.exists_step? hitem
          rw [hother]
          exact ⟨rfl, halike⟩
      rw [descend_name, descend_name, hplace]
      show ((c.holder place).1.step? (.name n)).elim _ _ = ((d.holder place).1.step? (.name n)).elim _ _
      cases hchild : (c.holder place).1.step? (.name n) with
      | none =>
        rw [hholder.step?_eq_none hchild]
      | some child =>
        obtain ⟨other, hother, halike⟩ := hholder.exists_step? hchild
        rw [hother]
        exact ih halike _
    · have hname : ∀ n, s ≠ .name n := fun n hn => hs ⟨n, hn⟩
      rw [descend_of_not_name c place hname, descend_of_not_name d place hname]
      cases hitem : c.step? .each with
      | none => rw [h.step?_eq_none hitem]
      | some item =>
        obtain ⟨other, hother, halike⟩ := h.exists_step? hitem
        rw [hother]
        exact ih halike _

/-- **In forms that are alike references stand for the same places.** -/
theorem resolve (h : c.Alike d) (expression : String) (base : Path) :
    c.resolve expression base = d.resolve expression base := by
  rw [Field.resolve, Field.resolve]
  cases Reference.ofText expression with
  | error e => rfl
  | ok reference =>
    show c.resolveReference reference base = d.resolveReference reference base
    rw [resolveReference, resolveReference]
    cases reference.start? base with
    | none => rfl
    | some start =>
      cases hc : c.at? start with
      | none =>
        cases hd : d.at? start with
        | none => simp only [hc, hd]
        | some g =>
          obtain ⟨f, hf, _⟩ := h.symm.exists_at? hd
          rw [hc] at hf
          cases hf
      | some f =>
        obtain ⟨g, hg, halike⟩ := h.exists_at? hc
        simp only [hc, hg, halike.descend]

theorem rulePlace (h : c.Alike d) (base : Path) (expression : String) :
    c.rulePlace base expression = d.rulePlace base expression := by
  rw [Field.rulePlace, Field.rulePlace, h.resolve]

theorem conditionPlace (h : c.Alike d) (base : Path) (expression : String) :
    c.conditionPlace base expression = d.conditionPlace base expression := by
  rw [Field.conditionPlace, Field.conditionPlace, h.rulePlace]

/-! ### Linking -/

variable {registry : Registry}

theorem linkInfo (h : c.Alike d) (info : FieldInfo) : info.link registry c = info.link registry d := by
  have hrule : ∀ (place : Path) (rule : DeclaredRule), rule.link registry c place = rule.link registry d place := by
    intro place rule
    rw [DeclaredRule.link, DeclaredRule.link]
    simp only [h.rulePlace]
  rw [FieldInfo.link, FieldInfo.link]
  simp only [h.conditionPlace, hrule]

/-- Linking keeps what is found by steps, each field linked by itself. -/
theorem of_link {root other linked also : Field} (hroots : root.Alike other) (h : c.Alike d)
    (hlinked : Field.link registry root c = .ok linked) (halso : Field.link registry other d = .ok also) :
    linked.Alike also := by
  -- What one side has at a place, the other one has too.
  have hhalf : ∀ {root other c d linked also : Field}, root.Alike other → c.Alike d →
      Field.link registry root c = .ok linked → Field.link registry other d = .ok also →
      ∀ p f, linked.at? p = some f → (also.at? p).map own = some f.own := by
    intro root other c d linked also hroots h hlinked halso p f hf
    obtain ⟨draft, hdraft, hlink⟩ := exists_at?_of_link hlinked hf
    obtain ⟨twin, htwin, halike⟩ := h.exists_at? hdraft
    obtain ⟨g, hg, hlinkg⟩ := exists_linked_at? halso htwin
    have hinfo := info_of_link hlink
    rw [halike.info_eq, hroots.linkInfo, info_of_link hlinkg] at hinfo
    rw [hg, Option.map_some, own, own, kind_of_link hlinkg, ← halike.kind_eq, ← kind_of_link hlink,
      Except.ok.inj hinfo]
  intro p
  cases hp : linked.at? p with
  | some f => exact (hhalf hroots h hlinked halso p f hp).symm
  | none =>
    cases hq : also.at? p with
    | none => rfl
    | some g =>
      have hback := hhalf hroots.symm h.symm halso hlinked p g hq
      rw [hp] at hback
      cases hback

/-- **Where one of two drafts that are alike can be linked, so can the other one.** -/
theorem link (hplaced : d.Placed []) (h : c.Alike d) {linked : Field} (hlinked : Field.link registry c c = .ok linked) :
    ∃ also, Field.link registry d d = .ok also ∧ linked.Alike also := by
  cases halso : Field.link registry d d with
  | ok also => exact ⟨also, rfl, of_link h h hlinked halso⟩
  | error failure =>
    -- The field that cannot be linked has a twin at its place, and that one has been linked.
    obtain ⟨g, hg, hfailure⟩ := exists_of_link_error halso
    obtain ⟨p, _, hat⟩ := hplaced.exists_at?_of_mem hg
    obtain ⟨f, hf, halike⟩ := h.symm.exists_at? hat
    obtain ⟨twin, _, htwin⟩ := exists_linked_at? hlinked hf
    have hinfo := info_of_link htwin
    rw [← halike.info_eq, h.linkInfo, hfailure] at hinfo
    cases hinfo

end Alike

end Field

end FormCheck
