import FormCheck.Proofs.Form.Linking
import FormCheck.Proofs.Form.Readings

/-!
# Which places conditions refer to

Linking refuses a condition that refers to its own field, to what is around it or in it, and to anything below the
groups around it.  These checks compare outlines.  They keep the target of a condition apart from the field, and also
from the array that the field is an element of.

* `Path.InScope` — a target lies in the own group of a base place or in one around it, beside the place itself;
* `Form.inScope_of_mem` — **proved**: so does every target of every condition in a form;
* `Field.apart_dropIndices` — **proved**: what is apart from an element of an array is apart from the array;
* `Form.exists_apart_target` — **proved**: a place in the data that the target of a condition stands for is apart from
  the place of the field, less the indices at its end.
-/

namespace FormCheck

open Fallible

/-- The target lies in the group that holds the base place or in a group around this one.  It is not the base place,
not around it and not in it. -/
structure Path.InScope (target base : Path) : Prop where
  ne : target.outline ≠ base
  notAround : ¬ target.outline <+: base
  notWithin : ¬ base <+: target.outline
  level : target.outline.enclosing <+: base.enclosing

theorem Path.outline_outline (p : Path) : p.outline.outline = p.outline := by
  simp only [outline, List.map_map]
  exact List.map_congr_left fun s _ => s.outline_outline

namespace Field

variable {registry : Registry} {root : Field}

/-- What linking accepts for a condition is in scope. -/
theorem inScope_of_conditionPlace {base place : Path} {expression : String} (hbase : base.outline = base)
    (h : root.conditionPlace base expression = .ok place) : place.InScope base := by
  obtain ⟨found, _, h⟩ := bind_eq_ok_iff.mp h
  cases hproblem : conditionProblem? base found with
  | some problem => rw [hproblem] at h; cases h
  | none =>
    rw [hproblem] at h
    cases h
    simp only [conditionProblem?, hbase, ← Path.enclosing_outline] at hproblem
    split_ifs at hproblem with hown haround hwithin hlevel
    rw [Path.leadsTo_iff] at haround hwithin
    rw [Bool.not_eq_true', Bool.not_eq_false, Path.leadsTo_iff] at hlevel
    exact ⟨hown, haround, hwithin, hlevel⟩

/-! ### Elements of an array -/

/-- A step by an index leads from an array to what stands for its elements. -/
theorem array_of_step? {field next : Field} {s : Segment} (hs : s.isName = false) (h : field.step? s = some next) :
    s.outline = .each ∧ ∃ info, field = .array info next := by
  cases s with
  | name n => cases hs
  | index n =>
    cases field with
    | array info item => cases h; exact ⟨rfl, info, rfl⟩
    | _ => cases h
  | each =>
    cases field with
    | array info item => cases h; exact ⟨rfl, info, rfl⟩
    | _ => cases h

/-- From an array there are no other steps. -/
theorem step?_array {info : FieldInfo} {item next : Field} {s : Segment}
    (h : (Field.array info item).step? s = some next) : s.outline = .each ∧ next = item := by
  cases s with
  | name n => cases h
  | index n => cases h; exact ⟨rfl, rfl⟩
  | each => cases h; exact ⟨rfl, rfl⟩

/-- Steps by indices only and any other steps that lead to a field go the same way. -/
theorem prefix_or_prefix_of_indices {field f g : Field} {indices p : Path}
    (hindices : ∀ s ∈ indices, s.isName = false) (hf : field.at? indices = some f) (hg : field.at? p = some g) :
    p.outline <+: indices.outline ∨ indices.outline <+: p.outline := by
  induction indices generalizing field p with
  | nil => exact .inr List.nil_prefix
  | cons s indices ih =>
    cases p with
    | nil => exact .inl List.nil_prefix
    | cons t p =>
      rw [List.forall_mem_cons] at hindices
      rw [at?_cons] at hf hg
      obtain ⟨item, hitem, hindexed⟩ := Option.bind_eq_some_iff.mp hf
      obtain ⟨next, hnext, hother⟩ := Option.bind_eq_some_iff.mp hg
      obtain ⟨hs, info, rfl⟩ := array_of_step? hindices.1 hitem
      obtain ⟨ht, rfl⟩ := step?_array hnext
      rw [Path.outline_cons, Path.outline_cons, hs, ht, List.cons_prefix_cons, List.cons_prefix_cons]
      exact (ih hindices.2 hindexed hother).imp (fun h => ⟨rfl, h⟩) (fun h => ⟨rfl, h⟩)

/-- **What is apart from an element of an array is apart from the array.** -/
theorem apart_dropIndices {f g : Field} {target place : Path} (hf : root.at? place = some f)
    (hg : root.at? target = some g) (h : target.outline.Apart place.outline) :
    target.outline.Apart place.dropIndices.outline := by
  obtain ⟨indices, hplace, hindices⟩ := place.exists_indices
  have hdrop : place.dropIndices.outline <+: place.outline := place.dropIndices_prefix.map Segment.outline
  refine ⟨fun hp => h.1 (hp.trans hdrop), fun hp => ?_⟩
  obtain ⟨r, hr⟩ := hp
  -- The array itself, from which both places go on.
  obtain ⟨array, harray, hrest⟩ : ∃ array, root.at? place.dropIndices = some array ∧ array.at? indices = some f := by
    rw [hplace, at?_append] at hf
    exact Option.bind_eq_some_iff.mp hf
  have htarget : array.at? r = some g := by
    rw [← at?_outline, ← hr, at?_append, at?_outline, harray] at hg
    exact hg
  have hout : target.outline = place.dropIndices.outline ++ Path.outline r := by
    rw [← Path.outline_outline, ← hr, Path.outline_append, Path.outline_outline]
  have hindexed : place.outline = place.dropIndices.outline ++ indices.outline := by
    conv_lhs => rw [hplace]
    rw [Path.outline_append]
  rw [hout, hindexed, Path.apart_append_iff] at h
  rcases prefix_or_prefix_of_indices hindices hrest htarget with hri | hir
  · exact h.1 hri
  · exact h.2 hir

end Field

/-! ### Forms -/

namespace Form

variable {registry : Registry} {document : Value} {form : Form}

/-- Fields stand at places without indices. -/
theorem outline_place (hkeys : document.keysOnce = true) (hform : Form.ofDocument registry document = .ok form)
    {f : Field} (hf : f ∈ form.root.preorder) : f.place.outline = f.place := by
  obtain ⟨p, _, hat⟩ := (Form.root_placed hkeys hform).exists_at?_of_mem hf
  rw [Field.place, Form.info_place_of_at? hkeys hform hat, Path.outline_outline]

/-- **Every target of every condition is in scope.** -/
theorem inScope_of_mem (hkeys : document.keysOnce = true) (hform : Form.ofDocument registry document = .ok form)
    {f : Field} (hf : f ∈ form.root.preorder) {condition : Condition} (hcondition : f.info.condition = some condition)
    {c : Comparison} (hc : c ∈ condition.comparisons) :
    ∃ target, c.target = some target ∧ target.InScope f.place := by
  obtain ⟨draft, _, _, _, _, _, hroot⟩ := Form.ofDocument_eq_ok_iff.mp hform
  obtain ⟨d, _, _, hlink⟩ := Field.exists_link_of_mem hroot hf
  have hplace : f.info.place = d.info.place := (FieldInfo.link_name_place hlink).2
  have hbase := outline_place hkeys hform hf
  rw [Field.place, hplace] at hbase ⊢
  obtain ⟨resolved, rules, hresolve, _, hinfo⟩ := FieldInfo.link_iff.mp hlink
  rw [hinfo] at hcondition
  cases hdeclared : d.info.condition with
  | none =>
    rw [hdeclared] at hresolve
    cases hresolve
    cases hcondition
  | some declared =>
    rw [hdeclared] at hresolve
    obtain ⟨found, hfound, h⟩ := map_eq_ok_iff.mp hresolve
    cases h
    cases hcondition
    obtain ⟨target, htarget, hplaced⟩ := Condition.target_of_resolve hfound hc
    exact ⟨target, htarget, Field.inScope_of_conditionPlace hbase (mapError_eq_ok_iff.mp hplaced)⟩

/-- **A place that the target of a condition stands for is apart from the field that has the condition**, and where
this is an element of an array, from the array. -/
theorem exists_apart_target (hkeys : document.keysOnce = true) (hform : Form.ofDocument registry document = .ok form)
    {place : Path} {f : Field} (hf : form.root.at? place = some f) {condition : Condition}
    (hcondition : f.info.condition = some condition) {c : Comparison} (hc : c ∈ condition.comparisons) :
    ∃ target, c.target = some target ∧ ∀ found : Path, found.outline = target.outline →
      found.Apart place.dropIndices := by
  have hmem : f ∈ form.root.preorder := Field.mem_preorder_of_at? hf
  obtain ⟨target, htarget, hscope⟩ := inScope_of_mem hkeys hform hmem hcondition hc
  -- Linking has found a field at the target.
  obtain ⟨sameTarget, g, hsame, hg⟩ := (isLinked_of_mem hform hmem).condition condition hcondition c hc
  obtain rfl : target = sameTarget := Option.some.inj (htarget.symm.trans hsame)
  rw [Field.place, info_place_of_at? hkeys hform hf] at hscope
  refine ⟨target, htarget, fun found hfound => Path.Apart.of_outline ?_⟩
  rw [hfound]
  exact Field.apart_dropIndices hf hg ⟨hscope.notAround, hscope.notWithin⟩

end Form

end FormCheck
