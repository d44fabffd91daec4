import FormCheck.Proofs.Form.Construction

/-!
# The fields of a form

* `Field.mem_preorder_iff` — a field and all below it, by the parts of the field;
* `Field.mem_preorder_of_part`, `Field.mem_preorder_of_at?` — **proved**: the parts of a field below another
  one lie below it too, and so does what is found there by steps.
-/

namespace FormCheck.Field

theorem preorderOfAll_eq_flatMap (fields : List Field) :
    preorderOfAll fields = fields.flatMap preorder := by
  induction fields with
  | nil => rfl
  | cons field fields ih => rw [preorderOfAll, ih, List.flatMap_cons]

theorem preorder_eq_cons (field : Field) : field.preorder = field :: field.parts.flatMap preorder := by
  cases field with
  | leaf info kind => rfl
  | group info children => rw [preorder, preorderOfAll_eq_flatMap, parts]
  | array info item => rw [preorder, parts, List.flatMap_singleton]

theorem mem_preorder_iff {field f : Field} :
    f ∈ field.preorder ↔ f = field ∨ ∃ c ∈ field.parts, f ∈ c.preorder := by
  rw [preorder_eq_cons, List.mem_cons, List.mem_flatMap]

theorem self_mem_preorder (field : Field) : field ∈ field.preorder :=
  mem_preorder_iff.mpr (.inl rfl)

/-- The parts of what lies below a field lie below it. -/
theorem mem_preorder_of_part {field f c : Field} (hf : f ∈ field.preorder) (hc : c ∈ f.parts) :
    c ∈ field.preorder := by
  induction field using induction_parts with
  | leaf info kind =>
    rcases mem_preorder_iff.mp hf with rfl | ⟨d, hd, _⟩
    · cases hc
    · cases hd
  | group info children ih =>
    rcases mem_preorder_iff.mp hf with rfl | ⟨d, hd, hf⟩
    · exact mem_preorder_iff.mpr (.inr ⟨c, hc, self_mem_preorder c⟩)
    · exact mem_preorder_iff.mpr (.inr ⟨d, hd, ih d hd hf⟩)
  | array info item ih =>
    rcases mem_preorder_iff.mp hf with rfl | ⟨d, hd, hf⟩
    · exact mem_preorder_iff.mpr (.inr ⟨c, hc, self_mem_preorder c⟩)
    · rw [List.mem_singleton.mp hd] at hf
      exact mem_preorder_iff.mpr (.inr ⟨item, List.mem_singleton_self item, ih hf⟩)

/-- What lies below a field below another one lies below it too. -/
theorem mem_preorder_trans {field f g : Field} (hg : g ∈ field.preorder) (hf : f ∈ g.preorder) :
    f ∈ field.preorder := by
  induction g using induction_parts with
  | leaf info kind =>
    rcases mem_preorder_iff.mp hf with rfl | ⟨c, hc, _⟩
    · exact hg
    · cases hc
  | group info children ih =>
    rcases mem_preorder_iff.mp hf with rfl | ⟨c, hc, hf⟩
    · exact hg
    · exact ih c hc (mem_preorder_of_part hg hc) hf
  | array info item ih =>
    rcases mem_preorder_iff.mp hf with rfl | ⟨c, hc, hf⟩
    · exact hg
    · rw [List.mem_singleton.mp hc] at hf
      exact ih (mem_preorder_of_part hg (List.mem_singleton_self item)) hf

/-- One step down leads to a part. -/
theorem mem_parts_of_step? {field next : Field} {s : Segment} (h : field.step? s = some next) :
    next ∈ field.parts := by
  cases field with
  | leaf info kind => cases s <;> cases h
  | group info children =>
    cases s with
    | name n => exact List.mem_of_find?_eq_some h
    | index n => cases h
    | each => cases h
  | array info item =>
    cases s with
    | name n => cases h
    | index n => cases h; exact List.mem_singleton_self _
    | each => cases h; exact List.mem_singleton_self _

/-- **What is found below a field by steps is one of the fields below it.** -/
theorem mem_preorder_of_at? {field found : Field} {p : Path} (h : field.at? p = some found) :
    found ∈ field.preorder := by
  induction p generalizing field with
  | nil =>
    cases h
    exact self_mem_preorder _
  | cons s p ih =>
    rw [at?_cons] at h
    obtain ⟨next, hs, h⟩ := Option.bind_eq_some_iff.mp h
    exact mem_preorder_iff.mpr (.inr ⟨next, mem_parts_of_step? hs, ih h⟩)

end FormCheck.Field
