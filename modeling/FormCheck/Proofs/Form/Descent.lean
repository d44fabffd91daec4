import FormCheck.Form.Reference
import FormCheck.Proofs.Fallible
import FormCheck.Proofs.Path.Apart

/-!
# The steps of a reference

A reference starts at a group around the field that has it, or at the root.  A name in it is looked up in a group, and
where an array stands, in the item of the array.

* `Reference.prefix_of_start` — **proved**: a reference starts on the way to the field that has it;
* `Field.holder` — where a name is looked up;
* `Field.descend_name` — **proved**: one step by a name;
* `Field.exists_at?_of_descend` — **proved**: steps that lead anywhere lead to a field;
* `Field.resolve_eq_ok_iff`, `Field.rulePlace_eq_ok_iff` — **proved**: which place a reference stands for;
* `Field.index_mem_of_resolve` — **proved**: the indices in it are those in the reference.
-/

namespace FormCheck

open Fallible

/-! ### Where references start -/

/-- The group so many groups above a place lies on the way to it. -/
theorem Path.prefix_of_climb {n : Nat} {p q : Path} (h : climb n p = some q) : q <+: p := by
  induction n generalizing p with
  | zero =>
    cases h
    exact List.prefix_refl _
  | succ n ih =>
    rw [climb] at h
    split at h
    · cases h
    · exact (ih h).trans p.enclosing_prefix

/-- A reference starts on the way to the field that has it. -/
theorem Reference.prefix_of_start {reference : Reference} {base start : Path}
    (h : reference.start? base = some start) : start <+: base := by
  rw [start?] at h
  split at h
  · cases h
    exact List.nil_prefix
  · exact (Path.prefix_of_climb h).trans base.enclosing_prefix

namespace Field

/-- Where a name is looked up from a field at a place: in the field itself, or in the item of an array. -/
def holder (field : Field) (place : Path) : Field × Path :=
  (field.item?.getD field, if field.item?.isSome then place ++ [.each] else place)

theorem descend_name (field : Field) (place : Path) (n : String) (rest : Path) :
    field.descend place (.name n :: rest) =
      ((field.holder place).1.child? n).elim (.error (.noField n (field.holder place).2))
        fun child => child.descend ((field.holder place).2 ++ [.name n]) rest := by
  cases field with
  | leaf info kind => rfl
  | group info children =>
    show _ = ((Field.group info children).child? n).elim _ _
    cases hchild : (Field.group info children).child? n with
    | none => simp only [descend, hchild]; rfl
    | some child => simp only [descend, hchild]; rfl
  | array info item =>
    show _ = (item.child? n).elim _ _
    cases hchild : item.child? n with
    | none => simp only [descend, hchild]; rfl
    | some child => simp only [descend, hchild]; rfl

/-- Steps that lead from a field to a place lead to a field there. -/
theorem exists_at?_of_descend {field : Field} {start steps found : Path}
    (h : field.descend start steps = .ok found) : ∃ q f, found = start ++ q ∧ field.at? q = some f := by
  induction steps generalizing field start with
  | nil =>
    cases h
    exact ⟨[], field, (List.append_nil _).symm, rfl⟩
  | cons s steps ih =>
    -- Where a step leads to a field, the steps after it lead on from there.
    have hnext : ∀ {holder next : Field} {before : Path} {s : Segment}, holder.step? s = some next →
        next.descend (before ++ [s]) steps = .ok found →
        ∃ q f, found = before ++ q ∧ holder.at? q = some f := by
      intro holder next before s hs h
      obtain ⟨q, f, rfl, hf⟩ := ih h
      exact ⟨s :: q, f, by rw [List.append_assoc]; rfl, by rw [at?_cons, hs]; exact hf⟩
    cases s with
    | name n =>
      rw [descend_name] at h
      cases hchild : (field.holder start).1.child? n with
      | none => rw [hchild] at h; cases h
      | some child =>
        rw [hchild] at h
        obtain ⟨q, f, hfound, hf⟩ := hnext (s := .name n) hchild h
        cases field with
        | leaf info kind => exact ⟨q, f, hfound, hf⟩
        | group info children => exact ⟨q, f, hfound, hf⟩
        | array info item => exact ⟨.each :: q, f, hfound.trans (List.append_assoc _ _ _), hf⟩
    | index n =>
      cases field with
      | array info item => exact hnext rfl h
      | _ => cases h
    | each =>
      cases field with
      | array info item => exact hnext rfl h
      | _ => cases h

/-- An index in the place that steps lead to is one of the steps, or of the place where they start. -/
theorem index_mem_of_descend {field : Field} {start steps found : Path} (h : field.descend start steps = .ok found)
    {k : Int} (hk : .index k ∈ found) : .index k ∈ start ∨ .index k ∈ steps := by
  induction steps generalizing field start with
  | nil =>
    cases h
    exact .inl hk
  | cons s steps ih =>
    -- The step itself, or an open index before it, is all that the start of the next steps has in addition.
    have hnext : ∀ {next : Field} {before : Path} {t : Segment}, next.descend (before ++ [t]) steps = .ok found →
        (.index k = t → .index k ∈ s :: steps) → (.index k ∈ before → .index k ∈ start) →
        .index k ∈ start ∨ .index k ∈ s :: steps := by
      intro next before t h ht hbefore
      rcases ih h with hstart | hsteps
      · rcases List.mem_append.mp hstart with hstart | hstart
        · exact .inl (hbefore hstart)
        · exact .inr (ht (List.mem_singleton.mp hstart))
      · exact .inr (List.mem_cons_of_mem s hsteps)
    cases s with
    | name n =>
      rw [descend_name] at h
      cases hchild : (field.holder start).1.child? n with
      | none => rw [hchild] at h; cases h
      | some child =>
        rw [hchild] at h
        refine hnext h (fun heq => by cases heq) fun hmem => ?_
        rw [holder] at hmem
        split at hmem
        · rcases List.mem_append.mp hmem with hmem | hmem
          · exact hmem
          · cases List.mem_singleton.mp hmem
        · exact hmem
    | index n =>
      cases field with
      | array info item => exact hnext h (fun heq => heq ▸ List.mem_cons_self) id
      | _ => cases h
    | each =>
      cases field with
      | array info item => exact hnext h (fun heq => by cases heq) id
      | _ => cases h

/-! ### From a reference to a place -/

variable {root : Field} {base place : Path} {expression : String}

/-- A reference stands for the place that its steps lead to, from where it starts. -/
theorem resolve_eq_ok_iff : root.resolve expression base = .ok place ↔ ∃ reference start field,
    Reference.ofText expression = .ok reference ∧ reference.start? base = some start ∧
      root.at? start = some field ∧ field.descend start reference.segments = .ok place := by
  constructor
  · intro h
    rw [resolve] at h
    split at h
    · next reference hreference =>
      rw [resolveReference] at h
      split at h
      · cases h
      · next start hstart =>
        split at h
        · cases h
        · next field hfield =>
          exact ⟨reference, start, field, hreference, hstart, hfield, mapError_eq_ok_iff.mp h⟩
    · cases h
  · rintro ⟨reference, start, field, hreference, hstart, hfield, hdescend⟩
    simp only [resolve, hreference, resolveReference, hstart, hfield, hdescend]
    rfl

/-- A rule can use a reference whose place can be filled from the field. -/
theorem rulePlace_eq_ok_iff :
    root.rulePlace base expression = .ok place ↔ root.resolve expression base = .ok place ∧ place.canFill base = true := by
  rw [rulePlace, bind_eq_ok_iff]
  constructor
  · rintro ⟨found, hfound, h⟩
    split at h
    · next hfill =>
      cases h
      exact ⟨hfound, hfill⟩
    · cases h
  · rintro ⟨hplace, hfill⟩
    exact ⟨place, hplace, by rw [if_pos hfill]; rfl⟩

/-- An index in the place of a reference is one of its steps, or of the place of the field that has it. -/
theorem index_mem_of_resolve (h : root.resolve expression base = .ok place) {k : Int} (hk : .index k ∈ place) :
    .index k ∈ base ∨ ∃ reference, Reference.ofText expression = .ok reference ∧ .index k ∈ reference.segments := by
  obtain ⟨reference, start, field, hreference, hstart, _, hdescend⟩ := resolve_eq_ok_iff.mp h
  rcases index_mem_of_descend hdescend hk with hmem | hmem
  · exact .inl ((Reference.prefix_of_start hstart).subset hmem)
  · exact .inr ⟨reference, hreference, hmem⟩

end Field

end FormCheck
