import FormCheck.Path.Binding
import Mathlib.Tactic.Common

/-!
# Which open indices can be filled

A path with open indices is filled from the place of a field.  Whether this can be done is asked twice: once
for the place with its indices forgotten, when the form is built, and once for the place itself, when data is
evaluated.  The first question compares outlines and the second one compares steps, so that they can differ
where the path has an index of its own in front of an open one.

* `Path.IsConcrete` — a path without open indices, `Path.IsInstance` — a place that a path with open indices
  stands for;
* `Path.Aligned` — the indices that a path has in front of open ones are those of a place;
* `Path.fill_isSome_iff` — **proved**: a path that can be filled by its outline can be filled from a place
  exactly when it is aligned with the place;
* `Path.fillable_everywhere_iff` — **proved**: it can be filled from all instances of a base path exactly when
  it is aligned with the base path.
-/

namespace FormCheck

theorem Segment.outline_outline (s : Segment) : s.outline.outline = s.outline := by
  cases s <;> rfl

theorem Segment.isName_outline (s : Segment) : s.outline.isName = s.isName := by
  cases s <;> rfl

namespace Path

/-- A path without open indices. -/
def IsConcrete (p : Path) : Prop :=
  .each ∉ p

/-- A place that a base path stands for: an index of an element in place of each open one. -/
def IsInstance (place base : Path) : Prop :=
  List.Forall₂ (fun s b => b ≠ .each ∧ s = b ∨ b = .each ∧ ∃ i : Nat, s = .index i) place base

/-- Each index of the path that has an open one after it is the index which the place has at this step. -/
def Aligned (path place : Path) : Prop :=
  ∀ (u v : Path) (k : Int), path = u ++ .index k :: v → .each ∈ v → place[u.length]? = some (.index k)

theorem aligned_nil (place : Path) : Aligned [] place := by
  intro u v k h
  cases u <;> cases h

theorem aligned_cons_iff {s : Segment} {path place : Path} :
    Aligned (s :: path) place ↔
      (∀ k, s = .index k → .each ∈ path → place[0]? = some (.index k)) ∧ Aligned path place.tail := by
  constructor
  · intro h
    refine ⟨fun k hs heach => h [] path k (by rw [hs]; rfl) heach, fun u v k hpath heach => ?_⟩
    rw [List.getElem?_tail]
    exact h (s :: u) v k (by rw [hpath]; rfl) heach
  · rintro ⟨hhead, htail⟩ u v k hpath heach
    cases u with
    | nil =>
      obtain ⟨rfl, rfl⟩ := List.cons.inj hpath
      exact hhead k rfl heach
    | cons r u =>
      obtain ⟨rfl, rfl⟩ := List.cons.inj hpath
      have := htail u v k rfl heach
      rwa [List.getElem?_tail] at this

/-! ### One step of filling -/

theorem fillFrom_closed {s : Segment} (hs : s ≠ .each) (agree : Bool) (path : Path) (b : Segment)
    (base : Path) :
    fillFrom agree (s :: path) (b :: base) = (fillFrom (agree && s == b) path base).map (s :: ·) := by
  cases s with
  | name n => rfl
  | index n => rfl
  | each => exact absurd rfl hs

theorem fillFrom_closed_nil {s : Segment} (hs : s ≠ .each) (agree : Bool) (path : Path) :
    fillFrom agree (s :: path) [] = (fillFrom false path []).map (s :: ·) := by
  cases s with
  | name n => rfl
  | index n => rfl
  | each => exact absurd rfl hs

theorem canFillFrom_closed {s : Segment} (hs : s ≠ .each) (agree : Bool) (path : Path) (b : Segment)
    (base : Path) :
    canFillFrom agree (s :: path) (b :: base) = canFillFrom (agree && s.outline == b.outline) path base := by
  cases s with
  | name n => rfl
  | index n => rfl
  | each => exact absurd rfl hs

theorem canFillFrom_closed_nil {s : Segment} (hs : s ≠ .each) (agree : Bool) (path : Path) :
    canFillFrom agree (s :: path) [] = canFillFrom false path [] := by
  cases s with
  | name n => rfl
  | index n => rfl
  | each => exact absurd rfl hs

theorem closed_of_canFillFrom_false {path base : Path} (h : canFillFrom false path base = true) :
    .each ∉ path := by
  induction path generalizing base with
  | nil => exact List.not_mem_nil
  | cons s path ih =>
    by_cases hs : s = .each
    · subst hs
      cases base <;> simp [canFillFrom] at h
    · rw [List.mem_cons, not_or]
      refine ⟨Ne.symm hs, ?_⟩
      cases base with
      | nil => exact ih (canFillFrom_closed_nil hs false path ▸ h)
      | cons b base =>
        rw [canFillFrom_closed hs, Bool.false_and] at h
        exact ih h

/-- Filling keeps the outline of a path. -/
theorem outline_of_fillFrom {agree : Bool} {path base filled : Path} (h : fillFrom agree path base = some filled) :
    filled.outline = path.outline := by
  fun_induction fillFrom agree path base generalizing filled with
  | case1 => cases h; rfl
  | case2 rest n base ih =>
    obtain ⟨r, hr, rfl⟩ := Option.map_eq_some_iff.mp h
    rw [outline_cons, outline_cons, ih hr]
    rfl
  | case3 => cases h
  | case4 => cases h
  | case5 agree s rest _ ih =>
    obtain ⟨r, hr, rfl⟩ := Option.map_eq_some_iff.mp h
    rw [outline_cons, outline_cons, ih hr]
  | case6 agree s rest b base _ _ ih =>
    obtain ⟨r, hr, rfl⟩ := Option.map_eq_some_iff.mp h
    rw [outline_cons, outline_cons, ih hr]

theorem outline_of_fill {path base filled : Path} (h : path.fill base = some filled) :
    filled.outline = path.outline :=
  outline_of_fillFrom h

/-- An open index is filled only where the path runs through the element that the base path runs through: up to
it, both are the same. -/
theorem take_of_fillFrom {agree : Bool} {path base filled : Path} (h : fillFrom agree path base = some filled)
    {n : Nat} (hn : path[n]? = some .each) : agree = true ∧ filled.take (n + 1) = base.take (n + 1) := by
  fun_induction fillFrom agree path base generalizing filled n with
  | case1 => cases hn
  | case2 rest k base ih =>
    obtain ⟨r, hr, rfl⟩ := Option.map_eq_some_iff.mp h
    refine ⟨rfl, ?_⟩
    cases n with
    | zero => rfl
    | succ n =>
      obtain ⟨_, htake⟩ := ih hr hn
      rw [List.take_succ_cons, List.take_succ_cons, htake]
  | case3 => cases h
  | case4 => cases h
  | case5 agree s rest hs ih =>
    obtain ⟨r, hr, rfl⟩ := Option.map_eq_some_iff.mp h
    cases n with
    | zero => exact absurd (Option.some.inj hn) hs
    | succ n =>
      obtain ⟨hagree, _⟩ := ih hr hn
      cases hagree
  | case6 agree s rest b base _ hs ih =>
    obtain ⟨r, hr, rfl⟩ := Option.map_eq_some_iff.mp h
    cases n with
    | zero => exact absurd (Option.some.inj hn) hs
    | succ n =>
      obtain ⟨hagree, htake⟩ := ih hr hn
      rw [Bool.and_eq_true, beq_iff_eq] at hagree
      rw [List.take_succ_cons, List.take_succ_cons, htake, hagree.2]
      exact ⟨hagree.1, rfl⟩

/-! ### Filling from a place -/

/-- A step whose outline is that of a step of a place is this step, or an index. -/
theorem beq_iff_of_outline {s b : Segment} (hs : s ≠ .each) (hb : b ≠ .each)
    (h : s.outline = b.outline) : (s == b) = true ↔ ∀ k, s = .index k → b = .index k := by
  rw [beq_iff_eq]
  constructor
  · rintro rfl k hk
    exact hk
  · intro hindex
    cases s with
    | name n => cases b <;> simp_all [Segment.outline]
    | index k => exact (hindex k rfl).symm
    | each => exact absurd rfl hs

theorem fillFrom_isSome_iff {path place : Path} {shape agree : Bool} (hplace : place.IsConcrete)
    (h : canFillFrom shape path place = true) :
    (fillFrom agree path place).isSome = true ↔ (.each ∈ path → agree = true) ∧ Aligned path place := by
  induction path generalizing place shape agree with
  | nil => simp [fillFrom, aligned_nil]
  | cons s path ih =>
    by_cases hs : s = .each
    · -- An open index: the place has an index here, and from here on both agree again.
      subst hs
      cases place with
      | nil => cases h
      | cons b base =>
        rw [IsConcrete, List.mem_cons, not_or] at hplace
        obtain ⟨n, rfl⟩ : ∃ n, b = .index n := by
          cases b with
          | name n => simp [canFillFrom, Segment.isName] at h
          | index n => exact ⟨n, rfl⟩
          | each => exact absurd rfl hplace.1
        have hrest : canFillFrom true path base = true := by
          rw [canFillFrom, Bool.and_eq_true] at h
          exact h.2
        have hfill : (fillFrom true path base).isSome = true ↔ _ := ih hplace.2 hrest
        rw [aligned_cons_iff, fillFrom]
        cases agree with
        | false => simp
        | true => simp [hfill]
    · rw [List.mem_cons, or_iff_right (Ne.symm hs), aligned_cons_iff]
      cases place with
      | nil =>
        rw [canFillFrom_closed_nil hs] at h
        have hclosed := closed_of_canFillFrom_false h
        rw [fillFrom_closed_nil hs, Option.isSome_map, ih hplace h]
        simp [hclosed]
      | cons b base =>
        rw [IsConcrete, List.mem_cons, not_or] at hplace
        rw [canFillFrom_closed hs] at h
        rw [fillFrom_closed hs, Option.isSome_map, ih hplace.2 h]
        by_cases heach : .each ∈ path
        · -- An open index is still to come, so that this step has to agree.
          have hout : s.outline = b.outline := by
            by_contra hne
            rw [beq_false_of_ne hne, Bool.and_false] at h
            exact closed_of_canFillFrom_false h heach
          have hbeq := beq_iff_of_outline hs (Ne.symm hplace.1) hout
          simp only [heach, forall_const, Bool.and_eq_true, hbeq, List.getElem?_cons_zero, Option.some.injEq,
            List.tail_cons, and_assoc]
        · simp [heach]

/-! ### Filling from the places of an outline -/

theorem canFillFrom_outline (agree : Bool) (path base : Path) :
    canFillFrom agree path base.outline = canFillFrom agree path base := by
  induction path generalizing agree base with
  | nil => rfl
  | cons s path ih =>
    cases base with
    | nil => rfl
    | cons b base =>
      by_cases hs : s = .each
      · subst hs
        rw [outline_cons, canFillFrom, canFillFrom, ih, Segment.isName_outline]
      · rw [outline_cons, canFillFrom_closed hs, canFillFrom_closed hs, ih, Segment.outline_outline]

/-- Whether a path can be filled is no matter of the indices of the base path. -/
theorem canFill_outline (path base : Path) : path.canFill base.outline = path.canFill base :=
  canFillFrom_outline true path base

theorem canFill_of_outline_eq {path base place : Path} (h : path.canFill base = true)
    (hplace : place.outline = base.outline) : path.canFill place = true := by
  rw [← canFill_outline, hplace, canFill_outline]
  exact h

/-- **A path is filled from a place exactly when it is aligned with it**, if it can be filled by the outline
of the place. -/
theorem fill_isSome_iff {path place : Path} (hplace : place.IsConcrete) (h : path.canFill place = true) :
    (path.fill place).isSome = true ↔ Aligned path place := by
  have hfrom : (fillFrom true path place).isSome = true ↔ _ := fillFrom_isSome_iff hplace h
  rw [fill, hfrom]
  exact ⟨And.right, fun haligned => ⟨fun _ => rfl, haligned⟩⟩

theorem IsInstance.isConcrete {place base : Path} (h : place.IsInstance base) : place.IsConcrete := by
  induction h with
  | nil => exact List.not_mem_nil
  | cons hs _ ih =>
    rw [IsConcrete, List.mem_cons, not_or]
    rcases hs with ⟨hb, rfl⟩ | ⟨_, i, rfl⟩
    · exact ⟨Ne.symm hb, ih⟩
    · exact ⟨fun h => (by cases h), ih⟩

theorem IsInstance.outline_eq {place base : Path} (h : place.IsInstance base) :
    place.outline = base.outline := by
  induction h with
  | nil => rfl
  | cons hs _ ih =>
    rw [outline_cons, outline_cons, ih]
    rcases hs with ⟨_, rfl⟩ | ⟨rfl, i, rfl⟩ <;> rfl

/-- The indices of a base path are those of its instances. -/
theorem IsInstance.getElem?_index {place base : Path} (h : place.IsInstance base) {n : Nat} {k : Int}
    (hn : base[n]? = some (.index k)) : place[n]? = some (.index k) := by
  induction h generalizing n with
  | nil => cases hn
  | cons hs _ ih =>
    cases n with
    | zero =>
      rw [List.getElem?_cons_zero, Option.some.injEq] at hn
      rcases hs with ⟨_, rfl⟩ | ⟨heach, _⟩
      · rw [hn, List.getElem?_cons_zero]
      · rw [hn] at heach
        cases heach
    | succ n => exact ih hn

/-- The instance of a base path that has the same index in place of all open ones. -/
def withIndex (i : Nat) (base : Path) : Path :=
  base.map fun s => if s = .each then .index i else s

theorem withIndex_isInstance (i : Nat) (base : Path) : (withIndex i base).IsInstance base := by
  induction base with
  | nil => exact .nil
  | cons b base ih =>
    refine .cons ?_ ih
    by_cases hb : b = .each
    · exact .inr ⟨hb, i, if_pos hb⟩
    · exact .inl ⟨hb, if_neg hb⟩

/-- **A path is filled from every instance of a base path exactly when it is aligned with the base path
itself**, if it can be filled by the outline. -/
theorem fillable_everywhere_iff {path base : Path} (h : path.canFill base = true) :
    (∀ place, place.IsInstance base → (path.fill place).isSome = true) ↔ Aligned path base := by
  constructor
  · intro hall u v k hpath heach
    -- An instance that has another index than `k` wherever it can.
    obtain ⟨i, hi⟩ : ∃ i : Nat, (i : Int) ≠ k := by
      by_cases hk : k = 0
      · exact ⟨1, by omega⟩
      · exact ⟨0, by omega⟩
    have hinstance := withIndex_isInstance i base
    have hfill := hall _ hinstance
    rw [fill_isSome_iff hinstance.isConcrete (canFill_of_outline_eq h hinstance.outline_eq)] at hfill
    have hget := hfill u v k hpath heach
    rw [withIndex, List.getElem?_map] at hget
    obtain ⟨s, hbase, hs⟩ := Option.map_eq_some_iff.mp hget
    by_cases heq : s = .each
    · rw [if_pos heq, Segment.index.injEq] at hs
      exact absurd hs hi
    · rw [if_neg heq] at hs
      rw [hbase, hs]
  · intro haligned place hinstance
    rw [fill_isSome_iff hinstance.isConcrete (canFill_of_outline_eq h hinstance.outline_eq)]
    intro u v k hpath heach
    exact hinstance.getElem?_index (haligned u v k hpath heach)

end Path

end FormCheck
