import FormCheck.Proofs.Path.Filling
import Mathlib.Data.List.Infix
import Mathlib.Data.List.TakeWhile

/-!
# Paths apart from each other

Two places have nothing to do with each other when neither of them leads to the other one.

* `Path.Apart` — neither of two paths leads to the other one;
* `Path.Apart.extend`, `Path.Apart.of_outline` — **proved**: what is apart from a path is apart from all below it,
  and places are apart if their outlines are;
* `Path.exists_indices`, `Path.dropIndices_concat` — **proved**: what is taken off the end of a path;
* `Path.dropIndices_outline`, `Path.enclosing_outline` — **proved**: outlines have the array that an element belongs to
  and the group that a field belongs to where the paths have them.
-/

namespace FormCheck.Path

/-- Neither of two paths leads to the other one. -/
def Apart (p q : Path) : Prop :=
  ¬ p <+: q ∧ ¬ q <+: p

variable {p q r : Path} {s t : Segment}

theorem Apart.symm (h : p.Apart q) : q.Apart p :=
  And.symm h

theorem Apart.ne_nil (h : p.Apart q) : p ≠ [] := by
  rintro rfl
  exact h.1 List.nil_prefix

theorem apart_cons_iff : Apart (s :: p) (s :: q) ↔ p.Apart q := by
  simp only [Apart, List.cons_prefix_cons, true_and]

theorem apart_append_iff : Apart (r ++ p) (r ++ q) ↔ p.Apart q := by
  simp only [Apart, List.prefix_append_right_inj]

theorem apart_of_ne (h : s ≠ t) : Apart (s :: p) (t :: q) := by
  refine ⟨fun hp => ?_, fun hp => ?_⟩
  · exact h (List.cons_prefix_cons.mp hp).1
  · exact h (List.cons_prefix_cons.mp hp).1.symm

/-- What is apart from a path is apart from all below it. -/
theorem Apart.extend (h : p.Apart q) (hq : q <+: r) : p.Apart r := by
  refine ⟨fun hp => ?_, fun hr => h.2 (hq.trans hr)⟩
  rcases List.prefix_or_prefix_of_prefix hp hq with hpq | hqp
  · exact h.1 hpq
  · exact h.2 hqp

/-- Places are apart if their outlines are. -/
theorem Apart.of_outline (h : p.outline.Apart q.outline) : p.Apart q :=
  ⟨fun hp => h.1 (hp.map Segment.outline), fun hq => h.2 (hq.map Segment.outline)⟩

/-- There are no indices in an outline. -/
theorem index_not_mem_outline (p : Path) (k : Int) : .index k ∉ p.outline := by
  intro hk
  obtain ⟨s, _, hs⟩ := List.mem_map.mp hk
  cases s <;> cases hs

/-! ### Less the indices at the end -/

theorem dropIndices_prefix (p : Path) : p.dropIndices <+: p := by
  rw [dropIndices, ← List.reverse_suffix, List.reverse_reverse]
  exact List.dropWhile_suffix _

theorem enclosing_prefix (p : Path) : p.enclosing <+: p :=
  (List.dropLast_prefix _).trans p.dropIndices_prefix

/-- What has been taken off the end are indices. -/
theorem exists_indices (p : Path) : ∃ indices, p = p.dropIndices ++ indices ∧ ∀ s ∈ indices, s.isName = false := by
  refine ⟨(p.reverse.takeWhile fun s => !s.isName).reverse, ?_, fun s hs => ?_⟩
  · rw [dropIndices, ← List.reverse_append, List.takeWhile_append_dropWhile, List.reverse_reverse]
  · simpa using List.mem_takeWhile_imp (List.mem_reverse.mp hs)

theorem dropIndices_concat (p : Path) (s : Segment) :
    dropIndices (p ++ [s]) = if s.isName then p ++ [s] else dropIndices p := by
  rw [dropIndices, List.reverse_append, List.reverse_singleton, List.singleton_append, List.dropWhile_cons]
  cases s.isName with
  | true => simp
  | false => rfl

/-- A path that ends in names has no indices at its end. -/
theorem dropIndices_append_names (p : Path) (name : String) (names : List String) :
    dropIndices (p ++ .name name :: names.map .name) = p ++ .name name :: names.map .name := by
  have hlast : ∀ (r : Path) (n : String), dropIndices (r ++ [.name n]) = r ++ [.name n] := by
    intro r n
    rw [dropIndices_concat]
    rfl
  induction names using List.reverseRecOn with
  | nil => exact hlast p name
  | append_singleton names n _ =>
    rw [List.map_append, List.map_singleton, ← List.cons_append, ← List.append_assoc]
    exact hlast _ n

theorem dropIndices_outline (p : Path) : p.outline.dropIndices = p.dropIndices.outline := by
  have hname : ((fun s : Segment => !s.isName) ∘ Segment.outline) = fun s => !s.isName := by
    funext s
    simp only [Function.comp_apply, Segment.isName_outline]
  simp only [dropIndices, outline, ← List.map_reverse, List.dropWhile_map, hname]

theorem enclosing_outline (p : Path) : p.outline.enclosing = p.enclosing.outline := by
  rw [enclosing, enclosing, dropIndices_outline, outline, outline, List.map_dropLast]

end FormCheck.Path
