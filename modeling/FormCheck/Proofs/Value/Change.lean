import FormCheck.Proofs.Path.Apart
import FormCheck.Proofs.Value.Parts
import FormCheck.Value.Reading
import Mathlib.Tactic.Common

/-!
# A change at one place

Data is changed at a path, and everything else is as it was.  A change of what an object or a list holds can be a new
value, one more or one less; in a list all members after it move then.

* `Value.step?_object_middle`, `Value.step?_list_middle` — what stands between other entries or members;
* `Value.Edit` — a value, and the same after a change of what stands at a path; `Value.DifferAt` — two values that
  differ there only;
* `Value.Changed` — the value at a path is replaced, added or deleted; `Value.SameShape` — two lists of one length, or
  two objects;
* `Value.Edit.follow`, `Value.Edit.follow_eq` — **proved**: what is read on the way has changed in this way, and apart
  from the path the same is read;
* `Value.Changed.follow_eq` — **proved**: so it is with additions and deletions, apart from the list whose members
  move.
-/

namespace FormCheck

namespace Value

variable {change : Value → Value → Prop} {p q : Path} {v w : Value}

/-! ### One step -/

theorem step?_object_middle {before : List (String × Value)} {name : String} (h : ∀ e ∈ before, e.1 ≠ name)
    (after : List (String × Value)) (v : Value) :
    (Value.object (before ++ (name, v) :: after)).step? (.name name) = some v :=
  entryOf?_middle h

/-- An entry does not matter for a step that is not its key. -/
theorem step?_object_insert_of_ne (before after : List (String × Value)) {name : String} (v : Value) {s : Segment}
    (h : s ≠ .name name) :
    (Value.object (before ++ after)).step? s = (Value.object (before ++ (name, v) :: after)).step? s := by
  cases s with
  | name t =>
    have hne : name ≠ t := fun heq => h (by rw [heq])
    exact (entryOf?_middle_of_ne hne).symm
  | _ => rfl

theorem step?_object_middle_of_ne (before after : List (String × Value)) {name : String} (v w : Value)
    {s : Segment} (h : s ≠ .name name) :
    (Value.object (before ++ (name, v) :: after)).step? s
      = (Value.object (before ++ (name, w) :: after)).step? s := by
  rw [← step?_object_insert_of_ne before after v h, ← step?_object_insert_of_ne before after w h]

theorem step?_list_middle (before after : List Value) (v : Value) :
    (Value.list (before ++ v :: after)).step? (.index before.length) = some v := by
  show (if (0 : Int) ≤ before.length then (before ++ v :: after)[(before.length : Int).toNat]? else none) = _
  rw [if_pos (Int.natCast_nonneg _), Int.toNat_natCast, List.getElem?_append_right (Nat.le_refl _),
    Nat.sub_self, List.getElem?_cons_zero]

theorem step?_list_middle_of_ne (before after : List Value) (v w : Value) {s : Segment}
    (h : s ≠ .index before.length) :
    (Value.list (before ++ v :: after)).step? s = (Value.list (before ++ w :: after)).step? s := by
  cases s with
  | index n =>
    show (if 0 ≤ n then (before ++ v :: after)[n.toNat]? else none)
      = if 0 ≤ n then (before ++ w :: after)[n.toNat]? else none
    split
    · have hne : n.toNat ≠ before.length := by
        intro heq
        exact h (by rw [← heq, Int.toNat_of_nonneg ‹_›])
      rcases Nat.lt_or_gt_of_ne hne with hlt | hgt
      · rw [List.getElem?_append_left hlt, List.getElem?_append_left hlt]
      · obtain ⟨k, hk⟩ : ∃ k, n.toNat - before.length = k + 1 := ⟨n.toNat - before.length - 1, by omega⟩
        rw [List.getElem?_append_right hgt.le, List.getElem?_append_right hgt.le, hk,
          List.getElem?_cons_succ, List.getElem?_cons_succ]
    · rfl
  | _ => rfl

theorem follow_of_step {s : Segment} {u : Value} (h : v.step? s = some u) (q : Path) :
    v.follow (s :: q) = u.follow q := by
  rw [follow_cons, h]

theorem follow_congr_of_step {s : Segment} (h : v.step? s = w.step? s) (q : Path) :
    v.follow (s :: q) = w.follow (s :: q) := by
  rw [follow_cons, follow_cons, h]

/-! ### Changes -/

/-- The second value is the first one after a change of what stands at the path.  Everything else is as it was. -/
inductive Edit (change : Value → Value → Prop) : Path → Value → Value → Prop where
  | here {v w : Value} : change v w → Edit change [] v w
  | entry {name : String} {p : Path} {before after : List (String × Value)} {v w : Value} :
      (∀ e ∈ before, e.1 ≠ name) → Edit change p v w →
      Edit change (.name name :: p) (.object (before ++ (name, v) :: after))
        (.object (before ++ (name, w) :: after))
  | member {p : Path} {before after : List Value} {v w : Value} : Edit change p v w →
      Edit change (.index before.length :: p) (.list (before ++ v :: after)) (.list (before ++ w :: after))

/-- Two values that differ in what stands at a path, and in nothing else. -/
def DifferAt (p : Path) (v w : Value) : Prop :=
  Edit (fun _ _ => True) p v w

/-- Two lists of one length, or two objects. -/
inductive SameShape : Value → Value → Prop where
  | list {xs ys : List Value} : xs.length = ys.length → SameShape (.list xs) (.list ys)
  | object {xs ys : List (String × Value)} : SameShape (.object xs) (.object ys)

/-- The value at the end of a way by names through objects that hold nothing else. -/
def nest : List String → Value → Value
  | [], v => v
  | name :: names, v => .object [(name, nest names v)]

/-- The second value holds something more under a path: an entry, with objects around it where there were none, or a
member of a list. -/
inductive Adds : Path → Value → Value → Prop where
  | entry {before after : List (String × Value)} {name : String} (names : List String) (v : Value) :
      (∀ e ∈ before ++ after, e.1 ≠ name) →
      Adds (.name name :: names.map .name) (.object (before ++ after))
        (.object (before ++ (name, nest names v) :: after))
  | object {plain : Value} {name : String} (names : List String) (v : Value) : plain.isObject = false →
      plain.isList = false → Adds (.name name :: names.map .name) plain (.object [(name, nest names v)])
  | member (before after : List Value) (v : Value) :
      Adds [.index before.length] (.list (before ++ after)) (.list (before ++ v :: after))

/-- The value at a path is replaced, added or deleted. -/
inductive Changed : Path → Value → Value → Prop where
  | replaced {p : Path} {data changed : Value} : DifferAt p data changed → Changed p data changed
  | added {p q : Path} {data changed : Value} : Edit (Adds q) p data changed → Changed (p ++ q) data changed
  | deleted {p q : Path} {data changed : Value} : Edit (fun v w => Adds q w v) p data changed →
      Changed (p ++ q) data changed

/-! ### At the path and apart from it -/

/-- On the way to the path, what is read has changed there. -/
theorem Edit.follow {r : Path} (h : Edit change (q ++ r) v w) : Edit change r (v.follow q) (w.follow q) := by
  induction q generalizing v w with
  | nil =>
    rw [follow_nil, follow_nil]
    exact h
  | cons s q ih =>
    rw [List.cons_append] at h
    cases h with
    | entry hbefore hinner =>
      rw [follow_of_step (step?_object_middle hbefore _ _), follow_of_step (step?_object_middle hbefore _ _)]
      exact ih hinner
    | member hinner =>
      rw [follow_of_step (step?_list_middle _ _ _), follow_of_step (step?_list_middle _ _ _)]
      exact ih hinner

/-- What stands at the path has changed. -/
theorem Edit.change_follow (h : Edit change p v w) : change (v.follow p) (w.follow p) := by
  have hend : Edit change [] (v.follow p) (w.follow p) := Edit.follow (by rwa [List.append_nil])
  cases hend with
  | here hchange => exact hchange

/-- What holds the place of the change keeps its shape. -/
theorem Edit.sameShape (h : Edit change p v w) (hp : p ≠ []) : SameShape v w := by
  cases h with
  | here _ => exact absurd rfl hp
  | entry _ _ => exact .object
  | member _ => exact .list (by simp)

theorem DifferAt.symm (h : DifferAt p v w) : DifferAt p w v := by
  rw [DifferAt] at h ⊢
  induction h with
  | here _ => exact .here trivial
  | entry hbefore _ ih => exact .entry hbefore ih
  | member _ ih => exact .member ih

/-- **Apart from the path the same is read.** -/
theorem Edit.follow_eq (h : Edit change p v w) (hq : q.Apart p) : v.follow q = w.follow q := by
  induction h generalizing q with
  | here _ => exact absurd rfl hq.symm.ne_nil
  | @entry name p before after v w hbefore _ ih =>
    cases q with
    | nil => exact absurd rfl hq.ne_nil
    | cons s q =>
      by_cases hs : s = .name name
      · subst hs
        rw [follow_of_step (step?_object_middle hbefore _ _), follow_of_step (step?_object_middle hbefore _ _)]
        exact ih (Path.apart_cons_iff.mp hq)
      · exact follow_congr_of_step (step?_object_middle_of_ne before after v w hs) q
  | @member p before after v w _ ih =>
    cases q with
    | nil => exact absurd rfl hq.ne_nil
    | cons s q =>
      by_cases hs : s = .index before.length
      · subst hs
        rw [follow_of_step (step?_list_middle _ _ _), follow_of_step (step?_list_middle _ _ _)]
        exact ih (Path.apart_cons_iff.mp hq)
      · exact follow_congr_of_step (step?_list_middle_of_ne before after v w hs) q

/-! ### Additions and deletions -/

/-- Apart from its way, an object that holds nothing else has nothing. -/
theorem follow_nest (names : List String) (v : Value) (hq : Path.Apart q (names.map .name)) :
    (nest names v).follow q = .absent := by
  induction names generalizing q with
  | nil => exact absurd rfl hq.symm.ne_nil
  | cons name names ih =>
    cases q with
    | nil => exact absurd rfl hq.ne_nil
    | cons s q =>
      by_cases hs : s = .name name
      · subst hs
        have hstep : (nest (name :: names) v).step? (.name name) = some (nest names v) :=
          step?_object_middle (List.forall_mem_nil _) [] _
        rw [follow_of_step hstep]
        exact ih (Path.apart_cons_iff.mp hq)
      · have hstep : (nest (name :: names) v).step? s = none := by
          cases s with
          | name t =>
            have hne : name ≠ t := fun heq => hs (by rw [heq])
            exact entryOf?_eq_none (List.forall_mem_singleton.mpr hne)
          | _ => rfl
        rw [follow_cons, hstep]

/-- A value that is no object and no list has nothing below it. -/
theorem follow_of_plain (hobject : v.isObject = false) (hlist : v.isList = false) (hq : q ≠ []) :
    v.follow q = .absent := by
  cases q with
  | nil => exact absurd rfl hq
  | cons s q =>
    have hstep : v.step? s = none := by
      cases v with
      | list items => cases hlist
      | object entries => cases hobject
      | _ => cases s <;> rfl
    rw [follow_cons, hstep]

/-- Apart from what has been added the same is read.  A member that is added moves those after it, so that nothing
at all is read in the list. -/
theorem Adds.follow_eq {r : Path} (h : Adds r v w) (hq : (p ++ q).Apart (p ++ r).dropIndices) :
    v.follow q = w.follow q := by
  cases h with
  | @entry before after name names v hnew =>
    rw [Path.dropIndices_append_names, Path.apart_append_iff] at hq
    cases q with
    | nil => exact absurd rfl hq.ne_nil
    | cons s q =>
      by_cases hs : s = .name name
      · subst hs
        have hnone : (Value.object (before ++ after)).step? (.name name) = none := entryOf?_eq_none hnew
        have hbefore : ∀ e ∈ before, e.1 ≠ name := fun e he => hnew e (List.mem_append_left _ he)
        rw [follow_cons, hnone, follow_of_step (step?_object_middle hbefore _ _)]
        exact (follow_nest names v (Path.apart_cons_iff.mp hq)).symm
      · exact follow_congr_of_step (step?_object_insert_of_ne before after _ hs) q
  | @object _ name names v hobject hlist =>
    rw [Path.dropIndices_append_names, Path.apart_append_iff] at hq
    rw [follow_of_plain hobject hlist hq.ne_nil]
    exact (follow_nest (name :: names) v hq).symm
  | member before after v =>
    have hlist : (p ++ [Segment.index before.length]).dropIndices <+: p ++ q := by
      rw [Path.dropIndices_concat]
      exact p.dropIndices_prefix.trans (List.prefix_append p q)
    exact absurd hlist hq.2

/-- What an addition, or a deletion, at the end of a path leaves alone. -/
theorem Edit.follow_eq_of_end {r : Path} (h : Edit change p v w)
    (hend : ∀ q, (p ++ q).Apart (p ++ r).dropIndices → (v.follow p).follow q = (w.follow p).follow q)
    (hq : q.Apart (p ++ r).dropIndices) : v.follow q = w.follow q := by
  by_cases hp : p <+: q
  · obtain ⟨q, rfl⟩ := hp
    rw [follow_append, follow_append]
    exact hend q hq
  · refine h.follow_eq ⟨fun hqp => ?_, hp⟩
    exact (hq.extend (Path.dropIndices_prefix (p ++ r))).1 (hqp.trans (List.prefix_append p r))

/-- **Apart from the place that is changed, less the indices at its end, the same is read.** -/
theorem Changed.follow_eq (h : Changed p v w) (hq : q.Apart p.dropIndices) : v.follow q = w.follow q := by
  cases h with
  | replaced h => exact h.follow_eq (hq.extend p.dropIndices_prefix)
  | added h => exact h.follow_eq_of_end (fun _ hend => h.change_follow.follow_eq hend) hq
  | deleted h => exact h.follow_eq_of_end (fun _ hend => (h.change_follow.follow_eq hend).symm) hq

end Value

end FormCheck
