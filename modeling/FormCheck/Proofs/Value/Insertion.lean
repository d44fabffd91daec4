import FormCheck.Proofs.Value.Change
import FormCheck.Proofs.Value.LongNumbers

/-!
# A new key in an object

Data gains an entry in one of its objects.  The objects and lists on the way to this one change with it, and
everything else stays what it was.

* `Value.Gains` — a value, and the same with a new key in the object at a path;
* `Value.gains_iff_edit` — **proved**: this is a change at the path, by which an object gains the entry;
* `Value.Gains.follow` — **proved**: on the way to the object, what is read gains the entry as well;
* `Value.Gains.follow_eq` — **proved**: beside the way, and not under the new key, the same is read;
* `Value.Gains.sameShape`, `Value.Gains.isEmpty_of_ne_nil` — **proved**: what is read on the way keeps its shape,
  and unless it is the object itself it has not been empty;
* `Value.Gains.hasLongNumber_iff` — **proved**: it holds a number of too many digits if it did so before, or the new
  entry does.
-/

namespace FormCheck.Value

/-- The second value is the first one with a new entry: in the object at the path there is the key, which was not
there, with its value.  Everything else is as it was. -/
inductive Gains (key : String) (value : Value) : Path → Value → Value → Prop where
  | here {before after : List (String × Value)} : (∀ e ∈ before ++ after, e.1 ≠ key) →
      Gains key value [] (.object (before ++ after)) (.object (before ++ (key, value) :: after))
  | entry {name : String} {p : Path} {before after : List (String × Value)} {v w : Value} :
      (∀ e ∈ before, e.1 ≠ name) → Gains key value p v w →
      Gains key value (.name name :: p) (.object (before ++ (name, v) :: after))
        (.object (before ++ (name, w) :: after))
  | member {p : Path} {before after : List Value} {v w : Value} : Gains key value p v w →
      Gains key value (.index before.length :: p) (.list (before ++ v :: after))
        (.list (before ++ w :: after))

variable {key : String} {value v w : Value} {p : Path}

/-- To gain an entry at a path is a change there: the object gains it. -/
theorem gains_iff_edit : Gains key value p v w ↔ Edit (Gains key value []) p v w := by
  constructor
  · intro h
    induction h with
    | here hnew => exact .here (.here hnew)
    | entry hbefore _ ih => exact .entry hbefore ih
    | member _ ih => exact .member ih
  · intro h
    induction h with
    | here hgains => exact hgains
    | entry hbefore _ ih => exact .entry hbefore ih
    | member _ ih => exact .member ih

/-! ### Following paths -/

/-- On the way to the object, what is read gains the entry. -/
theorem Gains.follow {q r : Path} (h : Gains key value (q ++ r) v w) :
    Gains key value r (v.follow q) (w.follow q) :=
  gains_iff_edit.mpr (gains_iff_edit.mp h).follow

/-- Except under the new key, an object that gains an entry is the same. -/
theorem Gains.step?_eq (h : Gains key value [] v w) {s : Segment} (hs : s ≠ .name key) : v.step? s = w.step? s := by
  cases h with
  | here hnew => exact step?_object_insert_of_ne _ _ value hs

/-- **Beside the way to the object, and not under the new key, the same is read.** -/
theorem Gains.follow_eq (h : Gains key value p v w) {q : Path} (hway : ¬ q <+: p)
    (hkey : ¬ p ++ [.name key] <+: q) : v.follow q = w.follow q := by
  have hedit := gains_iff_edit.mp h
  by_cases hp : p <+: q
  · obtain ⟨q, rfl⟩ := hp
    rw [List.prefix_append_right_inj] at hkey
    rw [follow_append, follow_append]
    cases q with
    | nil =>
      rw [List.append_nil] at hway
      exact absurd (List.prefix_refl p) hway
    | cons s q =>
      refine follow_congr_of_step (hedit.change_follow.step?_eq ?_) q
      rintro rfl
      exact hkey (List.cons_prefix_cons.mpr ⟨rfl, List.nil_prefix⟩)
  · exact hedit.follow_eq ⟨hway, hp⟩

/-! ### Lists and objects on the way -/

/-- What gains an entry keeps its shape. -/
theorem Gains.sameShape (h : Gains key value p v w) : SameShape v w := by
  cases h with
  | here _ => exact .object
  | entry _ _ => exact .object
  | member _ => exact .list (by simp)

/-- What gains an entry is not empty afterwards. -/
theorem Gains.isEmpty_eq_false (h : Gains key value p v w) : w.isEmpty = false := by
  cases h <;> simp [isEmpty]

/-- Before, it may have been the empty object that gains the entry; what holds this object is not empty. -/
theorem Gains.isEmpty_of_ne_nil (h : Gains key value p v w) (hp : p ≠ []) : v.isEmpty = false := by
  cases h with
  | here _ => exact absurd rfl hp
  | entry _ _ => simp [isEmpty]
  | member _ => simp [isEmpty]

/-- **What gains an entry holds the numbers from before and those of the entry.** -/
theorem Gains.hasLongNumber_iff (h : Gains key value p v w) :
    w.HasLongNumber ↔ v.HasLongNumber ∨ value.HasLongNumber := by
  induction h with
  | here _ =>
    simp only [hasLongNumber_object_iff, List.mem_append, List.mem_cons, or_and_right, exists_or, exists_eq_left]
    exact (or_congr_right or_comm).trans or_assoc.symm
  | entry _ _ ih =>
    simp only [hasLongNumber_object_iff, List.mem_append, List.mem_cons, or_and_right, exists_or, exists_eq_left, ih]
    exact (or_congr_right or_right_comm).trans or_assoc.symm
  | member _ ih =>
    simp only [hasLongNumber_list_iff, List.mem_append, List.mem_cons, or_and_right, exists_or, exists_eq_left, ih]
    exact (or_congr_right or_right_comm).trans or_assoc.symm

end FormCheck.Value
