import FormCheck.Path.Basic
import FormCheck.Value.Basic

/-!
# Filling open indices, and reading values

* `Path.fill` — each open index filled with the index that a base path has there; nothing when the base
  does not run through the same element;
* `Path.canFill` — whether a path can be filled from every instance of a base path;
* `Value.follow` — the value at a path, `absent` where the data has no such place.
-/

namespace FormCheck

namespace Path

/-- The path with open indices filled from `base`, where `agree` tells whether everything before it was
the same in both. -/
def fillFrom (agree : Bool) : Path → Path → Option Path
  | [], _ => some []
  | .each :: rest, .index n :: base =>
    if agree then (fillFrom true rest base).map (.index n :: ·) else none
  | .each :: _, _ => none
  | s :: rest, [] => (fillFrom false rest []).map (s :: ·)
  | s :: rest, b :: base => (fillFrom (agree && s == b) rest base).map (s :: ·)

/-- Each open index of the path, filled with the index that `base` has there. An index can be filled only
while the path so far is the beginning of `base`. -/
def fill (path base : Path) : Option Path :=
  fillFrom true path base

/-- The check of `canFill` from a place up to which the outlines agree or not. -/
def canFillFrom (agree : Bool) : Path → Path → Bool
  | [], _ => true
  | .each :: rest, b :: base => agree && !b.isName && canFillFrom true rest base
  | .each :: _, [] => false
  | _ :: rest, [] => canFillFrom false rest []
  | s :: rest, b :: base => canFillFrom (agree && s.outline == b.outline) rest base

/-- Whether the path's open indices can be filled from every instance of a base path: the base is open
or indexed at each of them, and has the same outline before it. -/
def canFill (path base : Path) : Bool :=
  canFillFrom true path base

end Path

namespace Value

/-- The value one step further. -/
def step? : Value → Segment → Option Value
  | v, .name s => v.entry? s
  | .list items, .index n => if 0 ≤ n then items[n.toNat]? else none
  | _, _ => none

/-- The value at a path. A step that the data does not allow leads to `absent`. -/
def follow : Value → Path → Value
  | v, [] => v
  | v, s :: rest =>
    match v.step? s with
    | some w => w.follow rest
    | none => .absent

@[simp] theorem follow_nil (v : Value) : v.follow [] = v := by
  simp [follow]

theorem follow_cons (v : Value) (s : Segment) (p : Path) :
    v.follow (s :: p) = match v.step? s with
      | some w => w.follow p
      | none => .absent := rfl

theorem step?_absent (s : Segment) : step? .absent s = none := by
  cases s <;> rfl

theorem follow_absent (p : Path) : follow .absent p = .absent := by
  cases p with
  | nil => rfl
  | cons s p => simp [follow, step?_absent]

theorem follow_append (v : Value) (p q : Path) : v.follow (p ++ q) = (v.follow p).follow q := by
  induction p generalizing v with
  | nil => simp
  | cons s p ih =>
    rw [List.cons_append, follow_cons, follow_cons]
    split
    · exact ih _
    · exact (follow_absent q).symm

end Value

end FormCheck
