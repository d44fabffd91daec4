import FormCheck.Number.Digits

/-!
# Paths

* `Segment`, `Path` — the steps from the root of a form to one of its fields, and of its data to a value:
  a field's name, an element's index, or `each`, the index of whichever element a referring field lies in;
* `Path.text` — the written form: names with a point between them, indices in brackets;
* `Path.dropIndices`, `Path.enclosing` — the array that an element belongs to, and the group that a field
  belongs to;
* `Path.outline` — a path with its indices forgotten.
-/

namespace FormCheck

open FormCheck.Number

/-- A step of a path. -/
inductive Segment where
  | name (s : String)
  | index (n : Int)
  /-- The index of the element that a referring field lies in. -/
  | each
deriving DecidableEq, Repr

namespace Segment

/-- The step is a field's name. -/
def isName : Segment → Bool
  | .name _ => true
  | _ => false

/-- The step with its index forgotten. -/
def outline : Segment → Segment
  | .name s => .name s
  | _ => .each

/-- The written form of a step; a name has a point before it unless it comes first. Indices are positions, or
have been read, so that their numerals are never too long to be written. -/
def chars (first : Bool) : Segment → List Char
  | .name s => if first then s.toList else '.' :: s.toList
  | .index n => '[' :: intDigits n ++ [']']
  | .each => ['[', '*', ']']

end Segment

/-- The steps from a root to a place below it. -/
abbrev Path := List Segment

namespace Path

/-- The characters of a path's written form. -/
def chars : Path → List Char
  | [] => []
  | s :: rest => s.chars true ++ rest.flatMap (Segment.chars false)

/-- The written form of a path. -/
def text (p : Path) : String :=
  String.ofList (chars p)

/-- The path less the indices at its end. -/
def dropIndices (p : Path) : Path :=
  (p.reverse.dropWhile fun s => !s.isName).reverse

/-- The path of the group that holds a field. For a field of an array's element this is the element, and
for an element without fields of its own the group that holds the array. -/
def enclosing (p : Path) : Path :=
  (dropIndices p).dropLast

/-- The path with every index forgotten. -/
def outline (p : Path) : Path :=
  p.map Segment.outline

/-- The path is the other one or leads to it. -/
def leadsTo (p q : Path) : Bool :=
  p.isPrefixOf q

@[simp] theorem outline_nil : outline [] = [] := rfl

@[simp] theorem outline_cons (s : Segment) (p : Path) : outline (s :: p) = s.outline :: outline p := rfl

@[simp] theorem outline_append (p q : Path) : outline (p ++ q) = outline p ++ outline q := by
  simp [outline]

@[simp] theorem length_outline (p : Path) : (outline p).length = p.length := by
  simp [outline]

theorem leadsTo_iff {p q : Path} : leadsTo p q = true ↔ p <+: q := by
  simp [leadsTo]

end Path

end FormCheck
