import FormCheck.Form.Field
import FormCheck.Path.Binding

/-!
# References between fields

* `ReferenceProblem` — why a reference cannot be used, with its wording;
* `Field.resolve` — the place that a reference stands for: it starts at the root, or at a group around the
  referring field, and array levels that it leaves out are filled in as open indices;
* `Field.rulePlace` — the same for a reference in a rule, which has to be fillable from the referring
  field;
* `Field.conditionPlace` — the same for a reference in a condition, which in addition has to lie in the
  referring field's own group or one around it, apart from the field itself.
-/

namespace FormCheck

/-- Why a reference cannot be used. -/
inductive ReferenceProblem where
  /-- The reference cannot be read. -/
  | unreadable (e : NotationError)
  | aboveRoot
  /-- There is no field of the name under the place. -/
  | noField (name : String) (place : Path)
  /-- The place has no elements. -/
  | noArray (place : Path)
  /-- The place lies in an element of an array that the referring field is not part of. -/
  | otherElement (place : Path)
  | ownField
  | enclosingGroup
  | containedField
  /-- The place lies in a group beside the referring field. -/
  | belowLevel (place : Path)
deriving DecidableEq, Repr

/-- The wording of a problem. -/
def ReferenceProblem.message : ReferenceProblem → String
  | .unreadable e => e.message
  | .aboveRoot => "climbs above the root group"
  | .noField name place =>
    let shown := if place.text = "" then "<root>" else place.text
    "no field '" ++ name ++ "' under '" ++ shown ++ "'"
  | .noArray place => "'" ++ place.text ++ "' is not an array"
  | .otherElement place =>
    "'" ++ place.text ++ "' is inside an array element this field is not part of"
  | .ownField => "a condition cannot reference its own field"
  | .enclosingGroup => "a condition cannot reference an enclosing group"
  | .containedField => "a condition cannot reference a field it contains"
  | .belowLevel place => "'" ++ place.text ++ "' is below this field's group level"

/-- The place of the group that is so many groups above another one; there is none above the root. -/
def Path.climb : Nat → Path → Option Path
  | 0, place => some place
  | n + 1, place => if place.dropIndices.isEmpty then none else climb n place.enclosing

/-- Where a reference on the field at `base` starts. -/
def Reference.start? (reference : Reference) (base : Path) : Option Path :=
  match reference.levelsUp with
  | none => some []
  | some n => base.enclosing.climb n

namespace Field

/-- The place that steps lead to from a field at `place`. Before a name on an array an open index is
filled in. -/
def descend (field : Field) (place : Path) : Path → Except ReferenceProblem Path
  | [] => .ok place
  | .name s :: rest =>
    let (holder, place) : Field × Path := match field with
      | .array _ item => (item, place ++ [.each])
      | field => (field, place)
    match holder.child? s with
    | some child => child.descend (place ++ [.name s]) rest
    | none => .error (.noField s place)
  | s :: rest =>
    match field with
    | .array _ item => item.descend (place ++ [s]) rest
    | _ => .error (.noArray place)

/-- The place that a reference on the field at `base` stands for, in the form with the given root. -/
def resolveReference (root : Field) (reference : Reference) (base : Path) :
    Except (Failure ReferenceProblem) Path :=
  match reference.start? base with
  | none => .error (.refused .aboveRoot)
  | some start =>
    match root.at? start with
    | none => .error (.fault .missingPart)
    | some field => (field.descend start reference.segments).mapError .refused

/-- The place that a written reference on the field at `base` stands for. -/
def resolve (root : Field) (expression : String) (base : Path) :
    Except (Failure ReferenceProblem) Path :=
  match Reference.ofText expression with
  | .ok reference => root.resolveReference reference base
  | .error e => .error (.refused (.unreadable e))

/-- The place of a reference in a rule. Its open indices can be filled from the referring field. -/
def rulePlace (root : Field) (base : Path) (expression : String) :
    Except (Failure ReferenceProblem) Path := do
  let place ← root.resolve expression base
  if place.canFill base then return place
  else .error (.refused (.otherElement place))

/-- What keeps a condition on the field at `base` from referring to a place. -/
def conditionProblem? (base place : Path) : Option ReferenceProblem :=
  let field := base.outline
  let target := place.outline
  if target = field then some .ownField
  else if target.leadsTo field then some .enclosingGroup
  else if field.leadsTo target then some .containedField
  else if !place.enclosing.outline.leadsTo base.enclosing.outline then some (.belowLevel place)
  else none

/-- The place of a reference in a condition. -/
def conditionPlace (root : Field) (base : Path) (expression : String) :
    Except (Failure ReferenceProblem) Path := do
  let place ← root.rulePlace base expression
  match conditionProblem? base place with
  | some problem => .error (.refused problem)
  | none => return place

end Field

end FormCheck
