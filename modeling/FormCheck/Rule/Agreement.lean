import FormCheck.Moment.Reader
import FormCheck.Rule.Basic

/-!
# Rules about agreement with other values

* `sameAs` — the same text as another field;
* `differs` — another text than the argument, or than the field that it refers to;
* `amongst` — one of several options;
* `distinct` — no text twice in a list;
* `notBefore` — a moment that does not lie before the one in another field.
-/

namespace FormCheck.Check

/-- The value has the same text as the referenced one. -/
def sameAs : Check := fun v a context => do
  let text ← v.toText
  let reference ← a.reference
  return .ofBool (text == (← (context.lookup reference).toText))

/-- The value has another text than the argument; a text with a leading point refers to another field. -/
def differs : Check := fun v a context => do
  let text ← v.toText
  let other ← match a with
    | .value (.text s) =>
      if Text.startsWith s.toList ['.'] then (context.lookup s).toText.map some else .ok (some s)
    | a => a.toText?
  return .ofBool (other != some text)

/-- The value, or each member of a list, has the text of an option. -/
def amongst : Check := fun v a _ => do
  let options ← (← a.members).mapM Value.toText
  return .ofBool (← v.members.allM fun member => do return options.contains (← member.toText))

/-- No value has the text of an earlier one, or one of those that have been met before. The values are looked
at in order, up to the first that has. -/
def allNew (met : List String) : List Value → Except Fault Bool
  | [] => .ok true
  | v :: rest => do
    let text ← v.toText
    if met.contains text then return false else allNew (text :: met) rest

/-- No two members of a list have the same text. -/
def distinct : Check := fun v a _ =>
  match v with
  | .list items => if a.isTruthy then do return .ofBool (← allNew [] items) else .ok .pass
  | _ => .ok .pass

/-- The value is a moment that does not lie before the referenced one; where one of the two is no moment
there is nothing to compare. -/
def notBefore : Check := fun v a context => do
  match ← Moment.ofText? (← v.toText) with
  | none => return .pass
  | some finish =>
    let reference ← a.reference
    let other := context.lookup reference
    if other.isEmpty then return .pass
    match ← Moment.ofText? (← other.toText) with
    | none => return .pass
    | some start => return .ofBool (← finish.atLeast start)

end FormCheck.Check
