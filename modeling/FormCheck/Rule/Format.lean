import FormCheck.Address.Mailbox
import FormCheck.Address.Web
import FormCheck.Moment.Reader
import FormCheck.Rule.Basic

/-!
# Rules about the form of a value

* `mailbox`, `webAddress`, `date`, `isoDate` — the value's text is of a kind, where the argument says yes;
* `numeric`, `digits` — the value is a number, or digits only, unless the argument is false;
* `pattern` — a regular expression matches the value's text from end to end;
* `fileType` — names or types of files are among the accepted ones.
-/

namespace FormCheck.Check

open FormCheck.Text

/-- The value's text is a mail address. -/
def mailbox : Check := fun v a _ =>
  if a.isTruthy then do return .ofBool (Address.isMailbox (← v.toText).toList)
  else .ok .pass

/-- The value's text is a web address. A value without a text is none. -/
def webAddress : Check := fun v a _ =>
  if a.isTruthy then
    match v.toText with
    | .ok s => .ok (.ofBool (Address.isWebAddress s))
    | .error _ => .ok (.ofBool false)
  else .ok .pass

/-- The value's text reads as a moment. -/
def date : Check := fun v a _ =>
  if a.isTruthy then do return .ofBool (← Moment.ofText? (← v.toText)).isSome
  else .ok .pass

/-- The value's text is a day of the calendar in the form `YYYY-MM-DD`. -/
def isoDate : Check := fun v a _ =>
  if a.isTruthy then do return .ofBool (Moment.isIsoDate (← v.toText).toList)
  else .ok .pass

/-- The value reads as a number. -/
def numeric : Check := fun v a _ =>
  if a.isFalse then .ok .pass else do return .ofBool (← v.number?).isSome

/-- The value's text consists of digits of ASCII, at least one. -/
def digits : Check := fun v a _ =>
  if a.isFalse then .ok .pass
  else do
    let cs := (← v.toText).toList
    return .ofBool (!cs.isEmpty && cs.all Char.isDigit)

/-- The pattern matches the value's text from end to end. -/
def pattern : Check := fun v a _ =>
  match a with
  | .pattern p => do return .ofBool (← p.matchesWhole (← v.toText))
  | _ => .error .missingPart

/-! ### Files -/

/-- A type is accepted by a pattern: it is the same, or the pattern leaves the part after the slash, or
all of it, open. -/
def acceptsType (type : List Char) (pattern : Value) : Except Fault Bool :=
  match pattern with
  | .text s =>
    let cs := s.toList
    .ok (cs = ['*', '/', '*'] || cs = type
      || (endsWith cs ['/', '*'] && startsWith type cs.dropLast))
  | _ => .error .missingPart

/-- An ending is accepted by a pattern that is a point and the same ending. -/
def acceptsEnding (ending : List Char) (pattern : Value) : Except Fault Bool :=
  match pattern with
  | .text s => .ok (s.toList = '.' :: ending)
  | _ => .error .missingPart

/-- A name or type of a file is accepted. What has a slash is a type, and what has a point but no slash a
name with an ending. -/
def acceptsFile (accepted : Argument) (name : String) : Except Fault Bool :=
  let cs := (lowerText (trim name)).toList
  if cs.contains '/' then do
    (← accepted.members).anyM (acceptsType cs)
  else match cutLast '.' cs with
    | some (_, ending) => do (← accepted.members).anyM (acceptsEnding ending)
    | none => .ok false

/-- Each name or type of a file is among the accepted ones. -/
def fileType : Check := fun v a _ => do
  return .ofBool (← v.members.allM fun member => do acceptsFile a (← member.toText))

end FormCheck.Check
