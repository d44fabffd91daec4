import FormCheck.Form.Basic

/-!
# Reports

* `Finding` — a rule that failed on a value, with what a message about it may mention;
* `Report` — what an evaluation says about one field at one place in the data;
* `Field.fits` — whether a value is one that a field can hold.
-/

namespace FormCheck

/-- A rule that failed. -/
structure Finding where
  rule : String
  path : Path
  /-- The key under which messages are looked up. -/
  key : String
  /-- The rule's own message. -/
  message : String
  /-- The rule's argument as it is written. -/
  declared : Value
  /-- What the rule has to say beyond its argument. -/
  params : List (String × Value)
  /-- The value that the rule looked at. -/
  value : Value

/-- What an evaluation says about one field at one place. -/
structure Report where
  path : Path
  field : Field
  /-- The data holds a value there that the field can hold. -/
  present : Bool
  /-- The field, or one around it, does not take part. -/
  skipped : Bool
  findings : List Finding

namespace Field

/-- Whether a value is one that the field can hold: an object for a group, a list for an array, and for other
fields anything but objects. -/
def fits (field : Field) (v : Value) : Bool :=
  match field with
  | .group _ _ => v.isObject
  | .array _ _ => v.isList
  | .leaf _ _ => match v with
    | .absent | .object _ => false
    | _ => true

/-- The value that the rules of a field look at: null where the data holds none that fits. -/
def seen (field : Field) (v : Value) : Value :=
  if field.fits v then v else .null

end Field

end FormCheck
