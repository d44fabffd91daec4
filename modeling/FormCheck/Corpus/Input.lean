import FormCheck.Fault
import FormCheck.Value.Basic

/-!
# Inputs of a corpus

* `undefinedMarker` — the text that stands for an entry that is not there;
* `Value.withoutUndefined` — a value without the entries that hold the marker; as a member of a list the marker
  is an ordinary text;
* `isSingleField`, `asForm`, `asData` — a specification of a single field is put into a form as the field
  `value`, and its input into data for that form.
-/

namespace FormCheck

/-- The text that stands for an entry that is not there. -/
def undefinedMarker : String := "__undefined__"

namespace Value

/-- The value is the marker. -/
def isUndefined : Value → Bool
  | .text s => s == undefinedMarker
  | _ => false

mutual

/-- The value without the entries that hold the marker. -/
def withoutUndefined : Value → Value
  | .object entries => .object (entriesWithoutUndefined entries)
  | .list items => .list (itemsWithoutUndefined items)
  | v => v

/-- Entries without those that hold the marker. -/
def entriesWithoutUndefined : List (String × Value) → List (String × Value)
  | [] => []
  | (key, v) :: rest =>
    if v.isUndefined then entriesWithoutUndefined rest
    else (key, v.withoutUndefined) :: entriesWithoutUndefined rest

/-- Members, each without the entries that hold the marker. -/
def itemsWithoutUndefined : List Value → List Value
  | [] => []
  | v :: rest => v.withoutUndefined :: itemsWithoutUndefined rest

end

end Value

namespace Corpus

/-- The name of the field that a single field becomes. -/
def fieldName : String := "value"

/-- The specification is one of a single field: it is no group that declares its fields. -/
def isSingleField (spec : List (String × Value)) : Bool :=
  let isGroup := match entryOf? spec "type" with
    | some (.text s) => s == "group"
    | _ => false
  !(isGroup && hasEntry spec "properties")

/-- The specification as one of a form. -/
def asForm (spec : List (String × Value)) : Value :=
  if isSingleField spec then
    .object [("type", .text "group"), ("properties", .object [(fieldName, .object spec)])]
  else .object spec

/-- An input as data for the form. -/
def asData (spec : List (String × Value)) (input : Value) : Value :=
  if !isSingleField spec then input.withoutUndefined
  else if input.isUndefined then .object []
  else .object [(fieldName, input.withoutUndefined)]

end Corpus

end FormCheck
