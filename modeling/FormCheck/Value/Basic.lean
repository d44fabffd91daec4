import FormCheck.Text.Blank
import FormCheck.Number.Binary64

/-!
# Values

* `Value` — what a form field can hold, and what a specification is written in: nothing at all, null, a
  truth value, a whole or a binary number, a text, a list, an object with its entries in order;
* `Value.isEmpty` — nothing, null, blank text, or a collection without members;
* `Value.isTruthy` — what counts as yes;
* `Value.entriesOf`, `Value.entry?` — an object's entries, and the one under a key.
-/

namespace FormCheck

open FormCheck.Text

/-- A value. `absent` stands where there is no value, not even null. -/
inductive Value where
  | absent
  | null
  | bool (b : Bool)
  | int (n : Int)
  | number (x : Binary64)
  | text (s : String)
  | list (items : List Value)
  | object (entries : List (String × Value))

instance : Inhabited Value := ⟨.absent⟩

/-- The entry of an ordered table under a key: the first one. -/
def entryOf? {α : Type} (entries : List (String × α)) (key : String) : Option α :=
  (entries.find? (·.1 == key)).map (·.2)

/-- Whether an ordered table has an entry under a key. -/
def hasEntry {α : Type} (entries : List (String × α)) (key : String) : Bool :=
  entries.any (·.1 == key)

/-- An ordered table with the entry under a key replaced where it stands, or added at the end. -/
def putEntry {α : Type} (entries : List (String × α)) (key : String) (value : α) :
    List (String × α) :=
  if hasEntry entries key then entries.map fun e => if e.1 == key then (key, value) else e
  else entries ++ [(key, value)]

namespace Value

/-- The entries of an object; other values have none. -/
def entriesOf : Value → List (String × Value)
  | .object entries => entries
  | _ => []

/-- An object's entry under a key; other values have none. -/
def entry? : Value → String → Option Value
  | .object entries, key => entryOf? entries key
  | _, _ => none

/-- An object. -/
def isObject : Value → Bool
  | .object _ => true
  | _ => false

/-- A list. -/
def isList : Value → Bool
  | .list _ => true
  | _ => false

/-- Nothing or null. -/
def isVoid : Value → Bool
  | .absent | .null => true
  | _ => false

/-- Nothing, null, blank text, or a collection without members. The truth value false and zero are
present values. -/
def isEmpty : Value → Bool
  | .absent | .null => true
  | .text s => allBlank s
  | .list items => items.isEmpty
  | .object entries => entries.isEmpty
  | .bool _ | .int _ | .number _ => false

/-- What counts as yes: anything but nothing, null, false, zero, and texts and collections without
content. -/
def isTruthy : Value → Bool
  | .absent | .null => false
  | .bool b => b
  | .int n => n != 0
  | .number x => !x.eqInt 0
  | .text s => s != ""
  | .list items => !items.isEmpty
  | .object entries => !entries.isEmpty

/-- The members of a list, and any other value as its own only member. -/
def members : Value → List Value
  | .list items => items
  | v => [v]

/-- The name of the sort of a value, as messages call it. -/
def sortName : Value → String
  | .absent => "_Missing"
  | .null => "NoneType"
  | .bool _ => "bool"
  | .int _ => "int"
  | .number _ => "float"
  | .text _ => "str"
  | .list _ => "list"
  | .object _ => "dict"

end Value

end FormCheck
