import FormCheck.Form.Kind
import FormCheck.Rule.Argument

/-!
# Fields

* `DeclaredRule` — a rule as it is declared on a field;
* `Field` — a field of a form: one for a single value, a group of named fields, or an array with a field
  that stands for each of its elements;
* `Field.at?` — the field at a place below another one;
* `Field.preorder`, `Field.size` — a field and all below it, in the order of declaration, and their number.
-/

namespace FormCheck

/-- The key of the label or message that serves every language. -/
def anyLanguage : String := "*"

/-- Texts by language. -/
abbrev Texts := List (String × String)

/-- A rule as it is declared on a field. -/
structure DeclaredRule where
  name : String
  /-- The argument as it is written. -/
  declared : Value
  prepared : Argument
  /-- The places that the references in the argument stand for. -/
  references : List (String × Path)

/-- What a field of any kind has. -/
structure FieldInfo where
  /-- The field's name: none for the root, and the array's name for its elements. -/
  name : String
  /-- Where the field stands, with open indices below arrays. -/
  place : Path
  rules : List DeclaredRule
  /-- When the field takes part; it always does without a condition. -/
  condition : Option Condition
  /-- The name to show, by language. -/
  label : Texts
  /-- Messages for single rules, by language. -/
  messages : List (String × Texts)

/-- A field of a form. -/
inductive Field where
  /-- A field for a single value. -/
  | leaf (info : FieldInfo) (kind : LeafKind)
  /-- A group of fields, in the order of declaration. -/
  | group (info : FieldInfo) (children : List Field)
  /-- An array, with the field that stands for each element. -/
  | array (info : FieldInfo) (item : Field)

/-- The first text among those of some languages, in order. -/
def Texts.first? (texts : Texts) (languages : List (Option String)) : Option String :=
  languages.findSome? fun language => language.bind (entryOf? texts)

namespace FieldInfo

/-- The rule of a name that is declared on the field. -/
def rule? (info : FieldInfo) (name : String) : Option DeclaredRule :=
  info.rules.find? (·.name == name)

/-- The name to show in a language: the label in it, in the default language, or for every language;
otherwise any label, and without one the field's name. -/
def labelFor (info : FieldInfo) (language default : Option String) : String :=
  match info.label.first? [language, default, some anyLanguage] with
  | some text => text
  | none => match info.label with
    | (_, text) :: _ => text
    | [] => info.name

/-- The field's own message for a rule: the one in the language, in the default language, or for every
language. -/
def messageFor (info : FieldInfo) (rule : String) (language default : Option String) : Option String :=
  (entryOf? info.messages rule).bind fun texts =>
    Texts.first? texts [language, default, some anyLanguage]

end FieldInfo

namespace Field

/-- What a field of any kind has. -/
def info : Field → FieldInfo
  | .leaf info _ => info
  | .group info _ => info
  | .array info _ => info

/-- The kind of a field. -/
def kind : Field → Kind
  | .leaf _ kind => .leaf kind
  | .group _ _ => .group
  | .array _ _ => .array

/-- The name of a field. -/
def name (field : Field) : String :=
  field.info.name

/-- Where a field stands. -/
def place (field : Field) : Path :=
  field.info.place

/-- The fields right below a field. -/
def parts : Field → List Field
  | .leaf _ _ => []
  | .group _ children => children
  | .array _ item => [item]

/-- The field of a name in a group. -/
def child? : Field → String → Option Field
  | .group _ children, name => children.find? (·.name == name)
  | _, _ => none

/-- The field that stands for the elements of an array. -/
def item? : Field → Option Field
  | .array _ item => some item
  | _ => none

/-- The field one step below. -/
def step? (field : Field) : Segment → Option Field
  | .name s => field.child? s
  | .index _ | .each => field.item?

/-- The field at a place below a field. -/
def at? : Field → Path → Option Field
  | field, [] => some field
  | field, s :: rest => (field.step? s).bind (·.at? rest)

mutual

/-- The number of a field and all below it. -/
def size : Field → Nat
  | .leaf _ _ => 1
  | .group _ children => sizeOfAll children + 1
  | .array _ item => item.size + 1

/-- The number of several fields and all below them. -/
def sizeOfAll : List Field → Nat
  | [] => 0
  | field :: rest => field.size + sizeOfAll rest

end

mutual

/-- A field and all below it, each before those below it, in the order of declaration. -/
def preorder : Field → List Field
  | .leaf info kind => [.leaf info kind]
  | .group info children => .group info children :: preorderOfAll children
  | .array info item => .array info item :: item.preorder

/-- Several fields and all below them. -/
def preorderOfAll : List Field → List Field
  | [] => []
  | field :: rest => field.preorder ++ preorderOfAll rest

end

@[simp] theorem at?_nil (field : Field) : field.at? [] = some field := rfl

theorem at?_cons (field : Field) (s : Segment) (rest : Path) :
    field.at? (s :: rest) = (field.step? s).bind (·.at? rest) := rfl

theorem at?_append (field : Field) (p q : Path) :
    field.at? (p ++ q) = (field.at? p).bind (·.at? q) := by
  induction p generalizing field with
  | nil => rfl
  | cons s p ih =>
    rw [List.cons_append, at?_cons, at?_cons]
    cases field.step? s with
    | none => rfl
    | some next => exact ih next

end Field

end FormCheck
