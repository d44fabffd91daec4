import FormCheck.Value.Basic

/-!
# Kinds of fields

* `Kind` — a group of named fields, an array of elements, or one of the kinds of fields that hold a single
  value;
* `Kind.key`, `Kind.ofKey?` — the word for a kind in a specification;
* `Target` — what a rule may be declared on: single fields, groups, arrays.
-/

namespace FormCheck

/-- The kinds of fields that hold a single value. -/
inductive LeafKind where
  | text
  | textarea
  | password
  | hidden
  | number
  | email
  | url
  | date
  | datetime
  | time
  | boolean
  | checkbox
  | select
  | choice
  | multichoice
  | file
  | image
  | richText
deriving DecidableEq, Repr

/-- The kind of a field. -/
inductive Kind where
  | group
  | array
  | leaf (kind : LeafKind)
deriving DecidableEq, Repr

/-- What a rule may be declared on. -/
inductive Target where
  | scalar
  | group
  | array
deriving DecidableEq, Repr

/-- The word for a kind of single values. -/
def LeafKind.key : LeafKind → String
  | .text => "text"
  | .textarea => "textarea"
  | .password => "password"
  | .hidden => "hidden"
  | .number => "number"
  | .email => "email"
  | .url => "url"
  | .date => "date"
  | .datetime => "datetime"
  | .time => "time"
  | .boolean => "boolean"
  | .checkbox => "checkbox"
  | .select => "select"
  | .choice => "choice"
  | .multichoice => "multichoice"
  | .file => "file"
  | .image => "image"
  | .richText => "rich-text"

/-- All kinds of single values. -/
def LeafKind.all : List LeafKind :=
  [.text, .textarea, .password, .hidden, .number, .email, .url, .date, .datetime, .time, .boolean,
   .checkbox, .select, .choice, .multichoice, .file, .image, .richText]

namespace Kind

/-- The word for a kind. -/
def key : Kind → String
  | .group => "group"
  | .array => "array"
  | .leaf kind => kind.key

/-- All kinds. -/
def all : List Kind :=
  .group :: .array :: LeafKind.all.map .leaf

/-- The kind that a word stands for. -/
def ofKey? (key : String) : Option Kind :=
  all.find? (·.key == key)

theorem ofKey?_key (kind : Kind) : ofKey? kind.key = some kind := by
  rcases kind with _ | _ | kind
  · rfl
  · rfl
  · cases kind <;> rfl

/-- What a rule on a field of the kind is declared on. -/
def target : Kind → Target
  | .group => .group
  | .array => .array
  | .leaf _ => .scalar

end Kind

/-- The word for a target. -/
def Target.key : Target → String
  | .scalar => "scalar"
  | .group => "group"
  | .array => "array"

/-- All targets. -/
def Target.all : List Target := [.scalar, .group, .array]

end FormCheck
