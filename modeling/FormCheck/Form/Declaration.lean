import FormCheck.Form.Field

/-!
# Declarations

* `Declaration` — a field as a specification declares it: its type, whether it is repeated, the fields and the
  element that it declares, and its details;
* `Declaration.ofValue` — the declaration that a specification document holds. What a document may hold
  besides does not count, and what has another sort than it should is read as if it were not there.
-/

namespace FormCheck

/-- What a field declares besides its type and the fields below it. -/
structure Details where
  rules : List (String × Value)
  condition : Option Value
  label : Texts
  messages : List (String × Texts)

/-- A field as a specification declares it. -/
inductive Declaration where
  | mk (type : String) (repeated : Bool) (details : Details)
      (children : Option (List (String × Declaration))) (item : Option Declaration)

/-- Texts by language: an object of them, or one text for every language. -/
def Texts.ofValue : Value → Texts
  | .text s => [(anyLanguage, s)]
  | .object entries => entries.map fun (language, v) =>
    match v with
    | .text s => (language, s)
    | _ => (language, "")
  | _ => []

/-- The details of a field. A `condition` comes before a `display_switch`. -/
def Details.ofEntries (entries : List (String × Value)) : Details where
  rules := ((entryOf? entries "rules").getD .null).entriesOf
  condition := (entryOf? entries "condition").orElse fun _ => entryOf? entries "display_switch"
  label := Texts.ofValue ((entryOf? entries "label").getD .null)
  messages := ((entryOf? entries "messages").getD .null).entriesOf.map fun (rule, v) =>
    (rule, Texts.ofValue v)

/-- The type that entries name. -/
def typeIn (entries : List (String × Value)) : String :=
  match entryOf? entries "type" with
  | some (.text s) => s
  | _ => ""

/-- Whether entries say that the field is repeated. -/
def isRepeatedIn (entries : List (String × Value)) : Bool :=
  match entryOf? entries "multiple" with
  | some (.bool b) => b
  | _ => false

namespace Declaration

mutual

/-- The declaration that a document holds. -/
def ofValue : Value → Declaration
  | .object entries =>
    let (children, item) := partsIn entries
    .mk (typeIn entries) (isRepeatedIn entries) (.ofEntries entries) children item
  | _ => .mk "" false (.ofEntries []) none none

/-- The fields and the element that entries declare. -/
def partsIn : List (String × Value) → Option (List (String × Declaration)) × Option Declaration
  | [] => (none, none)
  | (key, v) :: rest =>
    let (children, item) := partsIn rest
    if key = "properties" then (some (childrenOf v), item)
    else if key = "items" then (children, some (ofValue v))
    else (children, item)

/-- The named fields that an object declares. -/
def childrenOf : Value → List (String × Declaration)
  | .object entries => childrenIn entries
  | _ => []

/-- The named fields that the entries of an object declare. -/
def childrenIn : List (String × Value) → List (String × Declaration)
  | [] => []
  | (name, v) :: rest => (name, ofValue v) :: childrenIn rest

end

end Declaration

end FormCheck
