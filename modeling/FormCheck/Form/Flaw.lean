import FormCheck.Text.Cut
import FormCheck.Value.Literal
import FormCheck.Path.Basic

/-!
# Flaws of specification documents

* `Flaw` — a location in a document where something has the wrong sort or is missing, with its wording;
* `Flaw.all` — the flaws of a document;
* `Flaw.gravest?` — the one that is reported: of those nearest to the root the last one in the order of
  locations;
* `placeOf` — the place of the field that a location lies in.
-/

namespace FormCheck

open FormCheck.Text

/-- What is wrong at a location. -/
inductive FlawProblem where
  /-- The value is of none of the sorts that are allowed. -/
  | wrongSort (v : Value) (sorts : List String)
  /-- The field has no type. -/
  | noType
  /-- The value is neither a text nor an object of texts. -/
  | noTexts (v : Value)

/-- The wording of what is wrong. It shows the value, if this can be shown. -/
def FlawProblem.message : FlawProblem → Except Fault String
  | .wrongSort v sorts => do
    return (← v.literal) ++ " is not of type " ++ joinWith ", " (sorts.map fun sort => "'" ++ sort ++ "'")
  | .noType => .ok "'type' is a required property"
  | .noTexts v => do return (← v.literal) ++ " is not valid under any of the given schemas"

/-- The keys that lead from the root of a document to a part of it. -/
abbrev Location := List String

/-- Something wrong at a location of a document. -/
structure Flaw where
  location : Location
  problem : FlawProblem

/-- The place of the field that a location lies in: of the last field that it passes. -/
def placeOf : Location → Path
  | "properties" :: name :: rest => .name name :: placeOf rest
  | "items" :: rest => .each :: placeOf rest
  | _ => []

namespace Flaw

/-- A value that has to be an object. -/
def unlessObject (location : Location) (v : Value) : List Flaw :=
  match v with
  | .object _ => []
  | v => [⟨location, .wrongSort v ["object"]⟩]

/-- A value that has to be an object or a text. -/
def unlessCondition (location : Location) (v : Value) : List Flaw :=
  match v with
  | .object _ | .text _ => []
  | v => [⟨location, .wrongSort v ["object", "string"]⟩]

/-- A text. -/
def isText : Value → Bool
  | .text _ => true
  | _ => false

/-- A text, or an object of texts. -/
def areTexts : Value → Bool
  | .text _ => true
  | .object entries => entries.all fun e => isText e.2
  | _ => false

/-- A value that has to be a text or an object of texts. -/
def unlessTexts (location : Location) (v : Value) : List Flaw :=
  if areTexts v then [] else [⟨location, .noTexts v⟩]

/-- A value that has to be an object of such texts. -/
def unlessMessages (location : Location) (v : Value) : List Flaw :=
  match v with
  | .object entries => entries.flatMap fun e => unlessTexts (location ++ [e.1]) e.2
  | v => [⟨location, .wrongSort v ["object"]⟩]

/-- The flaw of a detail of a field. -/
def ofDetail (location : Location) (key : String) (v : Value) : List Flaw :=
  match key with
  | "type" => if isText v then [] else [⟨location, .wrongSort v ["string"]⟩]
  | "rules" => unlessObject location v
  | "condition" | "display_switch" => unlessCondition location v
  | "label" => unlessTexts location v
  | "messages" => unlessMessages location v
  | "multiple" => match v with
    | .bool _ => []
    | v => [⟨location, .wrongSort v ["boolean"]⟩]
  | _ => []

mutual

/-- The flaws of a field's document at a location. -/
def ofField (location : Location) : Value → List Flaw
  | .object entries =>
    (if hasEntry entries "type" then [] else [⟨location, .noType⟩]) ++ ofEntries location entries
  | v => [⟨location, .wrongSort v ["object"]⟩]

/-- The flaws of the entries of a field's document. -/
def ofEntries (location : Location) : List (String × Value) → List Flaw
  | [] => []
  | (key, v) :: rest =>
    (if key = "properties" then ofChildren (location ++ [key]) v
     else if key = "items" then ofField (location ++ [key]) v
     else ofDetail (location ++ [key]) key v) ++ ofEntries location rest

/-- The flaws of an object of named fields. -/
def ofChildren (location : Location) : Value → List Flaw
  | .object entries => ofChildEntries location entries
  | v => [⟨location, .wrongSort v ["object"]⟩]

/-- The flaws of the entries of an object of named fields. -/
def ofChildEntries (location : Location) : List (String × Value) → List Flaw
  | [] => []
  | (name, v) :: rest => ofField (location ++ [name]) v ++ ofChildEntries location rest

end

/-- The flaws of a document. -/
def all (document : Value) : List Flaw :=
  ofField [] document

/-! ### The flaw that is reported -/

/-- The one flaw is reported rather than the other: it is nearer to the root, or as near and later. -/
def isGraver (a b : Flaw) : Bool :=
  a.location.length < b.location.length
    || (a.location.length == b.location.length && decide (b.location < a.location))

/-- Among objects of texts that fail, what is wrong is the entry that is no text, the first one in the
order of the keys. -/
def explained (flaw : Flaw) : Flaw :=
  match flaw.problem with
  | .noTexts (.object entries) =>
    let wrong := entries.filter fun e => !isText e.2
    match wrong.mergeSort fun a b => decide (a.1 ≤ b.1) with
    | (key, v) :: _ => ⟨flaw.location ++ [key], .wrongSort v ["string"]⟩
    | [] => flaw
  | _ => flaw

/-- The flaw that is reported. -/
def gravest? : List Flaw → Option Flaw
  | [] => none
  | first :: rest =>
    some (explained (rest.foldl (fun best flaw => if flaw.isGraver best then flaw else best) first))

end Flaw

end FormCheck
