import FormCheck.Form.Build

/-!
# Forms

* `Form` — a form that a specification describes: its root is a group;
* `Form.ofDocument` — the form that a document describes, under a registry of rules;
* `Form.walk` — its fields in the order of declaration, by a list of those still to come;
* `Form.fieldAt?` — the field that governs a place in the data.
-/

namespace FormCheck

/-- A form. -/
structure Form where
  root : Field

namespace Form

/-- The declaration that a document holds, if the document has no flaws. All flaws are put into words before the
gravest one is told. -/
def readDocument (document : Value) : Building Declaration :=
  match document with
  | .object _ => do
    let flaws := Flaw.all document
    let _ ← (flaws.mapM fun (flaw : Flaw) => flaw.problem.message).mapError .fault
    match Flaw.gravest? flaws with
    | some flaw => .refuse (placeOf flaw.location) (.malformed flaw.problem)
    | none => .ok (.ofValue document)
  | _ => .refuse [] (.noObject document.sortName)

/-- The form that a document describes. Its root has to be a group. -/
def ofDocument (registry : Registry) (document : Value) : Building Form := do
  let declaration ← readDocument document
  if declaration.type != Kind.group.key || declaration.isRepeated then .refuse [] .rootNoGroup
  else do
    let draft ← declaration.build registry "" []
    return ⟨← Field.link registry draft draft⟩

/-- The number of fields, the root included. -/
def size (form : Form) : Nat :=
  form.root.size

theorem sizeOfAll_append (fs gs : List Field) :
    Field.sizeOfAll (fs ++ gs) = Field.sizeOfAll fs + Field.sizeOfAll gs := by
  induction fs with
  | nil => simp [Field.sizeOfAll]
  | cons f fs ih => simp only [List.cons_append, Field.sizeOfAll, ih]; omega

theorem sizeOfAll_parts (field : Field) : Field.sizeOfAll field.parts + 1 = field.size := by
  cases field <;> simp [Field.parts, Field.size, Field.sizeOfAll]

/-- The fields still to come, each followed by those below it. -/
def walkFrom : List Field → List Field
  | [] => []
  | field :: rest => field :: walkFrom (field.parts ++ rest)
termination_by pending => Field.sizeOfAll pending
decreasing_by
  have := sizeOfAll_parts field
  simp only [sizeOfAll_append, Field.sizeOfAll]
  omega

/-- The fields of a form: each before those below it, in the order of declaration. -/
def walk (form : Form) : List Field :=
  walkFrom [form.root]

/-- The field that governs a place in the data. -/
def fieldAt? (form : Form) (place : Path) : Option Field :=
  form.root.at? place.outline

end Form

end FormCheck
