import FormCheck.Proofs.Form.Stripped

/-!
# Forms without their conditions

A document can be stripped of the conditions that its fields declare.  What is left describes the same form
without conditions: neither building nor linking looks at a condition for anything else.

* `Value.unconditioned` — a field's document without the conditions of the field and all below it; a field
  that happens to be named like the key of a condition stays;
* `Field.unconditioned` — a field without its condition and those of all below it;
* `strips_conditions` — **proved**: conditions can be dropped, from documents and from fields;
* `Form.ofDocument_unconditioned` — **proved**: if a document describes a form, then the stripped one describes
  the form without conditions.
-/

namespace FormCheck

open Fallible

/-! ### Documents -/

namespace Value

/-- A key under which a field declares its condition. -/
def isConditionKey (key : String) : Bool :=
  key == "condition" || key == "display_switch"

mutual

/-- A field's document without the conditions of the field and all below it. -/
def unconditioned : Value → Value
  | .object entries => .object (unconditionedEntries entries)
  | v => v

/-- The entries of a field's document without the conditions. -/
def unconditionedEntries : List (String × Value) → List (String × Value)
  | [] => []
  | (key, v) :: rest =>
    if isConditionKey key then unconditionedEntries rest
    else if key = "properties" then (key, unconditionedChildren v) :: unconditionedEntries rest
    else if key = "items" then (key, unconditioned v) :: unconditionedEntries rest
    else (key, v) :: unconditionedEntries rest

/-- An object of named fields without their conditions. -/
def unconditionedChildren : Value → Value
  | .object entries => .object (unconditionedChildEntries entries)
  | v => v

/-- The named fields of an object without their conditions. -/
def unconditionedChildEntries : List (String × Value) → List (String × Value)
  | [] => []
  | (name, v) :: rest => (name, unconditioned v) :: unconditionedChildEntries rest

end

theorem unconditionedChildEntries_eq_map (entries : List (String × Value)) :
    unconditionedChildEntries entries = entries.map fun e => (e.1, e.2.unconditioned) := by
  induction entries with
  | nil => rfl
  | cons e entries ih => rw [unconditionedChildEntries, ih, List.map_cons]

/-- What is left is the document without the entries under the keys of conditions. -/
theorem unconditioned_eq_stripped {v : Value} :
    v.unconditioned = v.stripped isConditionKey ∧
      v.unconditionedChildren = v.strippedChildren isConditionKey := by
  induction v using Value.induction_parts with
  | plain v hlist hobject =>
    cases v <;> first | exact ⟨rfl, rfl⟩ | cases hobject
  | list items _ => exact ⟨rfl, rfl⟩
  | object entries ih =>
    have hentries : unconditionedEntries entries = strippedEntries isConditionKey entries := by
      induction entries with
      | nil => rfl
      | cons e entries ihRest =>
        rw [List.forall_mem_cons] at ih
        rw [unconditionedEntries, strippedEntries, ihRest ih.2, ih.1.1, ih.1.2]
    have hchildren : unconditionedChildEntries entries = strippedChildEntries isConditionKey entries := by
      rw [unconditionedChildEntries_eq_map, strippedChildEntries_eq_map]
      exact List.map_congr_left fun e he => congrArg (Prod.mk e.1) (ih e he).1
    exact ⟨congrArg _ hentries, congrArg _ hchildren⟩

end Value

/-! ### Fields -/

/-- What a field has, less the condition. -/
def FieldInfo.unconditioned (info : FieldInfo) : FieldInfo :=
  { info with condition := none }

theorem FieldInfo.name_unconditioned (info : FieldInfo) : info.unconditioned.name = info.name := rfl

theorem FieldInfo.rules_unconditioned (info : FieldInfo) : info.unconditioned.rules = info.rules := rfl

namespace Field

mutual

/-- A field without its condition and those of all below it. -/
def unconditioned : Field → Field
  | .leaf info kind => .leaf info.unconditioned kind
  | .group info children => .group info.unconditioned (unconditionedAll children)
  | .array info item => .array info.unconditioned item.unconditioned

/-- Several fields without conditions. -/
def unconditionedAll : List Field → List Field
  | [] => []
  | field :: rest => field.unconditioned :: unconditionedAll rest

end

theorem unconditionedAll_eq_map (fields : List Field) :
    unconditionedAll fields = fields.map unconditioned := by
  induction fields with
  | nil => rfl
  | cons field fields ih => rw [unconditionedAll, ih, List.map_cons]

theorem unconditioned_group (info : FieldInfo) (children : List Field) :
    (Field.group info children).unconditioned = .group info.unconditioned (children.map unconditioned) := by
  rw [unconditioned, unconditionedAll_eq_map]

@[simp] theorem unconditioned_info (field : Field) : field.unconditioned.info = field.info.unconditioned := by
  cases field <;> rfl

@[simp] theorem unconditioned_name (field : Field) : field.unconditioned.name = field.name := by
  cases field <;> rfl

/-- Only what the fields have is stripped. -/
theorem unconditioned_eq_mapInfo (field : Field) : field.unconditioned = field.mapInfo FieldInfo.unconditioned := by
  induction field using Field.induction_parts with
  | leaf info kind => rfl
  | group info children ih =>
    rw [unconditioned_group, mapInfo_group]
    exact congrArg _ (List.map_congr_left ih)
  | array info item ih => exact congrArg _ ih

theorem step?_unconditioned (field : Field) (s : Segment) :
    field.unconditioned.step? s = (field.step? s).map unconditioned := by
  rw [unconditioned_eq_mapInfo, step?_mapInfo FieldInfo.name_unconditioned, funext unconditioned_eq_mapInfo]

theorem Placed.unconditioned {place : Path} {field : Field} (h : field.Placed place) :
    field.unconditioned.Placed place := by
  induction h with
  | leaf hplace => exact .leaf hplace
  | group hplace hnames _ ih =>
    rw [unconditioned_group]
    refine .group hplace ?_ fun c hc => ?_
    · rw [List.map_map]
      exact (List.map_congr_left fun c _ => unconditioned_name c) ▸ hnames
    · obtain ⟨d, hd, rfl⟩ := List.mem_map.mp hc
      rw [unconditioned_name]
      exact ih d hd
  | array hplace _ ih => exact .array hplace ih

end Field

/-! ### Forms -/

/-- **Conditions can be dropped**, from the documents of fields and from what the fields have. -/
theorem strips_conditions :
    Strips Value.isConditionKey (fun details => { details with condition := none }) FieldInfo.unconditioned where
  keeps := by decide
  ofEntries entries := by
    have hdetail : ∀ key, Value.isConditionKey key = false → key ≠ "properties" → key ≠ "items" →
        entryOf? (Value.strippedEntries Value.isConditionKey entries) key = entryOf? entries key :=
      fun key => Value.entryOf?_stripped_detail entries
    rw [Details.ofEntries, hdetail "rules" (by decide) (by decide) (by decide),
      hdetail "label" (by decide) (by decide) (by decide),
      hdetail "messages" (by decide) (by decide) (by decide),
      Value.entryOf?_stripped_of_drops entries (by decide),
      Value.entryOf?_stripped_of_drops entries (by decide)]
    rfl
  forElements _ := rfl
  build h := by
    obtain ⟨rules, condition, hrules, _, rfl⟩ := Details.build_eq_ok_iff.mp h
    exact Details.build_eq_ok_iff.mpr ⟨rules, none, hrules, rfl, rfl⟩
  name := FieldInfo.name_unconditioned
  link {registry root info linked} h := by
    obtain ⟨condition, rules, _, hrules, rfl⟩ := FieldInfo.link_iff.mp h
    refine FieldInfo.link_iff.mpr ⟨none, rules, rfl, ?_, rfl⟩
    show info.rules.mapM (·.link registry (root.mapInfo FieldInfo.unconditioned) info.place) = .ok rules
    simp only [DeclaredRule.link_mapInfo FieldInfo.name_unconditioned]
    exact hrules

/-- A form without conditions. -/
def Form.unconditioned (form : Form) : Form :=
  ⟨form.root.unconditioned⟩

/-- **A stripped document describes the form without conditions.** -/
theorem Form.ofDocument_unconditioned {registry : Registry} {document : Value} {form : Form}
    (h : Form.ofDocument registry document = .ok form) :
    Form.ofDocument registry document.unconditioned = .ok form.unconditioned := by
  rw [Value.unconditioned_eq_stripped.1, unconditioned, Field.unconditioned_eq_mapInfo]
  exact ofDocument_stripped strips_conditions h

end FormCheck
