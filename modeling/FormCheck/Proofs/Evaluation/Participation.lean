import FormCheck.Proofs.Evaluation.Locality
import FormCheck.Proofs.Form.Scope
import FormCheck.Proofs.Value.Change

/-!
# Whether a field takes part is no matter of its own value

A condition refers to places in scope only, and these are apart from the field that has it.  So the condition sees
nothing of the value of the field, whatever becomes of it; and where the field is an element of an array, it sees
nothing of the array, whose elements move when one of them comes or goes.

* `Form.participation_ignores_own_value` — **proved**: all targets of the conditions in a form are in scope, and a
  condition says the same after the value of its field has been replaced, added or deleted.
-/

namespace FormCheck

open Fallible Value

namespace Form

variable {registry : Registry} {document : Value} {form : Form}

/-- **Whether a field takes part is no matter of its own value.**  Each comparison in a condition has a target in
scope; and over any data, the condition of the field at a place says the same after the value there has been replaced,
added or deleted. -/
theorem participation_ignores_own_value (hkeys : document.keysOnce = true)
    (hform : Form.ofDocument registry document = .ok form) :
    (∀ f ∈ form.root.preorder, ∀ condition, f.info.condition = some condition →
      ∀ c ∈ condition.comparisons, ∃ target, c.target = some target ∧ target.InScope f.place) ∧
    ∀ (s : Setting) (place : Path) (field : Field) (changed : Value), form.fieldAt? place = some field →
      Changed place s.data changed →
      (s.withData changed).takesPart place field.info.condition = s.takesPart place field.info.condition := by
  refine ⟨fun f hf condition hcondition c hc => inScope_of_mem hkeys hform hf hcondition hc, ?_⟩
  intro s place field changed hfield hchanged
  have hat : form.root.at? place = some field := fieldAt?_eq_at? form place ▸ hfield
  refine Setting.takesPart_withData fun condition hcondition c hc => ?_
  obtain ⟨target, htarget, hapart⟩ := exists_apart_target hkeys hform hat hcondition hc
  have hread : s.data.readAt target place = changed.readAt target place :=
    Value.readAt_congr fun found hfound => hchanged.follow_eq (hapart found (Path.outline_of_fill hfound))
  exact ⟨target, htarget, by rw [hread]⟩

/-- A form for phone numbers, which take part if they are private ones. -/
def phoneList : Value :=
  .object [("type", .text "group"), ("properties", .object [
    ("kind", .object [("type", .text "text")]),
    ("phones", .object [("type", .text "array"), ("items",
      .object [("type", .text "text"), ("condition", .text "kind == private")])])])]

/-- An evaluation of private phone numbers. -/
def privatePhones (phones : List Value) : Setting :=
  ⟨Registry.standard, true, .object [("kind", .text "private"), ("phones", .list phones)], none⟩

/-- The place of the first phone number. -/
def firstPhone : Path :=
  [.name "phones", .index 0]

/-- With the first of two phone numbers deleted there is still a first one, and it takes part as before. -/
theorem participation_ignores_own_value_of_phones : ∃ form field,
    Form.ofDocument Registry.standard phoneList = .ok form ∧ form.fieldAt? firstPhone = some field ∧
    (privatePhones [.text "1", .text "2"]).takesPart firstPhone field.info.condition = .ok true ∧
    ((privatePhones [.text "1", .text "2"]).withData (privatePhones [.text "2"]).data).takesPart firstPhone
      field.info.condition = .ok true := by
  have hrun : ((Form.ofDocument Registry.standard phoneList).toOption.bind fun form =>
      (form.fieldAt? firstPhone).bind fun field =>
        ((privatePhones [.text "1", .text "2"]).takesPart firstPhone field.info.condition).toOption.bind some) =
      some true := by
    decide +kernel
  obtain ⟨form, hform, hrun⟩ := exists_eq_ok_of_bind hrun
  obtain ⟨field, hfield, hrun⟩ := Option.bind_eq_some_iff.mp hrun
  obtain ⟨part, hpart, hrun⟩ := exists_eq_ok_of_bind hrun
  obtain rfl : part = true := Option.some.inj hrun
  have hkind : ∀ e ∈ [("kind", Value.text "private")], e.1 ≠ "phones" := by decide
  have hdeleted : Edit (fun v w => Adds [.index 0] w v) [.name "phones"]
      (privatePhones [.text "1", .text "2"]).data (privatePhones [.text "2"]).data :=
    .entry hkind (.here (.member [] [.text "2"] (.text "1")))
  have hchanged : Changed firstPhone (privatePhones [.text "1", .text "2"]).data (privatePhones [.text "2"]).data :=
    .deleted hdeleted
  refine ⟨form, field, hform, hfield, hpart, ?_⟩
  rw [← hpart]
  exact (participation_ignores_own_value (by decide +kernel) hform).2 (privatePhones [.text "1", .text "2"])
    firstPhone field _ hfield hchanged

end Form

end FormCheck
