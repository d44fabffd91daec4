import FormCheck.Proofs.Form.Stripped

/-!
# Forms without their texts

Labels and messages are shown to people.  A document can be stripped of them, like it can of its conditions, and two
documents that are the same then differ in nothing but texts.

* `Value.untexted` — a field's document without the labels and the messages of the field and all below it;
* `Value.SameButTexts` — two documents differ in labels and messages only;
* `FieldInfo.untexted`, `Form.untexted` — what a field has, and a form, without texts;
* `Form.ofDocument_untexted` — **proved**: if a document describes a form, then the stripped one describes the form
  without texts;
* `Form.untexted_eq_of_sameButTexts` — **proved**: documents that differ in texts only describe forms that do so.
-/

namespace FormCheck

open Fallible

/-- A key under which a field declares texts. -/
def Value.isTextKey (key : String) : Bool :=
  key == "label" || key == "messages"

/-- A field's document without the labels and the messages of the field and all below it. -/
def Value.untexted (document : Value) : Value :=
  document.stripped isTextKey

/-- Two documents differ in labels and messages only: in what they say, or in whether and where they are given. -/
def Value.SameButTexts (document other : Value) : Prop :=
  document.untexted = other.untexted

/-- What a field has, less the texts. -/
def FieldInfo.untexted (info : FieldInfo) : FieldInfo :=
  { info with label := [], messages := [] }

/-- A form without texts. -/
def Form.untexted (form : Form) : Form :=
  ⟨form.root.mapInfo FieldInfo.untexted⟩

/-- **Texts can be dropped**, from the documents of fields and from what the fields have. -/
theorem strips_texts :
    Strips Value.isTextKey (fun details => { details with label := [], messages := [] }) FieldInfo.untexted where
  keeps := by decide
  ofEntries entries := by
    have hdetail : ∀ key, Value.isTextKey key = false → key ≠ "properties" → key ≠ "items" →
        entryOf? (Value.strippedEntries Value.isTextKey entries) key = entryOf? entries key :=
      fun key => Value.entryOf?_stripped_detail entries
    rw [Details.ofEntries, hdetail "rules" (by decide) (by decide) (by decide),
      hdetail "condition" (by decide) (by decide) (by decide),
      hdetail "display_switch" (by decide) (by decide) (by decide),
      Value.entryOf?_stripped_of_drops entries (by decide),
      Value.entryOf?_stripped_of_drops entries (by decide)]
    rfl
  forElements _ := rfl
  build h := by
    obtain ⟨rules, condition, hrules, hcondition, rfl⟩ := Details.build_eq_ok_iff.mp h
    exact Details.build_eq_ok_iff.mpr ⟨rules, condition, hrules, hcondition, rfl⟩
  name _ := rfl
  link {registry root info linked} h := by
    have hname : ∀ info : FieldInfo, info.untexted.name = info.name := fun _ => rfl
    obtain ⟨condition, rules, hcondition, hrules, rfl⟩ := FieldInfo.link_iff.mp h
    refine FieldInfo.link_iff.mpr ⟨condition, rules, ?_, ?_, rfl⟩
    · simp only [Field.conditionPlace_mapInfo hname]
      exact hcondition
    · simp only [DeclaredRule.link_mapInfo hname]
      exact hrules

namespace Form

variable {registry : Registry} {document other : Value} {form otherForm : Form}

/-- **A document without texts describes the form without texts.** -/
theorem ofDocument_untexted (h : ofDocument registry document = .ok form) :
    ofDocument registry document.untexted = .ok form.untexted :=
  ofDocument_stripped strips_texts h

/-- **Documents that differ in texts only describe forms that do so.** -/
theorem untexted_eq_of_sameButTexts (htexts : document.SameButTexts other)
    (h : ofDocument registry document = .ok form) (hother : ofDocument registry other = .ok otherForm) :
    form.untexted = otherForm.untexted := by
  have hform := ofDocument_untexted h
  rw [htexts, ofDocument_untexted hother] at hform
  exact (Except.ok.inj hform).symm

end Form

end FormCheck
