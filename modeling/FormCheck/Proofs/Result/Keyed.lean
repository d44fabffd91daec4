import Mathlib.Data.List.Nodup
import FormCheck.Proofs.Evaluation.Order
import FormCheck.Proofs.Form.Preorder
import FormCheck.Proofs.Path.Writing
import FormCheck.Proofs.Result.Validation

/-!
# Errors by their written paths

A result is read by the written paths of its errors.  An evaluation comes to each place once, so that no two
errors are at the same place; that no two of them have the same written path depends on the names in the form.

* `Form.NamesApart` — the names of a form do not look like steps: none holds a point or an opening bracket,
  and no field of the root has the empty name;
* `Form.isPlain_of_reaches` — **proved**: the places of such a form have plain paths;
* `Validator.errors_keyed` — **proved**: over such a form the errors of a result have different written paths,
  and each is found by its own;
* `Validator.not_every_error_is_keyed` — **proved**: with a point in a name two errors may have one written
  path, and the second one is not found.
-/

namespace FormCheck

open Fallible

/-! ### Results -/

theorem eraseDups_of_nodup {names : List String} (h : names.Nodup) : names.eraseDups = names := by
  induction names with
  | nil => rfl
  | cons s names ih =>
    rw [List.nodup_cons] at h
    have hkept : names.filter (fun t => !t == s) = names := by
      refine List.filter_eq_self.mpr fun t ht => ?_
      have hne : t ≠ s := fun heq => h.1 (heq ▸ ht)
      rw [beq_false_of_ne hne]
      rfl
    rw [List.eraseDups_cons, hkept, ih h.2]

theorem find?_path_of_mem {errors : List FieldError} (h : (errors.map FieldError.path).Nodup) {e : FieldError}
    (he : e ∈ errors) : errors.find? (·.path == e.path) = some e := by
  induction errors with
  | nil => cases he
  | cons d errors ih =>
    rw [List.map_cons, List.nodup_cons] at h
    rcases List.mem_cons.mp he with rfl | he
    · rw [List.find?_cons, beq_self_eq_true]
    · have hne : d.path ≠ e.path := fun heq => h.1 (heq ▸ List.mem_map_of_mem he)
      rw [List.find?_cons, beq_false_of_ne hne]
      exact ih h.2 he

/-- No two errors have the same written path; so there are as many paths as errors, and each error is the one
found at its path. -/
structure Result.IsKeyed (result : Result) : Prop where
  nodup : (result.errors.map FieldError.path).Nodup
  paths : result.paths.length = result.errors.length
  found : ∀ e ∈ result.errors, result.errorAt? e.path = some e

theorem Result.isKeyed_of_nodup {result : Result} (h : (result.errors.map FieldError.path).Nodup) :
    result.IsKeyed := by
  refine ⟨h, ?_, fun e he => find?_path_of_mem h he⟩
  rw [Result.paths, eraseDups_of_nodup h, List.length_map]

/-! ### Names that do not look like steps -/

namespace Form

/-- No name in the form holds a point or an opening bracket, and no field of the root has the empty
name. -/
def NamesApart (form : Form) : Prop :=
  (∀ f ∈ form.root.preorder, isPlainName f.name = true) ∧ ∀ c ∈ form.root.parts, c.name ≠ ""

instance (form : Form) : Decidable form.NamesApart :=
  inferInstanceAs (Decidable (_ ∧ _))

variable {form : Form} {data : Value} {p : Path}

/-- **The places of a form whose names do not look like steps have plain paths.** -/
theorem isPlain_of_reaches (hnames : form.NamesApart) (hp : form.Reaches data p) : p.IsPlain := by
  induction hp with
  | root => exact ⟨List.forall_mem_nil _, fun h => by cases h⟩
  | @child q info children c _ hfield hc ih =>
    have hgroup : Field.group info children ∈ form.root.preorder :=
      Field.mem_preorder_of_at? (fieldAt?_eq_at? form q ▸ hfield)
    have hplain := hnames.1 c (Field.mem_preorder_of_part hgroup hc)
    refine ⟨?_, ?_⟩
    · rw [List.forall_mem_append, List.forall_mem_singleton]
      exact ⟨ih.1, hplain⟩
    · cases q with
      | nil =>
        rw [fieldAt?_eq_at?] at hfield
        cases hroot : form.root with
        | leaf _ _ => rw [hroot] at hfield; cases hfield
        | array _ _ => rw [hroot] at hfield; cases hfield
        | group _ _ =>
          rw [hroot] at hfield
          cases hfield
          have hne := hnames.2 c (by rw [hroot]; exact hc)
          simpa using hne
      | cons s q => exact ih.2
  | @element q info item items i _ _ _ _ ih =>
    refine ⟨?_, ?_⟩
    · rw [List.forall_mem_append, List.forall_mem_singleton]
      exact ⟨ih.1, trivial⟩
    · cases q with
      | nil => exact fun h => by cases h
      | cons s q => exact ih.2

/-- The places with findings are places of the form. -/
theorem reaches_of_mem_failedAt {registry : Registry} {implicitNumber : Bool} {language : Option String}
    {reports : List Report} (hplaced : form.root.Placed [])
    (h : form.evaluate registry implicitNumber data language = .ok reports) (hp : p ∈ failedAt reports) :
    form.Reaches data p :=
  (mem_reports_iff_reaches hplaced h).mp ((failedAt_sublist reports).subset hp)

end Form

/-! ### Errors of a result -/

namespace Validator

variable {validator : Validator} {data : Value} {language : Option String} {result : Result}
  {questions : List Question}

/-- **The errors of a result have different written paths, and each is found by its own**, where no name in the
form looks like a step. -/
theorem errors_keyed {compiled : Registry} {document : Value} (hkeys : document.keysOnce = true)
    (hform : Form.ofDocument compiled document = .ok validator.form) (hnames : validator.form.NamesApart)
    (h : validator.validate data language = .ok (result, questions)) : result.IsKeyed := by
  obtain ⟨reports, hreports, hresult⟩ := validate_eq_ok_iff.mp h
  have hplaced := Form.root_placed hkeys hform
  have herrors := Form.errors_of_reports (Form.findsOneAtMost hplaced hreports) (congrArg Prod.fst hresult)
  -- The places differ because each is come to once, and plain places with the same text do not differ.
  have hplaces : (Form.failedAt reports).Nodup :=
    ((Form.paths_increasing hplaced hreports).sublist (Form.failedAt_sublist reports)).imp Form.Before.ne
  have hplain : ∀ p ∈ Form.failedAt reports, p.IsPlain := fun p hp =>
    Form.isPlain_of_reaches hnames (Form.reaches_of_mem_failedAt hplaced hreports hp)
  refine Result.isKeyed_of_nodup (herrors ▸ ?_)
  exact List.Nodup.map_on (fun p hp q hq => Path.text_injective (hplain p hp) (hplain q hq)) hplaces

/-- A form with a group for the address, in which the city has to be given. -/
def contact : Value :=
  .object [("type", .text "group"), ("properties", .object [
    ("name", .object [("type", .text "text"), ("rules", .object [("required", .bool true)])]),
    ("address", .object [("type", .text "group"), ("properties", .object [
      ("city", .object [("type", .text "text"), ("rules", .object [("required", .bool true)])]),
      ("phones", .object [("type", .text "array"), ("items", .object [("type", .text "text"),
        ("rules", .object [("digits", .bool true)])])])])])])]

/-- No name and no city, and two numbers that are none. -/
def noContact : Value :=
  .object [("address", .object [("phones", .list [.text "a", .text "b"])])]

/-- Without name and city, and with two numbers that are none, there are four errors at four paths. -/
theorem errors_keyed_of_contact : ∃ form result questions,
    Form.ofDocument Registry.standard contact = .ok form ∧ form.NamesApart ∧
    (plain form).validate noContact none = .ok (result, questions) ∧
    result.paths = ["name", "address.city", "address.phones[0]", "address.phones[1]"] ∧
    result.IsKeyed := by
  have hrun : ((Form.ofDocument Registry.standard contact).toOption.bind fun form =>
      ((plain form).validate noContact none).toOption.bind fun answer =>
        some (answer.1.paths, decide form.NamesApart)) =
      some (["name", "address.city", "address.phones[0]", "address.phones[1]"], true) := by
    decide +kernel
  obtain ⟨form, hform, hrun⟩ := exists_eq_ok_of_bind hrun
  obtain ⟨⟨result, questions⟩, hresult, hfound⟩ := exists_eq_ok_of_bind hrun
  obtain ⟨hpaths, hnames⟩ := Prod.mk.inj (Option.some.inj hfound)
  have hnames : form.NamesApart := of_decide_eq_true hnames
  exact ⟨form, result, questions, hform, hnames, hresult, hpaths,
    errors_keyed (by decide +kernel) hform hnames hresult⟩

/-- A form with a city in a group, and beside the group a field whose name has a point in it. -/
def dotted : Value :=
  .object [("type", .text "group"), ("properties", .object [
    ("address.city", .object [("type", .text "text"), ("rules", .object [("required", .bool true)])]),
    ("address", .object [("type", .text "group"), ("properties", .object [
      ("city", .object [("type", .text "text"), ("rules", .object [("required", .bool true)])])])])])]

/-- **Not every error is found by its written path.**  The field with a point in its name and the city in the
group are both missing; both errors have the same path, under which only the first one is found. -/
theorem not_every_error_is_keyed : ∃ form result questions,
    Form.ofDocument Registry.standard dotted = .ok form ∧
    (plain form).validate (.object []) none = .ok (result, questions) ∧
    result.errors.map FieldError.path = ["address.city", "address.city"] ∧
    result.paths = ["address.city"] ∧
    (∃ e ∈ result.errors, result.errorAt? e.path ≠ some e) ∧ ¬ result.IsKeyed := by
  have hrun : ((Form.ofDocument Registry.standard dotted).toOption.bind fun form =>
      ((plain form).validate (.object []) none).toOption.bind fun answer =>
        some (answer.1.errors.map fun e => (e.path, e.message))) =
      some [("address.city", "address.city is required"), ("address.city", "city is required")] := by
    decide +kernel
  obtain ⟨form, hform, hrun⟩ := exists_eq_ok_of_bind hrun
  obtain ⟨⟨⟨errors⟩, questions⟩, hresult, hfound⟩ := exists_eq_ok_of_bind hrun
  have herrors : errors.map (fun e => (e.path, e.message)) = _ := Option.some.inj hfound
  have hpaths : errors.map FieldError.path = ["address.city", "address.city"] := by
    have := congrArg (List.map Prod.fst) herrors
    rwa [List.map_map] at this
  have hother : ∃ e ∈ errors, (errors.find? (·.path == e.path)) ≠ some e := by
    obtain ⟨first, rest, rfl, hfirst, hrest⟩ := List.map_eq_cons_iff.mp herrors
    obtain ⟨second, _, rfl, hsecond, _⟩ := List.map_eq_cons_iff.mp hrest
    obtain ⟨hfirst, hmessage⟩ := Prod.mk.inj hfirst
    obtain ⟨hsecond, hother⟩ := Prod.mk.inj hsecond
    refine ⟨second, List.mem_cons_of_mem _ List.mem_cons_self, ?_⟩
    rw [List.find?_cons, hfirst, hsecond, beq_self_eq_true]
    intro heq
    rw [Option.some.inj heq, hother] at hmessage
    exact absurd hmessage (by decide)
  refine ⟨form, ⟨errors⟩, questions, hform, hresult, hpaths, ?_, hother, fun hkeyed => ?_⟩
  · rw [Result.paths, hpaths]
    decide
  · obtain ⟨e, he, hne⟩ := hother
    exact hne (hkeyed.found e he)

end Validator

end FormCheck
