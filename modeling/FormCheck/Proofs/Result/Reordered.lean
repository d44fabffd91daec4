import FormCheck.Proofs.Evaluation.Alike
import FormCheck.Proofs.Evaluation.Gating
import FormCheck.Proofs.Form.Reordered
import FormCheck.Proofs.Result.Validation

/-!
# The order of declaration

The order in which fields are declared is that of the errors, and it is nothing else.

* `Wording.attempts_of_outcomes` — **proved**: the errors depend on what reports say, with nothing of the fields but what
  they have by themselves;
* `Form.located_paths` — **proved**: the places of the errors are those with findings;
* `Validator.declaration_order_only_orders` — **proved**: with the fields of groups declared in another order a document
  goes on to describe a form, and wherever a validation of the one has a result, so has that of the other; the errors are
  the same, each in the order of its own form.
-/

namespace FormCheck

open Fallible

/-! ### Errors -/

/-- What the findings that a report tells of amount to, an error or a fault, each with the place of the report. -/
def Wording.attemptsIn (w : Wording) (language : Option String)
    (outcome : Path × (Kind × FieldInfo) × Bool × Bool × List Finding) : List (Path × Except Fault FieldError) :=
  match outcome with
  | (path, (_, info), _, skipped, findings) =>
    (if skipped then [] else findings.map (w.errorOf (w.languageOr language) info)).map fun e => (path, e.1)

/-- **The errors depend on what reports say.** -/
theorem Wording.attempts_of_outcomes (w : Wording) (language : Option String) (reports : List Report) :
    w.attempts language reports = (reports.map Report.outcome).flatMap (w.attemptsIn language) := by
  rw [List.flatMap_map]
  rfl

namespace Form

variable {form : Form} {registry : Registry} {implicitNumber : Bool} {data : Value} {language : Option String}
  {reports : List Report}

theorem path_of_told {r : Report} (h : r.FindsOneAtMost) {t : FieldInfo × Finding} (ht : t ∈ r.told) :
    t.2.path = r.path := by
  obtain ⟨_, _, hfinding⟩ := Report.mem_told.mp ht
  rcases h with hnone | ⟨_, finding, hone, hpath⟩
  · rw [hnone] at hfinding
    cases hfinding
  · rw [hone, List.mem_singleton] at hfinding
    rw [hfinding, hpath]

/-- **The places of the errors are those with findings**, and each error is written with its place. -/
theorem located_paths {w : Wording} {shown : Option String} {errors : List (Path × FieldError)}
    (h : ∀ r ∈ reports, r.FindsOneAtMost) (herrors : w.located shown reports = .ok errors) :
    errors.map (·.1) = failedAt reports ∧ ∀ e ∈ errors, e.2.path = e.1.text := by
  constructor
  · have hplaces : errors.map (·.1) = (w.attempts shown reports).map (·.1) := by
      refine map_eq_of_mapM herrors fun attempt e he => ?_
      obtain ⟨_, _, rfl⟩ := map_eq_ok_iff.mp he
      rfl
    rw [hplaces, ← told_paths h, Wording.attempts, List.map_flatMap, List.map_flatMap]
    refine List.flatMap_congr fun r hr => ?_
    rw [Wording.errorsOf_eq, List.map_map, List.map_map]
    exact List.map_congr_left fun t ht => (path_of_told (h r hr) ht).symm
  · intro e he
    obtain ⟨attempt, hattempt, he⟩ := exists_of_mem_mapM herrors he
    obtain ⟨error, herror, rfl⟩ := map_eq_ok_iff.mp he
    obtain ⟨r, hr, hattempt⟩ := List.mem_flatMap.mp hattempt
    rw [Wording.errorsOf_eq, List.map_map] at hattempt
    obtain ⟨t, ht, rfl⟩ := List.mem_map.mp hattempt
    obtain ⟨_, _, rfl⟩ := Wording.errorOf_eq_ok_iff.mp herror
    exact congrArg Path.text (path_of_told (h r hr) ht)

/-- The errors of an evaluation stand in the order of the form. -/
theorem located_in_order (hplaced : form.root.Placed [])
    (h : form.evaluate registry implicitNumber data language = .ok reports) {w : Wording} {shown : Option String}
    {errors : List (Path × FieldError)} (herrors : w.located shown reports = .ok errors) :
    (errors.map (·.1)).Pairwise form.Before ∧ ∀ e ∈ errors, e.2.path = e.1.text := by
  obtain ⟨hpaths, htexts⟩ := located_paths (findsOneAtMost hplaced h) herrors
  refine ⟨?_, htexts⟩
  rw [hpaths]
  exact (paths_increasing hplaced h).sublist (failedAt_sublist reports)

end Form

/-! ### Validations -/

namespace Validator

theorem ofDocument_eq_ok_iff {registry : Registry} {document : Value} {wording : Wording} {implicitNumber : Bool}
    {validator : Validator} : ofDocument registry document wording implicitNumber = .ok validator ↔
      ∃ form, Form.ofDocument registry document = .ok form ∧ validator = ⟨form, registry, wording, implicitNumber⟩ := by
  rw [ofDocument, bind_eq_ok_iff]
  exact exists_congr fun form => and_congr_right fun _ => by rw [pure_eq_ok, Except.ok.injEq, eq_comm]

/-- **The order of declaration only orders.**  Take rules that see no more of a field than its kind, as the standard ones
do, a document that describes a form, and the same document with the fields of any of its groups declared in another
order, at any depth: it describes a form too.  On whatever data a validation of the former has a result, that of the latter has one.  The one is
valid exactly if the other is, and the errors are the same, with their places, rules, messages and values; on both sides
they stand in the order in which the form has their places. -/
theorem declaration_order_only_orders {registry : Registry} {document reordered : Value} {wording : Wording}
    {implicitNumber : Bool} {validator : Validator} (hkeys : document.keysOnce = true)
    (hlooks : registry.LooksAtKind) (h : document.ReordersGroups reordered)
    (hvalidator : ofDocument registry document wording implicitNumber = .ok validator) :
    ∃ other, ofDocument registry reordered wording implicitNumber = .ok other ∧
      ∀ data language result questions, validator.validate data language = .ok (result, questions) →
        ∃ same asked, other.validate data language = .ok (same, asked) ∧
          same.isValid = result.isValid ∧ result.errors.Perm same.errors ∧
          ∃ located relocated : List (Path × FieldError),
            located.Perm relocated ∧ (∀ e ∈ located, e.2.path = e.1.text) ∧
            result.errors = located.map (·.2) ∧ (located.map (·.1)).Pairwise validator.form.Before ∧
            same.errors = relocated.map (·.2) ∧ (relocated.map (·.1)).Pairwise other.form.Before := by
  obtain ⟨form, hform, rfl⟩ := ofDocument_eq_ok_iff.mp hvalidator
  obtain ⟨honce, other, hother, halike⟩ := Form.ofDocument_reordersGroups h hkeys hform
  have hplaced := Form.root_placed hkeys hform
  have hmoved := Form.root_placed honce hother
  refine ⟨⟨other, registry, wording, implicitNumber⟩, ofDocument_eq_ok_iff.mpr ⟨other, hother, rfl⟩, ?_⟩
  intro data language result questions hresult
  obtain ⟨reports, hreports, hassemble⟩ := validate_eq_ok_iff.mp hresult
  obtain ⟨others, hothers, hperm⟩ := Form.evaluate_of_alike hlooks hplaced hmoved halike hreports
  let shown : Option String := some (wording.languageOr language)
  have hattempts : (wording.attempts shown reports).Perm (wording.attempts shown others) := by
    rw [wording.attempts_of_outcomes, wording.attempts_of_outcomes]
    exact hperm.flatMap_right _
  obtain ⟨located, hlocated, herrors⟩ := Wording.exists_located (congrArg Prod.fst hassemble)
  obtain ⟨relocated, hrelocated, hsame⟩ := exists_mapM_of_perm hlocated hattempts
  obtain ⟨hordered, htexts⟩ := Form.located_in_order hplaced hreports hlocated
  obtain ⟨hreordered, _⟩ := Form.located_in_order hmoved hothers hrelocated
  have hother : (wording.assemble others shown).1 = .ok ⟨relocated.map (·.2)⟩ := by
    have hrelocated : wording.located shown others = .ok relocated := hrelocated
    rw [wording.assemble_eq_located, hrelocated]
    rfl
  have hall : result.errors.Perm (relocated.map (·.2)) := by
    rw [herrors]
    exact hsame.map _
  refine ⟨⟨relocated.map (·.2)⟩, _, validate_eq_ok_iff.mpr ⟨others, hothers, Prod.ext hother rfl⟩, ?_, hall,
    located, relocated, hsame, htexts, herrors, hordered, rfl, hreordered⟩
  show (relocated.map (·.2)).isEmpty = result.errors.isEmpty
  rw [Bool.eq_iff_iff, List.isEmpty_iff, List.isEmpty_iff]
  exact ⟨fun hnil => (hnil ▸ hall).eq_nil, fun hnil => (hnil ▸ hall.symm).eq_nil⟩

/-- A field that has to have a value. -/
def filledIn : Value :=
  .object [("type", .text "text"), ("rules", .object [("required", .bool true)])]

/-- A guide, whose fields are declared in some order, and who counts only where one is wanted. -/
def guide (fields : List (String × Value)) : Value :=
  .object [("type", .text "group"), ("properties", .object fields),
    ("condition", .object [("path", .text "wanted"), ("equals", .text "yes")])]

/-- A form for a tour, whose fields are declared in some order. -/
def tour (fields : List (String × Value)) : Value :=
  .object [("type", .text "group"), ("properties", .object fields)]

/-- The day on which a tour starts. -/
def startField : String × Value :=
  ("start", .object [("type", .text "date")])

/-- The day on which it ends, which is not before the start. -/
def endField : String × Value :=
  ("end", .object [("type", .text "date"), ("rules", .object [("enddate", .text "start")])])

/-- Whether a guide is wanted. -/
def wantedField : String × Value :=
  ("wanted", .object [("type", .text "text")])

/-- A tour where conditions and rules refer to what is declared later. -/
def tourForward : Value :=
  tour [endField, ("guide", guide [("name", filledIn), ("phone", filledIn)]), startField, wantedField]

/-- The same tour in the opposite order. -/
def tourBackward : Value :=
  tour [wantedField, startField, ("guide", guide [("phone", filledIn), ("name", filledIn)]), endField]

/-- A tour that ends before it starts, and a guide without a name and a phone. -/
def earlyEnd : Value :=
  .object [("start", .text "2024-03-05"), ("end", .text "2024-03-04"), ("wanted", .text "yes"), ("guide", .object [])]

/-- First the fields of the guide change places, then those of the tour. -/
theorem tour_reordersGroups : tourForward.ReordersGroups tourBackward := by
  have hguide : (guide [("name", filledIn), ("phone", filledIn)]).ReordersGroup
      (guide [("phone", filledIn), ("name", filledIn)]) :=
    @Value.ReordersGroup.fields [("type", .text "group")] _ _ _ (List.Perm.swap _ _ [])
  have hinner : tourForward.ReordersGroup
      (tour [endField, ("guide", guide [("phone", filledIn), ("name", filledIn)]), startField, wantedField]) :=
    @Value.ReordersGroup.child [("type", .text "group")] [] [endField] [startField, wantedField] "guide" _ _ hguide
  have hreverse : ∀ a b c d : String × Value, [a, b, c, d].Perm [d, c, b, a] :=
    fun a b c d => (List.reverse_perm [a, b, c, d]).symm
  have houter : (tour [endField, ("guide", guide [("phone", filledIn), ("name", filledIn)]), startField,
      wantedField]).ReordersGroup tourBackward :=
    @Value.ReordersGroup.fields [("type", .text "group")] [] _ _ (hreverse _ _ _ _)
  exact .tail (.single hinner) houter

/-- The same errors are found in both orders, each time in the order of declaration. -/
theorem declaration_order_only_orders_of_tour : ∃ validator other result same questions asked,
    ofDocument Registry.standard tourForward ⟨none, "en"⟩ true = .ok validator ∧
    ofDocument Registry.standard tourBackward ⟨none, "en"⟩ true = .ok other ∧
    validator.validate earlyEnd none = .ok (result, questions) ∧ other.validate earlyEnd none = .ok (same, asked) ∧
    result.errors.map FieldError.path = ["end", "guide.name", "guide.phone"] ∧
    same.errors.map FieldError.path = ["guide.phone", "guide.name", "end"] ∧
    result.errors.Perm same.errors := by
  have hrun : ((ofDocument Registry.standard tourForward ⟨none, "en"⟩ true).toOption.bind fun validator =>
      (validator.validate earlyEnd none).toOption.bind fun answer => some (answer.1.errors.map FieldError.path))
      = some ["end", "guide.name", "guide.phone"] := by
    decide +kernel
  have hmovedRun : ((ofDocument Registry.standard tourBackward ⟨none, "en"⟩ true).toOption.bind fun validator =>
      (validator.validate earlyEnd none).toOption.bind fun answer => some (answer.1.errors.map FieldError.path))
      = some ["guide.phone", "guide.name", "end"] := by
    decide +kernel
  obtain ⟨validator, hvalidator, hrun⟩ := exists_eq_ok_of_bind hrun
  obtain ⟨⟨result, questions⟩, hresult, hpaths⟩ := exists_eq_ok_of_bind hrun
  obtain ⟨moved, hmoved, hmovedRun⟩ := exists_eq_ok_of_bind hmovedRun
  obtain ⟨⟨same, asked⟩, hsame, hmovedPaths⟩ := exists_eq_ok_of_bind hmovedRun
  obtain ⟨other, hother, hall⟩ := declaration_order_only_orders (by decide +kernel)
    Registry.standard_looksAtKind tour_reordersGroups hvalidator
  obtain ⟨found, questioned, hfound, _, hperm, _⟩ := hall earlyEnd none result questions hresult
  obtain rfl := Except.ok.inj (hmoved.symm.trans hother)
  obtain ⟨rfl, rfl⟩ := Prod.mk.inj (Except.ok.inj (hsame.symm.trans hfound))
  exact ⟨validator, moved, result, same, questions, asked, hvalidator, hmoved, hresult, hsame,
    Option.some.inj hpaths, Option.some.inj hmovedPaths, hperm⟩

end Validator

end FormCheck
