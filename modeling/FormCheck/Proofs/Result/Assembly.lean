import FormCheck.Proofs.Message.Names

/-!
# What a result is made up of

* `Report.told` — the findings of a report that a result tells of, each with what the field has;
* `Wording.assemble_eq` — **proved**: the errors of a result are what these findings amount to, one after the other;
* `Wording.assemble_fails` — **proved**: there is no result exactly if one of them has no message;
* `Wording.errorOf_eq_ok_iff`, `Wording.map_errors_of_assemble` — **proved**: the path, the rule and the value of an error
  are those of its finding;
* `Wording.located`, `Wording.assemble_eq_located` — the errors, each with the place of its report, and the result that
  they make up.
-/

namespace FormCheck

open Fallible

/-- The findings of a report that a result tells of, each with what the field has: none if the field does not take
part. -/
def Report.told (r : Report) : List (FieldInfo × Finding) :=
  if r.skipped then [] else r.findings.map (r.field.info, ·)

theorem Report.mem_told {r : Report} {t : FieldInfo × Finding} :
    t ∈ r.told ↔ r.skipped = false ∧ t.1 = r.field.info ∧ t.2 ∈ r.findings := by
  rw [told]
  cases r.skipped with
  | true => simp
  | false =>
    rw [if_neg Bool.false_ne_true, List.mem_map, and_iff_right rfl]
    exact ⟨fun ⟨f, hf, h⟩ => h ▸ ⟨rfl, hf⟩, fun ⟨hinfo, hf⟩ => ⟨t.2, hf, by rw [← hinfo]⟩⟩

/-- No finding that is told of holds a whole number of too many digits. -/
def Report.AllWritten (reports : List Report) : Prop :=
  ∀ t ∈ reports.flatMap told, ¬ t.2.HasLongNumber

instance (reports : List Report) : Decidable (Report.AllWritten reports) :=
  inferInstanceAs (Decidable (∀ t ∈ reports.flatMap Report.told, _))

theorem Report.not_allWritten_iff {reports : List Report} :
    ¬ AllWritten reports ↔ ∃ t ∈ reports.flatMap told, t.2.HasLongNumber := by
  simp only [AllWritten, not_forall, not_not, exists_prop]

namespace Wording

variable (w : Wording) (language : Option String) (reports : List Report)

theorem errorsOf_eq (language : String) (r : Report) :
    w.errorsOf language r = r.told.map fun t => w.errorOf language t.1 t.2 := by
  rw [errorsOf, Report.told]
  cases r.skipped with
  | true => rfl
  | false => rw [if_neg Bool.false_ne_true, if_neg Bool.false_ne_true, List.map_map]; rfl

theorem flatMap_errorsOf (language : String) :
    reports.flatMap (w.errorsOf language)
      = (reports.flatMap Report.told).map fun t => w.errorOf language t.1 t.2 := by
  rw [List.map_flatMap]
  exact List.flatMap_congr fun r _ => w.errorsOf_eq language r

theorem collect_fst (errors : List (Except Fault FieldError × List Question)) :
    (collect errors).1 = errors.mapM (·.1) := by
  induction errors with
  | nil => rfl
  | cons first rest ih =>
    obtain ⟨e, questions⟩ := first
    rw [List.mapM_cons, ← ih]
    cases e with
    | error f => rfl
    | ok e =>
      rw [collect, ok_bind]
      obtain ⟨errors, more⟩ := collect rest
      cases errors <;> rfl

theorem assemble_fst : (w.assemble reports language).1
    = ((reports.flatMap (w.errorsOf (w.languageOr language))).mapM Prod.fst).map Result.mk := by
  rw [← collect_fst]
  rfl

/-- **The errors of a result are what the findings amount to**, one after the other. -/
theorem assemble_eq : (w.assemble reports language).1 =
    ((reports.flatMap Report.told).mapM fun t => (w.errorOf (w.languageOr language) t.1 t.2).1).map Result.mk := by
  rw [assemble_fst, flatMap_errorsOf, List.mapM_map]
  rfl

/-- **There is no result** exactly if some finding that is told of has no message. -/
theorem assemble_fails :
    FailsIff (w.assemble reports language).1 .longNumber (∃ t ∈ reports.flatMap Report.told, t.2.HasLongNumber) := by
  rw [assemble_eq]
  exact (FailsIff.mapM fun t _ => w.errorOf_fails _ t.1 t.2).map _

theorem exists_assemble {reports : List Report} (h : Report.AllWritten reports) :
    ∃ result, (w.assemble reports language).1 = .ok result :=
  (w.assemble_fails language reports).exists_ok fun ⟨t, ht, hlong⟩ => h t ht hlong

variable {w language reports}

/-- The error about a finding has its path, its rule and its value. -/
theorem errorOf_eq_ok_iff {language : String} {info : FieldInfo} {finding : Finding} {e : FieldError} :
    (w.errorOf language info finding).1 = .ok e ↔ ∃ message, (w.message finding info language).1 = .ok message ∧
      e = ⟨finding.path.text, finding.rule, message, finding.value⟩ := by
  show Except.map _ (w.message finding info language).1 = _ ↔ _
  rw [map_eq_ok_iff]
  simp only [eq_comm]

/-- Where there is a result, all findings that are told of amount to errors. -/
theorem errorsOf_of_assemble {result : Result} (h : (w.assemble reports language).1 = .ok result) :
    (reports.flatMap (w.errorsOf (w.languageOr language))).map (·.1) = result.errors.map .ok := by
  rw [assemble_fst] at h
  obtain ⟨errors, herrors, rfl⟩ := map_eq_ok_iff.mp h
  exact (map_eq_of_mapM herrors fun _ _ he => he.symm).symm

/-- What is told of the errors is told of the findings, if the messages do not matter. -/
theorem map_errors_of_assemble {α : Type} {result : Result} {f : FieldError → α} {g : Finding → α}
    (h : (w.assemble reports language).1 = .ok result)
    (hf : ∀ finding message, f ⟨finding.path.text, finding.rule, message, finding.value⟩ = g finding) :
    result.errors.map f = (reports.flatMap Report.told).map (g ·.2) := by
  rw [assemble_eq] at h
  obtain ⟨errors, herrors, rfl⟩ := map_eq_ok_iff.mp h
  refine map_eq_of_mapM herrors fun t e he => ?_
  obtain ⟨message, _, rfl⟩ := errorOf_eq_ok_iff.mp he
  exact hf t.2 message

/-! ### Errors with their places -/

variable (w language reports)

/-- What the findings of reports amount to, an error or a fault, each with the place of its report. -/
def attempts : List (Path × Except Fault FieldError) :=
  reports.flatMap fun r => (w.errorsOf (w.languageOr language) r).map fun e => (r.path, e.1)

/-- The errors that reports amount to, each with the place of its report. -/
def located : Except Fault (List (Path × FieldError)) :=
  (w.attempts language reports).mapM fun e => e.2.map (e.1, ·)

theorem map_snd_attempts : (w.attempts language reports).map (·.2)
    = (reports.flatMap (w.errorsOf (w.languageOr language))).map (·.1) := by
  rw [attempts, List.map_flatMap, List.map_flatMap]
  refine List.flatMap_congr fun r _ => ?_
  rw [List.map_map]
  rfl

/-- Without their places, the located errors are those of the findings. -/
theorem map_located : (w.located language reports).map (List.map (·.2))
    = (reports.flatMap (w.errorsOf (w.languageOr language))).mapM Prod.fst := by
  have hplaced : (w.located language reports).map (List.map (·.2)) = (w.attempts language reports).mapM (·.2) := by
    rw [located, map_mapM]
    refine mapM_congr fun e _ => ?_
    show (e.2.map _).map _ = e.2
    cases e.2 <;> rfl
  have hid : ∀ xs : List (Except Fault FieldError × List Question), xs.mapM Prod.fst = (xs.map Prod.fst).mapM id := by
    intro xs
    rw [List.mapM_map]
    rfl
  rw [hplaced, hid, ← map_snd_attempts, List.mapM_map]
  rfl

theorem assemble_eq_located :
    (w.assemble reports language).1 = (w.located language reports).map fun errors => ⟨errors.map (·.2)⟩ := by
  rw [assemble_fst, ← map_located]
  cases w.located language reports <;> rfl

/-- Where there is a result, its errors are the located ones. -/
theorem exists_located {w : Wording} {language : Option String} {reports : List Report} {result : Result}
    (h : (w.assemble reports language).1 = .ok result) :
    ∃ errors, w.located language reports = .ok errors ∧ result.errors = errors.map (·.2) := by
  rw [assemble_eq_located] at h
  obtain ⟨errors, herrors, rfl⟩ := map_eq_ok_iff.mp h
  exact ⟨errors, herrors, rfl⟩

end Wording

end FormCheck
