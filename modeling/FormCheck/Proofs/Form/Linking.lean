import FormCheck.Proofs.Form.Declared
import FormCheck.Proofs.Form.Descent
import FormCheck.Proofs.Form.Placement
import FormCheck.Proofs.Rule.Preparation

/-!
# Linking gives every reference a place or refuses it

A reference starts at the root or at a group around the field that has it, and that field is part of the form.
So there is always a field to start from, and whatever keeps a reference from its place is an error of the
specification.

* `Field.Placed.exists_at?_of_mem` — **proved**: each field below a placed one is found by its place;
* `Rule.exists_references_of_standard` — **proved**: the references in a prepared argument of a standard rule
  can be told;
* `Field.link_ne_fault` — **proved**: linking a field of a form over the standard rules has a result or refuses.
-/

namespace FormCheck

open Fallible

/-! ### References are resolved or refused -/

namespace Field

theorem exists_at?_of_prefix {root found : Field} {p q : Path} (hp : root.at? p = some found)
    (hq : q <+: p) : ∃ g, root.at? q = some g := by
  obtain ⟨r, rfl⟩ := hq
  rw [at?_append] at hp
  obtain ⟨g, hg, _⟩ := Option.bind_eq_some_iff.mp hp
  exact ⟨g, hg⟩

/-- Each field below a placed one is found at the steps that lead from the one place to the other. -/
theorem Placed.exists_at?_of_mem {place : Path} {field f : Field} (h : field.Placed place)
    (hf : f ∈ field.preorder) : ∃ p, f.info.place = place ++ p ∧ field.at? p = some f := by
  induction h with
  | leaf hplace =>
    rcases mem_preorder_iff.mp hf with rfl | ⟨c, hc, _⟩
    · exact ⟨[], by rw [List.append_nil]; exact hplace, rfl⟩
    · cases hc
  | @group _ info children hplace hnames _ ih =>
    rcases mem_preorder_iff.mp hf with rfl | ⟨c, hc, hf⟩
    · exact ⟨[], by rw [List.append_nil]; exact hplace, rfl⟩
    · obtain ⟨p, hp, hat⟩ := ih c hc hf
      refine ⟨.name c.name :: p, by rw [hp, List.append_assoc]; rfl, ?_⟩
      rw [at?_cons]
      show ((Field.group info children).child? c.name).bind _ = _
      rw [child?_eq_some info hnames hc]
      exact hat
  | @array _ info item hplace _ ih =>
    rcases mem_preorder_iff.mp hf with rfl | ⟨c, hc, hf⟩
    · exact ⟨[], by rw [List.append_nil]; exact hplace, rfl⟩
    · rw [List.mem_singleton.mp hc] at hf
      obtain ⟨p, hp, hat⟩ := ih hf
      exact ⟨.each :: p, by rw [hp, List.append_assoc]; rfl, hat⟩

variable {root : Field} {base : Path} {f : Fault}

/-- A reference of a field that the form has is resolved or refused. -/
theorem resolve_ne_fault {found : Field} (hbase : root.at? base = some found) (expression : String) :
    root.resolve expression base ≠ .error (.fault f) := by
  intro h
  rw [resolve] at h
  split at h
  · rw [resolveReference] at h
    split at h
    · cases h
    · next start hstart =>
      obtain ⟨g, hg⟩ := exists_at?_of_prefix hbase (Reference.prefix_of_start hstart)
      rw [hg] at h
      obtain ⟨_, _, hsame⟩ := mapError_eq_error_iff.mp h
      cases hsame
  · cases h

theorem rulePlace_ne_fault {found : Field} (hbase : root.at? base = some found) (expression : String) :
    root.rulePlace base expression ≠ .error (.fault f) := by
  intro h
  rcases bind_eq_error_iff.mp h with hresolve | ⟨place, _, h⟩
  · exact resolve_ne_fault hbase expression hresolve
  · split at h <;> cases h

theorem conditionPlace_ne_fault {found : Field} (hbase : root.at? base = some found) (expression : String) :
    root.conditionPlace base expression ≠ .error (.fault f) := by
  intro h
  rcases bind_eq_error_iff.mp h with hplace | ⟨place, _, h⟩
  · exact rulePlace_ne_fault hbase expression hplace
  · split at h <;> cases h

end Field

theorem referenceFailure_eq_fault {place : Path} {expression : String} {failure : Failure ReferenceProblem}
    {f : Fault} (h : referenceFailure place expression failure = .fault f) : failure = .fault f := by
  cases failure with
  | refused e => cases h
  | fault g => cases h; rfl

/-- Where the references of a condition do not get their places, one of them does not. -/
theorem Condition.exists_of_resolve_error {ε : Type} {place : String → Except ε Path} {condition : Condition}
    {e : ε} (h : condition.resolve place = .error e) : ∃ expression, place expression = .error e := by
  have hjoined : ∀ {members : List Condition},
      (∀ m ∈ members, m.resolve place = .error e → ∃ expression, place expression = .error e) →
      resolveAll place members = .error e → ∃ expression, place expression = .error e := by
    intro members ih h
    rw [resolveAll_eq_mapM] at h
    obtain ⟨m, hm, hme⟩ := exists_of_mapM_eq_error h
    exact ih m hm hme
  induction condition using induction_parts with
  | compare c =>
    rcases bind_eq_error_iff.mp h with hplace | ⟨_, _, h⟩
    · exact ⟨c.reference, hplace⟩
    · cases h
  | all members ih =>
    rcases bind_eq_error_iff.mp h with hmembers | ⟨_, _, h⟩
    · exact hjoined ih hmembers
    · cases h
  | any members ih =>
    rcases bind_eq_error_iff.mp h with hmembers | ⟨_, _, h⟩
    · exact hjoined ih hmembers
    · cases h
  | not member ih =>
    rcases bind_eq_error_iff.mp h with hmember | ⟨_, _, h⟩
    · exact ih hmember
    · cases h

/-! ### References of rules -/

/-- The references in a prepared argument of a standard rule can be told. -/
theorem Rule.exists_references_of_standard {rule : Rule} (hrule : rule ∈ standard) {v : Value} {a : Argument}
    (h : rule.prepare v = .ok a) : ∃ expressions, rule.referencesIn a = .ok expressions := by
  have hnone : ∃ expressions, (Except.ok [] : Except Fault (List String)) = .ok expressions := ⟨[], rfl⟩
  have hsingle : referenceArgument v = .ok a → ∃ expressions, singleReference a = .ok expressions := by
    intro h
    obtain ⟨s, rfl⟩ := referenceArgument_ok h
    exact ⟨[s], rfl⟩
  have hcondition : conditionArgument v = .ok a → ∃ expressions, conditionReferences a = .ok expressions := by
    intro h
    obtain ⟨c, _, rfl⟩ := conditionArgument_ok h
    exact ⟨_, rfl⟩
  have hrelative : ∃ expressions, relativeReference a = .ok expressions := by
    rw [relativeReference.eq_def]
    split <;> exact ⟨_, rfl⟩
  have hall : ∀ rule ∈ standard, rule.prepare v = .ok a →
      ∃ expressions, rule.referencesIn a = .ok expressions := by
    simp only [standard, List.forall_mem_cons]
    -- One entry for each rule, in the order of the table.
    exact ⟨fun _ => hnone, hcondition, fun _ => hnone, fun _ => hnone, fun _ => hnone, fun _ => hnone,
      hsingle, hsingle, fun _ => hnone, fun _ => hnone, fun _ => hnone, fun _ => hnone, fun _ => hnone,
      fun _ => hnone, fun _ => hnone, fun _ => hnone, fun _ => hrelative, fun _ => hnone, fun _ => hnone,
      fun _ => hnone, hsingle, fun _ => hnone, fun _ => hnone, fun _ => hnone, fun _ => hnone,
      fun _ => hnone, List.forall_mem_nil _⟩
  exact hall rule hrule h

theorem Registry.mem_of_standard {name : String} {rule : Rule} (h : standard.get? name = some rule) :
    rule ∈ Rule.standard :=
  List.mem_of_find?_eq_some h

/-! ### Linking -/

variable {root : Field} {f : Fault}

theorem DeclaredRule.link_ne_fault {rule : DeclaredRule} {kind : Kind}
    (hrule : rule.IsPrepared Registry.standard kind) {base : Path} {found : Field} (hbase : root.at? base = some found) :
    rule.link Registry.standard root base ≠ .error (.fault f) := by
  intro h
  obtain ⟨definition, hdefinition, _, hprepared⟩ := hrule
  rw [DeclaredRule.link, hdefinition] at h
  obtain ⟨expressions, hexpressions⟩ :=
    Rule.exists_references_of_standard (Registry.mem_of_standard hdefinition) hprepared
  rcases bind_eq_error_iff.mp h with htold | ⟨_, _, h⟩
  · rw [hexpressions] at htold
    cases htold
  · rcases bind_eq_error_iff.mp h with hplaces | ⟨_, _, h⟩
    · obtain ⟨expression, _, hplace⟩ := exists_of_mapM_eq_error hplaces
      obtain ⟨failure, hfailure, hsame⟩ := mapError_eq_error_iff.mp hplace
      rw [map_eq_error_iff, referenceFailure_eq_fault hsame] at hfailure
      exact Field.rulePlace_ne_fault hbase expression hfailure
    · cases h

theorem FieldInfo.link_ne_fault {info : FieldInfo} {kind : Kind}
    (hinfo : info.IsDeclared Registry.standard kind) {found : Field}
    (hbase : root.at? info.place = some found) :
    info.link Registry.standard root ≠ .error (.fault f) := by
  intro h
  rcases bind_eq_error_iff.mp h with hcondition | ⟨_, _, h⟩
  · cases hdeclared : info.condition with
    | none => rw [hdeclared] at hcondition; cases hcondition
    | some c =>
      rw [hdeclared] at hcondition
      obtain ⟨expression, hplace⟩ := Condition.exists_of_resolve_error (map_eq_error_iff.mp hcondition)
      obtain ⟨failure, hfailure, hsame⟩ := mapError_eq_error_iff.mp hplace
      rw [referenceFailure_eq_fault hsame] at hfailure
      exact Field.conditionPlace_ne_fault hbase expression hfailure
  · rcases bind_eq_error_iff.mp h with hrules | ⟨_, _, h⟩
    · obtain ⟨rule, hrule, hlink⟩ := exists_of_mapM_eq_error hrules
      exact DeclaredRule.link_ne_fault (hinfo.rules rule hrule) hbase hlink
    · cases h

namespace Field

/-- Where linking a field ends with an error, it does so at what one of the fields at and below it has. -/
theorem exists_of_link_error {registry : Registry} {field : Field} {failure : Failure SpecError}
    (h : Field.link registry root field = .error failure) :
    ∃ g ∈ field.preorder, g.info.link registry root = .error failure := by
  induction field using Field.induction_parts with
  | leaf info kind =>
    rcases bind_eq_error_iff.mp h with hinfo | ⟨_, _, h⟩
    · exact ⟨_, self_mem_preorder _, hinfo⟩
    · cases h
  | group info children ih =>
    rcases bind_eq_error_iff.mp h with hinfo | ⟨_, _, h⟩
    · exact ⟨_, self_mem_preorder _, hinfo⟩
    · rcases bind_eq_error_iff.mp h with hchildren | ⟨_, _, h⟩
      · rw [linkAll_eq_mapM] at hchildren
        obtain ⟨c, hc, hlink⟩ := exists_of_mapM_eq_error hchildren
        obtain ⟨g, hg, hfailure⟩ := ih c hc hlink
        exact ⟨g, mem_preorder_iff.mpr (.inr ⟨c, hc, hg⟩), hfailure⟩
      · cases h
  | array info item ih =>
    rcases bind_eq_error_iff.mp h with hinfo | ⟨_, _, h⟩
    · exact ⟨_, self_mem_preorder _, hinfo⟩
    · rcases bind_eq_error_iff.mp h with hitem | ⟨_, _, h⟩
      · obtain ⟨g, hg, hfailure⟩ := ih hitem
        exact ⟨g, mem_preorder_iff.mpr (.inr ⟨item, List.mem_singleton_self item, hg⟩), hfailure⟩
      · cases h

/-- **Linking what has been built over the standard rules has a result or refuses.** -/
theorem link_ne_fault (hplaced : root.Placed [])
    (hdeclared : ∀ g ∈ root.preorder, g.info.IsDeclared Registry.standard g.kind) :
    Field.link Registry.standard root root ≠ .error (.fault f) := by
  intro h
  obtain ⟨g, hg, hfault⟩ := exists_of_link_error h
  obtain ⟨p, hplace, hat⟩ := hplaced.exists_at?_of_mem hg
  rw [List.nil_append] at hplace
  exact FieldInfo.link_ne_fault (hdeclared g hg) (hplace ▸ hat) hfault

end Field

end FormCheck
