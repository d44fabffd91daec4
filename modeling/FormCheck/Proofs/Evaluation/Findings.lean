import FormCheck.Proofs.Evaluation.Reach

/-!
# What the rules of a field find

The rules of a field are asked one after the other, up to the first one that a value fails.  This file says
what an answer tells about the rules:

* `Setting.Passes` — a value passes a rule;
* `Setting.firstFinding_eq_none_iff` — **proved**: nothing is found exactly when the value passes all rules;
* `Setting.firstFinding_eq_some_iff` — **proved**: a finding is that of a rule which the value fails and
  before which it passes all others;
* `Setting.findings_of_reportFrom` — **proved**: a report has no findings where the field is off, and else
  what its rules find;
* `Report.FindsOneAtMost`, `Setting.findsOneAtMost_of_reportFrom` — **proved**: a report has one finding at most, at its
  own place;
* `Registry.exists_key` — **proved**: a verdict of failure names the key of a message.
-/

namespace FormCheck

open Fallible

/-! ### Keys of messages -/

theorem Verdict.keyed_passed (verdict : Verdict) (name : String) :
    (verdict.keyed name).passed = verdict.passed := by
  rw [Verdict.keyed]
  split <;> rfl

theorem Registry.exists_of_evaluate {registry : Registry} {name : String} {v : Value} {argument : Argument}
    {context : Context} {verdict : Verdict} (h : registry.evaluate name v argument context = .ok verdict) :
    ∃ rule, registry.get? name = some rule ∧ rule.evaluate v argument context = .ok verdict := by
  rw [Registry.evaluate] at h
  cases hrule : registry.get? name with
  | none => rw [hrule] at h; cases h
  | some rule =>
    rw [hrule] at h
    exact ⟨rule, rfl, h⟩

/-- A registry leaves no failure without the key of a message. -/
theorem Registry.exists_key {registry : Registry} {name : String} {v : Value} {argument : Argument}
    {context : Context} {verdict : Verdict} (h : registry.evaluate name v argument context = .ok verdict)
    (hfail : verdict.passed = false) : ∃ key, verdict.key = some key := by
  obtain ⟨rule, _, h⟩ := Registry.exists_of_evaluate h
  rw [Rule.evaluate] at h
  split at h
  · cases h
    cases hfail
  · obtain ⟨found, _, rfl⟩ := map_eq_ok_iff.mp h
    rw [Verdict.keyed_passed] at hfail
    rw [Verdict.keyed, hfail, if_neg Bool.false_ne_true]
    exact ⟨_, rfl⟩

/-- A report has one finding at most, at its own place, and none where the field does not take part. -/
def Report.FindsOneAtMost (r : Report) : Prop :=
  r.findings = [] ∨ r.skipped = false ∧ ∃ finding, r.findings = [finding] ∧ finding.path = r.path

namespace Setting

variable (s : Setting) {field : Field} {path : Path} {v : Value}

/-! ### One rule -/

/-- What a rule says about a value of the field at a place. -/
def verdictOf (field : Field) (path : Path) (v : Value) (rule : DeclaredRule) : Except Fault Verdict :=
  s.registry.evaluate rule.name v rule.prepared (s.context field path rule)

/-- The value passes the rule. -/
def Passes (field : Field) (path : Path) (v : Value) (rule : DeclaredRule) : Prop :=
  ∃ verdict, s.verdictOf field path v rule = .ok verdict ∧ verdict.passed = true

theorem firstFinding_of_passes {rule : DeclaredRule} (rest : List DeclaredRule)
    (h : s.Passes field path v rule) :
    s.firstFinding field path v (rule :: rest) = s.firstFinding field path v rest := by
  obtain ⟨verdict, hverdict, hpassed⟩ := h
  show (s.verdictOf field path v rule >>= _) = _
  rw [hverdict, ok_bind, hpassed, if_pos rfl]

theorem firstFinding_of_fails {rule : DeclaredRule} {verdict : Verdict} (rest : List DeclaredRule)
    (h : s.verdictOf field path v rule = .ok verdict) (hfail : verdict.passed = false) :
    s.firstFinding field path v (rule :: rest) = .ok (some (s.findingOf path v rule verdict)) := by
  show (s.verdictOf field path v rule >>= _) = _
  rw [h, ok_bind, hfail, if_neg Bool.false_ne_true]
  rfl

/-- Asking the rules has a result only if asking the first one has. -/
theorem passes_or_fails {rule : DeclaredRule} {rest : List DeclaredRule} {found : Option Finding}
    (h : s.firstFinding field path v (rule :: rest) = .ok found) :
    s.Passes field path v rule ∨
      ∃ verdict, s.verdictOf field path v rule = .ok verdict ∧ verdict.passed = false := by
  obtain ⟨verdict, hverdict, _⟩ := bind_eq_ok_iff.mp h
  cases hpassed : verdict.passed with
  | true => exact .inl ⟨verdict, hverdict, hpassed⟩
  | false => exact .inr ⟨verdict, hverdict, hpassed⟩

/-! ### One rule after the other -/

/-- **Nothing is found exactly when the value passes all rules.** -/
theorem firstFinding_eq_none_iff {rules : List DeclaredRule} :
    s.firstFinding field path v rules = .ok none ↔ ∀ rule ∈ rules, s.Passes field path v rule := by
  induction rules with
  | nil => exact ⟨fun _ => List.forall_mem_nil _, fun _ => rfl⟩
  | cons rule rest ih =>
    rw [List.forall_mem_cons, ← ih]
    constructor
    · intro h
      rcases s.passes_or_fails h with hpass | ⟨verdict, hverdict, hfail⟩
      · exact ⟨hpass, s.firstFinding_of_passes rest hpass ▸ h⟩
      · rw [s.firstFinding_of_fails rest hverdict hfail] at h
        cases h
    · rintro ⟨hpass, hrest⟩
      rw [s.firstFinding_of_passes rest hpass, hrest]

/-- **A finding is that of the first rule which the value fails.** -/
theorem firstFinding_eq_some_iff {rules : List DeclaredRule} {finding : Finding} :
    s.firstFinding field path v rules = .ok (some finding) ↔
      ∃ before rule after verdict, rules = before ++ rule :: after ∧
        (∀ b ∈ before, s.Passes field path v b) ∧
        s.verdictOf field path v rule = .ok verdict ∧ verdict.passed = false ∧
        finding = s.findingOf path v rule verdict := by
  constructor
  · intro h
    induction rules with
    | nil => cases h
    | cons rule rest ih =>
      rcases s.passes_or_fails h with hpass | ⟨verdict, hverdict, hfail⟩
      · rw [s.firstFinding_of_passes rest hpass] at h
        obtain ⟨before, failed, after, verdict, rfl, hbefore, hfailed⟩ := ih h
        have hpassed := List.forall_mem_cons.mpr ⟨hpass, hbefore⟩
        exact ⟨rule :: before, failed, after, verdict, rfl, hpassed, hfailed⟩
      · rw [s.firstFinding_of_fails rest hverdict hfail] at h
        cases h
        exact ⟨[], rule, rest, verdict, rfl, List.forall_mem_nil _, hverdict, hfail, rfl⟩
  · rintro ⟨before, rule, after, verdict, rfl, hbefore, hverdict, hfail, rfl⟩
    induction before with
    | nil => exact s.firstFinding_of_fails after hverdict hfail
    | cons b before ih =>
      rw [List.forall_mem_cons] at hbefore
      rw [List.cons_append, s.firstFinding_of_passes _ hbefore.1]
      exact ih hbefore.2

/-- Asking the rules has a result if asking each of them has. -/
theorem exists_firstFinding {rules : List DeclaredRule}
    (h : ∀ rule ∈ rules, ∃ verdict, s.verdictOf field path v rule = .ok verdict) :
    ∃ found, s.firstFinding field path v rules = .ok found := by
  induction rules with
  | nil => exact ⟨none, rfl⟩
  | cons rule rest ih =>
    rw [List.forall_mem_cons] at h
    obtain ⟨verdict, hverdict⟩ := h.1
    cases hpassed : verdict.passed with
    | true =>
      rw [s.firstFinding_of_passes rest ⟨verdict, hverdict, hpassed⟩]
      exact ih h.2
    | false => exact ⟨_, s.firstFinding_of_fails rest hverdict hpassed⟩

/-! ### The findings of a report -/

/-- A report has no findings where the field is off, and else what its rules find first. -/
theorem findings_of_reportFrom {skipped : Bool} {visit : Visit} {r : Report}
    (h : s.reportFrom path skipped field visit = .ok r) :
    (r.skipped = true ∧ r.findings = []) ∨ (r.skipped = false ∧ ∃ found,
      s.firstFinding r.field r.path (r.field.seen visit.raw) (s.rulesOf r.field) = .ok found ∧
        r.findings = found.toList) := by
  obtain ⟨off, findings, _, hfindings, rfl⟩ := s.reportFrom_eq_ok_iff.mp h
  cases off with
  | true =>
    cases hfindings
    exact .inl ⟨rfl, rfl⟩
  | false =>
    obtain ⟨found, hfound, hout⟩ := bind_eq_ok_iff.mp hfindings
    cases hout
    exact .inr ⟨rfl, found, hfound, rfl⟩

theorem findsOneAtMost_of_reportFrom {skipped : Bool} {visit : Visit} {r : Report}
    (h : s.reportFrom path skipped field visit = .ok r) : r.FindsOneAtMost := by
  rcases s.findings_of_reportFrom h with ⟨_, hnone⟩ | ⟨hon, found, hfound, hout⟩
  · exact .inl hnone
  · cases found with
    | none => exact .inl hout
    | some finding =>
      obtain ⟨_, _, _, _, _, _, _, _, rfl⟩ := s.firstFinding_eq_some_iff.mp hfound
      exact .inr ⟨hon, _, hout, rfl⟩

end Setting

end FormCheck
