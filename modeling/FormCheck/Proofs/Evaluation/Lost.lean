import FormCheck.Proofs.Evaluation.Addressed
import FormCheck.Proofs.Evaluation.Gating
import FormCheck.Proofs.Evaluation.Order
import FormCheck.Proofs.Form.Declared

/-!
# Rules that are lost

A form is built under a registry, and rules may be taken out of the registry afterwards.  An evaluation notices this only
where it comes to a rule that is gone: at a place that takes part, after all rules before that one have passed.

* `Registry.eraseAll` — the registry without the rules of some names;
* `Form.ComesTo` — an evaluation comes to a rule of the field at a place;
* `Form.Answers` — every condition and every registered rule that an evaluation comes to has an answer;
* `Form.Loses` — at a place an evaluation comes to a declared rule that is gone;
* `Setting.firstFinding_eq_error_iff`, `Form.reportFrom_eq_error_iff` — **proved**: asking the rules of a field breaks off
  at the first one that has no answer, and so a report is missing exactly at the places that lose a rule;
* `Form.lost_rules_are_noticed` — **proved**: the evaluation breaks off exactly if there is such a place, at the first one
  of them, and otherwise it says what it says under the full registry.
-/

namespace FormCheck

open Fallible

/-! ### Registries -/

namespace Registry

/-- The registry without the rules of some names. -/
def eraseAll (registry : Registry) (names : List String) : Registry :=
  names.foldl erase registry

theorem get?_eraseAll_of_not_mem {names : List String} {name : String} (h : name ∉ names) (registry : Registry) :
    (registry.eraseAll names).get? name = registry.get? name := by
  induction names generalizing registry with
  | nil => rfl
  | cons first names ih =>
    rw [List.mem_cons, not_or] at h
    show ((registry.erase first).eraseAll names).get? name = _
    rw [ih h.2, get?_erase_of_ne registry h.1]

theorem get?_eraseAll_of_mem {names : List String} {name : String} (h : name ∈ names) (registry : Registry) :
    (registry.eraseAll names).get? name = none := by
  induction names generalizing registry with
  | nil => cases h
  | cons first names ih =>
    show ((registry.erase first).eraseAll names).get? name = none
    by_cases hmore : name ∈ names
    · exact ih hmore _
    · rcases List.mem_cons.mp h with rfl | hrest
      · rw [get?_eraseAll_of_not_mem hmore, get?_erase_self]
      · exact absurd hrest hmore

/-- Only the rules of the names are gone. -/
theorem get?_eraseAll_eq_some {names : List String} {name : String} {registry : Registry} {rule : Rule} :
    (registry.eraseAll names).get? name = some rule ↔ name ∉ names ∧ registry.get? name = some rule := by
  by_cases h : name ∈ names
  · rw [get?_eraseAll_of_mem h]
    simp [h]
  · rw [get?_eraseAll_of_not_mem h]
    simp [h]

theorem evaluate_of_get?_none {registry : Registry} {name : String} (h : registry.get? name = none) (v : Value)
    (argument : Argument) (context : Context) :
    registry.evaluate name v argument context = .error (.unknownRule name) := by
  rw [evaluate, h]

end Registry

/-! ### The first rule without an answer -/

namespace Setting

variable (s : Setting) {field : Field} {path : Path} {v : Value}

/-- **Asking the rules breaks off at the first one that has no answer**, after the value has passed those before it. -/
theorem firstFinding_eq_error_iff {rules : List DeclaredRule} {f : Fault} :
    s.firstFinding field path v rules = .error f ↔
      ∃ before rule after, rules = before ++ rule :: after ∧
        (∀ b ∈ before, s.Passes field path v b) ∧ s.verdictOf field path v rule = .error f := by
  constructor
  · intro h
    induction rules with
    | nil => cases h
    | cons rule rest ih =>
      cases hverdict : s.verdictOf field path v rule with
      | error g =>
        have hsame : s.firstFinding field path v (rule :: rest) = .error g := by
          show (s.verdictOf field path v rule >>= _) = _
          rw [hverdict, error_bind]
        obtain rfl := Except.error.inj (hsame.symm.trans h)
        exact ⟨[], rule, rest, rfl, List.forall_mem_nil _, hverdict⟩
      | ok verdict =>
        cases hpassed : verdict.passed with
        | false =>
          rw [s.firstFinding_of_fails rest hverdict hpassed] at h
          cases h
        | true =>
          have hpass : s.Passes field path v rule := ⟨verdict, hverdict, hpassed⟩
          rw [s.firstFinding_of_passes rest hpass] at h
          obtain ⟨before, broken, after, rfl, hbefore, hbroken⟩ := ih h
          exact ⟨rule :: before, broken, after, rfl, List.forall_mem_cons.mpr ⟨hpass, hbefore⟩, hbroken⟩
  · rintro ⟨before, rule, after, rfl, hbefore, hbroken⟩
    induction before with
    | nil =>
      show (s.verdictOf field path v rule >>= _) = _
      rw [hbroken, error_bind]
    | cons b before ih =>
      rw [List.forall_mem_cons] at hbefore
      rw [List.cons_append, s.firstFinding_of_passes _ hbefore.1]
      exact ih hbefore.2

/-- A field is asked one row of rules. -/
theorem Asked.unique {s : Setting} {rules others : List DeclaredRule} (h : s.Asked field rules)
    (hothers : s.Asked field others) : rules = others := by
  cases h with
  | declared hnone =>
    cases hothers with
    | declared _ => rfl
    | withNumber hadds => exact absurd hadds hnone
  | withNumber hadds =>
    cases hothers with
    | declared hnone => exact absurd hadds hnone
    | withNumber _ => rfl

end Setting

/-! ### Where an evaluation comes to a rule -/

namespace Form

/-- An evaluation comes to a rule of the field at a place: no condition on the way switches the place off, and the value
there passes all rules that the field is asked before this one. -/
inductive ComesTo (form : Form) (s : Setting) (p : Path) (field : Field) (rule : DeclaredRule) : Prop where
  | intro {before after : List DeclaredRule} : form.Reaches s.data p → (∀ q, q <+: p → ¬ form.SwitchesOff s.data q) →
      form.fieldAt? p = some field → s.Asked field (before ++ rule :: after) →
      (∀ b ∈ before, s.Passes field p (field.seen (s.data.follow p)) b) → ComesTo form s p field rule

/-- Nothing that an evaluation comes to is without an answer, unless its rule is not registered. -/
structure Answers (form : Form) (s : Setting) : Prop where
  conditions : ∀ p field c, form.Reaches s.data p → (∀ q, q <+: p → q ≠ p → ¬ form.SwitchesOff s.data q) →
    form.fieldAt? p = some field → field.info.condition = some c → ∃ b, c.holds (Comparison.valueAt s.data p) = .ok b
  rules : ∀ p field rule definition, form.ComesTo s p field rule → s.registry.get? rule.name = some definition →
    ∃ verdict, s.verdictOf field p (field.seen (s.data.follow p)) rule = .ok verdict

/-- At a place an evaluation comes to a rule that the field declares, and the rule of that name is gone. -/
def Loses (form : Form) (s : Setting) (names : List String) (p : Path) (name : String) : Prop :=
  ∃ field rule, form.ComesTo s p field rule ∧ rule ∈ field.info.rules ∧ rule.name = name ∧ name ∈ names

variable {form : Form} {s : Setting} {v : Visit}

/-- The rules that an evaluation comes to, from the visits. -/
theorem comesTo_iff_of_mem_visits (hplaced : form.root.Placed []) (hv : v ∈ form.root.visits s.data) {field : Field}
    {rule : DeclaredRule} :
    form.ComesTo s v.path field rule ↔ field = v.field ∧ form.isGated s.data v.path = false ∧
      ∃ before after, s.rulesOf v.field = before ++ rule :: after ∧
        ∀ b ∈ before, s.Passes v.field v.path (v.field.seen v.raw) b := by
  have hfield := fieldAt?_of_mem_visits hplaced hv
  have hraw := Field.follow_of_mem_visits hv
  have hgated : form.isGated s.data v.path = false ↔ ∀ q, q <+: v.path → ¬ form.SwitchesOff s.data q := by
    rw [← Bool.not_eq_true, isGated_iff]
    push Not
    rfl
  rw [hgated]
  constructor
  · rintro ⟨_, hon, hat, hasked, hbefore⟩
    obtain rfl := Option.some.inj (hfield.symm.trans hat)
    rw [hraw] at hbefore
    exact ⟨rfl, hon, _, _, (hasked.unique (s.asked_rulesOf _)).symm, hbefore⟩
  · rintro ⟨rfl, hon, before, after, hrules, hbefore⟩
    refine .intro ((mem_visits_iff_reaches hplaced).mp ⟨v, hv, rfl⟩) hon hfield (hrules ▸ s.asked_rulesOf _) ?_
    rwa [hraw]

/-- A report is missing if asking the rules of the field breaks off at a place that takes part. -/
theorem reportFrom_eq_error_iff_of_isOff {off : Bool} (hoff : s.isOff form.root [] v.path = .ok off) {f : Fault} :
    s.reportFrom [] false form.root v = .error f ↔
      off = false ∧ s.firstFinding v.field v.path (v.field.seen v.raw) (s.rulesOf v.field) = .error f := by
  have hbelow : s.isOffBelow false form.root [] v.path = .ok off := hoff
  rw [Setting.reportFrom, hbelow, ok_bind, bind_eq_error_iff]
  constructor
  · rintro (h | ⟨_, _, h⟩)
    · cases off with
      | true => cases h
      | false =>
        rcases bind_eq_error_iff.mp h with h | ⟨_, _, h⟩
        · exact ⟨rfl, h⟩
        · cases h
    · cases h
  · rintro ⟨rfl, h⟩
    exact .inl (bind_eq_error_iff.mpr (.inl h))

variable {registry : Registry} {names : List String}

/-- A rule that is asked and not registered is one that the field declares. -/
theorem mem_declared_of_asked {field : Field} {rules : List DeclaredRule} {rule : DeclaredRule}
    (hasked : s.Asked field rules) (hrule : rule ∈ rules) (hnone : s.registry.get? rule.name = none) :
    rule ∈ field.info.rules := by
  cases hasked with
  | declared _ => exact hrule
  | withNumber hadds =>
    rcases List.mem_cons.mp hrule with rfl | hrule
    · obtain ⟨_, _, _, _, hnumber⟩ := hadds
      cases hnone.symm.trans hnumber
    · exact hrule

/-- **A report is missing exactly where a rule is lost.** -/
theorem reportFrom_eq_error_iff (hplaced : form.root.Placed []) (hs : s.registry = registry.eraseAll names)
    (hanswers : form.Answers s) (hv : v ∈ form.root.visits s.data)
    (hdeclared : ∀ rule ∈ v.field.info.rules, ∃ definition, registry.get? rule.name = some definition) {f : Fault} :
    s.reportFrom [] false form.root v = .error f ↔ ∃ name, f = .unknownRule name ∧ form.Loses s names v.path name := by
  obtain ⟨off, hoff⟩ := exists_isOff_root hplaced hanswers.conditions hv
  rw [reportFrom_eq_error_iff_of_isOff hoff, isOff_root hoff]
  constructor
  · rintro ⟨hon, hbroken⟩
    obtain ⟨before, rule, after, hrules, hbefore, hverdict⟩ := s.firstFinding_eq_error_iff.mp hbroken
    have hcomes : form.ComesTo s v.path v.field rule :=
      (comesTo_iff_of_mem_visits hplaced hv).mpr ⟨rfl, hon, before, after, hrules, hbefore⟩
    have hnone : s.registry.get? rule.name = none := by
      cases hdefinition : s.registry.get? rule.name with
      | none => rfl
      | some definition =>
        obtain ⟨verdict, hanswer⟩ := hanswers.rules _ _ _ _ hcomes hdefinition
        rw [Field.follow_of_mem_visits hv, hverdict] at hanswer
        cases hanswer
    rw [Setting.verdictOf, Registry.evaluate_of_get?_none hnone] at hverdict
    have hrule : rule ∈ v.field.info.rules :=
      mem_declared_of_asked (hrules ▸ s.asked_rulesOf v.field)
        (List.mem_append_right before List.mem_cons_self) hnone
    refine ⟨rule.name, (Except.error.inj hverdict).symm, v.field, rule, hcomes, hrule, rfl, ?_⟩
    obtain ⟨definition, hdefinition⟩ := hdeclared rule hrule
    by_contra hname
    rw [hs, Registry.get?_eraseAll_of_not_mem hname, hdefinition] at hnone
    cases hnone
  · rintro ⟨name, rfl, field, rule, hcomes, _, rfl, hname⟩
    obtain ⟨rfl, hon, before, after, hrules, hbefore⟩ := (comesTo_iff_of_mem_visits hplaced hv).mp hcomes
    refine ⟨hon, s.firstFinding_eq_error_iff.mpr ⟨before, rule, after, hrules, hbefore, ?_⟩⟩
    rw [Setting.verdictOf, hs, Registry.evaluate_of_get?_none (Registry.get?_eraseAll_of_mem hname registry)]

/-- A report is there where no rule is lost. -/
theorem exists_reportFrom_of_not_loses (names : List String) (hplaced : form.root.Placed [])
    (hs : s.registry = registry.eraseAll names) (hanswers : form.Answers s) (hv : v ∈ form.root.visits s.data)
    (hdeclared : ∀ rule ∈ v.field.info.rules, ∃ definition, registry.get? rule.name = some definition)
    (h : ∀ name, ¬ form.Loses s names v.path name) : ∃ r, s.reportFrom [] false form.root v = .ok r := by
  cases hreport : s.reportFrom [] false form.root v with
  | ok r => exact ⟨r, rfl⟩
  | error f =>
    obtain ⟨name, _, hloses⟩ := (reportFrom_eq_error_iff hplaced hs hanswers hv hdeclared).mp hreport
    exact absurd hloses (h name)

end Form

/-! ### What is found without the rules that are gone -/

namespace Setting

variable {full lost : Setting} {names : List String} {field : Field} {path : Path} {v : Value}

/-- What a rule says that is still there is what it says under the full registry. -/
theorem verdictOf_of_eraseAll (hlost : lost = { full with registry := full.registry.eraseAll names })
    {rule : DeclaredRule} {verdict : Verdict} (h : lost.verdictOf field path v rule = .ok verdict) :
    full.verdictOf field path v rule = .ok verdict ∧
      full.findingOf path v rule verdict = lost.findingOf path v rule verdict := by
  subst hlost
  obtain ⟨definition, hdefinition, hverdict⟩ := Registry.exists_of_evaluate h
  have hsame := (Registry.get?_eraseAll_eq_some.mp hdefinition).2
  constructor
  · rw [verdictOf, Registry.evaluate, hsame]
    exact hverdict
  · rw [findingOf, findingOf, hsame, hdefinition]

/-- What rules find that are all there is what they find under the full registry. -/
theorem firstFinding_of_eraseAll (hlost : lost = { full with registry := full.registry.eraseAll names })
    {rules : List DeclaredRule} {found : Option Finding} (h : lost.firstFinding field path v rules = .ok found) :
    full.firstFinding field path v rules = .ok found := by
  induction rules with
  | nil => exact h
  | cons rule rest ih =>
    rcases lost.passes_or_fails h with hpass | ⟨verdict, hverdict, hfail⟩
    · rw [lost.firstFinding_of_passes rest hpass] at h
      obtain ⟨verdict, hverdict, hpassed⟩ := hpass
      rw [full.firstFinding_of_passes rest ⟨verdict, (verdictOf_of_eraseAll hlost hverdict).1, hpassed⟩]
      exact ih h
    · obtain ⟨hfull, hfinding⟩ := verdictOf_of_eraseAll hlost hverdict
      rw [lost.firstFinding_of_fails rest hverdict hfail] at h
      rw [full.firstFinding_of_fails rest hfull hfail, hfinding]
      exact h

/-- The field is asked the same rules, or it has lost the rule for numbers that came by itself. -/
theorem rulesOf_of_eraseAll (hlost : lost = { full with registry := full.registry.eraseAll names }) (field : Field) :
    full.rulesOf field = lost.rulesOf field ∨
      full.AddsNumber field ∧ "number" ∈ names ∧ full.rulesOf field = .number :: lost.rulesOf field := by
  subst hlost
  have hfull := full.asked_rulesOf field
  have hlost := Setting.asked_rulesOf { full with registry := full.registry.eraseAll names } field
  by_cases hadds : full.AddsNumber field
  · by_cases hname : "number" ∈ names
    · have hnone : ¬ ({ full with registry := full.registry.eraseAll names } : Setting).AddsNumber field := by
        rintro ⟨_, _, _, rule, hrule⟩
        exact (Registry.get?_eraseAll_eq_some.mp hrule).1 hname
      rw [hfull.unique (.withNumber hadds), hlost.unique (.declared hnone)]
      exact .inr ⟨hadds, hname, rfl⟩
    · have hstill : ({ full with registry := full.registry.eraseAll names } : Setting).AddsNumber field := by
        obtain ⟨himplicit, hkind, hnone, rule, hrule⟩ := hadds
        exact ⟨himplicit, hkind, hnone, rule, Registry.get?_eraseAll_eq_some.mpr ⟨hname, hrule⟩⟩
      rw [hfull.unique (.withNumber hadds), hlost.unique (.withNumber hstill)]
      exact .inl rfl
  · have hnone : ¬ ({ full with registry := full.registry.eraseAll names } : Setting).AddsNumber field := by
      rintro ⟨himplicit, hkind, hnone, rule, hrule⟩
      exact hadds ⟨himplicit, hkind, hnone, rule, (Registry.get?_eraseAll_eq_some.mp hrule).2⟩
    rw [hfull.unique (.declared hadds), hlost.unique (.declared hnone)]
    exact .inl rfl

end Setting

/-- The reports are the same, or the field has lost the rule for numbers that came by itself: then the second report tells
that the value fails this rule, and the first one is the same but for what it tells of failures. -/
inductive Report.SameButNumber (full : Setting) (names : List String) (r whole : Report) : Prop where
  | same : r = whole → SameButNumber full names r whole
  | number : full.AddsNumber whole.field → "number" ∈ names → r.path = whole.path → r.field = whole.field →
      r.present = whole.present → r.skipped = whole.skipped → whole.findings.map Finding.rule = ["number"] →
      SameButNumber full names r whole

namespace Form

variable {form : Form} {v : Visit} {names : List String} {full lost : Setting}

theorem sameButNumber_of_reportFrom (hlost : lost = { full with registry := full.registry.eraseAll names })
    {r whole : Report} (hr : lost.reportFrom [] false form.root v = .ok r)
    (hwhole : full.reportFrom [] false form.root v = .ok whole) : r.SameButNumber full names whole := by
  obtain ⟨off, findings, hoff, hfindings, rfl⟩ := lost.reportFrom_eq_ok_iff.mp hr
  obtain ⟨also, more, halso, hmore, rfl⟩ := full.reportFrom_eq_ok_iff.mp hwhole
  have hdata : lost.data = full.data := by rw [hlost]
  obtain rfl : off = also := by rw [isOff_root hoff, isOff_root halso, hdata]
  cases off with
  | true =>
    cases hfindings
    cases hmore
    exact .same rfl
  | false =>
    obtain ⟨found, hfound, hout⟩ := bind_eq_ok_iff.mp hfindings
    cases hout
    obtain ⟨there, hthere, hout⟩ := bind_eq_ok_iff.mp hmore
    cases hout
    have hsame := Setting.firstFinding_of_eraseAll hlost hfound
    rcases Setting.rulesOf_of_eraseAll hlost v.field with hrules | ⟨hadds, hname, hrules⟩
    · rw [hrules, hsame] at hthere
      cases hthere
      exact .same rfl
    · rw [hrules] at hthere
      rcases full.passes_or_fails hthere with hpass | ⟨verdict, hverdict, hfail⟩
      · rw [full.firstFinding_of_passes _ hpass, hsame] at hthere
        cases hthere
        exact .same rfl
      · rw [full.firstFinding_of_fails _ hverdict hfail] at hthere
        cases hthere
        exact .number hadds hname rfl rfl rfl rfl rfl

/-! ### The whole evaluation -/

variable {registry : Registry} {s : Setting}

section

variable (hplaced : form.root.Placed [])
  (hreports : ∀ v ∈ form.root.visits s.data, ∀ f, s.reportFrom [] false form.root v = .error f ↔
    ∃ name, f = .unknownRule name ∧ form.Loses s names v.path name)

include hplaced hreports

/-- A place that loses a rule is visited, and its report is missing. -/
theorem exists_visit_of_loses {p : Path} {name : String} (h : form.Loses s names p name) :
    ∃ v ∈ form.root.visits s.data, v.path = p ∧ s.reportFrom [] false form.root v = .error (.unknownRule name) := by
  obtain ⟨_, _, ⟨hreaches, _⟩, _⟩ := id h
  obtain ⟨v, hv, rfl⟩ := hreaches.exists_visit hplaced
  exact ⟨v, hv, rfl, (hreports v hv _).mpr ⟨name, rfl, h⟩⟩

/-- What the first missing report tells is what the first loss is. -/
theorem first_loss_of_error {f : Fault}
    (h : (form.root.visits s.data).mapM (s.reportFrom [] false form.root) = .error f) :
    ∃ p name, f = .unknownRule name ∧ form.Loses s names p name ∧
      ∀ q other, form.Loses s names q other → q = p ∨ form.Before p q := by
  obtain ⟨before, v, after, hvisits, hbefore, hv⟩ := mapM_eq_error_iff.mp h
  have hmem : v ∈ form.root.visits s.data := by simp [hvisits]
  obtain ⟨name, rfl, hloses⟩ := (hreports v hmem f).mp hv
  refine ⟨v.path, name, rfl, hloses, ?_⟩
  intro q other hother
  obtain ⟨w, hw, rfl, hbroken⟩ := exists_visit_of_loses hplaced hreports hother
  have hordered := Field.visits_increasing hplaced s.data
  rw [hvisits] at hw hordered
  rcases List.mem_append.mp hw with hw | hw
  · obtain ⟨r, hr⟩ := hbefore w hw
    cases hr.symm.trans hbroken
  · rcases List.mem_cons.mp hw with rfl | hw
    · exact .inl rfl
    · exact .inr ((List.pairwise_cons.mp (List.pairwise_append.mp hordered).2.1).1 w hw)

/-- An evaluation breaks off if some place loses a rule. -/
theorem exists_error_of_loses {p : Path} {name : String} (h : form.Loses s names p name) :
    ∃ f, (form.root.visits s.data).mapM (s.reportFrom [] false form.root) = .error f := by
  obtain ⟨v, hv, _, hbroken⟩ := exists_visit_of_loses hplaced hreports h
  cases hrun : (form.root.visits s.data).mapM (s.reportFrom [] false form.root) with
  | ok reports =>
    obtain ⟨r, _, hr⟩ := exists_mem_of_mapM hrun hv
    cases hr.symm.trans hbroken
  | error f => exact ⟨f, rfl⟩

/-- **An evaluation breaks off at the first place that loses a rule**, with the name of this rule. -/
theorem mapM_reportFrom_eq_error_iff {f : Fault} :
    (form.root.visits s.data).mapM (s.reportFrom [] false form.root) = .error f ↔
      ∃ p name, f = .unknownRule name ∧ form.Loses s names p name ∧
        ∀ q other, form.Loses s names q other → q = p ∨ form.Before p q := by
  refine ⟨first_loss_of_error hplaced hreports, ?_⟩
  rintro ⟨p, name, rfl, hloses, hleast⟩
  obtain ⟨g, hrun⟩ := exists_error_of_loses hplaced hreports hloses
  obtain ⟨q, other, rfl, hother, hbefore⟩ := first_loss_of_error hplaced hreports hrun
  -- Of two places that both come first each is the other.
  obtain rfl : q = p := by
    rcases hleast q other hother with h | h
    · exact h
    · rcases hbefore p name hloses with h' | h'
      · exact h'.symm
      · exact absurd (List.lt_trans h h') (List.lt_irrefl _)
  obtain ⟨v, hv, rfl, hbroken⟩ := exists_visit_of_loses hplaced hreports hloses
  rw [(hreports v hv _).mpr ⟨other, rfl, hother⟩] at hbroken
  rw [hrun, Except.error.inj hbroken]

end

/-- **Where no report is missing**, with the rules that are left or with all of them, the reports are the same but for the
rule for numbers. -/
theorem exists_evaluations (full : Setting) (hplaced : form.root.Placed [])
    (hlost : lost = { full with registry := full.registry.eraseAll names })
    (hreports : ∀ v ∈ form.root.visits full.data, ∃ r, lost.reportFrom [] false form.root v = .ok r)
    (hwhole : ∀ v ∈ form.root.visits full.data, ∃ r, full.reportFrom [] false form.root v = .ok r) :
    ∃ reports whole,
      form.evaluate lost.registry lost.implicitNumber lost.data lost.language = .ok reports ∧
      form.evaluate full.registry full.implicitNumber full.data full.language = .ok whole ∧
      List.Forall₂ (Report.SameButNumber full names) reports whole := by
  obtain ⟨reports, hreports⟩ := exists_mapM_eq_ok hreports
  obtain ⟨whole, hwhole⟩ := exists_mapM_eq_ok hwhole
  subst hlost
  refine ⟨reports, whole, ?_, ?_, ?_⟩
  · rw [evaluate_eq_mapM hplaced]
    exact hreports
  · rw [evaluate_eq_mapM hplaced]
    exact hwhole
  · have hsame : List.Forall₂ (fun v w : Visit => v = w) (form.root.visits full.data) (form.root.visits full.data) :=
      List.forall₂_same.mpr fun _ _ => rfl
    refine forall₂_of_mapM hsame hreports hwhole ?_
    rintro v w r f rfl hr hf
    exact sameButNumber_of_reportFrom rfl hr hf

/-- **Lost rules are noticed exactly where an evaluation comes to them.**  Take a form that has been built under a
registry, some of whose rules are taken out afterwards, and data on which nothing that the evaluation comes to is without
an answer.  The evaluation breaks off exactly if some place loses a rule, and it names the rule that is lost at the first
such place.  If there is none, and nothing that comes before is without an answer under the full registry either, then
there are the reports that there are under the full registry, except that fields may have lost the rule for numbers that
came by itself. -/
theorem lost_rules_are_noticed {document : Value} (hkeys : document.keysOnce = true)
    (hform : Form.ofDocument registry document = .ok form) (names : List String) (implicitNumber : Bool) (data : Value)
    (language : Option String)
    (hanswers : form.Answers ⟨registry.eraseAll names, implicitNumber, data, language⟩) :
    let lost : Setting := ⟨registry.eraseAll names, implicitNumber, data, language⟩
    let full : Setting := ⟨registry, implicitNumber, data, language⟩
    let outcome := form.evaluate (registry.eraseAll names) implicitNumber data language
    ((∃ name, outcome = .error (.unknownRule name)) ↔ ∃ p name, form.Loses lost names p name) ∧
      (∀ name, outcome = .error (.unknownRule name) ↔ ∃ p, form.Loses lost names p name ∧
        ∀ q other, form.Loses lost names q other → q = p ∨ form.Before p q) ∧
      ((∀ p name, ¬ form.Loses lost names p name) → form.Answers full →
        ∃ reports whole, outcome = .ok reports ∧ form.evaluate registry implicitNumber data language = .ok whole ∧
          List.Forall₂ (Report.SameButNumber full names) reports whole) := by
  intro lost full outcome
  have hplaced := Form.root_placed hkeys hform
  have hdeclared : ∀ v ∈ form.root.visits data, ∀ rule ∈ v.field.info.rules,
      ∃ definition, registry.get? rule.name = some definition := by
    intro v hv rule hrule
    have hmem := Field.mem_preorder_of_at? (Field.at?_of_mem_visits hplaced hv)
    obtain ⟨definition, hdefinition, _⟩ := (Form.isDeclared_of_mem hform hmem).rules rule hrule
    exact ⟨definition, hdefinition⟩
  have hmissing : ∀ v ∈ form.root.visits data, ∀ f, lost.reportFrom [] false form.root v = .error f ↔
      ∃ name, f = .unknownRule name ∧ form.Loses lost names v.path name :=
    fun v hv f => reportFrom_eq_error_iff hplaced rfl hanswers hv (hdeclared v hv)
  have houtcome : outcome = (form.root.visits data).mapM (lost.reportFrom [] false form.root) :=
    evaluate_eq_mapM hplaced _ _ _ _
  have hnamed : ∀ name, outcome = .error (.unknownRule name) ↔ ∃ p, form.Loses lost names p name ∧
      ∀ q other, form.Loses lost names q other → q = p ∨ form.Before p q := by
    intro name
    rw [houtcome, mapM_reportFrom_eq_error_iff hplaced hmissing]
    constructor
    · rintro ⟨p, other, heq, hfirst⟩
      cases heq
      exact ⟨p, hfirst⟩
    · rintro ⟨p, hfirst⟩
      exact ⟨p, name, rfl, hfirst⟩
  refine ⟨⟨?_, ?_⟩, hnamed, ?_⟩
  · rintro ⟨name, hname⟩
    obtain ⟨p, hloses, _⟩ := (hnamed name).mp hname
    exact ⟨p, name, hloses⟩
  · rintro ⟨p, name, hloses⟩
    obtain ⟨f, hbroken⟩ := exists_error_of_loses hplaced hmissing hloses
    obtain ⟨_, other, rfl, _⟩ := first_loss_of_error hplaced hmissing hbroken
    exact ⟨other, houtcome.trans hbroken⟩
  · intro hnone hfull
    refine exists_evaluations full hplaced rfl ?_ ?_
    · intro v hv
      exact exists_reportFrom_of_not_loses names hplaced rfl hanswers hv (hdeclared v hv) (hnone v.path)
    · intro v hv
      refine exists_reportFrom_of_not_loses [] hplaced rfl hfull hv (hdeclared v hv) ?_
      rintro name ⟨_, _, _, _, _, hname⟩
      cases hname

/-- Every condition and every registered rule of the places over the data has an answer, whether or not an evaluation
comes to it. -/
def answersThroughout (form : Form) (s : Setting) : Bool :=
  (form.root.visits s.data).all fun v => form.answersAt s.data v.path &&
    (s.rulesOf v.field).all fun rule => !s.registry.contains rule.name ||
      (s.verdictOf v.field v.path (v.field.seen v.raw) rule).toOption.isSome

theorem answers_of_answersThroughout (hplaced : form.root.Placed []) (h : form.answersThroughout s = true) :
    form.Answers s := by
  have hall : ∀ p, form.Reaches s.data p → ∃ v ∈ form.root.visits s.data, v.path = p ∧
      form.answersAt s.data v.path = true ∧ ((s.rulesOf v.field).all fun rule => !s.registry.contains rule.name ||
        (s.verdictOf v.field v.path (v.field.seen v.raw) rule).toOption.isSome) = true := by
    intro p hp
    obtain ⟨v, hv, rfl⟩ := hp.exists_visit hplaced
    have hboth := List.all_eq_true.mp h v hv
    rw [Bool.and_eq_true] at hboth
    exact ⟨v, hv, rfl, hboth⟩
  constructor
  · intro p field c hp _ hfield hcondition
    obtain ⟨v, _, rfl, hanswers, _⟩ := hall p hp
    exact exists_holds_of_answersAt hanswers hfield hcondition
  · intro p field rule definition hcomes hdefinition
    obtain ⟨v, hv, rfl, _, hrules⟩ := hall p (by cases hcomes; assumption)
    obtain ⟨rfl, _, before, after, hasked, _⟩ := (comesTo_iff_of_mem_visits hplaced hv).mp hcomes
    have hrule := List.all_eq_true.mp hrules rule (hasked ▸ List.mem_append_right before List.mem_cons_self)
    rw [Registry.contains, hdefinition, Field.follow_of_mem_visits hv] at *
    cases hverdict : s.verdictOf v.field v.path (v.field.seen v.raw) rule with
    | ok verdict => exact ⟨verdict, rfl⟩
    | error f =>
      rw [hverdict] at hrule
      cases hrule

/-- A form to sign up with, on which news are sent only to those who want them. -/
def signup : Value :=
  .object [("type", .text "group"), ("properties", .object [
    ("news", .object [("type", .text "text")]),
    ("mail", .object [("type", .text "text"), ("rules", .object [("email", .bool true)]),
      ("condition", .object [("path", .text "news"), ("equals", .text "yes")])]),
    ("nick", .object [("type", .text "text"),
      ("rules", .object [("required", .bool true), ("maxlength", .int 8)])]),
    ("age", .object [("type", .text "number")])])]

/-- Some of the rules of that form. -/
def signupLost : List String :=
  ["email", "maxlength", "number"]

/-- Who wants news gives no address, and a nick. -/
def reader : Value :=
  .object [("news", .text "yes"), ("nick", .text "anna")]

/-- Who wants no news gives an address that is none, no nick, and an age that is no number. -/
def passerby : Value :=
  .object [("news", .text "no"), ("mail", .text "none"), ("age", .text "old")]

/-- The rule for addresses is missed where no address is given, and the one for lengths, which comes later, is not named.
Where no news are wanted and no nick is given nothing is missed, and only the age, which lost its own rule, passes. -/
theorem lost_rules_are_noticed_at_signup : ∃ form, Form.ofDocument Registry.standard signup = .ok form ∧
    (∃ p, form.Loses ⟨Registry.standard.eraseAll signupLost, true, reader, none⟩ signupLost p "email" ∧
      ∀ q other, form.Loses ⟨Registry.standard.eraseAll signupLost, true, reader, none⟩ signupLost q other →
        q = p ∨ form.Before p q) ∧
    (∀ p name, ¬ form.Loses ⟨Registry.standard.eraseAll signupLost, true, passerby, none⟩ signupLost p name) ∧
    ∃ reports whole, form.evaluate (Registry.standard.eraseAll signupLost) true passerby none = .ok reports ∧
      form.evaluate Registry.standard true passerby none = .ok whole ∧
      (reports.flatMap Report.findings).map Finding.rule = ["required"] ∧
      (whole.flatMap Report.findings).map Finding.rule = ["required", "number"] ∧
      List.Forall₂ (Report.SameButNumber ⟨Registry.standard, true, passerby, none⟩ signupLost) reports whole := by
  have hrun : ((Form.ofDocument Registry.standard signup).toOption.bind fun form =>
      (form.evaluate (Registry.standard.eraseAll signupLost) true passerby none).toOption.bind fun reports =>
        (form.evaluate Registry.standard true passerby none).toOption.bind fun whole =>
          some ((reports.flatMap Report.findings).map Finding.rule, (whole.flatMap Report.findings).map Finding.rule,
            form.answersThroughout ⟨Registry.standard.eraseAll signupLost, true, passerby, none⟩,
            form.answersThroughout ⟨Registry.standard, true, passerby, none⟩))
      = some (["required"], ["required", "number"], true, true) := by
    decide +kernel
  have hreaderRun : ((Form.ofDocument Registry.standard signup).toOption.map fun form =>
      (form.answersThroughout ⟨Registry.standard.eraseAll signupLost, true, reader, none⟩,
        match form.evaluate (Registry.standard.eraseAll signupLost) true reader none with
        | .error f => some f
        | .ok _ => none)) = some (true, some (.unknownRule "email")) := by
    decide +kernel
  obtain ⟨form, hform, hrun⟩ := exists_eq_ok_of_bind hrun
  rw [hform] at hreaderRun
  obtain ⟨reports, hreports, hrun⟩ := exists_eq_ok_of_bind hrun
  obtain ⟨whole, hwhole, hrun⟩ := exists_eq_ok_of_bind hrun
  have hkeys : signup.keysOnce = true := by decide +kernel
  have hplaced := Form.root_placed hkeys hform
  simp only [Option.some.injEq, Prod.mk.injEq] at hrun
  obtain ⟨hfound, hall, hpasserby, hfull⟩ := hrun
  obtain ⟨hreader, hbroken⟩ := Prod.mk.inj (Option.some.inj hreaderRun)
  obtain ⟨_, hnamed, _⟩ := lost_rules_are_noticed hkeys hform signupLost true reader none
    (answers_of_answersThroughout hplaced hreader)
  obtain ⟨hexists, _, hsame⟩ := lost_rules_are_noticed hkeys hform signupLost true passerby none
    (answers_of_answersThroughout hplaced hpasserby)
  have hnone : ∀ p name,
      ¬ form.Loses ⟨Registry.standard.eraseAll signupLost, true, passerby, none⟩ signupLost p name := by
    intro p name hloses
    obtain ⟨other, hother⟩ := hexists.mpr ⟨p, name, hloses⟩
    cases hother.symm.trans hreports
  refine ⟨form, hform, (hnamed "email").mp ?_, hnone, reports, whole, hreports, hwhole, hfound, hall, ?_⟩
  · show form.evaluate (Registry.standard.eraseAll signupLost) true reader none = _
    cases hevaluate : form.evaluate (Registry.standard.eraseAll signupLost) true reader none with
    | ok reports =>
      rw [hevaluate] at hbroken
      cases hbroken
    | error f =>
      rw [hevaluate] at hbroken
      cases hbroken
      rfl
  · obtain ⟨found, all, hfound, hall, hforall⟩ := hsame hnone (answers_of_answersThroughout hplaced hfull)
    obtain rfl := Except.ok.inj (hreports.symm.trans hfound)
    obtain rfl := Except.ok.inj (hwhole.symm.trans hall)
    exact hforall

end Form

end FormCheck
