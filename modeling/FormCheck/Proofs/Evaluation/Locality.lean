import FormCheck.Proofs.Evaluation.Addressed
import FormCheck.Proofs.Form.Linking
import FormCheck.Proofs.Form.Readings
import FormCheck.Proofs.Rule.Blindness

/-!
# What an evaluation sees of the data

At each place an evaluation sees the value there and the values at the places of references, and nothing else of the
data.  So data can be exchanged for other data that is the same there.

* `Value.readAt` — the value at the place that a target stands for, seen from another place;
* `Setting.takesPart_withData` — **proved**: a condition sees of the data what its comparisons find about their
  targets;
* `Setting.isOff_congr` — **proved**: a place is off over one setting as over another one, if the conditions on the
  way to it agree;
* `Setting.verdictOf_of_readsAlike`, `Setting.firstFinding_congr` — **proved**: a standard rule finds the same about
  the same value over data in which its references stand for the same.
-/

namespace FormCheck

open Fallible

/-- The value at the place that a target stands for, seen from another place. -/
def Value.readAt (data : Value) (target place : Path) : Value :=
  match target.fill place with
  | some found => data.follow found
  | none => .absent

/-- A reference with a known place stands for the value that is read there. -/
theorem Context.lookup_of_entry {context : Context} {e : String} {target : Path}
    (h : entryOf? context.references e = some target) :
    context.lookup e = context.data.readAt target context.path := by
  rw [lookup, place?, h]
  rfl

/-- Where data is the same at all that a target can stand for, the same is read. -/
theorem Value.readAt_congr {data other : Value} {target place : Path}
    (h : ∀ found, target.fill place = some found → data.follow found = other.follow found) :
    data.readAt target place = other.readAt target place := by
  rw [readAt, readAt]
  cases hfill : target.fill place with
  | none => rfl
  | some found => exact h found hfill

namespace Setting

/-- The same setting, with other data. -/
def withData (s : Setting) (data : Value) : Setting :=
  { s with data := data }

variable {s t : Setting} {other : Value} {place : Path}

/-- What a comparison with a target reads. -/
theorem read_of_target {c : Comparison} {target : Path} (h : c.target = some target) :
    s.read place c = s.data.readAt target place := by
  rw [read, h]
  rfl

/-- **A condition sees of the data what its comparisons find about their targets.** -/
theorem takesPart_withData {info : FieldInfo} (h : ∀ condition, info.condition = some condition →
      ∀ c ∈ condition.comparisons, ∃ target, c.target = some target ∧
        c.operator.holds (s.data.readAt target place) c.operand
          = c.operator.holds (other.readAt target place) c.operand) :
    (s.withData other).takesPart place info.condition = s.takesPart place info.condition := by
  cases hcondition : info.condition with
  | none => rfl
  | some condition =>
    refine (Condition.holds_congr fun c hc => ?_).symm
    obtain ⟨target, htarget, hsame⟩ := h condition hcondition c hc
    rw [read_of_target htarget, read_of_target htarget]
    exact hsame

/-- A place is off over one setting as over another one, if the conditions on the way to it agree. -/
theorem isOff_congr {field : Field} {path rest : Path}
    (h : ∀ q f, q <+: rest → field.at? q = some f →
      t.takesPart (path ++ q) f.info.condition = s.takesPart (path ++ q) f.info.condition) :
    t.isOff field path rest = s.isOff field path rest := by
  have hown : t.takesPart path field.info.condition = s.takesPart path field.info.condition := by
    have hself := h [] field List.nil_prefix rfl
    rwa [List.append_nil] at hself
  induction rest generalizing field path with
  | nil => rw [isOff, isOff, hown]
  | cons step rest ih =>
    rw [isOff, isOff, hown]
    cases hstep : field.step? step with
    | none => rfl
    | some next =>
      have hbelow : ∀ q f, q <+: rest → next.at? q = some f →
          t.takesPart (path ++ [step] ++ q) f.info.condition = s.takesPart (path ++ [step] ++ q) f.info.condition := by
        intro q f hq hat
        rw [List.append_assoc, List.singleton_append]
        refine h (step :: q) f (List.cons_prefix_cons.mpr ⟨rfl, hq⟩) ?_
        rw [Field.at?_cons, hstep]
        exact hat
      have hnext : t.isOff next (path ++ [step]) rest = s.isOff next (path ++ [step]) rest := by
        refine ih hbelow ?_
        have hself := hbelow [] next List.nil_prefix rfl
        rwa [List.append_nil] at hself
      simp only [hnext]

/-- **A standard rule finds the same about the same value** over data in which its references stand for the same. -/
theorem verdictOf_of_readsAlike (hs : s.registry = Registry.standard) {field : Field} {rule : DeclaredRule}
    {definition : Rule} (hdefinition : Registry.standard.get? rule.name = some definition)
    (h : definition.ReadsAlike rule.prepared (s.context field place rule) other) (v : Value) :
    (s.withData other).verdictOf field place v rule = s.verdictOf field place v rule := by
  show s.registry.evaluate _ _ _ _ = s.registry.evaluate _ _ _ _
  rw [hs, Registry.evaluate, Registry.evaluate, hdefinition]
  exact (Rule.evaluate_withData (Registry.mem_of_standard hdefinition) h v).symm

/-- A linked rule reads the same over data in which the places stored with it are the same. -/
theorem readsAlike_of_linked {root field : Field} {rule : DeclaredRule} {definition : Rule}
    (hlinked : rule.IsLinked Registry.standard root) (hdefinition : Registry.standard.get? rule.name = some definition)
    (h : ∀ reference ∈ rule.references, s.data.readAt reference.2 place = other.readAt reference.2 place) :
    definition.ReadsAlike rule.prepared (s.context field place rule) other := by
  have hlookup : ∀ expressions, definition.referencesIn rule.prepared = .ok expressions → ∀ e ∈ expressions,
      (s.context field place rule).lookup e = ((s.context field place rule).withData other).lookup e := by
    intro expressions hexpressions e he
    obtain ⟨target, f, htarget, _⟩ := hlinked definition expressions hdefinition hexpressions e he
    rw [Context.lookup_of_entry htarget, Context.lookup_of_entry htarget]
    exact h _ (mem_of_entryOf? htarget)
  refine ⟨fun condition _ hreferences c hc => ?_, fun expressions _ => hlookup expressions⟩
  rw [hlookup _ hreferences c.reference (List.mem_map_of_mem hc)]

/-- Rules that each find the same leave the same finding. -/
theorem firstFinding_congr {field : Field} {v : Value} {rules : List DeclaredRule}
    (h : ∀ rule ∈ rules, (s.withData other).verdictOf field place v rule = s.verdictOf field place v rule) :
    (s.withData other).firstFinding field place v rules = s.firstFinding field place v rules := by
  induction rules with
  | nil => rfl
  | cons rule rest ih =>
    rw [List.forall_mem_cons] at h
    show ((s.withData other).verdictOf field place v rule >>= _) = (s.verdictOf field place v rule >>= _)
    rw [h.1]
    refine bind_congr_of_ok fun verdict _ => ?_
    rw [ih h.2]
    rfl

/-- The report on a place is made of whether it is off and of what the rules find there. -/
theorem reportFrom_congr {root : Field} {v : Visit} (hoff : t.isOff root [] v.path = s.isOff root [] v.path)
    (hfindings : t.findings v.field v.path v.raw = s.findings v.field v.path v.raw) :
    t.reportFrom [] false root v = s.reportFrom [] false root v := by
  show t.isOff root [] v.path >>= _ = s.isOff root [] v.path >>= _
  rw [hoff]
  refine bind_congr_of_ok fun off _ => ?_
  cases off with
  | true => rfl
  | false =>
    show t.findings v.field v.path v.raw >>= _ = s.findings v.field v.path v.raw >>= _
    rw [hfindings]

/-! ### Which rules are asked -/

/-- What a field is asked, it has declared, or it is the rule for numbers. -/
theorem mem_rulesOf {field : Field} {rule : DeclaredRule} (h : rule ∈ s.rulesOf field) :
    rule ∈ field.info.rules ∨ rule = .number ∧ field.kind = .leaf .number := by
  have hasked := s.asked_rulesOf field
  generalize s.rulesOf field = rules at h hasked
  cases hasked with
  | declared _ => exact .inl h
  | withNumber hadds =>
    rcases List.mem_cons.mp h with rfl | h
    · exact .inr ⟨rfl, hadds.2.1⟩
    · exact .inl h

end Setting

/-- The rule that fields for numbers have without declaring it has no references. -/
theorem DeclaredRule.number_isLinked (root : Field) : DeclaredRule.number.IsLinked Registry.standard root := by
  intro definition expressions hdefinition hexpressions e he
  cases hdefinition
  cases hexpressions
  cases he

end FormCheck
