import FormCheck.Proofs.Fallible
import FormCheck.Proofs.Form.References
import FormCheck.Proofs.Value.Insertion
import FormCheck.Rule.Standard

/-!
# What conditions and rules see of a value

Few rules may stand on groups and arrays, and most of these ask for the shape of a value only: whether it is empty,
and how many items it has.  Of the operators of conditions some do not look into groups and arrays either.

* `Operator.holds_of_sameShape` — **proved**: an ordering of numbers does not tell one group or array from another;
* `Condition.holds_congr` — **proved**: a condition sees of the data what its comparisons see of it;
* `Rule.evaluate_of_sameShape` — **proved**: a standard rule on a group or an array sees the shape of the value,
  unless it is one of `Rule.lookingInside`;
* `Rule.evaluate_withData` — **proved**: a standard rule sees of the rest of the data what its references stand for.
-/

namespace FormCheck

open Fallible Value

variable {v w : Value}

/-! ### Conditions -/

theorem Value.SameShape.comparableNumber? (h : SameShape v w) :
    v.comparableNumber? = .ok none ∧ w.comparableNumber? = .ok none := by
  cases h <;> exact ⟨rfl, rfl⟩

/-- The operator compares both sides as numbers. -/
def Operator.isOrdering : Operator → Bool
  | .above | .atLeast | .below | .atMost => true
  | _ => false

/-- An ordering of numbers does not tell one group or array from another. -/
theorem Operator.holds_of_sameShape {op : Operator} (h : SameShape v w) (hop : op.isOrdering = true)
    (operand : Value) : op.holds v operand = op.holds w operand := by
  obtain ⟨hv, hw⟩ := h.comparableNumber?
  cases op with
  | above => simp only [holds, compareNumbers, hv, hw]
  | atLeast => simp only [holds, compareNumbers, hv, hw]
  | below => simp only [holds, compareNumbers, hv, hw]
  | atMost => simp only [holds, compareNumbers, hv, hw]
  | _ => cases hop

namespace Condition

variable {read other : Comparison → Value}

theorem allHold_congr {members : List Condition} (h : ∀ m ∈ members, m.holds read = m.holds other) :
    allHold read members = allHold other members := by
  induction members with
  | nil => rfl
  | cons m members ih =>
    rw [List.forall_mem_cons] at h
    rw [allHold, allHold, h.1, ih h.2]

theorem anyHolds_congr {members : List Condition} (h : ∀ m ∈ members, m.holds read = m.holds other) :
    anyHolds read members = anyHolds other members := by
  induction members with
  | nil => rfl
  | cons m members ih =>
    rw [List.forall_mem_cons] at h
    rw [anyHolds, anyHolds, h.1, ih h.2]

/-- **A condition sees of the data what its comparisons see of it.** -/
theorem holds_congr {condition : Condition} (h : ∀ c ∈ condition.comparisons,
    c.operator.holds (read c) c.operand = c.operator.holds (other c) c.operand) :
    condition.holds read = condition.holds other := by
  have hmember : ∀ {members : List Condition} {m : Condition}, m ∈ members →
      (∀ c ∈ comparisonsOf members, c.operator.holds (read c) c.operand = c.operator.holds (other c) c.operand) →
      ∀ c ∈ m.comparisons, c.operator.holds (read c) c.operand = c.operator.holds (other c) c.operand := by
    intro members m hm h c hc
    rw [comparisonsOf_eq_flatMap] at h
    exact h c (List.mem_flatMap.mpr ⟨m, hm, hc⟩)
  induction condition using induction_parts with
  | compare c => exact h c (List.mem_singleton_self c)
  | all members ih => exact allHold_congr fun m hm => ih m hm (hmember hm h)
  | any members ih => exact anyHolds_congr fun m hm => ih m hm (hmember hm h)
  | not member ih => rw [holds, holds, ih h]

end Condition

/-! ### Rules on groups and arrays -/

namespace Rule

/-- The standard rules on arrays that look at the items themselves. -/
def lookingInside : List String := ["in", "unique", "accept"]

theorem itemCount_of_sameShape (h : SameShape v w) (name : String) (a : Argument) (context : Context) :
    Check.itemCount name v a context = Check.itemCount name w a context := by
  cases h with
  | list hlength => simp only [Check.itemCount, Check.itemsIn, hlength]
  | object => rfl

theorem mostItems_of_sameShape (h : SameShape v w) (a : Argument) (context : Context) :
    Check.mostItems v a context = Check.mostItems w a context := by
  cases h with
  | list hlength => simp only [Check.mostItems, Check.itemsIn, hlength]
  | object => rfl

theorem fewestItems_of_sameShape (h : SameShape v w) (a : Argument) (context : Context) :
    Check.fewestItems v a context = Check.fewestItems w a context := by
  cases h with
  | list hlength => simp only [Check.fewestItems, hlength]
  | object => rfl

/-- **A standard rule on a group or an array sees the shape of the value**, unless it looks at the items. -/
theorem evaluate_of_sameShape {rule : Rule} {kind : Kind} (hrule : rule ∈ standard)
    (htarget : kind.target ∈ rule.targets) (hkind : kind.target ≠ .scalar) (hname : rule.name ∉ lookingInside)
    (h : SameShape v w) (hempty : v.isEmpty = w.isEmpty) (a : Argument) (context : Context) :
    rule.evaluate v a context = rule.evaluate w a context := by
  have hscalar : ∀ {p : Prop}, kind.target ∈ [Target.scalar] → p :=
    fun htarget => absurd (List.mem_singleton.mp htarget) hkind
  have hinside : ∀ {name : String} {p : Prop}, name ∈ lookingInside → name ∉ lookingInside → p :=
    fun hname hnot => absurd hname hnot
  have hall : ∀ rule ∈ standard, kind.target ∈ rule.targets → rule.name ∉ lookingInside →
      rule.check v a context = rule.check w a context := by
    simp only [standard, List.forall_mem_cons]
    refine ⟨?required, ?requiredIf, hscalar, hscalar, hscalar, hscalar, hscalar, hscalar, ?length, hscalar, hscalar,
      hscalar, hscalar, hscalar, hscalar, ?amongst, hscalar, hscalar, hscalar, hscalar, hscalar, ?mincount,
      ?maxcount, ?unique, ?accept, hscalar, List.forall_mem_nil _⟩
    case required =>
      intro _ _
      show Check.required v a context = Check.required w a context
      rw [Check.required, Check.required, hempty]
    case requiredIf =>
      intro _ _
      show Check.requiredIf v a context = Check.requiredIf w a context
      rw [Check.requiredIf.eq_def, Check.requiredIf.eq_def, hempty]
    case length => exact fun _ _ => itemCount_of_sameShape h _ a context
    case mincount => exact fun _ _ => fewestItems_of_sameShape h a context
    case maxcount => exact fun _ _ => mostItems_of_sameShape h a context
    case amongst | unique | accept => exact fun _ hnot => hinside (by decide) hnot
  rw [evaluate, evaluate, hempty, hall rule hrule htarget hname]

/-! ### The rest of the data -/

end Rule

/-- The same question, asked over other data. -/
def Context.withData (context : Context) (data : Value) : Context :=
  { context with data := data }

/-- The references in an argument, and the comparisons of a condition in it, stand for the same over other data. -/
structure Rule.ReadsAlike (rule : Rule) (a : Argument) (context : Context) (data : Value) : Prop where
  condition : ∀ condition, a = .condition condition →
    rule.referencesIn a = .ok (condition.comparisons.map (·.reference)) → ∀ c ∈ condition.comparisons,
    c.operator.holds (context.lookup c.reference) c.operand
      = c.operator.holds ((context.withData data).lookup c.reference) c.operand
  references : ∀ expressions, (∀ condition, a ≠ .condition condition) →
    rule.referencesIn a = .ok expressions → ∀ e ∈ expressions, context.lookup e = (context.withData data).lookup e

/-- An argument that is a reference is a text. -/
theorem Argument.eq_of_reference {a : Argument} {s : String} (h : a.reference = .ok s) : a = .value (.text s) := by
  rw [reference.eq_def] at h
  split at h <;> cases h
  rfl

namespace Rule

variable {context : Context} {data : Value} {a : Argument}

theorem sameAs_withData (h : ∀ s, a = .value (.text s) → context.lookup s = (context.withData data).lookup s)
    (v : Value) : Check.sameAs v a context = Check.sameAs v a (context.withData data) :=
  bind_congr_of_ok fun _ _ => bind_congr_of_ok fun s hs => by rw [h s (Argument.eq_of_reference hs)]

theorem notBefore_withData (h : ∀ s, a = .value (.text s) → context.lookup s = (context.withData data).lookup s)
    (v : Value) : Check.notBefore v a context = Check.notBefore v a (context.withData data) := by
  refine bind_congr_of_ok fun _ _ => bind_congr_of_ok fun finish _ => ?_
  cases finish with
  | none => rfl
  | some finish => exact bind_congr_of_ok fun s hs => by rw [h s (Argument.eq_of_reference hs)]

theorem differs_withData
    (h : ∀ s, a = .value (.text s) → Text.startsWith s.toList ['.'] = true →
      context.lookup s = (context.withData data).lookup s) (v : Value) :
    Check.differs v a context = Check.differs v a (context.withData data) := by
  refine bind_congr_of_ok fun _ _ => ?_
  split
  · next s =>
    by_cases hpoint : Text.startsWith s.toList ['.'] = true
    · simp only [if_pos hpoint, h s rfl hpoint]
    · simp only [if_neg hpoint]
  · rfl

theorem requiredIf_withData
    (h : ∀ condition, a = .condition condition → ∀ c ∈ condition.comparisons,
      c.operator.holds (context.lookup c.reference) c.operand
        = c.operator.holds ((context.withData data).lookup c.reference) c.operand) (v : Value) :
    Check.requiredIf v a context = Check.requiredIf v a (context.withData data) := by
  rw [Check.requiredIf.eq_def, Check.requiredIf.eq_def]
  split
  · next condition => rw [Condition.holds_congr (h condition rfl)]
  · rfl

/-- **A standard rule sees of the rest of the data what its references stand for.** -/
theorem evaluate_withData {rule : Rule} (hrule : rule ∈ standard) (h : rule.ReadsAlike a context data) (v : Value) :
    rule.evaluate v a context = rule.evaluate v a (context.withData data) := by
  -- Where the argument is one reference, this reference stands for the same.
  have hsingle : ∀ {s : String} {rule : Rule}, rule.ReadsAlike a context data →
      rule.referencesIn a = .ok [s] → a = .value (.text s) →
      context.lookup s = (context.withData data).lookup s := by
    intro s rule h hreferences ha
    exact h.references [s] (fun _ hc => by rw [ha] at hc; cases hc) hreferences s (List.mem_singleton_self s)
  have hall : ∀ rule ∈ standard, rule.ReadsAlike a context data →
      rule.check v a context = rule.check v a (context.withData data) := by
    have hplain : ∀ {rule : Rule}, rule.check v a context = rule.check v a (context.withData data) →
        rule.ReadsAlike a context data → rule.check v a context = rule.check v a (context.withData data) :=
      fun h _ => h
    simp only [standard, List.forall_mem_cons]
    refine ⟨hplain rfl, ?requiredIf, hplain rfl, hplain rfl, hplain rfl, hplain rfl, ?sameText, ?equalTo, hplain rfl,
      hplain rfl, hplain rfl, hplain rfl, hplain rfl, hplain rfl, hplain rfl, hplain rfl, ?notEqual, hplain rfl,
      hplain rfl, hplain rfl, ?enddate, hplain rfl, hplain rfl, hplain rfl, hplain rfl, hplain rfl,
      List.forall_mem_nil _⟩
    case requiredIf => exact fun h => requiredIf_withData (fun c ha => h.condition c ha (by rw [ha]; rfl)) v
    case sameText | equalTo => exact fun h => sameAs_withData (fun s ha => hsingle h (by rw [ha]; rfl) ha) v
    case notEqual =>
      refine fun h => differs_withData (fun s ha hpoint => hsingle h ?_ ha) v
      rw [ha]
      show Except.ok (if _ then _ else _) = _
      rw [if_pos hpoint]
    case enddate => exact fun h => notBefore_withData (fun s ha => hsingle h (by rw [ha]; rfl) ha) v
  rw [evaluate, evaluate, hall rule hrule h]

end Rule

end FormCheck
