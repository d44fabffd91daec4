import FormCheck.Condition.Document
import FormCheck.Proofs.Form.Construction
import FormCheck.Proofs.Form.References

/-!
# The operands of conditions

The operators for membership compare with the members of a list.  Whatever way a condition has been written
in, such an operator has got a list:

* `Comparison.HasMembers` — a comparison for membership has a list of operands;
* `Condition.hasMembers_of_ofValue` — **proved**: so do all comparisons of a condition that a document
  declares;
* `Condition.hasMembers_of_resolve` — **proved**: and those of the condition once its references have places.
-/

namespace FormCheck

open Fallible

/-- A comparison for membership has a list of operands. -/
def Comparison.HasMembers (c : Comparison) : Prop :=
  c.operator.takesList = true → ∃ items, c.operand = .list items

namespace Condition

/-- All comparisons of the condition for membership have lists of operands. -/
def HasMembers (condition : Condition) : Prop :=
  ∀ c ∈ condition.comparisons, c.HasMembers

theorem hasMembers_compare {c : Comparison} : (compare c).HasMembers ↔ c.HasMembers := by
  rw [HasMembers, comparisons, List.forall_mem_singleton]

theorem hasMembers_all {members : List Condition} : (all members).HasMembers ↔ ∀ m ∈ members, m.HasMembers := by
  simp only [HasMembers, comparisons, comparisonsOf_eq_flatMap, List.mem_flatMap]
  exact ⟨fun h m hm c hc => h c ⟨m, hm, hc⟩, fun h c ⟨m, hm, hc⟩ => h m hm c hc⟩

theorem hasMembers_any {members : List Condition} : (any members).HasMembers ↔ ∀ m ∈ members, m.HasMembers :=
  hasMembers_all

/-! ### Expressions -/

/-- No symbol stands for membership. -/
theorem takesList_of_leadingSymbol {cs rest : List Char} {op : Operator}
    (h : leadingSymbol? cs = some (op, rest)) : op.takesList = false := by
  obtain ⟨symbol, hsymbol, h⟩ := Option.map_eq_some_iff.mp h
  cases h
  have hall : ∀ s ∈ symbols, s.2.takesList = false := by decide
  exact hall symbol (List.mem_of_find?_eq_some hsymbol)

theorem takesList_of_cutAtSymbol {word after reference operand : List Char} {op : Operator}
    (h : cutAtSymbol? word after = some (reference, op, operand)) : op.takesList = false := by
  rw [cutAtSymbol?] at h
  split at h
  · next hsymbol =>
    cases h
    exact takesList_of_leadingSymbol hsymbol
  · obtain ⟨n, _, h⟩ := List.exists_of_findSome?_eq_some h
    obtain ⟨⟨found, rest⟩, hsymbol, h⟩ := Option.map_eq_some_iff.mp h
    cases h
    exact takesList_of_leadingSymbol hsymbol

theorem takesList_of_relation {cs reference operand : List Char} {op : Operator}
    (h : relation? cs = some (reference, op, operand)) : op.takesList = false := by
  obtain ⟨⟨cut, found, rest⟩, hcut, h⟩ := Option.bind_eq_some_iff.mp h
  dsimp only at h
  split at h <;> cases h
  exact takesList_of_cutAtSymbol hcut

theorem hasMembers_ofClause {cs : List Char} {condition : Condition} (h : ofClause cs = .ok condition) :
    condition.HasMembers := by
  rw [ofClause] at h
  split at h
  · obtain ⟨operands, _, h⟩ := bind_eq_ok_iff.mp h
    cases h
    exact hasMembers_compare.mpr fun _ => ⟨operands, rfl⟩
  · split at h
    · next hrelation =>
      obtain ⟨v, _, h⟩ := bind_eq_ok_iff.mp h
      cases h
      refine hasMembers_compare.mpr fun hlist => ?_
      rw [takesList_of_relation hrelation] at hlist
      cases hlist
    · cases h

theorem hasMembers_joined {join : List Condition → Condition} {members : List Condition}
    (hjoin : (∀ m ∈ members, m.HasMembers) → (join members).HasMembers)
    (h : ∀ m ∈ members, m.HasMembers) : (joined join members).HasMembers := by
  rw [joined.eq_def]
  split
  · exact h _ List.mem_cons_self
  · exact hjoin h

theorem hasMembers_ofConjunction {cs : List Char} {condition : Condition}
    (h : ofConjunction cs = .ok condition) : condition.HasMembers := by
  obtain ⟨members, hmembers, h⟩ := bind_eq_ok_iff.mp h
  cases h
  refine hasMembers_joined hasMembers_all.mpr fun m hm => ?_
  obtain ⟨clause, _, hclause⟩ := exists_of_mem_mapM hmembers hm
  exact hasMembers_ofClause hclause

theorem hasMembers_ofExpression {text : String} {condition : Condition}
    (h : ofExpression text = .ok condition) : condition.HasMembers := by
  obtain ⟨members, hmembers, h⟩ := bind_eq_ok_iff.mp h
  cases h
  refine hasMembers_joined hasMembers_any.mpr fun m hm => ?_
  obtain ⟨conjunction, _, hconjunction⟩ := exists_of_mem_mapM hmembers hm
  exact hasMembers_ofConjunction hconjunction

/-! ### Objects -/

theorem hasMembers_operandFor {op : Operator} {declared operand : Value}
    (h : operandFor op declared = .ok operand) (reference : String) :
    (⟨reference, op, operand, none⟩ : Comparison).HasMembers := by
  intro hlist
  cases op with
  | oneOf | noneOf =>
    obtain ⟨items, _, h⟩ := bind_eq_ok_iff.mp h
    cases h
    exact ⟨items, rfl⟩
  | _ => cases hlist

theorem hasMembers_ofEntries {entries : List (String × Value)} {condition : Condition}
    (h : ofEntries entries = .ok condition) : condition.HasMembers := by
  rw [ofEntries] at h
  split at h
  · dsimp only at h
    split_ifs at h
    split at h
    · split at h
      · obtain ⟨operand, hoperand, h⟩ := bind_eq_ok_iff.mp h
        cases h
        exact hasMembers_compare.mpr (hasMembers_operandFor hoperand _)
      · cases h
    · cases h
  · cases h

theorem ofList_eq_mapM (items : List Value) : ofList items = items.mapM ofValue := by
  induction items with
  | nil => rfl
  | cons v items ih => rw [ofList, List.mapM_cons, ih]

theorem exists_of_mem_ofMembers {key : String} {v : Value} {members : List Condition}
    (h : ofMembers key v = .ok members) {m : Condition} (hm : m ∈ members) :
    ∃ items, v = .list items ∧ ∃ w ∈ items, ofValue w = .ok m := by
  rw [ofMembers.eq_def] at h
  split at h
  · cases h
  · rw [ofList_eq_mapM] at h
    exact ⟨_, rfl, exists_of_mem_mapM h hm⟩
  · cases h

/-- **The comparisons for membership in a declared condition have lists of operands.** -/
theorem hasMembers_ofValue {v : Value} {condition : Condition} (h : ofValue v = .ok condition) :
    condition.HasMembers := by
  -- The members of `all` and `any` stand in a list one level further down, so the list is looked into as well.
  suffices hboth : (∀ {c}, ofValue v = .ok c → c.HasMembers) ∧
      ∀ items, v = .list items → ∀ w ∈ items, ∀ {c}, ofValue w = .ok c → c.HasMembers from hboth.1 h
  clear h
  induction v using Value.induction_parts with
  | plain v hlist hobject =>
    refine ⟨fun {c} h => ?_, fun items hv => by rw [hv] at hlist; cases hlist⟩
    cases v with
    | text s => exact hasMembers_ofExpression (by rwa [ofValue] at h)
    | list items => cases hlist
    | object entries => cases hobject
    | _ => simp [ofValue] at h
  | list items ih =>
    refine ⟨fun {c} h => by simp [ofValue] at h, fun _ hv w hw {c} h => ?_⟩
    cases hv
    exact (ih w hw).1 h
  | object entries ih =>
    refine ⟨fun {c} h => ?_, fun items hv => by cases hv⟩
    have hmembers : ∀ {key : String} {v : Value} {members : List Condition}, (key, v) ∈ entries →
        ofMembers key v = .ok members → ∀ m ∈ members, m.HasMembers := by
      intro key v members hentry h m hm
      obtain ⟨items, rfl, w, hw, hwm⟩ := exists_of_mem_ofMembers h hm
      exact (ih _ hentry).2 items rfl w hw hwm
    rw [ofValue.eq_def] at h
    split at h
    · next hentries => cases hentries
    · next key v hentries =>
      cases hentries
      split_ifs at h
      · obtain ⟨member, hmember, h⟩ := bind_eq_ok_iff.mp h
        cases h
        show member.HasMembers
        exact (ih _ List.mem_cons_self).1 hmember
      · obtain ⟨members, hall, h⟩ := bind_eq_ok_iff.mp h
        cases h
        exact hasMembers_all.mpr (hmembers List.mem_cons_self hall)
      · obtain ⟨members, hany, h⟩ := bind_eq_ok_iff.mp h
        cases h
        exact hasMembers_any.mpr (hmembers List.mem_cons_self hany)
      · exact hasMembers_ofEntries h
    · split at h
      · cases h
      · exact hasMembers_ofEntries (by simpa using h)
    · cases h

/-! ### References with places -/

theorem hasMembers_of_resolve {ε : Type} {place : String → Except ε Path} {condition resolved : Condition}
    (h : condition.resolve place = .ok resolved) (hmembers : condition.HasMembers) : resolved.HasMembers := by
  intro c hc
  obtain ⟨d, hd, _, _, rfl⟩ := exists_of_mem_resolve h hc
  exact hmembers d hd

end Condition

end FormCheck
