import FormCheck.Proofs.Condition.Operands
import FormCheck.Proofs.Value.Reading

/-!
# Where a condition ends without an answer

The operators compare numbers, texts and values of one sort without further ado.  What they cannot do is read a
whole number beyond the binary ones as a number, and find the text of a value that has none.

* `Operator.BreaksOff` — an operator cannot look at a value;
* `Operator.holds_error` — **proved**: a comparison fails only on such a value, on one of its two sides;
* `Condition.exists_of_holds_error` — **proved**: a condition fails only where one of its comparisons does.
-/

namespace FormCheck

open Fallible

theorem Value.exists_extreme_member {v : Value} {f : Fault} (h : v.IsExtreme f) : ∃ w ∈ v.members, w.IsExtreme f := by
  cases v with
  | list items =>
    rcases h with ⟨⟨n, hn, _⟩, _⟩ | ⟨hlong, rfl⟩
    · cases hn
    · obtain ⟨w, hw, hlong⟩ := hasLongNumber_list_iff.mp hlong
      exact ⟨w, hw, .inr ⟨hlong, rfl⟩⟩
  | _ => exact ⟨_, List.mem_singleton_self _, h⟩

namespace Operator

/-- The operator compares texts where the sides are not both numbers. -/
def comparesTexts : Operator → Bool
  | .equals | .notEquals | .oneOf | .noneOf => true
  | _ => false

/-- The operator cannot look at the value, and ends with a fault: the value cannot be read as a number, or it has no
text. -/
def BreaksOff (op : Operator) (w : Value) (f : Fault) : Prop :=
  w.IsExtreme f ∧ (f = .longNumber → op.comparesTexts = true)

variable {f : Fault}

theorem anyShared_error {vs ws : List Value} (h : anyShared vs ws = .error f) : ∃ w ∈ vs ++ ws, w.IsExtreme f := by
  induction vs with
  | nil => cases h
  | cons v vs ih =>
    rw [anyShared] at h
    rcases bind_eq_error_iff.mp h with hany | ⟨shared, _, h⟩
    · obtain ⟨w, hw, hequal⟩ := exists_of_anyM_eq_error hany
      rcases Value.looseEq_error hequal with hextreme | hextreme
      · exact ⟨v, List.mem_cons_self, hextreme⟩
      · exact ⟨w, List.mem_append_right _ hw, hextreme⟩
    · cases shared with
      | true => cases h
      | false =>
        obtain ⟨w, hw, hextreme⟩ := ih h
        exact ⟨w, List.mem_cons_of_mem v hw, hextreme⟩

theorem isOneOf_error {v : Value} {items : List Value} (h : isOneOf v (.list items) = .error f) :
    ∃ w ∈ v.members ++ items, w.IsExtreme f := by
  rw [isOneOf] at h
  split at h
  · cases h
  · exact anyShared_error h

/-- A comparison of two values ends without an answer only on a value that the operator cannot look at, which is
one of the values or a member of one. -/
theorem holds_error {op : Operator} {v operand : Value}
    (hmembers : op.takesList = true → ∃ items, operand = .list items) (h : op.holds v operand = .error f) :
    ∃ w ∈ v.members ++ operand.members, op.BreaksOff w f := by
  have hsides : v.IsExtreme f ∨ operand.IsExtreme f → ∃ w ∈ v.members ++ operand.members, w.IsExtreme f := by
    rintro (hextreme | hextreme)
    · obtain ⟨w, hw, hextreme⟩ := Value.exists_extreme_member hextreme
      exact ⟨w, List.mem_append_left _ hw, hextreme⟩
    · obtain ⟨w, hw, hextreme⟩ := Value.exists_extreme_member hextreme
      exact ⟨w, List.mem_append_right _ hw, hextreme⟩
  have htexts : (∃ w ∈ v.members ++ operand.members, w.IsExtreme f) → op.comparesTexts = true →
      ∃ w ∈ v.members ++ operand.members, op.BreaksOff w f :=
    fun ⟨w, hw, hextreme⟩ hop => ⟨w, hw, hextreme, fun _ => hop⟩
  have hnumbers : ∀ {relation : Binary64 → Binary64 → Bool}, compareNumbers relation v operand = .error f →
      ∃ w ∈ v.members ++ operand.members, op.BreaksOff w f := by
    intro relation h
    rcases Value.beyond_of_comparableNumbers h with ⟨hbeyond, rfl⟩ | ⟨x, y, h⟩
    · obtain ⟨w, hw, hextreme⟩ := hsides (hbeyond.imp (fun h => .inl ⟨h, rfl⟩) fun h => .inl ⟨h, rfl⟩)
      exact ⟨w, hw, hextreme, fun h => by cases h⟩
    · cases x <;> cases y <;> cases h
  cases op with
  | equals => exact htexts (hsides (Value.looseEq_error h)) rfl
  | notEquals => exact htexts (hsides (Value.looseEq_error (map_eq_error_iff.mp h))) rfl
  | oneOf =>
    obtain ⟨items, rfl⟩ := hmembers rfl
    exact htexts (isOneOf_error h) rfl
  | noneOf =>
    obtain ⟨items, rfl⟩ := hmembers rfl
    exact htexts (isOneOf_error (map_eq_error_iff.mp h)) rfl
  | empty => cases h
  | above | atLeast | below | atMost => exact hnumbers h

end Operator

namespace Condition

variable {read : Comparison → Value} {f : Fault}

theorem exists_of_allHold_error {members : List Condition} (h : allHold read members = .error f) :
    ∃ m ∈ members, m.holds read = .error f := by
  induction members with
  | nil => cases h
  | cons m members ih =>
    rcases bind_eq_error_iff.mp h with hm | ⟨b, _, h⟩
    · exact ⟨m, List.mem_cons_self, hm⟩
    · cases b with
      | false => cases h
      | true =>
        obtain ⟨n, hn, hfail⟩ := ih h
        exact ⟨n, List.mem_cons_of_mem m hn, hfail⟩

theorem exists_of_anyHolds_error {members : List Condition} (h : anyHolds read members = .error f) :
    ∃ m ∈ members, m.holds read = .error f := by
  induction members with
  | nil => cases h
  | cons m members ih =>
    rcases bind_eq_error_iff.mp h with hm | ⟨b, _, h⟩
    · exact ⟨m, List.mem_cons_self, hm⟩
    · cases b with
      | true => cases h
      | false =>
        obtain ⟨n, hn, hfail⟩ := ih h
        exact ⟨n, List.mem_cons_of_mem m hn, hfail⟩

/-- **A condition ends without an answer only where one of its comparisons does.** -/
theorem exists_of_holds_error {condition : Condition} (h : condition.holds read = .error f) :
    ∃ c ∈ condition.comparisons, c.operator.holds (read c) c.operand = .error f := by
  have hmember : ∀ {members : List Condition} {m : Condition}, m ∈ members →
      (∃ c ∈ m.comparisons, c.operator.holds (read c) c.operand = .error f) →
      ∃ c ∈ comparisonsOf members, c.operator.holds (read c) c.operand = .error f := by
    rintro members m hm ⟨c, hc, hfail⟩
    rw [comparisonsOf_eq_flatMap]
    exact ⟨c, List.mem_flatMap.mpr ⟨m, hm, hc⟩, hfail⟩
  induction condition using induction_parts with
  | compare c => exact ⟨c, List.mem_singleton_self c, h⟩
  | all members ih =>
    obtain ⟨m, hm, hfail⟩ := exists_of_allHold_error h
    exact hmember hm (ih m hm hfail)
  | any members ih =>
    obtain ⟨m, hm, hfail⟩ := exists_of_anyHolds_error h
    exact hmember hm (ih m hm hfail)
  | not member ih => exact ih (map_eq_error_iff.mp h)

end Condition

end FormCheck
