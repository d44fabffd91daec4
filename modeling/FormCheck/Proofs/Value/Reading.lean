import FormCheck.Proofs.Fallible
import FormCheck.Proofs.Number.Range
import FormCheck.Proofs.Value.LongNumbers
import FormCheck.Value.Order

/-!
# Reading and comparing values

Reading values as numbers and comparing them may end without an answer, and does so at few values only.

* `Value.IsBeyond` — a whole number without a binary number near it;
* `Value.number?_eq_error_iff`, `Value.comparableNumber?_eq_error_iff` — **proved**: these are the only values
  that cannot be read as numbers or as no numbers;
* `Value.looseEq_error` — **proved**: a comparison of two values fails only on one of them, or on one without a text;
* `Value.exists_atMost`, `Value.exists_isBelow` — **proved**: any two numbers can be compared exactly;
* `Value.same_text_iff`, `Value.isTruthy_of_same` — **proved**: what is the same as a text is this text, and what is the
  same as a truth value counts as this truth value.
-/

namespace FormCheck

open Fallible

/-- A number equals one whole number at most. -/
theorem Binary64.eqInt_unique {x : Binary64} {m n : Int} (hm : x.eqInt m = true) (hn : x.eqInt n = true) : m = n := by
  have hunits : ∀ k, x.eqInt k = true → x.units = k * unitsInOne := by
    intro k hk
    cases x with
    | finite negative mantissa exponent hcanonical => exact of_decide_eq_true hk
    | _ => cases hk
  have hpos : (unitsInOne : Int) ≠ 0 := by decide +kernel
  exact Int.eq_of_mul_eq_mul_right hpos ((hunits m hm).symm.trans (hunits n hn))

namespace Value

/-- A whole number without a binary number near it. -/
def IsBeyond (v : Value) : Prop :=
  ∃ n : Int, v = .int n ∧ Binary64.leastInfinite ≤ n.natAbs

/-! ### Reading numbers -/

theorem number?_eq_error_iff {v : Value} {f : Fault} :
    v.number? = .error f ↔ v.IsBeyond ∧ f = .overflow := by
  cases v with
  | int n =>
    simp only [number?, IsBeyond, int.injEq, exists_eq_left', ← Binary64.ofInt?_eq_none_iff]
    cases Binary64.ofInt? n <;> simp [eq_comm]
  | _ => simp [number?, IsBeyond]

theorem comparableNumber?_eq_error_iff {v : Value} {f : Fault} :
    v.comparableNumber? = .error f ↔ v.IsBeyond ∧ f = .overflow := by
  cases v with
  | bool b => simp [comparableNumber?, IsBeyond]
  | _ => simpa only [comparableNumber?] using number?_eq_error_iff

/-- Two values that are both read as numbers can be read unless one of them is beyond; what is made of the numbers may
fail as well. -/
theorem beyond_of_comparableNumbers {α : Type} {v w : Value} {f : Fault}
    {g : Option Binary64 → Option Binary64 → Except Fault α}
    (h : (do
      let x ← v.comparableNumber?
      let y ← w.comparableNumber?
      g x y) = .error f) : ((v.IsBeyond ∨ w.IsBeyond) ∧ f = .overflow) ∨ ∃ x y, g x y = .error f := by
  rcases bind_eq_error_iff.mp h with hv | ⟨x, _, h⟩
  · obtain ⟨hbeyond, rfl⟩ := comparableNumber?_eq_error_iff.mp hv
    exact .inl ⟨.inl hbeyond, rfl⟩
  · rcases bind_eq_error_iff.mp h with hw | ⟨y, _, h⟩
    · obtain ⟨hbeyond, rfl⟩ := comparableNumber?_eq_error_iff.mp hw
      exact .inl ⟨.inr hbeyond, rfl⟩
    · exact .inr ⟨x, y, h⟩

/-! ### Comparing values -/

/-- The value cannot be read as a number, being a whole number that is beyond, or it has no text; with the fault that
comes of it. -/
def IsExtreme (v : Value) (f : Fault) : Prop :=
  v.IsBeyond ∧ f = .overflow ∨ v.HasLongNumber ∧ f = .longNumber

/-- Comparing the texts of two values fails only on one of them. -/
theorem hasLongNumber_of_texts {v w : Value} {f : Fault}
    (h : (do return (← v.toText) == (← w.toText)) = (.error f : Except Fault Bool)) :
    (v.HasLongNumber ∨ w.HasLongNumber) ∧ f = .longNumber :=
  ((v.toText_fails.bind fun _ _ => w.toText_fails.bind_ok fun _ => rfl) f).mp h

theorem looseEq_error {v w : Value} {f : Fault} (h : v.looseEq w = .error f) : v.IsExtreme f ∨ w.IsExtreme f := by
  rw [looseEq] at h
  split_ifs at h
  rcases beyond_of_comparableNumbers h with ⟨hbeyond, rfl⟩ | ⟨x, y, h⟩
  · exact hbeyond.imp (fun h => .inl ⟨h, rfl⟩) fun h => .inl ⟨h, rfl⟩
  · have htexts : (v.HasLongNumber ∨ w.HasLongNumber) ∧ f = .longNumber := by
      cases x with
      | none => exact hasLongNumber_of_texts h
      | some x =>
        cases y with
        | none => exact hasLongNumber_of_texts h
        | some y => cases h
    obtain ⟨hlong, rfl⟩ := htexts
    exact hlong.imp (fun h => .inr ⟨h, rfl⟩) fun h => .inr ⟨h, rfl⟩

/-- A whole number or a binary number. -/
def isNumeric : Value → Bool
  | .int _ | .number _ => true
  | _ => false

/-- Any two numbers can be compared. -/
theorem exists_atMost {v w : Value} (hv : v.isNumeric = true) (hw : w.isNumeric = true) :
    ∃ b, v.atMost w = .ok b := by
  cases v <;> cases hv <;> cases w <;> cases hw <;> exact ⟨_, rfl⟩

theorem exists_isBelow {v w : Value} (hv : v.isNumeric = true) (hw : w.isNumeric = true) :
    ∃ b, v.isBelow w = .ok b := by
  obtain ⟨le, hle⟩ := exists_atMost hv hw
  obtain ⟨ge, hge⟩ := exists_atMost hw hv
  exact ⟨le && !ge, bind_eq_ok_iff.mpr ⟨le, hle, bind_eq_ok_iff.mpr ⟨ge, hge, rfl⟩⟩⟩

/-! ### Equality -/

/-- A text is the same as another one only. -/
theorem same_text_iff (s : String) (v : Value) : (text s).same v = true ↔ v = .text s := by
  rw [same.eq_def]
  cases v with
  | text t =>
    show (s == t) = true ↔ _
    rw [beq_iff_eq, text.injEq, eq_comm]
  | _ => simp [sameScalar, countOf?]

/-- What a truth value is the same as counts as this truth value. -/
theorem isTruthy_of_same {b : Bool} {due : Value} (h : (bool b).same due = true) : due.isTruthy = b := by
  rw [same.eq_def] at h
  cases due with
  | bool c => cases b <;> cases c <;> first | rfl | cases h
  | int n =>
    have hn : (if b then 1 else 0 : Int) = n := by simpa [sameScalar, countOf?] using h
    rw [isTruthy, ← hn]
    cases b <;> rfl
  | number x =>
    have hx : x.eqInt (if b then 1 else 0) = true := by simpa [sameScalar, countOf?] using h
    rw [isTruthy]
    cases b with
    | false =>
      rw [show x.eqInt 0 = true from hx]
      rfl
    | true =>
      have hzero : x.eqInt 0 ≠ true := fun hzero => absurd (Binary64.eqInt_unique hx hzero) (by decide)
      rw [Bool.not_eq_true _ |>.mp hzero]
      rfl
  | _ => simp [sameScalar, countOf?] at h

end Value

end FormCheck
