import FormCheck.Proofs.Fallible
import FormCheck.Proofs.Number.Written
import FormCheck.Rule.Size
import Mathlib.Tactic.LinearCombination

/-!
# Whole multiples of a step

A number and a step are compared by their texts, so that three tenths are three times a tenth although the binary numbers
are not.  The arithmetic keeps 28 digits of the quotient.

* `Decimal.remainderIsZero?_iff` — **proved**: it finds the whole multiples that are taken less than `10 ^ 28` times;
* `Check.multiple_passes_iff` — **proved**: a number passes exactly when the rational number that its text writes is such a
  multiple of the one that the step's text writes;
* `Check.not_every_multiple_passes` — **proved**: a multiple that is taken more often fails.
-/

namespace FormCheck

open Fallible Number

namespace Decimal

/-- Two numbers are multiples of one power of ten. -/
theorem toRat_aligned (x y : Decimal) : ∃ e : ℤ, x.toRat = signUnit x.negative * (aligned x y).1 * 10 ^ e ∧
    y.toRat = signUnit y.negative * (aligned x y).2 * 10 ^ e := by
  have hmoved : ∀ (z : Decimal) (e : ℤ), e ≤ z.exponent →
      z.toRat = signUnit z.negative * ((z.coefficient * Nat.pow 10 (z.exponent - e).toNat : Nat) : ℚ) * 10 ^ e := by
    intro z e he
    obtain ⟨k, hk⟩ : ∃ k : Nat, z.exponent = e + k := ⟨(z.exponent - e).toNat, by omega⟩
    have hplaces : (e + (k : ℤ) - e).toNat = k := by omega
    rw [toRat, hk, hplaces, Nat.pow_eq, zpow_add₀ (by norm_num), zpow_natCast]
    push_cast
    ring
  exact ⟨min x.exponent y.exponent, hmoved x _ (min_le_left _ _), hmoved y _ (min_le_right _ _)⟩

/-- A whole number is so many times another one, whatever their signs, if its magnitude is that many times the other's. -/
theorem signed_eq_mul_iff (negative other : Bool) (a b bound : Nat) :
    (∃ k : ℤ, |k| < bound ∧ signUnit negative * (a : ℤ) = k * (signUnit other * b)) ↔ ∃ q : Nat, q < bound ∧ a = q * b := by
  have habs : ∀ s, (signUnit s).natAbs = 1 := by decide
  have hsquare : ∀ s, signUnit s * signUnit s = 1 := by decide
  constructor
  · rintro ⟨k, hk, heq⟩
    rw [Int.abs_eq_natAbs] at hk
    have hmagnitudes := congrArg Int.natAbs heq
    simp only [Int.natAbs_mul, habs, Int.natAbs_natCast, Nat.one_mul] at hmagnitudes
    exact ⟨k.natAbs, by omega, hmagnitudes⟩
  · rintro ⟨q, hq, rfl⟩
    refine ⟨signUnit negative * signUnit other * q, ?_, ?_⟩
    · rw [Int.abs_eq_natAbs, Int.natAbs_mul, Int.natAbs_mul, habs, habs]
      omega
    · have hother := hsquare other
      push_cast
      linear_combination (-(signUnit negative * q * b : ℤ)) * hother

/-- **Arithmetic of 28 digits finds the whole multiples that are taken less than `10 ^ 28` times.** -/
theorem remainderIsZero?_iff (x y : Decimal) :
    x.remainderIsZero? y = some true ↔ ∃ k : ℤ, |k| < 10 ^ 28 ∧ x.toRat = k * y.toRat := by
  obtain ⟨e, hx, hy⟩ := toRat_aligned x y
  have hmultiple : ∀ k : ℤ, x.toRat = k * y.toRat ↔
      signUnit x.negative * ((aligned x y).1 : ℤ) = k * (signUnit y.negative * (aligned x y).2) := by
    intro k
    have hpower : (10 : ℚ) ^ e ≠ 0 := zpow_ne_zero e (by norm_num)
    rw [hx, hy, ← mul_assoc, mul_left_inj' hpower]
    norm_cast
  have hbound : (10 ^ 28 : ℤ) = ((10 ^ 28 : Nat) : ℤ) := by norm_num
  simp only [hmultiple]
  rw [hbound, signed_eq_mul_iff, remainderIsZero?]
  obtain ⟨a, b⟩ := aligned x y
  show (if a = 0 then some true else if 10 ^ 28 ≤ a / b then none else some (decide (a % b = 0))) = some true ↔
    ∃ q : Nat, q < 10 ^ 28 ∧ a = q * b
  by_cases ha : a = 0
  · rw [if_pos ha]
    exact ⟨fun _ => ⟨0, by norm_num, by rw [ha, Nat.zero_mul]⟩, fun _ => rfl⟩
  · rw [if_neg ha]
    by_cases hlong : 10 ^ 28 ≤ a / b
    · rw [if_pos hlong]
      constructor
      · intro h
        cases h
      · rintro ⟨q, hq, rfl⟩
        have hb : 0 < b := Nat.pos_of_ne_zero fun hzero => ha (by rw [hzero, Nat.mul_zero])
        rw [Nat.mul_div_cancel q hb] at hlong
        omega
    · rw [if_neg hlong, Option.some.injEq, decide_eq_true_iff]
      constructor
      · intro hmod
        exact ⟨a / b, by omega, (Nat.div_mul_cancel (Nat.dvd_of_mod_eq_zero hmod)).symm⟩
      · rintro ⟨q, _, rfl⟩
        exact Nat.mul_mod_left q b

end Decimal

namespace Check

variable {v : Value} {x s : Binary64}

/-- A value whose text is a numeral is the decimal that this is read as. -/
theorem exists_decimalOf {w : Value} {q : ℚ} (h : w.Writes q) : ∃ d, decimalOf? w = .ok (some d) ∧ d.toRat = q := by
  obtain ⟨t, ht, hwrites⟩ := h
  obtain ⟨d, hd, hq⟩ := hwrites.exists_decimal
  exact ⟨d, by rw [decimalOf?, ht, ← hd]; rfl, hq⟩

/-- Numbers that have numerals are multiples as the rational numbers of these are. -/
theorem exists_isMultiple {q r : ℚ} (hq : (Value.number x).Writes q) (hr : (Value.number s).Writes r) :
    ∃ b, isMultiple x (.number s) = .ok b ∧ (b = true ↔ ∃ k : ℤ, |k| < 10 ^ 28 ∧ q = k * r) := by
  obtain ⟨d, hd, rfl⟩ := exists_decimalOf hq
  obtain ⟨e, he, rfl⟩ := exists_decimalOf hr
  refine ⟨d.remainderIsZero? e == some true, ?_, ?_⟩
  · rw [isMultiple, hd, ok_bind, he]
    rfl
  · rw [← d.remainderIsZero?_iff e]
    exact beq_iff_eq

/-- A positive step is one that counts. -/
theorem atMost_zero (hs : s.isFinite = true) (hpositive : 0 < s.units) :
    (Value.number s).atMost (.int 0) = .ok false := by
  cases s with
  | finite negative m e canonical =>
    show Except.ok (decide ((Binary64.finite negative m e canonical).units ≤ 0 * (Binary64.unitsInOne : ℤ))) = _
    rw [Int.zero_mul, decide_eq_false (by omega)]
  | _ => cases hs

/-- With a positive step, the check is whether the number is a multiple of it. -/
theorem multiple_of_number (context : Context) (hv : v.number? = .ok (some x)) (hs : s.isFinite = true)
    (hpositive : 0 < s.units) :
    multiple v (.value (.number s)) context = (isMultiple x (.number s)).map .ofBool := by
  simp only [multiple, hv, Argument.bound, ok_bind, atMost_zero hs hpositive]
  cases isMultiple x (.number s) <;> rfl

/-- **A number passes exactly when the rational number that its text writes is a whole multiple of the one that the step's
text writes, taken less than `10 ^ 28` times.**  Whatever the magnitudes of the two, the comparison is exact; where the
quotient has more than 28 digits, the number fails. -/
theorem multiple_passes_iff (context : Context) (hv : v.number? = .ok (some x)) (hx : x.isFinite = true)
    (hs : s.isFinite = true) (hpositive : 0 < s.units) :
    ∃ q r : ℚ, (Value.number x).Writes q ∧ (Value.number s).Writes r ∧
      ∃ b, multiple v (.value (.number s)) context = .ok (.ofBool b) ∧
        (b = true ↔ ∃ k : ℤ, |k| < 10 ^ 28 ∧ q = k * r) := by
  have hq := Binary64.writes_toText hx
  have hr := Binary64.writes_toText hs
  obtain ⟨b, hb, hmultiple⟩ := exists_isMultiple hq hr
  refine ⟨_, _, hq, hr, b, ?_, hmultiple⟩
  rw [multiple_of_number context hv hs hpositive, hb]
  rfl

/-- The binary number next to a tenth. -/
def tenth : Binary64 := .finite false 7205759403792794 (-56) (by decide)

/-- The binary number next to three tenths; it is not three times the one next to a tenth. -/
def threeTenths : Binary64 := .finite false 5404319552844595 (-54) (by decide)

/-- The context of a check that consults nothing. -/
def noContext : Context := ⟨[], none, .absent, [], none⟩

theorem writes_tenth : (Value.number tenth).Writes (1 / 10) := by
  have htext : (Value.number tenth).toText.toOption = some "0.1" := by decide +kernel
  exact ⟨"0.1", eq_ok_of_toOption htext, ⟨.bare, ['0'], some ['1'], none⟩, by decide, rfl, by decide +kernel⟩

theorem writes_threeTenths : (Value.number threeTenths).Writes (3 / 10) := by
  have htext : (Value.number threeTenths).toText.toOption = some "0.3" := by decide +kernel
  exact ⟨"0.3", eq_ok_of_toOption htext, ⟨.bare, ['0'], some ['3'], none⟩, by decide, rfl, by decide +kernel⟩

/-- The text of three tenths passes a step of a tenth. -/
theorem multiple_passes_iff_of_tenths : (Value.text " 0.30").number? = .ok (some threeTenths) ∧
    threeTenths.isFinite = true ∧ tenth.isFinite = true ∧ 0 < tenth.units ∧ 3 * tenth.units ≠ threeTenths.units ∧
    multiple (.text " 0.30") (.value (.number tenth)) noContext = .ok .pass := by
  have hv : (Value.text " 0.30").number? = .ok (some threeTenths) := by
    have hread : Value.numberOfText? " 0.30" = some threeTenths := by decide +kernel
    rw [Value.number?, hread]
  refine ⟨hv, rfl, rfl, by decide +kernel, by decide +kernel, ?_⟩
  obtain ⟨q, r, hq, hr, b, hb, hmultiple⟩ :=
    multiple_passes_iff noContext hv (s := tenth) rfl rfl (by decide +kernel)
  rw [hq.unique writes_threeTenths, hr.unique writes_tenth] at hmultiple
  rw [hb, hmultiple.mpr ⟨3, by norm_num, by norm_num⟩]
  rfl

/-- The binary number next to `2 · 10 ^ 28`. -/
def manyTimesOne : Binary64 := .finite false 4547473508864641 42 (by decide)

/-- **Not every multiple passes**: a whole number of 29 digits is a multiple of one, but arithmetic does not keep the
quotient, and the number fails. -/
theorem not_every_multiple_passes : ¬ ∀ (v : Value) (x s : Binary64) (context : Context), v.number? = .ok (some x) →
    x.isFinite = true → s.isFinite = true → 0 < s.units →
    ∃ q r : ℚ, (Value.number x).Writes q ∧ (Value.number s).Writes r ∧
      ∃ b, multiple v (.value (.number s)) context = .ok (.ofBool b) ∧ (b = true ↔ ∃ k : ℤ, q = k * r) := by
  intro h
  have hone : Binary64.one.isFinite = true := by decide +kernel
  have hpositive : 0 < Binary64.one.units := by decide +kernel
  obtain ⟨q, r, hq, hr, b, hb, hmultiple⟩ := h (.number manyTimesOne) manyTimesOne .one noContext rfl rfl hone hpositive
  have hfails : (isMultiple manyTimesOne (.number .one)).toOption = some false := by decide +kernel
  rw [multiple_of_number noContext rfl hone hpositive, eq_ok_of_toOption hfails] at hb
  have hmany : manyTimesOne.toInt? = some 19999999999999999166239473664 := by decide +kernel
  have honce : Binary64.one.toInt? = some 1 := by decide +kernel
  rw [hq.unique ⟨_, Binary64.toText_of_toInt? hmany, writes_intDigits _⟩,
    hr.unique ⟨_, Binary64.toText_of_toInt? honce, writes_intDigits _⟩] at hmultiple
  have htrue : b = true := hmultiple.mpr ⟨19999999999999999166239473664, by norm_num⟩
  rw [htrue] at hb
  cases hb

end Check

end FormCheck
