import FormCheck.Number.Binary64
import Mathlib.Tactic.Common
import Mathlib.Algebra.Group.Nat.Defs

/-!
# Which whole numbers have a binary number

The largest finite number is `(2 ^ 53 - 1) · 2 ^ 971`.  A whole number is rounded to it as long as it lies
below the middle between it and `2 ^ 1024`; the middle itself goes to the even mantissa, that is up.

* `Binary64.leastInfinite` — the middle, `(2 ^ 54 - 1) · 2 ^ 970`;
* `Binary64.ofInt?_eq_none_iff` — **proved**: a whole number has no binary number exactly when its magnitude
  is at least that;
* `Binary64.natAbs_lt_of_toInt?` — **proved**: a binary number that is whole has at most 2098 digits.
-/

namespace FormCheck.Binary64

/-- The least magnitude of a whole number that is rounded to an infinity: the middle between the largest finite
number and the next power of two. -/
def leastInfinite : Nat := (2 ^ 54 - 1) * 2 ^ 970

/-! ### Rounding -/

theorem roundHalfEven_cases (num den : Nat) :
    roundHalfEven num den = num / den ∨ roundHalfEven num den = num / den + 1 := by
  simp only [roundHalfEven]
  split_ifs <;> simp

theorem roundHalfEven_of_lt {num den : Nat} (h : 2 * (num % den) < den) :
    roundHalfEven num den = num / den := by
  simp [roundHalfEven, h]

/-- From the middle on, an odd quotient is rounded up. -/
theorem roundHalfEven_of_odd {num den : Nat} (hodd : num / den % 2 = 1) (h : den ≤ 2 * (num % den)) :
    roundHalfEven num den = num / den + 1 := by
  have hnot : ¬ 2 * (num % den) < den := by omega
  simp [roundHalfEven, hnot, hodd]

/-! ### Whole numbers -/

/-- The exponent at which a whole number has a mantissa of 53 bits. -/
theorem exponentFor_one {num : Nat} (h : num ≠ 0) : exponentFor num 1 = (num.log2 : Int) - 52 := by
  have hlow : ¬ num < 2 ^ num.log2 := by
    have := Nat.log2_self_le h
    omega
  have hlog : Nat.log2 1 = 0 := by decide
  simp only [exponentFor, scaleDown, hlog]
  simp [hlow]
  omega

/-- The mantissa and the exponent of a whole number, before the mantissa is looked at once more. -/
theorem scaleDown_one (num : Nat) : scaleDown 2 num 1 ((num.log2 : Int) - 52) =
    (num * 2 ^ (52 - num.log2), 2 ^ (num.log2 - 52)) := by
  rw [scaleDown]
  split
  · next h =>
    have hshort : 52 - num.log2 = 0 := by omega
    have hexp : ((num.log2 : Int) - 52).toNat = num.log2 - 52 := by omega
    rw [hexp, hshort]
    simp
  · next h =>
    have hlong : num.log2 - 52 = 0 := by omega
    have hexp : (-((num.log2 : Int) - 52)).toNat = 52 - num.log2 := by omega
    rw [hexp, hlong]
    simp

/-- Whether a mantissa of 53 bits at an exponent is beyond the largest finite number. -/
theorem ofParts_eq_infinite_iff {negative : Bool} {mantissa : Nat} {exponent : Int}
    (h : 0x10000000000000 ≤ mantissa) (hle : mantissa < 0x20000000000000) (hexp : -1074 ≤ exponent) :
    (∃ s, ofParts negative mantissa exponent = .infinite s) ↔ 971 < exponent := by
  rw [ofParts]
  split
  · next hcanonical =>
    have := hcanonical.2.2.1
    simp only [reduceCtorEq, exists_false, false_iff]
    omega
  · next hcanonical =>
    simp only [Canonical] at hcanonical
    simp only [infinite.injEq, exists_eq', true_iff]
    omega

/-- The quotient of a whole number at its own exponent has 53 bits. -/
theorem quotient_bounds {num : Nat} (h : num ≠ 0) :
    0x10000000000000 ≤ num * 2 ^ (52 - num.log2) / 2 ^ (num.log2 - 52) ∧
      num * 2 ^ (52 - num.log2) / 2 ^ (num.log2 - 52) < 0x20000000000000 := by
  have hlow : 2 ^ num.log2 * 2 ^ (52 - num.log2) ≤ num * 2 ^ (52 - num.log2) :=
    Nat.mul_le_mul_right _ (Nat.log2_self_le h)
  have hhigh : num * 2 ^ (52 - num.log2) < 2 ^ (num.log2 + 1) * 2 ^ (52 - num.log2) :=
    Nat.mul_lt_mul_of_pos_right Nat.lt_log2_self (Nat.two_pow_pos _)
  have hpower : 2 ^ num.log2 * 2 ^ (52 - num.log2) = 2 ^ 52 * 2 ^ (num.log2 - 52) := by
    rw [← Nat.pow_add, ← Nat.pow_add]
    congr 1
    omega
  rw [Nat.pow_succ, Nat.mul_right_comm] at hhigh
  rw [hpower] at hlow hhigh
  constructor
  · exact (Nat.le_div_iff_mul_le (Nat.two_pow_pos _)).mpr hlow
  · rw [Nat.div_lt_iff_lt_mul (Nat.two_pow_pos _)]
    omega

/-- A whole number is rounded to an infinity exactly when its exponent is too large, once the mantissa has been
rounded. -/
theorem ofRatio_one_of_ne_zero {negative : Bool} {num : Nat} (h : num ≠ 0) :
    (∃ s, ofRatio negative num 1 = .infinite s) ↔ 1024 ≤ num.log2 ∨
      num.log2 = 1023 ∧ roundHalfEven num (2 ^ (num.log2 - 52)) = 0x20000000000000 := by
  have hq := quotient_bounds h
  have hm := roundHalfEven_cases (num * 2 ^ (52 - num.log2)) (2 ^ (num.log2 - 52))
  have hlong : num.log2 = 1023 → num * 2 ^ (52 - num.log2) = num := by
    intro hlog
    rw [hlog, Nat.pow_zero, Nat.mul_one]
  have hpositive : ¬ (num = 0 ∨ 1 = 0) := by omega
  rw [ofRatio, if_neg hpositive, exponentFor_one h]
  simp only [scaleDown_one]
  -- The mantissa is that of the right side wherever the exponent is the greatest one.
  have hsame : num.log2 = 1023 → roundHalfEven (num * 2 ^ (52 - num.log2)) (2 ^ (num.log2 - 52))
      = roundHalfEven num (2 ^ (num.log2 - 52)) := fun hlog => by rw [hlong hlog]
  generalize roundHalfEven (num * 2 ^ (52 - num.log2)) (2 ^ (num.log2 - 52)) = m at *
  split
  · next hm53 =>
    rw [ofParts_eq_infinite_iff (by decide) (by decide) (by omega)]
    omega
  · next hm53 =>
    rw [ofParts_eq_infinite_iff (by omega) (by omega) (by omega)]
    omega

/-- In the last range before `2 ^ 1024`, with `x` for half of the distance between neighbours: the mantissa is
rounded up to `2 ^ 53` exactly from the middle on. -/
theorem roundHalfEven_last_iff {num x : Nat} (hx : 0 < x) (hlow : 0x10000000000000 * (x * 2) ≤ num)
    (hhigh : num < 0x20000000000000 * (x * 2)) :
    roundHalfEven num (x * 2) = 0x20000000000000 ↔ (2 ^ 54 - 1) * x ≤ num := by
  have hpos : 0 < x * 2 := by omega
  have hq : num / (x * 2) < 0x20000000000000 := (Nat.div_lt_iff_lt_mul hpos).mpr hhigh
  have hdiv := Nat.div_add_mod num (x * 2)
  have hmod := Nat.mod_lt num hpos
  by_cases hlast : num / (x * 2) = 0x1fffffffffffff
  · rw [hlast] at hdiv
    by_cases hhalf : 2 * (num % (x * 2)) < x * 2
    · rw [roundHalfEven_of_lt hhalf, hlast]
      omega
    · rw [roundHalfEven_of_odd (by rw [hlast]) (by omega), hlast]
      omega
  · have hsmall : num / (x * 2) < 0x1fffffffffffff := by omega
    rw [Nat.div_lt_iff_lt_mul hpos] at hsmall
    have hm := roundHalfEven_cases num (x * 2)
    omega

/-- **A magnitude is rounded to an infinity exactly from the middle on.** -/
theorem ofRatio_one_infinite_iff (negative : Bool) {num : Nat} :
    (∃ s, ofRatio negative num 1 = .infinite s) ↔ leastInfinite ≤ num := by
  -- The exponent gets a name, so that nothing computes the power.
  obtain ⟨k, hk⟩ : ∃ k, k = 970 := ⟨970, rfl⟩
  have hpos : 0 < 2 ^ k := Nat.two_pow_pos k
  rw [leastInfinite, ← hk]
  by_cases hzero : num = 0
  · rw [hzero, ofRatio, if_pos (.inl rfl)]
    simp only [signedZero, reduceCtorEq, exists_false, false_iff]
    omega
  have hlow : num.log2 < 53 + k ↔ num < 2 ^ 53 * 2 ^ k := by
    rw [← Nat.pow_add, Nat.log2_lt hzero]
  have hhigh : num.log2 < 54 + k ↔ num < 2 ^ 54 * 2 ^ k := by
    rw [← Nat.pow_add, Nat.log2_lt hzero]
  rw [ofRatio_one_of_ne_zero hzero]
  by_cases hlog : num.log2 = 1023
  · have hlast : num.log2 - 52 = k + 1 := by omega
    rw [hlast, Nat.pow_succ, roundHalfEven_last_iff hpos (by omega) (by omega)]
    omega
  · omega

/-- **A whole number has no binary number exactly when its magnitude is rounded to an infinity.** -/
theorem ofInt?_eq_none_iff {n : Int} : ofInt? n = none ↔ leastInfinite ≤ n.natAbs := by
  rw [← ofRatio_one_infinite_iff (decide (n < 0)), ofInt?]
  cases ofRatio (decide (n < 0)) n.natAbs 1 <;> simp

/-! ### Binary numbers that are whole -/

theorem natAbs_units_lt (x : Binary64) {k : Nat} (hk : k = 2045) : x.units.natAbs < 2 ^ 53 * 2 ^ k := by
  cases x with
  | finite negative m e canonical =>
    have he := canonical.2.2.1
    have hle : (e + 1074).toNat ≤ k := by omega
    have habs : (finite negative m e canonical).units.natAbs = m * 2 ^ (e + 1074).toNat := by
      rw [units, Nat.pow_eq]
      cases negative with
      | false => exact Int.natAbs_natCast _
      | true => exact (Int.natAbs_neg _).trans (Int.natAbs_natCast _)
    rw [habs]
    calc m * 2 ^ (e + 1074).toNat
        ≤ m * 2 ^ k := Nat.mul_le_mul_left m (Nat.pow_le_pow_right (by decide) hle)
      _ < 2 ^ 53 * 2 ^ k := Nat.mul_lt_mul_of_pos_right canonical.1 (Nat.two_pow_pos _)
  | _ => exact Nat.mul_pos (Nat.two_pow_pos _) (Nat.two_pow_pos _)

/-- **A binary number that is whole has at most 2098 digits.** -/
theorem natAbs_lt_of_toInt? {x : Binary64} {n : Int} (h : x.toInt? = some n) {k : Nat} (hk : 2098 ≤ k) :
    n.natAbs < 10 ^ k := by
  obtain ⟨j, hj⟩ : ∃ j, j = 2045 := ⟨2045, rfl⟩
  rw [toInt?] at h
  split at h
  · cases h
    calc (x.units / unitsInOne).natAbs
        ≤ x.units.natAbs := Int.natAbs_ediv_le_natAbs _ _
      _ < 2 ^ 53 * 2 ^ j := x.natAbs_units_lt hj
      _ = 2 ^ (53 + j) := (Nat.pow_add ..).symm
      _ ≤ 10 ^ (53 + j) := Nat.pow_le_pow_left (by decide) _
      _ ≤ 10 ^ k := Nat.pow_le_pow_right (by decide) (by omega)
  · cases h

end FormCheck.Binary64
