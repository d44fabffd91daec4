import FormCheck.Proofs.Path.Writing
import Mathlib.Algebra.Order.Group.Nat
import Mathlib.Data.List.Induction

/-!
# The shortest numeral of a number

Many numerals write one number: digits of other scripts do, and zeros in front.  The one in which a number is written
has neither.

* `Number.IsShort` — ASCII digits without a zero in front that could be left out;
* `Number.natDigits_decimalValue_iff` — **proved**: a numeral is that of its number exactly when it is short;
* `Number.length_natDigits_le_iff` — **proved**: how many digits a number has;
* `Number.decimalValue_lt` — **proved**: how great a number of so many digits is;
* `Number.intText_eq_error_iff` — **proved**: which whole numbers are not written.
-/

namespace FormCheck.Number

open Text

/-- ASCII digits, of which the first is no zero unless it is the only one. -/
structure IsShort (ds : List Char) : Prop where
  ascii : ∀ c ∈ ds, c.isDigit = true
  leading : ds.head? = some '0' → ds = ['0']

instance : DecidablePred IsShort := fun ds =>
  decidable_of_iff (ds.all Char.isDigit = true ∧ (ds.head? = some '0' → ds = ['0'])) <| by
    rw [List.all_eq_true]
    exact ⟨fun h => ⟨h.1, h.2⟩, fun h => ⟨h.ascii, h.leading⟩⟩

/-! ### Digits -/

theorem exists_of_isDigit {c : Char} (h : c.isDigit = true) : ∃ d, d < 10 ∧ c = digitChar d := by
  rw [Char.isDigit, Bool.and_eq_true, decide_eq_true_iff, decide_eq_true_iff] at h
  have hlow : 48 ≤ c.toNat := h.1
  have hhigh : c.toNat ≤ 57 := h.2
  refine ⟨c.toNat - 48, by omega, ?_⟩
  rw [digitChar, show 48 + (c.toNat - 48) = c.toNat by omega, Char.ofNat_toNat]

theorem isDigit_digitChar {d : Nat} (h : d < 10) : (digitChar d).isDigit = true := by
  have hall : ∀ d ∈ List.range 10, (digitChar d).isDigit = true := by decide
  exact hall d (List.mem_range.mpr h)

theorem digitValue?_lt {c : Char} {v : Nat} (h : digitValue? c = some v) : v < 10 := by
  rw [digitValue?] at h
  split at h
  · split at h
    · next hdigit =>
      obtain ⟨d, hd, rfl⟩ := exists_of_isDigit hdigit
      have hall : ∀ d ∈ List.range 10, (digitChar d).toNat - 48 < 10 := by decide
      cases h
      exact hall d (List.mem_range.mpr hd)
    · cases h
  · obtain ⟨z, hz, rfl⟩ := Option.map_eq_some_iff.mp h
    have hrange := List.find?_some hz
    simp only [Bool.and_eq_true, decide_eq_true_iff] at hrange
    omega

/-! ### Numbers of so many digits -/

/-- Digits write a number of at most as many digits. -/
theorem decimalValue_lt (ds : List Char) : decimalValue ds < 10 ^ ds.length := by
  induction ds using List.reverseRecOn with
  | nil => exact Nat.one_pos
  | append_singleton ds c ih =>
    have hdigit : (digitValue? c).getD 0 < 10 := by
      cases hv : digitValue? c with
      | none => exact Nat.succ_pos 9
      | some v => exact digitValue?_lt hv
    rw [decimalValue_append_singleton, List.length_append, List.length_singleton, Nat.pow_succ]
    omega

theorem natDigits_of_lt {n : Nat} (h : n < 10) : natDigits n = [digitChar n] := by
  rw [natDigits, if_pos h]

theorem natDigits_of_le {n : Nat} (h : 10 ≤ n) : natDigits n = natDigits (n / 10) ++ [digitChar (n % 10)] := by
  rw [natDigits, if_neg (Nat.not_lt.mpr h)]

theorem natDigits_ne_nil (n : Nat) : natDigits n ≠ [] := by
  by_cases h : n < 10
  · rw [natDigits_of_lt h]
    exact List.cons_ne_nil _ _
  · rw [natDigits_of_le (Nat.not_lt.mp h)]
    exact List.append_ne_nil_of_right_ne_nil _ (List.cons_ne_nil _ _)

/-- A number has at most so many digits if it is less than that power of ten. -/
theorem length_natDigits_le_iff {n k : Nat} (hk : 0 < k) : (natDigits n).length ≤ k ↔ n < 10 ^ k := by
  induction n using natDigits.induct generalizing k with
  | case1 n h =>
    have hpow : 10 ^ 1 ≤ 10 ^ k := Nat.pow_le_pow_right (by decide) hk
    rw [natDigits_of_lt h, List.length_singleton]
    omega
  | case2 n h ih =>
    rw [natDigits_of_le (Nat.not_lt.mp h), List.length_append, List.length_singleton]
    obtain ⟨j, rfl⟩ : ∃ j, k = j + 1 := ⟨k - 1, by omega⟩
    cases j with
    | zero =>
      have hlength : 0 < (natDigits (n / 10)).length := List.length_pos_iff.mpr (natDigits_ne_nil _)
      omega
    | succ j =>
      rw [Nat.add_le_add_iff_right, ih (Nat.succ_pos j), Nat.div_lt_iff_lt_mul (by decide), ← Nat.pow_succ]

/-! ### Numbers that are written -/

theorem intText_of_lt {n : Int} (h : n.natAbs < 10 ^ readLimit) : intText n = .ok (String.ofList (intDigits n)) := by
  rw [intText, if_pos ((length_natDigits_le_iff (by decide)).mpr h)]

/-- **A whole number is not written exactly if it has more digits than are read.** -/
theorem intText_eq_error_iff {n : Int} {f : Fault} :
    intText n = .error f ↔ 10 ^ readLimit ≤ n.natAbs ∧ f = .longNumber := by
  by_cases h : n.natAbs < 10 ^ readLimit
  · rw [intText_of_lt h]
    simp [h]
  · have hlong : ¬ (natDigits n.natAbs).length ≤ readLimit := fun hle =>
      h ((length_natDigits_le_iff (by decide)).mp hle)
    rw [intText, if_neg hlong, Except.error.injEq, eq_comm]
    exact (and_iff_right (Nat.not_lt.mp h)).symm

/-! ### Short numerals -/

theorem head?_append_left {ds es : List Char} (h : ds ≠ []) : (ds ++ es).head? = ds.head? := by
  obtain ⟨c, ds, rfl⟩ := List.exists_cons_of_ne_nil h
  rfl

/-- The numeral of a number is short. -/
theorem isShort_natDigits (n : Nat) : IsShort (natDigits n) := by
  induction n using natDigits.induct with
  | case1 n h =>
    rw [natDigits_of_lt h]
    refine ⟨fun c hc => ?_, fun hzero => ?_⟩
    · rw [List.mem_singleton.mp hc]
      exact isDigit_digitChar h
    · rw [Option.some.inj hzero]
  | case2 n h ih =>
    rw [natDigits_of_le (Nat.not_lt.mp h)]
    refine ⟨fun c hc => ?_, fun hzero => ?_⟩
    · rcases List.mem_append.mp hc with hc | hc
      · exact ih.ascii c hc
      · rw [List.mem_singleton.mp hc]
        exact isDigit_digitChar (Nat.mod_lt n (by decide))
    · -- With a zero in front, the number less its last digit would be zero.
      rw [head?_append_left (natDigits_ne_nil _)] at hzero
      have hvalue := decimalValue_natDigits (n / 10)
      rw [ih.leading hzero] at hvalue
      have hnone : decimalValue ['0'] = 0 := by decide
      omega

/-- Digits without a zero in front are the numeral of their number. -/
theorem natDigits_of_isShort {ds : List Char} (hne : ds ≠ []) (h : IsShort ds) : natDigits (decimalValue ds) = ds := by
  induction ds using List.reverseRecOn with
  | nil => exact absurd rfl hne
  | append_singleton ds c ih =>
    obtain ⟨d, hd, rfl⟩ := exists_of_isDigit (h.ascii c (List.mem_append_right ds (List.mem_singleton_self c)))
    rw [decimalValue_append_singleton, digitValue?_digitChar hd, Option.getD_some]
    by_cases hnil : ds = []
    · subst hnil
      have hvalue : 10 * decimalValue [] + d = d := by simp [decimalValue]
      rw [hvalue, natDigits_of_lt hd]
      rfl
    · -- There are digits before the last one, and they do not begin with a zero.
      have hhead : ds.head? ≠ some '0' := by
        intro hzero
        have hall := h.leading ((head?_append_left hnil).trans hzero)
        have hlength := congrArg List.length hall
        have hpos : 0 < ds.length := List.length_pos_iff.mpr hnil
        rw [List.length_append, List.length_singleton, List.length_singleton] at hlength
        omega
      have hfront : natDigits (decimalValue ds) = ds :=
        ih hnil ⟨fun c hc => h.ascii c (List.mem_append_left _ hc), fun hzero => absurd hzero hhead⟩
      have hpos : decimalValue ds ≠ 0 := by
        intro hzero
        rw [hzero, natDigits_of_lt (by decide)] at hfront
        exact hhead (hfront ▸ rfl)
      rw [natDigits_of_le (by omega), show (10 * decimalValue ds + d) / 10 = decimalValue ds by omega,
        show (10 * decimalValue ds + d) % 10 = d by omega, hfront]

/-- **A numeral is that of its number exactly when it is short.** -/
theorem natDigits_decimalValue_iff {ds : List Char} (hne : ds ≠ []) :
    natDigits (decimalValue ds) = ds ↔ IsShort ds :=
  ⟨fun h => h ▸ isShort_natDigits _, natDigits_of_isShort hne⟩

end FormCheck.Number
