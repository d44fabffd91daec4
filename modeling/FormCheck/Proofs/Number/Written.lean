import FormCheck.Proofs.Condition.Literals
import FormCheck.Proofs.Number.Numeral
import FormCheck.Proofs.Number.Range
import FormCheck.Value.Literal
import Mathlib.Tactic.FieldSimp
import Mathlib.Tactic.Positivity
import Mathlib.Tactic.Ring
import Mathlib.Algebra.Order.Field.Rat

/-!
# The rational numbers that texts write

Decimal arithmetic works on the texts of numbers.  A text of digits, with a point among them and an exponent after them,
writes a rational number, and this says which one, apart from how texts are read.

* `DecimalNumeral` — a numeral by its parts, with `DecimalNumeral.chars` as it is written and `DecimalNumeral.value` as
  the rational number that it writes;
* `DecimalNumeral.ofChars?_chars`, `DecimalNumeral.toRat_decimal` — **proved**: a numeral is read as its number;
* `Writes` — a text is a numeral of a rational number; `Writes.unique` — **proved**: of one only;
* `DecimalLayout.exists_write` — **proved**: digits that are laid out, with a point or with an exponent, are a numeral;
* `Binary64.toText_ne_error`, `Binary64.writes_toText` — **proved**: every number has a text, and that of a finite one is
  a numeral.
-/

namespace FormCheck

open Text Number Condition

/-! ### Digits -/

namespace Number

theorem decimalValue_append (cs ds : List Char) :
    decimalValue (cs ++ ds) = decimalValue cs * 10 ^ ds.length + decimalValue ds := by
  induction ds using List.reverseRecOn with
  | nil => simp [decimalValue]
  | append_singleton ds d ih =>
    rw [← List.append_assoc, decimalValue_append_singleton, ih, decimalValue_append_singleton, List.length_append,
      List.length_singleton, Nat.pow_succ]
    ring

theorem decimalValue_zeros (k : Nat) : decimalValue (List.replicate k '0') = 0 := by
  induction k with
  | zero => rfl
  | succ k ih =>
    rw [List.replicate_succ', decimalValue_append_singleton, ih]
    decide

theorem decimalValue_zeros_append (k : Nat) (cs : List Char) :
    decimalValue (List.replicate k '0' ++ cs) = decimalValue cs := by
  rw [decimalValue_append, decimalValue_zeros, Nat.zero_mul, Nat.zero_add]

theorem decimalValue_append_zeros (cs : List Char) (k : Nat) :
    decimalValue (cs ++ List.replicate k '0') = decimalValue cs * 10 ^ k := by
  rw [decimalValue_append, decimalValue_zeros, List.length_replicate, Nat.add_zero]

theorem isDecimal_zeros {k : Nat} {c : Char} (h : c ∈ List.replicate k '0') : isDecimal c = true := by
  rw [List.eq_of_mem_replicate h]
  decide

theorem isDecimal_natDigits {n : Nat} {c : Char} (h : c ∈ natDigits n) : isDecimal c = true := by
  obtain ⟨d, hd, rfl⟩ := exists_of_isDigit ((isShort_natDigits n).ascii c h)
  simp [isDecimal, digitValue?_digitChar hd]

end Number

/-! ### Signs -/

/-- Minus one for what is negative, and one for what is not. -/
def signUnit (negative : Bool) : ℤ :=
  if negative then -1 else 1

theorem signUnit_mul_natAbs (n : ℤ) : signUnit (n < 0) * n.natAbs = (n : ℚ) := by
  by_cases hn : n < 0
  · simp [signUnit, hn, abs_of_neg]
  · simp [signUnit, hn, abs_of_nonneg (Int.not_lt.mp hn)]

/-- The sign in front of a number. -/
def signOf (negative : Bool) : Sign :=
  if negative then .minus else .bare

theorem isNegative_signOf (negative : Bool) : (signOf negative).isNegative = negative := by
  cases negative <;> rfl

theorem withSign_eq (negative : Bool) (cs : List Char) :
    Binary64.withSign negative cs = (signOf negative).chars ++ cs := by
  cases negative <;> rfl

/-- A sign is read as one where no other one follows it. -/
theorem readSign_append_of_head (sign : Sign) {cs : List Char} (h : ∀ c ∈ cs.head?, c ≠ '-' ∧ c ≠ '+') :
    Decimal.readSign (sign.chars ++ cs) = (sign.isNegative, cs) := by
  cases sign with
  | plus => rfl
  | minus => rfl
  | bare =>
    show Decimal.readSign cs = (false, cs)
    cases cs with
    | nil => rfl
    | cons c cs =>
      have hc := h c rfl
      rw [Decimal.readSign.eq_def]
      split <;> simp_all

/-! ### Numerals -/

/-- The rational number that a decimal number is. -/
def Decimal.toRat (x : Decimal) : ℚ :=
  signUnit x.negative * x.coefficient * 10 ^ x.exponent

/-- A numeral: a sign, digits, perhaps a point with digits after it, and perhaps an exponent with a sign of its own. -/
structure DecimalNumeral where
  sign : Sign
  whole : List Char
  part : Option (List Char)
  shift : Option (Sign × List Char)

namespace DecimalNumeral

/-- The digits after the point. -/
def places (n : DecimalNumeral) : List Char :=
  n.part.getD []

/-- The digits with the point among them. -/
def body (n : DecimalNumeral) : List Char :=
  n.whole ++ n.part.elim [] ('.' :: ·)

/-- How an exponent is written. -/
def shiftChars (shift : Sign × List Char) : List Char :=
  'e' :: (shift.1.chars ++ shift.2)

/-- How a numeral is written. -/
def chars (n : DecimalNumeral) : List Char :=
  n.sign.chars ++ (n.body ++ n.shift.elim [] shiftChars)

/-- The number that an exponent is. -/
def shiftValue (shift : Sign × List Char) : ℤ :=
  signUnit shift.1.isNegative * decimalValue shift.2

/-- The rational number that a numeral writes: that of its digits, divided by ten for each digit after the point, and
moved by the exponent. -/
def value (n : DecimalNumeral) : ℚ :=
  signUnit n.sign.isNegative * (decimalValue (n.whole ++ n.places) / 10 ^ n.places.length)
    * 10 ^ n.shift.elim 0 shiftValue

/-- What a numeral is written with: digits, at least one before or after the point, and at least one in an exponent. -/
structure IsProper (n : DecimalNumeral) : Prop where
  ne_nil : n.whole ++ n.places ≠ []
  decimal : ∀ c ∈ n.whole ++ n.places, isDecimal c = true
  shift : ∀ s ∈ n.shift, s.2 ≠ [] ∧ ∀ c ∈ s.2, isDecimal c = true

instance : DecidablePred IsProper := fun n =>
  decidable_of_iff (n.whole ++ n.places ≠ [] ∧ (n.whole ++ n.places).all isDecimal = true ∧
      (n.shift.all fun s => !s.2.isEmpty && s.2.all isDecimal) = true) <| by
    simp only [Option.all_eq_true, Bool.and_eq_true, Bool.not_eq_true', List.isEmpty_eq_false_iff, List.all_eq_true]
    exact ⟨fun h => ⟨h.1, h.2.1, h.2.2⟩, fun h => ⟨h.ne_nil, h.decimal, h.shift⟩⟩

/-- The decimal number with the digits of a numeral. -/
def decimal (n : DecimalNumeral) : Decimal :=
  ⟨n.sign.isNegative, decimalValue (n.whole ++ n.places), -(n.places.length : ℤ) + n.shift.elim 0 shiftValue⟩

theorem toRat_decimal (n : DecimalNumeral) : n.decimal.toRat = n.value := by
  rw [Decimal.toRat, decimal, value, zpow_add₀ (by norm_num), zpow_neg, zpow_natCast]
  ring

/-! ### Reading numerals -/

variable {n : DecimalNumeral}

theorem figure_of_body (h : n.IsProper) : ∀ c ∈ n.body, IsFigure c := by
  obtain ⟨sign, whole, part, shift⟩ := n
  cases part with
  | some part => exact figure_of_pointed h.decimal
  | none =>
    intro c hc
    exact .inl (h.decimal c (by simpa [body, places] using hc))

theorem body_ne_nil (h : n.IsProper) : n.body ≠ [] := by
  obtain ⟨sign, whole, part, shift⟩ := n
  cases part with
  | some part => simp [body]
  | none => simpa [body, places] using h.ne_nil

/-- No character of the digits is the mark of an exponent. -/
theorem unmarked_body (h : n.IsProper) : ∀ c ∈ n.body, (!(c == 'e' || c == 'E')) = true := by
  intro c hc
  have hletters : ∀ l ∈ ['e', 'E'], ¬ IsFigure l := forall_mem_of_all (by decide)
  have hnot : c ∉ ['e', 'E'] := fun hmem => hletters c hmem (figure_of_body h c hc)
  simpa using hnot

theorem readSign_chars (h : n.IsProper) :
    Decimal.readSign n.chars = (n.sign.isNegative, n.body ++ n.shift.elim [] shiftChars) := by
  refine readSign_append_of_head n.sign fun c hc => ?_
  have hsigns : ∀ l ∈ ['-', '+'], ¬ IsFigure l := forall_mem_of_all (by decide)
  rw [head?_append_left (body_ne_nil h)] at hc
  have hnot : c ∉ ['-', '+'] := fun hmem => hsigns c hmem (figure_of_body h c (List.mem_of_mem_head? hc))
  simpa using hnot

theorem ofPoint?_body (h : n.IsProper) :
    Decimal.ofPoint? n.body = some (decimalValue (n.whole ++ n.places), -(n.places.length : ℤ)) := by
  obtain ⟨sign, whole, part, shift⟩ := n
  cases part with
  | some part => exact Literal.ofPoint_eq h.ne_nil h.decimal
  | none =>
    have hne : whole ≠ [] := by simpa [places] using h.ne_nil
    have hdecimal : ∀ c ∈ whole, isDecimal c = true := by simpa [places] using h.decimal
    have htake : whole.takeWhile isDecimal = whole := List.takeWhile_eq_self_iff.mpr hdecimal
    have hdrop : whole.dropWhile isDecimal = [] := List.dropWhile_eq_nil_iff.mpr hdecimal
    simp [body, places, Decimal.ofPoint?, htake, hdrop, hne]

theorem ofExponent?_append {shift : Sign × List Char} (h : shift.2 ≠ [] ∧ ∀ c ∈ shift.2, isDecimal c = true) :
    Decimal.ofExponent? (shift.1.chars ++ shift.2) = some (shiftValue shift) := by
  have hread : Decimal.readSign (shift.1.chars ++ shift.2) = (shift.1.isNegative, shift.2) :=
    readSign_append shift.1 fun c hc => .inl (h.2 c hc)
  have hempty : shift.2.isEmpty = false := by simpa using h.1
  have hall : shift.2.all isDecimal = true := List.all_eq_true.mpr h.2
  simp only [Decimal.ofExponent?, hread, hempty, hall]
  cases hsign : shift.1.isNegative <;> simp [shiftValue, signUnit, hsign]

/-- **A numeral is read as the decimal number with its digits.** -/
theorem ofChars?_chars (h : n.IsProper) : Decimal.ofChars? n.chars = some n.decimal := by
  have hbody := unmarked_body h
  have hread := readSign_chars h
  rw [Decimal.ofChars?]
  cases hshift : n.shift with
  | none =>
    have htake : n.body.takeWhile (fun c => !(c == 'e' || c == 'E')) = n.body := List.takeWhile_eq_self_iff.mpr hbody
    have hdrop : n.body.dropWhile (fun c => !(c == 'e' || c == 'E')) = [] := List.dropWhile_eq_nil_iff.mpr hbody
    rw [hshift, Option.elim_none, List.append_nil] at hread
    simp only [hread, htake, hdrop, ofPoint?_body h, decimal, hshift, Option.elim_none, Option.bind_eq_bind,
      Option.bind_some, Option.pure_def]
  | some shift =>
    have htake : (n.body ++ shiftChars shift).takeWhile (fun c => !(c == 'e' || c == 'E')) = n.body := by
      rw [List.takeWhile_append_of_pos hbody, shiftChars, List.takeWhile_cons_of_neg (by decide), List.append_nil]
    have hdrop : (n.body ++ shiftChars shift).dropWhile (fun c => !(c == 'e' || c == 'E'))
        = 'e' :: (shift.1.chars ++ shift.2) := by
      rw [List.dropWhile_append_of_pos hbody, shiftChars, List.dropWhile_cons_of_neg (by decide)]
    rw [hshift, Option.elim_some] at hread
    simp only [hread, htake, hdrop, ofPoint?_body h, ofExponent?_append (h.shift shift hshift), decimal, hshift,
      Option.elim_some, Option.bind_eq_bind, Option.bind_some, Option.pure_def]

end DecimalNumeral

/-! ### Texts -/

/-- A text is a numeral of a rational number. -/
def Writes (s : String) (q : ℚ) : Prop :=
  ∃ n : DecimalNumeral, n.IsProper ∧ n.chars = s.toList ∧ n.value = q

namespace Writes

variable {s : String} {q r : ℚ}

/-- What is a numeral of a rational number is read as that number. -/
theorem exists_decimal (h : Writes s q) : ∃ d, Decimal.ofChars? s.toList = some d ∧ d.toRat = q := by
  obtain ⟨n, hproper, hchars, rfl⟩ := h
  exact ⟨n.decimal, hchars ▸ n.ofChars?_chars hproper, n.toRat_decimal⟩

/-- A text is a numeral of one rational number only. -/
theorem unique (hq : Writes s q) (hr : Writes s r) : q = r := by
  obtain ⟨d, hd, rfl⟩ := hq.exists_decimal
  obtain ⟨e, he, rfl⟩ := hr.exists_decimal
  rw [Option.some.inj (hd.symm.trans he)]

end Writes

/-- The text of a value is a numeral of a rational number. -/
def Value.Writes (v : Value) (q : ℚ) : Prop :=
  ∃ s, v.toText = .ok s ∧ FormCheck.Writes s q

theorem Value.Writes.unique {v : Value} {q r : ℚ} (hq : v.Writes q) (hr : v.Writes r) : q = r := by
  obtain ⟨s, hs, hq⟩ := hq
  obtain ⟨t, ht, hr⟩ := hr
  obtain rfl := Except.ok.inj (hs.symm.trans ht)
  exact FormCheck.Writes.unique hq hr

/-- A whole number has a numeral without a point. -/
theorem writes_intDigits (n : ℤ) : Writes (String.ofList (intDigits n)) n := by
  refine ⟨⟨signOf (n < 0), natDigits n.natAbs, none, none⟩, ⟨?_, ?_, by simp⟩, ?_, ?_⟩
  · simpa [DecimalNumeral.places] using natDigits_ne_nil n.natAbs
  · intro c hc
    exact isDecimal_natDigits (by simpa [DecimalNumeral.places] using hc)
  · by_cases hn : n < 0 <;>
      simp [DecimalNumeral.chars, DecimalNumeral.body, intDigits, signOf, Sign.chars, hn]
  · simp only [DecimalNumeral.value, DecimalNumeral.places, Option.getD_none, List.append_nil, Option.elim_none,
      isNegative_signOf, decimalValue_natDigits, List.length_nil, pow_zero, div_one, zpow_zero, mul_one]
    exact signUnit_mul_natAbs n

/-! ### Laying digits out -/

namespace DecimalLayout

variable {digits : List Char}

/-- Digits with a point at a place have digits before and after the point, and write the digits moved to that place. -/
theorem exists_positional (h : ∀ c ∈ digits, isDecimal c = true) (point : ℤ) :
    ∃ whole part, positional digits point = whole ++ '.' :: part ∧ whole ≠ [] ∧
      (∀ c ∈ whole ++ part, isDecimal c = true) ∧
      (decimalValue (whole ++ part) / 10 ^ part.length : ℚ) = decimalValue digits * 10 ^ (point - digits.length) := by
  have hzeros : ∀ k, ∀ c ∈ List.replicate k '0', isDecimal c = true := fun k c => isDecimal_zeros
  rw [positional]
  by_cases hpoint : point ≤ 0
  · -- Nothing stands before the point but a zero.
    obtain ⟨k, rfl⟩ : ∃ k : Nat, point = -k := ⟨point.natAbs, by omega⟩
    have hshift : -(k : ℤ) - digits.length = -((k + digits.length : Nat) : ℤ) := by omega
    refine ⟨['0'], List.replicate k '0' ++ digits, by simp, by simp, ?_, ?_⟩
    · exact List.forall_mem_append.mpr ⟨hzeros 1, List.forall_mem_append.mpr ⟨hzeros k, h⟩⟩
    · have hvalue : decimalValue (['0'] ++ (List.replicate k '0' ++ digits)) = decimalValue digits :=
        decimalValue_zeros_append (k + 1) digits
      rw [hvalue, hshift, zpow_neg, zpow_natCast, List.length_append, List.length_replicate]
      rfl
  · obtain ⟨n, rfl⟩ : ∃ n : Nat, point = n := ⟨point.toNat, by omega⟩
    simp only [hpoint, if_false, Int.toNat_natCast]
    by_cases hlength : digits.length ≤ n
    · -- Zeros stand between the digits and the point.
      obtain ⟨k, rfl⟩ := Nat.exists_eq_add_of_le hlength
      have hshift : ((digits.length + k : Nat) : ℤ) - digits.length = (k : Nat) := by omega
      rw [if_pos hlength, Nat.add_sub_cancel_left]
      refine ⟨digits ++ List.replicate k '0', ['0'], by simp, ?_, ?_, ?_⟩
      · intro hnil
        have hlengths := congrArg List.length hnil
        simp only [List.length_append, List.length_replicate, List.length_nil] at hlengths
        omega
      · exact List.forall_mem_append.mpr ⟨List.forall_mem_append.mpr ⟨h, hzeros k⟩, hzeros 1⟩
      · have hvalue : decimalValue (digits ++ List.replicate k '0' ++ ['0']) = decimalValue digits * 10 ^ (k + 1) := by
          rw [List.append_assoc, ← List.replicate_succ', decimalValue_append_zeros]
        rw [hvalue, hshift, zpow_natCast, List.length_singleton]
        push_cast
        ring
    · -- The point stands among the digits.
      rw [if_neg hlength]
      have hdigits : digits.take n ++ digits.drop n = digits := List.take_append_drop n digits
      refine ⟨digits.take n, digits.drop n, rfl, ?_, by rwa [hdigits], ?_⟩
      · intro hnil
        have hlengths := congrArg List.length hnil
        simp only [List.length_take, List.length_nil] at hlengths
        omega
      · have hshift : (n : ℤ) - digits.length = -(digits.length - n : Nat) := by omega
        rw [hdigits, hshift, zpow_neg, zpow_natCast, List.length_drop]
        rfl

theorem exists_exponentText (layout : DecimalLayout) (e : ℤ) :
    ∃ shift : Sign × List Char, layout.exponentText e = DecimalNumeral.shiftChars shift ∧
      (shift.2 ≠ [] ∧ ∀ c ∈ shift.2, isDecimal c = true) ∧ DecimalNumeral.shiftValue shift = e := by
  refine ⟨(if e < 0 then .minus else .plus,
    List.replicate (layout.exponentWidth - (natDigits e.natAbs).length) '0' ++ natDigits e.natAbs), ?_, ⟨?_, ?_⟩, ?_⟩
  · rw [exponentText, DecimalNumeral.shiftChars]
    by_cases he : e < 0 <;> simp [he, Sign.chars]
  · exact List.append_ne_nil_of_right_ne_nil _ (natDigits_ne_nil _)
  · intro c hc
    exact (List.mem_append.mp hc).elim isDecimal_zeros isDecimal_natDigits
  · rw [DecimalNumeral.shiftValue, decimalValue_zeros_append, decimalValue_natDigits]
    by_cases he : e < 0
    · rw [if_pos he]
      simp [Sign.isNegative, signUnit, abs_of_neg he]
    · rw [if_neg he]
      simp [Sign.isNegative, signUnit, abs_of_nonneg (Int.not_lt.mp he)]

/-- Digits with an exponent have the first one before the point, and no point if there is only one. -/
theorem exists_scientific (layout : DecimalLayout) (hne : digits ≠ []) (e : ℤ) :
    ∃ (d : Char) (part : Option (List Char)) (shift : Sign × List Char),
      layout.scientific digits e = d :: (part.elim [] ('.' :: ·) ++ DecimalNumeral.shiftChars shift) ∧
      digits = d :: part.getD [] ∧ (shift.2 ≠ [] ∧ ∀ c ∈ shift.2, isDecimal c = true) ∧
      DecimalNumeral.shiftValue shift = e := by
  obtain ⟨shift, hchars, hshift, hvalue⟩ := layout.exists_exponentText e
  cases digits with
  | nil => exact absurd rfl hne
  | cons d rest =>
    cases rest with
    | nil => exact ⟨d, none, shift, by rw [scientific, hchars]; rfl, rfl, hshift, hvalue⟩
    | cons d' rest =>
      have hlaid : layout.scientific (d :: d' :: rest) e = d :: '.' :: (d' :: rest) ++ layout.exponentText e := rfl
      exact ⟨d, some (d' :: rest), shift, by rw [hlaid, hchars]; rfl, rfl, hshift, hvalue⟩

/-- **A decimal number is written as a numeral of it.** -/
theorem exists_write (layout : DecimalLayout) (sign : Sign) (x : Decimal) :
    ∃ n : DecimalNumeral, n.IsProper ∧ n.chars = sign.chars ++ layout.write x ∧
      n.value = signUnit sign.isNegative * (x.coefficient * 10 ^ x.exponent) := by
  have hne := natDigits_ne_nil x.coefficient
  have hdigits : ∀ c ∈ natDigits x.coefficient, isDecimal c = true := fun _ => isDecimal_natDigits
  have hcoefficient := decimalValue_natDigits x.coefficient
  simp only [write]
  generalize natDigits x.coefficient = digits at hne hdigits hcoefficient ⊢
  split
  · obtain ⟨whole, part, hchars, hwhole, hall, hvalue⟩ :=
      exists_positional hdigits ((digits.length : ℤ) + x.exponent - 1 + 1)
    have hexponent : (digits.length : ℤ) + x.exponent - 1 + 1 - digits.length = x.exponent := by omega
    rw [hexponent, hcoefficient] at hvalue
    refine ⟨⟨sign, whole, some part, none⟩, ⟨?_, hall, by simp⟩, ?_, ?_⟩
    · exact List.append_ne_nil_of_left_ne_nil hwhole _
    · rw [hchars]
      simp [DecimalNumeral.chars, DecimalNumeral.body]
    · simp only [DecimalNumeral.value, DecimalNumeral.places, Option.getD_some, Option.elim_none, hvalue]
      rw [zpow_zero, mul_one]
  · obtain ⟨d, part, shift, hchars, rfl, hshift, hvalue⟩ :=
      layout.exists_scientific hne ((digits.length : ℤ) + x.exponent - 1)
    refine ⟨⟨sign, [d], part, some shift⟩, ⟨?_, hdigits, ?_⟩, ?_, ?_⟩
    · exact List.cons_ne_nil d _
    · intro s hs
      cases hs
      exact hshift
    · rw [hchars]
      simp [DecimalNumeral.chars, DecimalNumeral.body]
    · have hexponent : ((d :: part.getD []).length : ℤ) + x.exponent - 1 = ((part.getD []).length : ℕ) + x.exponent := by
        rw [List.length_cons]
        omega
      have hpower : (10 ^ (part.getD []).length : ℚ) ≠ 0 := by positivity
      rw [hexponent] at hvalue
      simp only [DecimalNumeral.value, DecimalNumeral.places, Option.elim_some, hvalue, List.singleton_append,
        hcoefficient]
      rw [zpow_add₀ (by norm_num), zpow_natCast]
      field_simp

end DecimalLayout

/-! ### The texts of numbers -/

namespace Binary64

/-- The rational number that a finite number is written as: a whole number as itself, and any other one by the fewest
digits that read back to it. -/
def written (x : Binary64) : ℚ :=
  match x.toInt? with
  | some n => n
  | none => signUnit (x.units < 0) * (x.shortest.coefficient * 10 ^ x.shortest.exponent)

theorem toInt?_zero (negative : Bool) (e : ℤ) (h : Canonical 0 e) : (finite negative 0 e h).toInt? = some 0 := by
  have hunits : (finite negative 0 e h).units = 0 := by
    rw [units, Nat.zero_mul]
    cases negative <;> rfl
  rw [toInt?, hunits, Int.zero_emod, Int.zero_ediv]
  rfl

/-- A number other than zero is negative if its sign says so. -/
theorem units_neg_iff {negative : Bool} {m : Nat} {e : ℤ} (h : Canonical m e) (hm : m ≠ 0) :
    (finite negative m e h).units < 0 ↔ negative = true := by
  have hpositive : 0 < m * Nat.pow 2 (e + 1074).toNat := Nat.mul_pos (by omega) (Nat.two_pow_pos _)
  rw [units]
  cases negative
  · simp
  · simp only [if_true, iff_true]
    omega

/-- The text of a number that is whole has no point. -/
theorem toText_of_toInt? {x : Binary64} {n : ℤ} (h : x.toInt? = some n) :
    (Value.number x).toText = .ok (String.ofList (intDigits n)) := by
  rw [Value.toText, h]
  exact intText_of_lt (natAbs_lt_of_toInt? h (by decide))

/-- **Every number has a text.** -/
theorem toText_ne_error (x : Binary64) (f : Fault) : (Value.number x).toText ≠ .error f := by
  intro hfault
  cases hint : x.toInt? with
  | some n =>
    rw [toText_of_toInt? hint] at hfault
    cases hfault
  | none =>
    rw [Value.toText, hint] at hfault
    cases hfault

/-- **The text of a finite number is a numeral of the rational number that it is written as.** -/
theorem writes_toText {x : Binary64} (h : x.isFinite = true) : (Value.number x).Writes x.written := by
  rw [written]
  cases hint : x.toInt? with
  | some n => exact ⟨_, toText_of_toInt? hint, writes_intDigits n⟩
  | none =>
    refine ⟨x.text, by rw [Value.toText, hint], ?_⟩
    cases x with
    | finite negative m e canonical =>
      have hm : m ≠ 0 := by
        rintro rfl
        rw [toInt?_zero] at hint
        cases hint
      have hsign : decide ((finite negative m e canonical).units < 0) = negative := by
        simp [units_neg_iff canonical hm]
      obtain ⟨n, hproper, hchars, hvalue⟩ :=
        numberLayout.exists_write (signOf negative) (shortest (.finite negative m e canonical))
      refine ⟨n, hproper, ?_, ?_⟩
      · rw [hchars, text, chars, if_neg hm, withSign_eq, String.toList_ofList]
      · rw [hvalue, isNegative_signOf, hsign]
    | _ => cases h

end Binary64

end FormCheck
