import FormCheck.Proofs.Number.Written
import FormCheck.Proofs.Text.Languages
import FormCheck.Rule.Format

/-!
# The days of the calendar as they are written

* `CalendarDay` — a day of the Gregorian calendar, carried back to the year one and up to the year 9999, and
  `CalendarDay.chars` as it is written by ISO 8601;
* `isIsoDate_iff` — **proved**: the texts that are taken for days are those that days are written in;
* `isIsoDate_iff_of_reader` — **proved**: they are also the texts of the form `YYYY-MM-DD`, in digits of any script, that a
  reader of ISO 8601 accepts;
* `Check.isoDate_passes_iff` — **proved**: a value passes, where the argument says yes, when its text is a day.
-/

namespace FormCheck.Moment

open FormCheck.Text FormCheck.Number

/-! ### Numerals of a fixed width -/

variable {ds es : List Char} {width n : Nat}

/-- Digits with zeros before them. -/
theorem decimalValue_padded (width n : Nat) : decimalValue (padded width n) = n := by
  rw [padded, decimalValue_zeros_append, decimalValue_natDigits]

theorem length_padded (hwidth : 0 < width) (h : n < 10 ^ width) : (padded width n).length = width := by
  have hlength := (length_natDigits_le_iff hwidth).mpr h
  rw [padded, List.length_append, List.length_replicate]
  omega

theorem isDigit_padded (width n : Nat) : ∀ c ∈ padded width n, c.isDigit = true := by
  rw [padded, List.forall_mem_append]
  constructor
  · intro c hc
    rw [List.eq_of_mem_replicate hc]
    rfl
  · exact (isShort_natDigits n).ascii

/-- As many digits of ASCII that write the same number are the same digits. -/
theorem eq_of_decimalValue_eq (hds : ∀ c ∈ ds, c.isDigit = true) (hes : ∀ c ∈ es, c.isDigit = true)
    (hlength : ds.length = es.length) (hvalue : decimalValue ds = decimalValue es) : ds = es := by
  induction ds using List.reverseRecOn generalizing es with
  | nil => exact (List.length_eq_zero_iff.mp hlength.symm).symm
  | append_singleton ds c ih =>
    rcases List.eq_nil_or_concat es with rfl | ⟨es, d, rfl⟩
    · simp at hlength
    · rw [List.concat_eq_append] at hes hlength hvalue ⊢
      rw [List.forall_mem_append, List.forall_mem_singleton] at hds hes
      obtain ⟨i, hi, rfl⟩ := exists_of_isDigit hds.2
      obtain ⟨j, hj, rfl⟩ := exists_of_isDigit hes.2
      rw [decimalValue_append_singleton, decimalValue_append_singleton, digitValue?_digitChar hi,
        digitValue?_digitChar hj, Option.getD_some, Option.getD_some] at hvalue
      have hlast : i = j := by omega
      rw [ih hds.1 hes.1 (by simpa using hlength) (by omega), hlast]

/-- So many digits of ASCII. -/
structure IsNumeral (width : Nat) (ds : List Char) : Prop where
  length_eq : ds.length = width
  digits : ∀ c ∈ ds, c.isDigit = true

theorem eq_padded_iff (hwidth : 0 < width) (h : n < 10 ^ width) :
    ds = padded width n ↔ IsNumeral width ds ∧ decimalValue ds = n := by
  constructor
  · intro heq
    subst heq
    exact ⟨⟨length_padded hwidth h, isDigit_padded width n⟩, decimalValue_padded width n⟩
  · intro hds
    obtain ⟨hnumeral, hvalue⟩ := hds
    apply eq_of_decimalValue_eq hnumeral.digits (isDigit_padded width n)
    · rw [hnumeral.length_eq, length_padded hwidth h]
    · rw [hvalue, decimalValue_padded]

theorem asciiNumber?_eq_some_iff : asciiNumber? ds = some n ↔ (∀ c ∈ ds, c.isDigit = true) ∧ decimalValue ds = n := by
  rw [asciiNumber?, ← List.all_eq_true]
  by_cases h : ds.all Char.isDigit = true
  · simp only [h, if_true, Option.some.injEq, true_and]
  · simp only [h, if_false, reduceCtorEq, false_and, Bool.false_eq_true]

/-! ### Days -/

theorem daysInMonth_le (year month : Nat) : daysInMonth year month ≤ 31 := by
  unfold daysInMonth
  cases isLeapYear year <;> split <;> decide

/-- What has days is a month. -/
theorem month_of_daysInMonth_pos {year month : Nat} (h : 0 < daysInMonth year month) : 1 ≤ month ∧ month ≤ 12 := by
  unfold daysInMonth at h
  split at h <;> omega

/-- A day of the Gregorian calendar, carried back to the year one, of a year of four digits. -/
structure CalendarDay where
  year : Nat
  month : Nat
  day : Nat
  year_pos : 1 ≤ year
  year_le : year ≤ lastYear
  month_pos : 1 ≤ month
  month_le : month ≤ 12
  day_pos : 1 ≤ day
  day_le : day ≤ daysInMonth year month

/-- A year, a month and a day with hyphens between them. -/
def hyphenated (year month day : List Char) : List Char :=
  year ++ '-' :: (month ++ '-' :: day)

/-- The day by ISO 8601: four digits of the year, two of the month and two of the day. -/
def CalendarDay.chars (d : CalendarDay) : List Char :=
  hyphenated (padded 4 d.year) (padded 2 d.month) (padded 2 d.day)

theorem CalendarDay.year_lt (d : CalendarDay) : d.year < 10 ^ 4 :=
  Nat.lt_of_le_of_lt d.year_le (by decide)

theorem CalendarDay.month_lt (d : CalendarDay) : d.month < 10 ^ 2 :=
  Nat.lt_of_le_of_lt d.month_le (by decide)

theorem CalendarDay.day_lt (d : CalendarDay) : d.day < 10 ^ 2 :=
  Nat.lt_of_le_of_lt (d.day_le.trans (daysInMonth_le d.year d.month)) (by decide)

/-- A day of the calendar is a day of a year and a month that it has. -/
theorem isDate_iff {year month day : Nat} :
    isDate year month day = true ↔ ∃ d : CalendarDay, d.year = year ∧ d.month = month ∧ d.day = day := by
  simp only [isDate, Bool.and_eq_true, decide_eq_true_eq]
  constructor
  · intro h
    obtain ⟨⟨⟨hyear, hlast⟩, hday⟩, hend⟩ := h
    have hmonth : 1 ≤ month ∧ month ≤ 12 := month_of_daysInMonth_pos (hday.trans hend)
    exact ⟨⟨year, month, day, hyear, hlast, hmonth.1, hmonth.2, hday, hend⟩, rfl, rfl, rfl⟩
  · intro h
    obtain ⟨d, rfl, rfl, rfl⟩ := h
    exact ⟨⟨⟨d.year_pos, d.year_le⟩, d.day_pos⟩, d.day_le⟩

/-! ### Texts of the form `YYYY-MM-DD` -/

variable {cs : List Char}

/-- What is taken for a day: three numerals, of four, two and two digits, of a year, a month and a day in it. -/
theorem isIsoDate_eq_true_iff : isIsoDate cs = true ↔ ∃ year month day, cs = hyphenated year month day ∧
    (IsNumeral 4 year ∧ IsNumeral 2 month ∧ IsNumeral 2 day) ∧
    isDate (decimalValue year) (decimalValue month) (decimalValue day) = true := by
  constructor
  · intro h
    unfold isIsoDate at h
    split at h
    · next y1 y2 y3 y4 s1 m1 m2 s2 d1 d2 =>
      rw [Bool.and_eq_true, Bool.and_eq_true, beq_iff_eq, beq_iff_eq] at h
      obtain ⟨⟨rfl, rfl⟩, h⟩ := h
      split at h
      · next year month day hyear hmonth hday =>
        obtain ⟨hyears, rfl⟩ := asciiNumber?_eq_some_iff.mp hyear
        obtain ⟨hmonths, rfl⟩ := asciiNumber?_eq_some_iff.mp hmonth
        obtain ⟨hdays, rfl⟩ := asciiNumber?_eq_some_iff.mp hday
        exact ⟨[y1, y2, y3, y4], [m1, m2], [d1, d2], rfl, ⟨⟨rfl, hyears⟩, ⟨rfl, hmonths⟩, ⟨rfl, hdays⟩⟩, h⟩
      · cases h
    · cases h
  · intro h
    obtain ⟨year, month, day, rfl, ⟨hyear, hmonth, hday⟩, hdate⟩ := h
    match year, month, day, hyear, hmonth, hday, hdate with
    | [y1, y2, y3, y4], [m1, m2], [d1, d2], hyear, hmonth, hday, hdate =>
      have hyears := asciiNumber?_eq_some_iff.mpr ⟨hyear.digits, rfl⟩
      have hmonths := asciiNumber?_eq_some_iff.mpr ⟨hmonth.digits, rfl⟩
      have hdays := asciiNumber?_eq_some_iff.mpr ⟨hday.digits, rfl⟩
      simp [hyphenated, isIsoDate, hyears, hmonths, hdays, hdate]

/-- **What is taken for a day is a day of the calendar as it is written.** -/
theorem isIsoDate_iff : isIsoDate cs = true ↔ ∃ d : CalendarDay, cs = d.chars := by
  rw [isIsoDate_eq_true_iff]
  constructor
  · intro h
    obtain ⟨year, month, day, rfl, ⟨hyear, hmonth, hday⟩, hdate⟩ := h
    obtain ⟨d, hy, hm, hd⟩ := isDate_iff.mp hdate
    refine ⟨d, ?_⟩
    rw [CalendarDay.chars, ← (eq_padded_iff (by decide) d.year_lt).mpr ⟨hyear, hy.symm⟩,
      ← (eq_padded_iff (by decide) d.month_lt).mpr ⟨hmonth, hm.symm⟩,
      ← (eq_padded_iff (by decide) d.day_lt).mpr ⟨hday, hd.symm⟩]
  · intro h
    obtain ⟨d, rfl⟩ := h
    obtain ⟨hyear, hy⟩ := (eq_padded_iff (by decide) d.year_lt).mp rfl
    obtain ⟨hmonth, hm⟩ := (eq_padded_iff (by decide) d.month_lt).mp rfl
    obtain ⟨hday, hd⟩ := (eq_padded_iff (by decide) d.day_lt).mp rfl
    exact ⟨_, _, _, rfl, ⟨hyear, hmonth, hday⟩, isDate_iff.mpr ⟨d, hy.symm, hm.symm, hd.symm⟩⟩

/-! ### The expression and the reader -/

/-- Four, two and two decimal digits of any script, with hyphens between them. -/
def dayExpression : Language Char :=
  oneOf isDecimal ^ 4 * (only '-' * (oneOf isDecimal ^ 2 * (only '-' * oneOf isDecimal ^ 2)))

theorem mem_dayExpression : cs ∈ dayExpression ↔ ∃ year month day, cs = hyphenated year month day ∧
    (year.length = 4 ∧ ∀ c ∈ year, isDecimal c = true) ∧ (month.length = 2 ∧ ∀ c ∈ month, isDecimal c = true) ∧
    day.length = 2 ∧ ∀ c ∈ day, isDecimal c = true := by
  simp only [← mem_oneOf_pow]
  rw [dayExpression, Language.mem_mul]
  constructor
  · intro h
    obtain ⟨year, hyear, _, hafter, rfl⟩ := h
    obtain ⟨_, hrest, rfl⟩ := mem_only_mul.mp hafter
    obtain ⟨month, hmonth, _, hlast, rfl⟩ := Language.mem_mul.mp hrest
    obtain ⟨day, hday, rfl⟩ := mem_only_mul.mp hlast
    exact ⟨year, month, day, rfl, hyear, hmonth, hday⟩
  · intro h
    obtain ⟨year, month, day, rfl, hyear, hmonth, hday⟩ := h
    refine ⟨year, hyear, _, mem_only_mul.mpr ⟨_, ?_, rfl⟩, rfl⟩
    exact Language.append_mem_mul hmonth (mem_only_mul.mpr ⟨day, hday, rfl⟩)

/-- What a reader of ISO 8601 promises: it accepts no text with a character beyond ASCII, and of three numerals with
hyphens between them those that name a day.  On texts of other forms it may do as it likes. -/
structure ReadsDays (reads : List Char → Bool) : Prop where
  ascii : ∀ cs, reads cs = true → ∀ c ∈ cs, c.toNat < 128
  days : ∀ year month day, IsNumeral 4 year → IsNumeral 2 month → IsNumeral 2 day →
    (reads (hyphenated year month day) = true ↔
      isDate (decimalValue year) (decimalValue month) (decimalValue day) = true)

theorem isDecimal_of_isDigit {c : Char} (h : c.isDigit = true) : isDecimal c = true := by
  obtain ⟨d, hd, rfl⟩ := exists_of_isDigit h
  rw [isDecimal, digitValue?_digitChar hd]
  rfl

/-- Among the characters of ASCII, the decimal digits are the ten of them. -/
theorem isDigit_of_isDecimal {c : Char} (h : isDecimal c = true) (hascii : c.toNat < 128) : c.isDigit = true := by
  rw [isDecimal, digitValue?, if_pos hascii] at h
  split at h
  · assumption
  · cases h

theorem IsNumeral.decimal {width : Nat} {ds : List Char} (h : IsNumeral width ds) :
    ds.length = width ∧ ∀ c ∈ ds, isDecimal c = true :=
  ⟨h.length_eq, fun c hc => isDecimal_of_isDigit (h.digits c hc)⟩

theorem IsNumeral.of_decimal {width : Nat} {ds : List Char} (h : ds.length = width ∧ ∀ c ∈ ds, isDecimal c = true)
    (hascii : ∀ c ∈ ds, c.toNat < 128) : IsNumeral width ds :=
  ⟨h.1, fun c hc => isDigit_of_isDecimal (h.2 c hc) (hascii c hc)⟩

/-- **The expression and the reader together accept the days of the calendar.**  The expression lets other scripts
through, and the reader other forms of dates; neither is in the alphabet or the form of the other. -/
theorem isIsoDate_iff_of_reader {reads : List Char → Bool} (h : ReadsDays reads) :
    isIsoDate cs = true ↔ cs ∈ dayExpression ∧ reads cs = true := by
  rw [isIsoDate_eq_true_iff, mem_dayExpression]
  constructor
  · intro hcs
    obtain ⟨year, month, day, rfl, ⟨hyear, hmonth, hday⟩, hdate⟩ := hcs
    refine ⟨⟨year, month, day, rfl, hyear.decimal, hmonth.decimal, hday.decimal⟩, ?_⟩
    exact (h.days year month day hyear hmonth hday).mpr hdate
  · intro hcs
    obtain ⟨⟨year, month, day, rfl, hyear, hmonth, hday⟩, hreads⟩ := hcs
    have hascii := h.ascii _ hreads
    rw [hyphenated, List.forall_mem_append, List.forall_mem_cons, List.forall_mem_append, List.forall_mem_cons] at hascii
    obtain ⟨hyears, _, hmonths, _, hdays⟩ := hascii
    have hyear := IsNumeral.of_decimal hyear hyears
    have hmonth := IsNumeral.of_decimal hmonth hmonths
    have hday := IsNumeral.of_decimal hday hdays
    exact ⟨year, month, day, rfl, ⟨hyear, hmonth, hday⟩, (h.days year month day hyear hmonth hday).mp hreads⟩

theorem toNat_lt_of_isDigit {c : Char} (h : c.isDigit = true) : c.toNat < 128 := by
  rw [Char.isDigit, Bool.and_eq_true, decide_eq_true_iff, decide_eq_true_iff] at h
  have hlast : c.toNat ≤ 57 := h.2
  omega

/-- The strictest reader keeps the promise: it accepts the days of the calendar and nothing else. -/
theorem readsDays_isIsoDate : ReadsDays isIsoDate := by
  constructor
  · intro cs h
    obtain ⟨year, month, day, rfl, ⟨hyear, hmonth, hday⟩, _⟩ := isIsoDate_eq_true_iff.mp h
    rw [hyphenated, List.forall_mem_append, List.forall_mem_cons, List.forall_mem_append, List.forall_mem_cons]
    have hhyphen : '-'.toNat < 128 := by decide
    exact ⟨fun c hc => toNat_lt_of_isDigit (hyear.digits c hc), hhyphen,
      fun c hc => toNat_lt_of_isDigit (hmonth.digits c hc), hhyphen,
      fun c hc => toNat_lt_of_isDigit (hday.digits c hc)⟩
  · intro year month day hyear hmonth hday
    rw [isIsoDate_eq_true_iff]
    constructor
    · intro h
      obtain ⟨y, m, d, heq, ⟨hy, hm, _⟩, hdate⟩ := h
      obtain ⟨rfl, hafter⟩ := List.append_inj heq (hyear.length_eq.trans hy.length_eq.symm)
      obtain ⟨rfl, hlast⟩ := List.append_inj (List.cons.inj hafter).2 (hmonth.length_eq.trans hm.length_eq.symm)
      obtain rfl := (List.cons.inj hlast).2
      exact hdate
    · intro h
      exact ⟨year, month, day, rfl, ⟨hyear, hmonth, hday⟩, h⟩

end FormCheck.Moment

namespace FormCheck.Check

open FormCheck.Moment

/-- **The check for a day in the form `YYYY-MM-DD` asks for a day of the calendar.**  A value passes, where the argument
says yes, when its text is a day as it is written, and fails otherwise; where it has no text there is no answer.  That is also
what the expression and any reader of ISO 8601 accept together. -/
theorem isoDate_passes_iff (v : Value) (context : Context) {a : Argument} (ha : a.isTruthy = true) :
    (∀ s, v.toText = .ok s →
      ∃ b, isoDate v a context = .ok (.ofBool b) ∧ (b = true ↔ ∃ d : CalendarDay, s.toList = d.chars) ∧
        ∀ reads, ReadsDays reads → (b = true ↔ s.toList ∈ dayExpression ∧ reads s.toList = true)) ∧
      ∀ f, v.toText = .error f → isoDate v a context = .error f := by
  rw [isoDate, if_pos ha]
  constructor
  · intro s hs
    rw [hs]
    exact ⟨isIsoDate s.toList, rfl, isIsoDate_iff, fun _ => isIsoDate_iff_of_reader⟩
  · intro f hf
    rw [hf]
    rfl

/-- The last day of February is a day in a leap year; a century's February has one only every four hundred years. -/
theorem isoDate_passes_iff_in_leap_year : (Argument.value (.bool true)).isTruthy = true ∧ ReadsDays isIsoDate ∧
    (∃ d : CalendarDay, "2000-02-29".toList = d.chars) ∧ "2000-02-29".toList ∈ dayExpression ∧
    ¬ ∃ d : CalendarDay, "1900-02-29".toList = d.chars := by
  have hyes : (Argument.value (.bool true)).isTruthy = true := rfl
  have hpasses : ∀ s : String, ∃ b,
      isoDate (.text s) (.value (.bool true)) ⟨[], none, .absent, [], none⟩ = .ok (.ofBool b) ∧
        (b = true ↔ ∃ d : CalendarDay, s.toList = d.chars) ∧
        ∀ reads, ReadsDays reads → (b = true ↔ s.toList ∈ dayExpression ∧ reads s.toList = true) := by
    intro s
    exact (isoDate_passes_iff (.text s) _ hyes).1 s rfl
  obtain ⟨b, hb, hday, hreader⟩ := hpasses "2000-02-29"
  obtain ⟨c, hc, hcentury, _⟩ := hpasses "1900-02-29"
  have hleap : b = true := by
    cases b with
    | true => rfl
    | false => cases hb
  have hcommon : c ≠ true := by
    cases c with
    | true => cases hc
    | false => decide
  exact ⟨hyes, readsDays_isIsoDate, hday.mp hleap, ((hreader _ readsDays_isIsoDate).mp hleap).1,
    fun h => hcommon (hcentury.mpr h)⟩

end FormCheck.Check
