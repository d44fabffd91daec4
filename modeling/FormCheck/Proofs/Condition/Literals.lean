import FormCheck.Proofs.Condition.Separators
import Mathlib.Data.List.Infix
import Mathlib.Data.List.TakeWhile

/-!
# Literals and what they write

* `Condition.Literal` — the operands of an expression by their sorts;
* `Literal.chars`, `Literal.value` — how a literal is written, and the value that it stands for;
* `Literal.IsProper` — what each sort of literal is written with;
* `Condition.literalOf_chars` — **proved**: a literal is read as its value;
* `Literal.tight_chars`, `Literal.passes_chars` — **proved**: no blank stands at the ends of a literal, and the search for
  a separator goes over it.
-/

namespace FormCheck.Condition

open Text Number

/-! ### Bare texts -/

/-- A text without blank characters, quotes and separators. -/
structure IsBare (cs : List Char) : Prop where
  ne_nil : cs ≠ []
  plain : ∀ c ∈ cs, isBlank c = false ∧ c ≠ '\'' ∧ c ≠ '"'
  separators : ∀ mark ∈ ['&', '|'], ¬ [mark, mark] <:+: cs

instance (cs : List Char) : Decidable (IsBare cs) :=
  decidable_of_iff
    (cs ≠ [] ∧ (cs.all fun c => decide (isBlank c = false ∧ c ≠ '\'' ∧ c ≠ '"')) = true ∧
      (['&', '|'].all fun mark => decide (¬ [mark, mark] <:+: cs)) = true)
    ⟨fun h => ⟨h.1, forall_mem_of_all h.2.1, forall_mem_of_all h.2.2⟩,
      fun h => ⟨h.ne_nil, by simpa using h.plain, by simpa using h.separators⟩⟩

namespace IsBare

variable {cs : List Char}

/-- A text of characters that are neither blank nor quotes nor marks. -/
theorem of_forall (hne : cs ≠ []) (h : ∀ c ∈ cs, isBlank c = false ∧ c ∉ ['\'', '"', '&', '|']) : IsBare cs := by
  refine ⟨hne, fun c hc => ?_, fun mark hmark hinside => ?_⟩
  · have hnone := (h c hc).2
    simp only [List.mem_cons, not_or] at hnone
    exact ⟨(h c hc).1, hnone.1, hnone.2.1⟩
  · have hnone := (h mark (hinside.subset List.mem_cons_self)).2
    simp only [List.mem_cons, List.not_mem_nil, or_false] at hmark hnone
    tauto

theorem tight (h : IsBare cs) : IsTight cs :=
  .of_forall h.ne_nil fun c hc => (h.plain c hc).1

theorem passes (h : IsBare cs) {mark : Char} (hmark : IsMark mark) : Passes mark cs :=
  passes_of_plain (fun c hc => (h.plain c hc).2) (h.separators mark (by simpa [IsMark] using hmark))

theorem not_mem_newline (h : IsBare cs) : '\n' ∉ cs := by
  intro hmem
  have hblank := (h.plain _ hmem).1
  revert hblank
  decide

end IsBare

/-! ### Numerals -/

/-- The sign of a numeral. -/
inductive Sign where
  | bare
  | plus
  | minus
deriving DecidableEq

/-- How a sign is written. -/
def Sign.chars : Sign → List Char
  | .bare => []
  | .plus => ['+']
  | .minus => ['-']

/-- The sign of a number below zero. -/
def Sign.isNegative : Sign → Bool
  | .minus => true
  | _ => false

/-- The characters that a numeral is written with after its sign. -/
def IsFigure (c : Char) : Prop := isDecimal c = true ∨ c = '.'

instance (c : Char) : Decidable (IsFigure c) :=
  inferInstanceAs (Decidable (_ ∨ _))

/-- A numeral: digits, with a sign in front of them or not, and with at most one point among them. -/
def IsNumeral (cs : List Char) : Prop :=
  (∀ c ∈ (Decimal.readSign cs).2, IsFigure c) ∧ (Decimal.readSign cs).2.count '.' ≤ 1 ∧
    ∃ c ∈ (Decimal.readSign cs).2, isDecimal c = true

instance (cs : List Char) : Decidable (IsNumeral cs) :=
  decidable_of_iff
    (((Decimal.readSign cs).2.all fun c => decide (IsFigure c)) = true ∧ (Decimal.readSign cs).2.count '.' ≤ 1 ∧
      (Decimal.readSign cs).2.any isDecimal = true)
    (by simp [IsNumeral])

theorem readSign_append (sign : Sign) {digits : List Char} (h : ∀ c ∈ digits, IsFigure c) :
    Decimal.readSign (sign.chars ++ digits) = (sign.isNegative, digits) := by
  cases sign with
  | plus => rfl
  | minus => rfl
  | bare =>
    show Decimal.readSign digits = (false, digits)
    rw [Decimal.readSign.eq_def]
    split
    · exact absurd (h _ List.mem_cons_self) (by decide)
    · exact absurd (h _ List.mem_cons_self) (by decide)
    · rfl

theorem wholeNumber?_eq (cs : List Char) : wholeNumber? cs =
    if !(Decimal.readSign cs).2.isEmpty && (Decimal.readSign cs).2.all isDecimal then some (Decimal.readSign cs)
    else none := rfl

/-- Digits hold no point. -/
theorem count_point_of_digits {digits : List Char} (h : ∀ c ∈ digits, isDecimal c = true) : digits.count '.' = 0 :=
  List.count_eq_zero_of_not_mem fun hpoint => absurd (h _ hpoint) (by decide)

theorem figure_of_pointed {digits part : List Char} (h : ∀ c ∈ digits ++ part, isDecimal c = true) :
    ∀ c ∈ digits ++ '.' :: part, IsFigure c := by
  intro c hc
  rcases List.mem_append.mp hc with hc | hc
  · exact .inl (h c (List.mem_append_left part hc))
  · rcases List.mem_cons.mp hc with rfl | hc
    · exact .inr rfl
    · exact .inl (h c (List.mem_append_right digits hc))

/-- What is read as a whole number is a numeral. -/
theorem isNumeral_of_wholeNumber {cs : List Char} {number : Bool × List Char} (h : wholeNumber? cs = some number) :
    IsNumeral cs := by
  rw [wholeNumber?_eq] at h
  rw [IsNumeral]
  generalize Decimal.readSign cs = read at h ⊢
  split at h
  · next hdigits =>
    simp only [Bool.and_eq_true, Bool.not_eq_true', List.isEmpty_eq_false_iff, List.all_eq_true] at hdigits
    obtain ⟨hne, hall⟩ := hdigits
    refine ⟨fun c hc => .inl (hall c hc), ?_, read.2.head hne, List.head_mem hne, hall _ (List.head_mem hne)⟩
    rw [count_point_of_digits hall]
    exact Nat.zero_le 1
  · cases h

/-- What is read as digits with a point among them are digits, or digits and a point between them. -/
theorem exists_digits_of_ofPoint {body : List Char} (h : (Decimal.ofPoint? body).isSome = true) :
    ∃ digits part, (∀ c ∈ digits ++ part, isDecimal c = true) ∧ digits ++ part ≠ [] ∧
      (body = digits ++ part ∨ body = digits ++ '.' :: part) := by
  have hbody : body.takeWhile isDecimal ++ body.dropWhile isDecimal = body := List.takeWhile_append_dropWhile
  have hdigits : ∀ c ∈ body.takeWhile isDecimal, isDecimal c = true := List.all_eq_true.mp List.all_takeWhile
  rw [Decimal.ofPoint?] at h
  split at h
  · next hrest =>
    rw [hrest] at hbody
    refine ⟨body.takeWhile isDecimal, [], by simpa using hdigits, ?_, .inl hbody.symm⟩
    rintro hnil
    rw [List.append_nil] at hnil
    rw [hnil] at h
    cases h
  · next part hrest =>
    rw [hrest] at hbody
    split at h
    · next hpart =>
      simp only [Bool.and_eq_true, List.all_eq_true, Bool.not_eq_true'] at hpart
      refine ⟨_, part, fun c hc => ?_, ?_, .inr hbody.symm⟩
      · rcases List.mem_append.mp hc with hc | hc
        · exact hdigits c hc
        · exact hpart.1 c hc
      · rintro hnil
        rw [List.append_eq_nil_iff] at hnil
        simp [hnil.1, hnil.2] at hpart
    · cases h
  · cases h

/-- What is read as digits with a point among them is a numeral. -/
theorem isNumeral_of_isPlain {cs : List Char} (h : Decimal.isPlain cs = true) : IsNumeral cs := by
  obtain ⟨digits, part, hall, hne, hbody⟩ := exists_digits_of_ofPoint h
  have hfirst := List.head_mem hne
  rcases hbody with hbody | hbody
  · rw [IsNumeral, hbody]
    refine ⟨fun c hc => .inl (hall c hc), ?_, _, hfirst, hall _ hfirst⟩
    rw [count_point_of_digits hall]
    exact Nat.zero_le 1
  · have hcount := count_point_of_digits hall
    have hsub : (digits ++ part).Sublist (digits ++ '.' :: part) :=
      (List.Sublist.refl digits).append (List.sublist_cons_self '.' part)
    rw [List.count_append] at hcount
    rw [IsNumeral, hbody]
    refine ⟨figure_of_pointed hall, ?_, _, hsub.subset hfirst, hall _ hfirst⟩
    rw [List.count_append, List.count_cons_self]
    omega

/-! ### Literals -/

/-- The operands of an expression. -/
inductive Literal where
  | truth (b : Bool)
  | null
  /-- A whole number. -/
  | whole (sign : Sign) (digits : List Char)
  /-- A number with a point after its whole part. -/
  | pointed (sign : Sign) (digits part : List Char)
  /-- A text that stands for itself. -/
  | word (cs : List Char)
  /-- A text between quotes. -/
  | quoted (mark : Char) (content : List Char)
deriving DecidableEq

namespace Literal

/-- How the literals other than numbers and texts are written. -/
def keywords : List (List Char) := ["true".toList, "false".toList, "null".toList]

/-- How a literal is written. -/
def chars : Literal → List Char
  | .truth true => "true".toList
  | .truth false => "false".toList
  | .null => "null".toList
  | .whole sign digits => sign.chars ++ digits
  | .pointed sign digits part => sign.chars ++ (digits ++ '.' :: part)
  | .word cs => cs
  | .quoted mark content => mark :: (content ++ [mark])

/-- The value that a literal stands for. -/
def value : Literal → Value
  | .truth b => .bool b
  | .null => .null
  | .whole sign digits => .int (if sign.isNegative then -(decimalValue digits : Int) else decimalValue digits)
  | .pointed sign digits part =>
    .number (Decimal.toBinary64 ⟨sign.isNegative, decimalValue (digits ++ part), -(part.length : Int)⟩)
  | .word cs => .text (String.ofList cs)
  | .quoted _ content => .text (String.ofList content)

/-- What a literal is written with.  Numbers have digits, whole ones no more than are read.  Words are no other
literals, and have none of the characters that end a word.  Quoted texts do not have their own quote in them; and
neither words nor quoted texts have the comma, which stands between literals. -/
def IsProper : Literal → Prop
  | .truth _ | .null => True
  | .whole _ digits => digits ≠ [] ∧ (∀ c ∈ digits, isDecimal c = true) ∧ digits.length ≤ readLimit
  | .pointed _ digits part => digits ++ part ≠ [] ∧ ∀ c ∈ digits ++ part, isDecimal c = true
  | .word cs => IsBare cs ∧ ',' ∉ cs ∧ cs ∉ keywords ∧ ¬ IsNumeral cs
  | .quoted mark content => (mark = '\'' ∨ mark = '"') ∧ ∀ c ∈ content, c ≠ mark ∧ c ≠ ',' ∧ c ≠ '\n'

instance : DecidablePred IsProper
  | .truth _ | .null => inferInstanceAs (Decidable True)
  | .whole _ digits =>
    decidable_of_iff (digits ≠ [] ∧ digits.all isDecimal = true ∧ digits.length ≤ readLimit) (by simp [IsProper])
  | .pointed _ digits part =>
    decidable_of_iff (digits ++ part ≠ [] ∧ (digits ++ part).all isDecimal = true)
      (by rw [IsProper, List.all_eq_true])
  | .word _ => inferInstanceAs (Decidable (_ ∧ _ ∧ _ ∧ _))
  | .quoted mark content =>
    decidable_of_iff ((mark = '\'' ∨ mark = '"') ∧
      (content.all fun c => decide (c ≠ mark ∧ c ≠ ',' ∧ c ≠ '\n')) = true) (by simp [IsProper])

/-! ### How literals are written -/

theorem figure_of_mem (sign : Sign) {cs : List Char} (h : ∀ c ∈ cs, IsFigure c) :
    ∀ c ∈ sign.chars ++ cs, c ∈ ['+', '-', '.'] ∨ isDecimal c = true := by
  intro c hc
  rcases List.mem_append.mp hc with hc | hc
  · have hsign : sign.chars ⊆ ['+', '-', '.'] := by cases sign <;> simp [Sign.chars]
    exact .inl (hsign hc)
  · rcases h c hc with hdigit | rfl
    · exact .inr hdigit
    · exact .inl (by decide)

/-- The figures of a numeral are no characters of another meaning. -/
theorem bare_of_figures (sign : Sign) {cs : List Char} (hne : cs ≠ []) (h : ∀ c ∈ cs, IsFigure c) :
    IsBare (sign.chars ++ cs) ∧ ',' ∉ sign.chars ++ cs := by
  have hother : ∀ d ∈ ['\'', '"', '&', '|', ','], d ∉ sign.chars ++ cs := by
    intro d hd hmem
    have hnone : ∀ d ∈ ['\'', '"', '&', '|', ','], d ∉ ['+', '-', '.'] ∧ isDecimal d = false :=
      forall_mem_of_all (by decide)
    rcases figure_of_mem sign h d hmem with hsign | hdigit
    · exact (hnone d hd).1 hsign
    · rw [(hnone d hd).2] at hdigit
      cases hdigit
  refine ⟨.of_forall (by simp [hne]) fun c hc => ⟨?_, fun hmem => ?_⟩, hother ',' (by decide)⟩
  · have hpoint : ∀ c ∈ ['+', '-', '.'], isBlank c = false := forall_mem_of_all (by decide)
    exact (figure_of_mem sign h c hc).elim (hpoint c) isBlank_of_isDecimal
  · exact hother c (List.mem_append_left [','] hmem) hc

/-- A numeral is no keyword. -/
theorem not_keyword_of_figures (sign : Sign) {cs : List Char} (h : ∀ c ∈ cs, IsFigure c) :
    sign.chars ++ cs ∉ keywords := by
  intro hkeyword
  have hletter : ∀ k ∈ keywords, (k.any fun c => decide (c ∉ ['+', '-', '.'] ∧ isDecimal c = false)) = true := by
    decide
  obtain ⟨c, hc, hother⟩ := List.any_eq_true.mp (hletter _ hkeyword)
  obtain ⟨hsign, hdigit⟩ := of_decide_eq_true hother
  rcases figure_of_mem sign h c hc with hmem | hdecimal
  · exact hsign hmem
  · rw [hdigit] at hdecimal
    cases hdecimal

/-- A literal is bare and holds no comma, or it is quoted. -/
theorem bare_or_quoted {l : Literal} (h : l.IsProper) :
    (IsBare l.chars ∧ ',' ∉ l.chars) ∨ ∃ mark content, l = .quoted mark content := by
  cases l with
  | truth b => cases b <;> exact .inl (by decide)
  | null => exact .inl (by decide)
  | whole sign digits => exact .inl (bare_of_figures sign h.1 fun c hc => .inl (h.2.1 c hc))
  | pointed sign digits part => exact .inl (bare_of_figures sign (by simp) (figure_of_pointed h.2))
  | word cs => exact .inl ⟨h.1, h.2.1⟩
  | quoted mark content => exact .inr ⟨mark, content, rfl⟩

/-- No blank stands at the ends of a quoted text. -/
theorem tight_quoted {mark : Char} (h : mark = '\'' ∨ mark = '"') (content : List Char) :
    IsTight (mark :: (content ++ [mark])) := by
  have hmark : IsTight [mark] := by
    refine .of_forall (List.cons_ne_nil mark []) fun c hc => ?_
    rw [List.mem_singleton.mp hc]
    rcases h with rfl | rfl <;> decide
  exact hmark.append hmark content

theorem tight_chars {l : Literal} (h : l.IsProper) : IsTight l.chars := by
  rcases bare_or_quoted h with hbare | ⟨mark, content, rfl⟩
  · exact hbare.1.tight
  · exact tight_quoted h.1 content

theorem passes_chars {l : Literal} (h : l.IsProper) {mark : Char} (hmark : IsMark mark) : Passes mark l.chars := by
  rcases bare_or_quoted h with hbare | ⟨quote, content, rfl⟩
  · exact hbare.1.passes hmark
  · exact passes_quoted h.1 fun c hc => (h.2 c hc).1

/-- A literal stands in one line, and holds no comma. -/
theorem not_mem_chars {l : Literal} (h : l.IsProper) : '\n' ∉ l.chars ∧ ',' ∉ l.chars := by
  rcases bare_or_quoted h with hbare | ⟨mark, content, rfl⟩
  · exact ⟨hbare.1.not_mem_newline, hbare.2⟩
  · have hnot : ∀ c, c ≠ '\'' → c ≠ '"' → c ∉ content → c ∉ (Literal.quoted mark content).chars := by
      intro c hsingle hdouble hcontent hmem
      simp only [chars, List.mem_cons, List.mem_append, List.not_mem_nil, or_false] at hmem
      rcases h.1 with rfl | rfl <;> tauto
    exact ⟨hnot _ (by decide) (by decide) fun hc => (h.2 _ hc).2.2 rfl,
      hnot _ (by decide) (by decide) fun hc => (h.2 _ hc).2.1 rfl⟩

/-! ### How literals are read -/

/-- Digits with a point after the first ones are read as all the digits and the number of those that follow it. -/
theorem ofPoint_eq {digits part : List Char} (hne : digits ++ part ≠ []) (h : ∀ c ∈ digits ++ part, isDecimal c = true) :
    Decimal.ofPoint? (digits ++ '.' :: part) = some (decimalValue (digits ++ part), -(part.length : Int)) := by
  have hdigits : ∀ c ∈ digits, isDecimal c = true := fun c hc => h c (List.mem_append_left part hc)
  have hpart : part.all isDecimal = true := List.all_eq_true.mpr fun c hc => h c (List.mem_append_right digits hc)
  have hempty : (digits.isEmpty && part.isEmpty) = false := by
    cases digits <;> cases part <;> simp_all
  rw [Decimal.ofPoint?, List.takeWhile_append_of_pos hdigits, List.dropWhile_append_of_pos hdigits,
    List.takeWhile_cons_of_neg (by decide), List.dropWhile_cons_of_neg (by decide), List.append_nil]
  simp only [hpart, hempty, Bool.not_false, Bool.and_self, if_true]

/-- A numeral without an exponent is read by its digits. -/
theorem ofChars_eq {sign : Sign} {digits : List Char} {coefficient : Nat} {places : Int}
    (h : ∀ c ∈ digits, IsFigure c) (hpoint : Decimal.ofPoint? digits = some (coefficient, places)) :
    Decimal.ofChars? (sign.chars ++ digits) = some ⟨sign.isNegative, coefficient, places⟩ := by
  have hmark : ∀ c ∈ digits, (!(c == 'e' || c == 'E')) = true := by
    intro c hc
    rw [Bool.not_eq_true', Bool.or_eq_false_iff, beq_eq_false_iff_ne, beq_eq_false_iff_ne]
    constructor
    · rintro rfl
      exact absurd (h _ hc) (by decide)
    · rintro rfl
      exact absurd (h _ hc) (by decide)
  have htake : digits.takeWhile (fun c => !(c == 'e' || c == 'E')) = digits := List.takeWhile_eq_self_iff.mpr hmark
  have hdrop : digits.dropWhile (fun c => !(c == 'e' || c == 'E')) = [] := List.dropWhile_eq_nil_iff.mpr hmark
  simp only [Decimal.ofChars?, readSign_append sign h, htake, hdrop, hpoint, Option.bind_eq_bind, Option.bind_some,
    Option.pure_def, Int.add_zero]

end Literal

open Literal

/-- A bare text that is no keyword is read as a number or stands for itself. -/
theorem literalOf_of_bare {cs : List Char} (h : IsBare cs) (hkeyword : cs ∉ keywords) :
    literalOf cs = (wholeNumber? cs).elim
      (.ok (if Decimal.isPlain cs then (Decimal.ofChars? cs).elim .null fun x => .number x.toBinary64
        else .text (String.ofList cs)))
      fun number => if readLimit < number.2.length then .error (.longNumeral number.2.length)
        else .ok (.int (if number.1 then -(decimalValue number.2 : Int) else decimalValue number.2)) := by
  have hquoted : unquoted? cs = none := by
    cases cs with
    | nil => rfl
    | cons c cs =>
      have hquote := (h.plain c List.mem_cons_self).2
      simp [unquoted?, hquote]
  simp only [keywords, List.mem_cons, List.not_mem_nil, or_false, not_or] at hkeyword
  rw [literalOf, h.tight.trimChars_eq, hquoted]
  simp only [if_neg hkeyword.1, if_neg hkeyword.2.1, if_neg hkeyword.2.2]
  cases wholeNumber? cs with
  | some number => rfl
  | none =>
    by_cases hplain : Decimal.isPlain cs = true
    · simp only [if_pos hplain]
      cases Decimal.ofChars? cs <;> rfl
    · simp only [if_neg hplain]
      rfl

/-- A sign and digits are read as a whole number. -/
theorem literalOf_whole {sign : Sign} {digits : List Char} (h : (Literal.whole sign digits).IsProper) :
    literalOf (sign.chars ++ digits) = .ok (Literal.whole sign digits).value := by
  obtain ⟨hne, hdigits, hlimit⟩ := h
  have hfigures : ∀ c ∈ digits, IsFigure c := fun c hc => .inl (hdigits c hc)
  have hall : digits.all isDecimal = true := List.all_eq_true.mpr hdigits
  have hsome : wholeNumber? (sign.chars ++ digits) = some (sign.isNegative, digits) := by
    rw [wholeNumber?_eq, readSign_append sign hfigures, if_pos (by simp [hne, hall])]
  rw [literalOf_of_bare (bare_of_figures sign hne hfigures).1 (not_keyword_of_figures sign hfigures), hsome,
    Option.elim_some, if_neg (Nat.not_lt.mpr hlimit)]
  rfl

/-- A sign, and digits with a point among them, are read as the nearest binary number. -/
theorem literalOf_pointed {sign : Sign} {digits part : List Char} (h : (Literal.pointed sign digits part).IsProper) :
    literalOf (sign.chars ++ (digits ++ '.' :: part)) = .ok (Literal.pointed sign digits part).value := by
  obtain ⟨hne, hdigits⟩ := h
  have hfigures := figure_of_pointed hdigits
  have hpoint := ofPoint_eq hne hdigits
  have hnone : wholeNumber? (sign.chars ++ (digits ++ '.' :: part)) = none := by
    have hnot : isDecimal '.' = false := by decide
    rw [wholeNumber?_eq, readSign_append sign hfigures, if_neg (by simp [hnot])]
  have hplain : Decimal.isPlain (sign.chars ++ (digits ++ '.' :: part)) = true := by
    rw [Decimal.isPlain, readSign_append sign hfigures, hpoint]
    rfl
  rw [literalOf_of_bare (bare_of_figures sign (by simp) hfigures).1 (not_keyword_of_figures sign hfigures), hnone,
    Option.elim_none, if_pos hplain, ofChars_eq hfigures hpoint]
  rfl

/-- A word is read as itself. -/
theorem literalOf_word {cs : List Char} (h : (Literal.word cs).IsProper) :
    literalOf cs = .ok (.text (String.ofList cs)) := by
  obtain ⟨hbare, _, hkeyword, hnumeral⟩ := h
  have hnone : wholeNumber? cs = none :=
    Option.eq_none_iff_forall_ne_some.mpr fun _ hsome => hnumeral (isNumeral_of_wholeNumber hsome)
  rw [literalOf_of_bare hbare hkeyword, hnone, Option.elim_none,
    if_neg fun hplain => hnumeral (isNumeral_of_isPlain hplain)]

/-- What stands between quotes is read as it stands. -/
theorem literalOf_quoted {mark : Char} (h : mark = '\'' ∨ mark = '"') (content : List Char) :
    literalOf (mark :: (content ++ [mark])) = .ok (.text (String.ofList content)) := by
  have hmark : (decide (mark = '\'') || decide (mark = '"')) = true := by simpa using h
  have hunquoted : unquoted? (mark :: (content ++ [mark])) = some content := by simp [unquoted?, hmark]
  have htrim : trimChars (mark :: (content ++ [mark])) = mark :: (content ++ [mark]) :=
    (tight_quoted h content).trimChars_eq
  rw [literalOf, htrim, hunquoted]

/-- **A literal is read as the value that it stands for.** -/
theorem literalOf_chars {l : Literal} (h : l.IsProper) : literalOf l.chars = .ok l.value := by
  cases l with
  | truth b => cases b <;> rfl
  | null => rfl
  | whole sign digits => exact literalOf_whole h
  | pointed sign digits part => exact literalOf_pointed h
  | word cs => exact literalOf_word h
  | quoted mark content => exact literalOf_quoted h.1 content

end FormCheck.Condition
