import FormCheck.Proofs.Condition.Answers
import FormCheck.Proofs.Rule.Preparation

/-!
# Where the check of a standard rule ends without an answer

Each check is handed an argument that has been prepared for it.  With such an argument some checks have an answer
on every value.  The others look at texts, read numbers or moments, or search for a pattern.

* `Moment.IsFarOff` — a moment whose offset from universal time is a day or more;
* `Rule.Unanswerable` — a value, an argument and other values on which a rule has no answer, and the fault that
  it ends with;
* `Rule.unanswerable_of_standard` — **proved**: a standard rule has an answer on everything else.
-/

namespace FormCheck

open Fallible

/-- The offset of the moment from universal time is a day or more. -/
def Moment.IsFarOff (m : Moment) : Prop :=
  ∃ name seconds, m.zone = .offset name seconds ∧ daySeconds ≤ seconds.natAbs

/-- The standard rules that look at the text of a value, or at those of its members. -/
def Rule.reading : List String :=
  ["email", "pattern", "match", "equalTo", "minlength", "maxlength", "rangelength", "digits", "in", "notEqual", "date",
    "dateISO", "enddate", "unique", "accept"]

/-- A rule without an answer: the value that its check looks at, the argument and what it may consult, the name of
the rule, and the fault that it ends with.  A number beyond the binary ones is read as a number, in the value or by a
condition; a value without a text is to be read, be it the value itself, one that is referred to, an option or the
argument; a text has too many decimals for a moment; two moments cannot be compared by universal time; or the
pattern matches with a group that ends before it starts. -/
inductive Rule.Unanswerable (v : Value) (a : Argument) (context : Context) : String → Fault → Prop where
  | number {name : String} : name ∈ ["min", "max", "range", "number", "step"] → v.IsBeyond →
      Unanswerable v a context name .overflow
  | condition {c : Condition} {comparison : Comparison} {w : Value} {f : Fault} : a = .condition c →
      comparison ∈ c.comparisons →
      w ∈ (context.lookup comparison.reference).members ++ comparison.operand.members →
      comparison.operator.BreaksOff w f → Unanswerable v a context "required_if" f
  | text {name : String} : name ∈ reading → v.HasLongNumber → Unanswerable v a context name .longNumber
  | otherText {name s : String} : name ∈ ["match", "equalTo", "notEqual", "enddate"] → a = .value (.text s) →
      (context.lookup s).HasLongNumber → Unanswerable v a context name .longNumber
  | option {options : List Value} {w : Value} : a = .row options → w ∈ options → w.HasLongNumber →
      Unanswerable v a context "in" .longNumber
  | argument {w : Value} : a = .value w → w.HasLongNumber → Unanswerable v a context "notEqual" .longNumber
  | moment {name s : String} : name ∈ ["date", "enddate"] → v.toText = .ok s → Moment.ofText? s = .error .inexact →
      Unanswerable v a context name .inexact
  | otherMoment {s t : String} : a = .value (.text s) → (context.lookup s).toText = .ok t →
      Moment.ofText? t = .error .inexact → Unanswerable v a context "enddate" .inexact
  | offset {s t u : String} {m n : Moment} : a = .value (.text s) → v.toText = .ok t →
      Moment.ofText? t = .ok (some m) → (context.lookup s).toText = .ok u → Moment.ofText? u = .ok (some n) →
      m.IsFarOff ∨ n.IsFarOff → Unanswerable v a context "enddate" .offsetOutOfRange
  | turned {p : Pattern} {s : String} : a = .pattern p → v.toText = .ok s →
      p.matchesWhole s = .error .turnedGroup → Unanswerable v a context "pattern" .turnedGroup

/-! ### Texts -/

theorem Value.toText_error {v : Value} {f : Fault} (h : v.toText = .error f) : v.HasLongNumber ∧ f = .longNumber :=
  (v.toText_fails f).mp h

/-- A member without a text makes a value one without a text. -/
theorem Value.hasLongNumber_of_mem_members {v w : Value} (hw : w ∈ v.members) (h : w.HasLongNumber) :
    v.HasLongNumber := by
  cases v with
  | list items => exact .member hw h
  | _ => exact List.mem_singleton.mp hw ▸ h

/-! ### Moments and patterns -/

theorem Moment.ofText?_error {s : String} {f : Fault} (h : ofText? s = .error f) : f = .inexact := by
  rw [ofText?] at h
  split at h
  · cases h
  · dsimp only at h
    split at h <;> cases h
    rfl

theorem Moment.offset?_error {m : Moment} {f : Fault} (h : m.offset? = .error f) :
    m.IsFarOff ∧ f = .offsetOutOfRange := by
  rw [offset?] at h
  split at h
  · cases h
  · cases h
  · next name seconds hzone =>
    split at h <;> cases h
    next hfar => exact ⟨⟨name, seconds, hzone, Nat.le_of_not_lt hfar⟩, rfl⟩

theorem Moment.atLeast_error {m n : Moment} {f : Fault} (h : m.atLeast n = .error f) :
    (m.IsFarOff ∨ n.IsFarOff) ∧ f = .offsetOutOfRange := by
  rw [atLeast] at h
  split at h
  · cases h
  · rcases bind_eq_error_iff.mp h with hm | ⟨_, _, h⟩
    · obtain ⟨hfar, rfl⟩ := offset?_error hm
      exact ⟨.inl hfar, rfl⟩
    · rcases bind_eq_error_iff.mp h with hn | ⟨_, _, h⟩
      · obtain ⟨hfar, rfl⟩ := offset?_error hn
        exact ⟨.inr hfar, rfl⟩
      · cases h

theorem Pattern.matchesWhole_error {p : Pattern} {s : String} {f : Fault}
    (h : p.matchesWhole s = .error f) : f = .turnedGroup := by
  rw [matchesWhole] at h
  dsimp only at h
  split at h
  · cases h
  · split at h
    · cases h
    · split at h <;> cases h
      rfl

/-! ### Checks of size -/

namespace Check

variable {v w low high : Value} {a : Argument} (context : Context) {f : Fault} {name : String}

/-- A choice between two verdicts ends with no fault if the question has an answer. -/
theorem choice_ne_error {x : Except Fault Bool} (h : ∃ b, x = .ok b) {yes no : Verdict} :
    (x >>= fun b => pure (if b then yes else no)) ≠ .error f := by
  obtain ⟨b, rfl⟩ := h
  exact fun h => by cases h

theorem ofBool_ne_error {x : Except Fault Bool} (h : ∃ b, x = .ok b) :
    (x >>= fun b => pure (Verdict.ofBool b)) ≠ .error f :=
  choice_ne_error h

theorem measure_error (h : measure v context = .error f) : v.IsBeyond ∧ f = .overflow := by
  rw [measure.eq_def] at h
  split at h
  · exact Value.number?_eq_error_iff.mp (map_eq_error_iff.mp h)
  · split at h
    · cases h
    · cases h
    · exact Value.number?_eq_error_iff.mp (map_eq_error_iff.mp h)

theorem least_error (hw : w.isNumeric = true) (h : least name v (.value w) context = .error f) :
    v.IsBeyond ∧ f = .overflow := by
  rcases bind_eq_error_iff.mp h with hmeasure | ⟨⟨_ | x, variant⟩, _, h⟩
  · exact measure_error context hmeasure
  · cases h
  · exact absurd h (choice_ne_error (Value.exists_atMost (w := .number x) hw rfl))

theorem greatest_error (hw : w.isNumeric = true) (h : greatest name v (.value w) context = .error f) :
    v.IsBeyond ∧ f = .overflow := by
  rcases bind_eq_error_iff.mp h with hmeasure | ⟨⟨_ | x, variant⟩, _, h⟩
  · exact measure_error context hmeasure
  · cases h
  · exact absurd h (choice_ne_error (Value.exists_atMost (v := .number x) rfl hw))

/-- A bound that is a number, or not given, tells whether there are too few items. -/
theorem exists_isTooFew (hlow : low.isBound = true) (count : Nat) : ∃ b, isTooFew count low = .ok b := by
  cases low with
  | null => exact ⟨false, rfl⟩
  | int n => exact Value.exists_isBelow rfl rfl
  | number x => exact Value.exists_isBelow rfl rfl
  | _ => cases hlow

theorem exists_isTooMany (hhigh : high.isBound = true) (count : Nat) :
    ∃ b, isTooMany count high = .ok b := by
  cases high with
  | null => exact ⟨false, rfl⟩
  | int n => exact Value.exists_isBelow rfl rfl
  | number x => exact Value.exists_isBelow rfl rfl
  | _ => cases hhigh

theorem itemCount_ne_error (hlow : low.isBound = true) (hhigh : high.isBound = true) :
    itemCount name v (.row [low, high]) context ≠ .error f := by
  obtain ⟨few, hfew⟩ := exists_isTooFew hlow (itemsIn v)
  obtain ⟨many, hmany⟩ := exists_isTooMany hhigh (itemsIn v)
  intro h
  have hpair : (Argument.row [low, high]).pair = .ok (low, high) := rfl
  rw [itemCount, hpair, ok_bind] at h
  dsimp only at h
  rw [hfew, ok_bind, hmany] at h
  cases few <;> cases many <;> cases h

theorem lengthOf_error (h : lengthOf v = .error f) : v.HasLongNumber ∧ f = .longNumber := by
  cases v with
  | list items => cases h
  | _ => exact Value.toText_error (map_eq_error_iff.mp h)

theorem shortest_error (hw : w.isNumeric = true) (h : shortest v (.value w) context = .error f) :
    v.HasLongNumber ∧ f = .longNumber := by
  rcases bind_eq_error_iff.mp h with hlength | ⟨length, _, h⟩
  · exact lengthOf_error hlength
  · exact absurd h (ofBool_ne_error (Value.exists_atMost hw rfl))

theorem longest_error (hw : w.isNumeric = true) (h : longest v (.value w) context = .error f) :
    v.HasLongNumber ∧ f = .longNumber := by
  rcases bind_eq_error_iff.mp h with hlength | ⟨length, _, h⟩
  · exact lengthOf_error hlength
  · exact absurd h (ofBool_ne_error (Value.exists_atMost rfl hw))

theorem mostItems_ne_error (hw : w.isNumeric = true) :
    mostItems v (.value w) context ≠ .error f :=
  ofBool_ne_error (Value.exists_atMost rfl hw)

theorem fewestItems_ne_error (hw : w.isNumeric = true) :
    fewestItems v (.value w) context ≠ .error f := by
  cases v with
  | list items => exact ofBool_ne_error (Value.exists_atMost hw rfl)
  | _ => exact fun h => by cases h

theorem exists_isBetween (hlow : low.isNumeric = true) (hv : v.isNumeric = true)
    (hhigh : high.isNumeric = true) : ∃ b, isBetween low v high = .ok b := by
  obtain ⟨atLeast, hatLeast⟩ := Value.exists_atMost hlow hv
  rw [isBetween, hatLeast, ok_bind]
  cases atLeast with
  | false => exact ⟨false, rfl⟩
  | true => exact Value.exists_atMost hv hhigh

theorem lengthBetween_error (hlow : low.isNumeric = true) (hhigh : high.isNumeric = true)
    (h : lengthBetween v (.row [low, high]) context = .error f) : v.HasLongNumber ∧ f = .longNumber := by
  have hpair : (Argument.row [low, high]).pair = .ok (low, high) := rfl
  rw [lengthBetween, hpair, ok_bind] at h
  dsimp only at h
  rcases bind_eq_error_iff.mp h with hlength | ⟨length, _, h⟩
  · exact lengthOf_error hlength
  · obtain ⟨b, hb⟩ := exists_isBetween (v := .int length) hlow rfl hhigh
    rw [hb] at h
    cases b <;> cases h

/-- Two numbers have texts. -/
theorem exists_boundTexts (x y : Binary64) : ∃ texts, boundTexts (.number x) (.number y) = .ok texts := by
  obtain ⟨s, hs⟩ := (Value.toText_fails (.number x)).exists_ok (Value.not_hasLongNumber_number x)
  obtain ⟨t, ht⟩ := (Value.toText_fails (.number y)).exists_ok (Value.not_hasLongNumber_number y)
  exact ⟨_, bind_eq_ok_iff.mpr ⟨s, hs, bind_eq_ok_iff.mpr ⟨t, ht, rfl⟩⟩⟩

theorem between_error {x y : Binary64} (h : between name v (.row [.number x, .number y]) context = .error f) :
    v.IsBeyond ∧ f = .overflow := by
  have hpair : (Argument.row [.number x, .number y]).pair = .ok (.number x, .number y) := rfl
  obtain ⟨texts, htexts⟩ := exists_boundTexts x y
  rw [between, hpair, ok_bind] at h
  dsimp only at h
  rcases bind_eq_error_iff.mp h with hnumber | ⟨number, _, h⟩
  · exact Value.number?_eq_error_iff.mp hnumber
  · cases number with
    | none =>
      rw [htexts] at h
      cases h
    | some z =>
      obtain ⟨b, hb⟩ : ∃ b, isBetween (.number x) (.number z) (.number y) = .ok b := exists_isBetween rfl rfl rfl
      dsimp only at h
      rw [hb, htexts] at h
      cases b <;> cases h

/-- A number is a multiple of another one or not. -/
theorem exists_answer_isMultiple (x y : Binary64) : ∃ b, isMultiple x (.number y) = .ok b := by
  have hdecimal : ∀ z : Binary64, ∃ d, decimalOf? (.number z) = .ok d := by
    intro z
    obtain ⟨s, hs⟩ := (Value.toText_fails (.number z)).exists_ok (Value.not_hasLongNumber_number z)
    exact ⟨_, map_eq_ok_iff.mpr ⟨s, hs, rfl⟩⟩
  obtain ⟨c, hc⟩ := hdecimal x
  obtain ⟨d, hd⟩ := hdecimal y
  rw [isMultiple, hc, hd, ok_bind, ok_bind]
  cases c with
  | none => cases d <;> exact ⟨_, rfl⟩
  | some c =>
    cases d with
    | some d => exact ⟨_, rfl⟩
    | none => cases y <;> exact ⟨_, rfl⟩

theorem multiple_error {y : Binary64} (h : multiple v (.value (.number y)) context = .error f) :
    v.IsBeyond ∧ f = .overflow := by
  rcases bind_eq_error_iff.mp h with hnumber | ⟨number, _, h⟩
  · exact Value.number?_eq_error_iff.mp hnumber
  · cases number with
    | none => cases h
    | some x =>
      obtain ⟨b, hb⟩ := Value.exists_atMost (v := .number y) (w := .int 0) rfl rfl
      obtain ⟨whole, hwhole⟩ := exists_answer_isMultiple x y
      have hbound : (Argument.value (.number y)).bound = .ok (.number y) := rfl
      dsimp only at h
      rw [hbound, ok_bind, hb, ok_bind, hwhole] at h
      cases b <;> cases h

/-! ### Checks of form -/

theorem numeric_error (h : numeric v a context = .error f) : v.IsBeyond ∧ f = .overflow := by
  rw [numeric] at h
  split at h
  · cases h
  · rcases bind_eq_error_iff.mp h with hnumber | ⟨_, _, h⟩
    · exact Value.number?_eq_error_iff.mp hnumber
    · cases h

theorem mailbox_error (h : mailbox v a context = .error f) : v.HasLongNumber ∧ f = .longNumber := by
  rw [mailbox] at h
  split at h
  · rcases bind_eq_error_iff.mp h with htext | ⟨_, _, h⟩
    · exact Value.toText_error htext
    · cases h
  · cases h

theorem isoDate_error (h : isoDate v a context = .error f) : v.HasLongNumber ∧ f = .longNumber := by
  rw [isoDate] at h
  split at h
  · rcases bind_eq_error_iff.mp h with htext | ⟨_, _, h⟩
    · exact Value.toText_error htext
    · cases h
  · cases h

theorem digits_error (h : digits v a context = .error f) : v.HasLongNumber ∧ f = .longNumber := by
  rw [digits] at h
  split at h
  · cases h
  · rcases bind_eq_error_iff.mp h with htext | ⟨_, _, h⟩
    · exact Value.toText_error htext
    · cases h

/-- A web address is looked for in every value. -/
theorem webAddress_ne_error : webAddress v a context ≠ .error f := by
  rw [webAddress]
  split
  · split <;> exact fun h => by cases h
  · exact fun h => by cases h

theorem unanswerable_date (h : date v a context = .error f) : Rule.Unanswerable v a context "date" f := by
  rw [date] at h
  split at h
  · rcases bind_eq_error_iff.mp h with htext | ⟨s, hs, h⟩
    · obtain ⟨hlong, rfl⟩ := Value.toText_error htext
      exact .text (by decide) hlong
    · rcases bind_eq_error_iff.mp h with hmoment | ⟨_, _, h⟩
      · obtain rfl := Moment.ofText?_error hmoment
        exact .moment (by decide) hs hmoment
      · cases h
  · cases h

theorem unanswerable_pattern {p : Pattern} (h : pattern v (.pattern p) context = .error f) :
    Rule.Unanswerable v (.pattern p) context "pattern" f := by
  rcases bind_eq_error_iff.mp h with htext | ⟨s, hs, h⟩
  · obtain ⟨hlong, rfl⟩ := Value.toText_error htext
    exact .text (by decide) hlong
  · rcases bind_eq_error_iff.mp h with hmatch | ⟨_, _, h⟩
    · obtain rfl := Pattern.matchesWhole_error hmatch
      exact .turned rfl hs hmatch
    · cases h

theorem fileType_error {items : List Value} (hitems : ∀ w ∈ items, ∃ s, w = .text s)
    (h : fileType v (.row items) context = .error f) : v.HasLongNumber ∧ f = .longNumber := by
  -- A pattern that is a text accepts a name or does not.
  have htype : ∀ {cs : List Char}, ∀ w ∈ items, acceptsType cs w ≠ .error f := by
    intro cs w hw h
    obtain ⟨s, rfl⟩ := hitems w hw
    cases h
  have hending : ∀ {cs : List Char}, ∀ w ∈ items, acceptsEnding cs w ≠ .error f := by
    intro cs w hw h
    obtain ⟨s, rfl⟩ := hitems w hw
    cases h
  rcases bind_eq_error_iff.mp h with hall | ⟨_, _, h⟩
  · obtain ⟨member, hmember, hfile⟩ := exists_of_allM_eq_error hall
    rcases bind_eq_error_iff.mp hfile with htext | ⟨name, _, hfile⟩
    · obtain ⟨hlong, rfl⟩ := Value.toText_error htext
      exact ⟨Value.hasLongNumber_of_mem_members hmember hlong, rfl⟩
    rw [acceptsFile] at hfile
    split at hfile
    · have hany : items.anyM (acceptsType _) = .error f := hfile
      obtain ⟨w, hw, hfail⟩ := exists_of_anyM_eq_error hany
      exact absurd hfail (htype w hw)
    · split at hfile
      · have hany : items.anyM (acceptsEnding _) = .error f := hfile
        obtain ⟨w, hw, hfail⟩ := exists_of_anyM_eq_error hany
        exact absurd hfail (hending w hw)
      · cases hfile
  · cases h

/-! ### Checks that look elsewhere -/

theorem unanswerable_requiredIf {c : Condition} (hmembers : c.HasMembers)
    (h : requiredIf v (.condition c) context = .error f) :
    Rule.Unanswerable v (.condition c) context "required_if" f := by
  rcases bind_eq_error_iff.mp h with hholds | ⟨_, _, h⟩
  · obtain ⟨comparison, hmem, hfail⟩ := Condition.exists_of_holds_error hholds
    obtain ⟨w, hw, hbreaks⟩ := Operator.holds_error (hmembers comparison hmem) hfail
    exact .condition rfl hmem hw hbreaks
  · cases h

theorem unanswerable_sameAs {s name : String} (hname : name ∈ ["match", "equalTo"])
    (h : sameAs v (.value (.text s)) context = .error f) :
    Rule.Unanswerable v (.value (.text s)) context name f := by
  have hreads : name ∈ Rule.reading := by
    revert hname name
    decide
  have hrefers : name ∈ ["match", "equalTo", "notEqual", "enddate"] := by
    revert hname name
    decide
  rcases bind_eq_error_iff.mp h with htext | ⟨_, _, h⟩
  · obtain ⟨hlong, rfl⟩ := Value.toText_error htext
    exact .text hreads hlong
  · have hreference : (Argument.value (.text s)).reference = .ok s := rfl
    rw [hreference, ok_bind] at h
    rcases bind_eq_error_iff.mp h with hother | ⟨_, _, h⟩
    · obtain ⟨hlong, rfl⟩ := Value.toText_error hother
      exact .otherText hrefers rfl hlong
    · cases h

theorem unanswerable_differs {w : Value} (h : differs v (.value w) context = .error f) :
    Rule.Unanswerable v (.value w) context "notEqual" f := by
  rcases bind_eq_error_iff.mp h with htext | ⟨_, _, hrest⟩
  · obtain ⟨hlong, rfl⟩ := Value.toText_error htext
    exact .text (by decide) hlong
  · dsimp only at hrest
    split at hrest
    · next s hs =>
      obtain rfl : w = .text s := Argument.value.inj hs
      split at hrest
      · rcases bind_eq_error_iff.mp hrest with hother | ⟨_, _, hrest⟩
        · obtain ⟨hlong, rfl⟩ := Value.toText_error (map_eq_error_iff.mp hother)
          exact .otherText (by decide) rfl hlong
        · cases hrest
      · cases hrest
    · rcases bind_eq_error_iff.mp hrest with hother | ⟨_, _, hrest⟩
      · obtain ⟨hlong, rfl⟩ := Value.toText_error (map_eq_error_iff.mp hother)
        exact .argument rfl hlong
      · cases hrest

theorem unanswerable_amongst {options : List Value} (h : amongst v (.row options) context = .error f) :
    Rule.Unanswerable v (.row options) context "in" f := by
  have hmembers : (Argument.row options).members = .ok options := rfl
  rw [amongst, hmembers, ok_bind] at h
  rcases bind_eq_error_iff.mp h with htexts | ⟨texts, _, h⟩
  · obtain ⟨w, hw, hfail⟩ := exists_of_mapM_eq_error htexts
    obtain ⟨hlong, rfl⟩ := Value.toText_error hfail
    exact .option rfl hw hlong
  · rcases bind_eq_error_iff.mp h with hall | ⟨_, _, h⟩
    · obtain ⟨w, hw, hfail⟩ := exists_of_allM_eq_error hall
      rcases bind_eq_error_iff.mp hfail with htext | ⟨_, _, hfail⟩
      · obtain ⟨hlong, rfl⟩ := Value.toText_error htext
        exact .text (by decide) (Value.hasLongNumber_of_mem_members hw hlong)
      · cases hfail
    · cases h

theorem allNew_error {met : List String} {items : List Value} (h : allNew met items = .error f) :
    (∃ w ∈ items, w.HasLongNumber) ∧ f = .longNumber := by
  induction items generalizing met with
  | nil => cases h
  | cons w items ih =>
    rcases bind_eq_error_iff.mp h with htext | ⟨s, _, h⟩
    · obtain ⟨hlong, rfl⟩ := Value.toText_error htext
      exact ⟨⟨w, List.mem_cons_self, hlong⟩, rfl⟩
    · split at h
      · cases h
      · obtain ⟨⟨u, hu, hlong⟩, rfl⟩ := ih h
        exact ⟨⟨u, List.mem_cons_of_mem w hu, hlong⟩, rfl⟩

theorem distinct_error (h : distinct v a context = .error f) : v.HasLongNumber ∧ f = .longNumber := by
  rw [distinct.eq_def] at h
  split at h
  · next items =>
    split at h
    · rcases bind_eq_error_iff.mp h with hnew | ⟨_, _, h⟩
      · obtain ⟨⟨w, hw, hlong⟩, rfl⟩ := allNew_error hnew
        exact ⟨.member hw hlong, rfl⟩
      · cases h
    · cases h
  · cases h

/-- The check of an end that reads its start at a reference. -/
theorem unanswerable_notBefore {s : String} (h : notBefore v (.value (.text s)) context = .error f) :
    Rule.Unanswerable v (.value (.text s)) context "enddate" f := by
  rcases bind_eq_error_iff.mp h with htext | ⟨t, ht, h⟩
  · obtain ⟨hlong, rfl⟩ := Value.toText_error htext
    exact .text (by decide) hlong
  rcases bind_eq_error_iff.mp h with hfinish | ⟨finish, hfinish, h⟩
  · obtain rfl := Moment.ofText?_error hfinish
    exact .moment (by decide) ht hfinish
  · cases finish with
    | none => cases h
    | some finish =>
      have hreference : (Argument.value (.text s)).reference = .ok s := rfl
      dsimp only at h
      rw [hreference, ok_bind] at h
      split at h
      · cases h
      · rcases bind_eq_error_iff.mp h with hother | ⟨u, hu, h⟩
        · obtain ⟨hlong, rfl⟩ := Value.toText_error hother
          exact .otherText (by decide) rfl hlong
        rcases bind_eq_error_iff.mp h with hstart | ⟨start, hstart, h⟩
        · obtain rfl := Moment.ofText?_error hstart
          exact .otherMoment rfl hu hstart
        · cases start with
          | none => cases h
          | some start =>
            rcases bind_eq_error_iff.mp h with hleast | ⟨_, _, h⟩
            · obtain ⟨hfar, rfl⟩ := Moment.atLeast_error hleast
              exact .offset rfl ht hfinish hu hstart hfar
            · cases h

end Check

/-! ### The standard rules -/

namespace Rule

variable {declared v : Value} {a : Argument} {context : Context} {f : Fault} {name : String}

theorem unanswerable_number (hname : name ∈ ["min", "max", "range", "number", "step"])
    (h : v.IsBeyond ∧ f = .overflow) : Unanswerable v a context name f := by
  obtain ⟨hbeyond, rfl⟩ := h
  exact .number hname hbeyond

theorem unanswerable_text (hname : name ∈ reading) (h : v.HasLongNumber ∧ f = .longNumber) :
    Unanswerable v a context name f := by
  obtain ⟨hlong, rfl⟩ := h
  exact .text hname hlong

/-- **Where the check of a standard rule has no answer**, its argument prepared from whatever has been declared. -/
theorem unanswerable_of_standard {rule : Rule} (hrule : rule ∈ standard) (ha : rule.prepare declared = .ok a)
    (h : rule.check v a context = .error f) : Unanswerable v a context rule.name f := by
  have hsameAs : ∀ {name}, name ∈ ["match", "equalTo"] → referenceArgument declared = .ok a →
      Check.sameAs v a context = .error f → Unanswerable v a context name f := by
    intro name hname ha h
    obtain ⟨s, rfl⟩ := referenceArgument_ok ha
    exact Check.unanswerable_sameAs context hname h
  have hall : ∀ rule ∈ standard, rule.prepare declared = .ok a → rule.check v a context = .error f →
      Unanswerable v a context rule.name f := by
    simp only [standard, List.forall_mem_cons]
    refine ⟨?required, ?requiredIf, ?email, ?min, ?max, ?pattern, hsameAs (by decide), hsameAs (by decide),
      ?length, ?minlength, ?maxlength, ?rangelength, ?range, ?number, ?digits, ?amongst, ?notEqual, ?url, ?date,
      ?dateISO, ?enddate, ?mincount, ?maxcount, ?unique, ?accept, ?step, List.forall_mem_nil _⟩
    case required => exact fun _ h => by cases h
    case requiredIf =>
      intro ha h
      obtain ⟨c, hc, rfl⟩ := conditionArgument_ok ha
      exact Check.unanswerable_requiredIf context (Condition.hasMembers_ofValue hc) h
    case email => exact fun _ h => unanswerable_text (by decide) (Check.mailbox_error context h)
    case min =>
      intro ha h
      obtain ⟨x, rfl⟩ := numberArgument_ok ha
      exact unanswerable_number (by decide) (Check.least_error context rfl h)
    case max =>
      intro ha h
      obtain ⟨x, rfl⟩ := numberArgument_ok ha
      exact unanswerable_number (by decide) (Check.greatest_error context rfl h)
    case pattern =>
      intro ha h
      obtain ⟨s, p, _, _, rfl⟩ := patternArgument_ok ha
      exact Check.unanswerable_pattern context h
    case length =>
      intro ha h
      obtain ⟨low, high, rfl, hlow, hhigh⟩ := lengthArgument_ok ha
      exact absurd h (Check.itemCount_ne_error context hlow hhigh)
    case minlength =>
      intro ha h
      obtain ⟨w, rfl, hw⟩ := countArgument_ok ha
      exact unanswerable_text (by decide) (Check.shortest_error context hw h)
    case maxlength =>
      intro ha h
      obtain ⟨w, rfl, hw⟩ := countArgument_ok ha
      exact unanswerable_text (by decide) (Check.longest_error context hw h)
    case rangelength =>
      intro ha h
      obtain ⟨low, high, rfl, hlow, hhigh⟩ := pairArgument_ok (fun _ _ => countValue_ok) ha
      exact unanswerable_text (by decide) (Check.lengthBetween_error context hlow hhigh h)
    case range =>
      intro ha h
      obtain ⟨_, _, rfl, ⟨x, rfl⟩, ⟨y, rfl⟩⟩ := pairArgument_ok (fun _ _ => numberValue_ok) ha
      exact unanswerable_number (by decide) (Check.between_error context h)
    case number => exact fun _ h => unanswerable_number (by decide) (Check.numeric_error context h)
    case digits => exact fun _ h => unanswerable_text (by decide) (Check.digits_error context h)
    case amongst =>
      intro ha h
      obtain ⟨items, rfl⟩ := listArgument_ok ha
      exact Check.unanswerable_amongst context h
    case notEqual =>
      -- The argument is not prepared.
      intro ha h
      obtain rfl : .value declared = a := Except.ok.inj ha
      exact Check.unanswerable_differs context h
    case url => exact fun _ h => absurd h (Check.webAddress_ne_error context)
    case date => exact fun _ h => Check.unanswerable_date context h
    case dateISO => exact fun _ h => unanswerable_text (by decide) (Check.isoDate_error context h)
    case enddate =>
      intro ha h
      obtain ⟨s, rfl⟩ := referenceArgument_ok ha
      exact Check.unanswerable_notBefore context h
    case mincount =>
      intro ha h
      obtain ⟨w, rfl, hw⟩ := countArgument_ok ha
      exact absurd h (Check.fewestItems_ne_error context hw)
    case maxcount =>
      intro ha h
      obtain ⟨w, rfl, hw⟩ := countArgument_ok ha
      exact absurd h (Check.mostItems_ne_error context hw)
    case unique => exact fun _ h => unanswerable_text (by decide) (Check.distinct_error context h)
    case accept =>
      intro ha h
      obtain ⟨items, rfl, hitems⟩ := acceptArgument_ok ha
      exact unanswerable_text (by decide) (Check.fileType_error context hitems h)
    case step =>
      intro ha h
      obtain ⟨x, rfl⟩ := numberArgument_ok ha
      exact unanswerable_number (by decide) (Check.multiple_error context h)
  exact hall rule hrule ha h

end Rule

end FormCheck
