import FormCheck.Proofs.Value.Reading
import FormCheck.Rule.Standard

/-!
# What preparing an argument comes to

The argument that a rule is declared with is prepared before the rule is asked.  This file says for each way
of preparing arguments what it hands to a check, and on which arguments it fails without a reason for a
refusal:

* `numberArgument_ok`, …, `conditionArgument_ok` — **proved**: the sort of a prepared argument;
* `Rule.Unpreparable` — a rule's argument with a part that the preparation cannot handle, and with which fault
  it ends;
* `Rule.unpreparable_of_standard` — **proved**: the preparation of a standard rule ends with a fault on such
  arguments only.
-/

namespace FormCheck

open Fallible

/-! ### Numbers, counts and pairs of them -/

theorem numberOf_fault {v : Value} {f : Fault} (h : numberOf v = .error (.fault f)) :
    v.IsBeyond ∧ f = .overflow := by
  rw [numberOf] at h
  split at h
  · cases h
  · cases h
  · next hnumber =>
    cases h
    exact Value.number?_eq_error_iff.mp hnumber

theorem countOf_fault {v : Value} {f : Fault} (h : countOf v = .error (.fault f)) :
    v.IsBeyond ∧ f = .overflow := by
  rcases bind_eq_error_iff.mp h with hnumber | ⟨x, _, h⟩
  · exact numberOf_fault hnumber
  · split at h <;> cases h

theorem numberValue_fault {v : Value} {f : Fault} (h : numberValue v = .error (.fault f)) :
    v.IsBeyond ∧ f = .overflow :=
  numberOf_fault (map_eq_error_iff.mp h)

theorem countValue_fault {v : Value} {f : Fault} (h : countValue v = .error (.fault f)) :
    v.IsBeyond ∧ f = .overflow := by
  rw [countValue] at h
  rcases bind_eq_error_iff.mp (map_eq_error_iff.mp h) with hcount | ⟨_, _, h⟩
  · exact countOf_fault hcount
  · cases h

theorem numberValue_ok {v w : Value} (h : numberValue v = .ok w) : ∃ x, w = .number x := by
  obtain ⟨x, _, rfl⟩ := map_eq_ok_iff.mp h
  exact ⟨x, rfl⟩

theorem countValue_ok {v w : Value} (h : countValue v = .ok w) : w.isNumeric = true := by
  obtain ⟨n, _, rfl⟩ := map_eq_ok_iff.mp h
  rfl

theorem numberArgument_ok {v : Value} {a : Argument} (h : numberArgument v = .ok a) :
    ∃ x, a = .value (.number x) := by
  obtain ⟨w, hw, rfl⟩ := map_eq_ok_iff.mp h
  obtain ⟨x, rfl⟩ := numberValue_ok hw
  exact ⟨x, rfl⟩

theorem countArgument_ok {v : Value} {a : Argument} (h : countArgument v = .ok a) :
    ∃ w, a = .value w ∧ w.isNumeric = true := by
  obtain ⟨w, hw, rfl⟩ := map_eq_ok_iff.mp h
  exact ⟨w, rfl, countValue_ok hw⟩

variable {convert : Value → Except (Failure ArgumentError) Value}

/-- A fault in a pair is one of its members. -/
theorem pairArgument_fault {v : Value} {f : Fault}
    (hconvert : ∀ w, convert w = .error (.fault f) → w.IsBeyond ∧ f = .overflow)
    (h : pairArgument convert v = .error (.fault f)) :
    ∃ low high w, v = .list [low, high] ∧ w ∈ [low, high] ∧ w.IsBeyond ∧ f = .overflow := by
  have hpair := map_eq_error_iff.mp h
  rw [pairOf] at hpair
  split at hpair
  · next low high hparts =>
    obtain ⟨w, hw, hbeyond, rfl⟩ : ∃ w ∈ [low, high], w.IsBeyond ∧ f = .overflow := by
      rcases bind_eq_error_iff.mp hpair with hlow | ⟨_, _, hpair⟩
      · exact ⟨low, List.mem_cons_self, hconvert low hlow⟩
      · rcases bind_eq_error_iff.mp hpair with hhigh | ⟨_, _, hpair⟩
        · exact ⟨high, List.mem_cons_of_mem _ List.mem_cons_self, hconvert high hhigh⟩
        · cases hpair
    -- The parts of a text are texts, and no text is beyond.
    cases v with
    | list items => exact ⟨low, high, w, hparts, hw, hbeyond, rfl⟩
    | text s =>
      rw [← Value.list.inj hparts] at hw
      obtain ⟨part, _, rfl⟩ := List.mem_map.mp hw
      obtain ⟨n, hn, _⟩ := hbeyond
      cases hn
    | _ => cases hparts
  · cases hpair

variable {P : Value → Prop}

theorem pairOf_ok (hconvert : ∀ v w, convert v = .ok w → P w) {v : Value} {members : List Value}
    (h : pairOf convert v = .ok members) : ∃ low high, members = [low, high] ∧ P low ∧ P high := by
  rw [pairOf] at h
  split at h
  · obtain ⟨low, hlow, h⟩ := bind_eq_ok_iff.mp h
    obtain ⟨high, hhigh, h⟩ := bind_eq_ok_iff.mp h
    cases h
    exact ⟨low, high, rfl, hconvert _ _ hlow, hconvert _ _ hhigh⟩
  · cases h

/-- What holds of converted values holds of both members of a pair. -/
theorem pairArgument_ok (hconvert : ∀ v w, convert v = .ok w → P w) {v : Value} {a : Argument}
    (h : pairArgument convert v = .ok a) : ∃ low high, a = .row [low, high] ∧ P low ∧ P high := by
  obtain ⟨members, hmembers, rfl⟩ := map_eq_ok_iff.mp h
  obtain ⟨low, high, rfl, hlow, hhigh⟩ := pairOf_ok hconvert hmembers
  exact ⟨low, high, rfl, hlow, hhigh⟩

/-! ### Bounds for a number of items -/

/-- A number, or null where a bound is not given. -/
def Value.isBound (v : Value) : Bool :=
  v.isNumeric || Check.isNull v

theorem boundOf_fault {entries : List (String × Value)} {key : String} {f : Fault}
    (h : boundOf entries key = .error (.fault f)) :
    ∃ w, entryOf? entries key = some w ∧ w.IsBeyond ∧ f = .overflow := by
  rw [boundOf] at h
  split at h
  · cases h
  · cases h
  · next v _ hentry =>
    exact ⟨v, hentry, countValue_fault h⟩

theorem boundOf_ok {entries : List (String × Value)} {key : String} {w : Value}
    (h : boundOf entries key = .ok w) : w.isBound = true := by
  rw [boundOf] at h
  split at h
  · cases h
    rfl
  · cases h
    rfl
  · rw [Value.isBound, countValue_ok h, Bool.true_or]

theorem lengthArgument_ok {v : Value} {a : Argument} (h : lengthArgument v = .ok a) :
    ∃ low high, a = .row [low, high] ∧ low.isBound = true ∧ high.isBound = true := by
  rw [lengthArgument.eq_def] at h
  split at h
  · dsimp only at h
    split at h
    · cases h
    · obtain ⟨low, hlow, h⟩ := bind_eq_ok_iff.mp h
      obtain ⟨high, hhigh, h⟩ := bind_eq_ok_iff.mp h
      cases h
      exact ⟨low, high, rfl, boundOf_ok hlow, boundOf_ok hhigh⟩
  · obtain ⟨low, high, rfl, hlow, hhigh⟩ := pairArgument_ok (fun _ _ => countValue_ok) h
    exact ⟨low, high, rfl, by rw [Value.isBound, hlow, Bool.true_or],
      by rw [Value.isBound, hhigh, Bool.true_or]⟩
  · obtain ⟨exact', hexact, h⟩ := bind_eq_ok_iff.mp h
    cases h
    have hbound : exact'.isBound = true := by rw [Value.isBound, countValue_ok hexact, Bool.true_or]
    exact ⟨exact', exact', rfl, hbound, hbound⟩

/-! ### Lists, references, patterns and conditions -/

theorem listArgument_ok {v : Value} {a : Argument} (h : listArgument v = .ok a) : ∃ items, a = .row items := by
  obtain ⟨items, _, rfl⟩ := map_eq_ok_iff.mp h
  exact ⟨items, rfl⟩

theorem listOf_ne_fault (v : Value) (f : Fault) : listOf v ≠ .error (.fault f) := by
  intro h
  rw [listOf.eq_def] at h
  split at h <;> cases h

theorem referenceArgument_ok {v : Value} {a : Argument} (h : referenceArgument v = .ok a) :
    ∃ s, a = .value (.text s) := by
  rw [referenceArgument.eq_def] at h
  split at h
  · split at h <;> cases h
    exact ⟨_, rfl⟩
  · cases h

theorem referenceArgument_ne_fault (v : Value) (f : Fault) : referenceArgument v ≠ .error (.fault f) := by
  intro h
  rw [referenceArgument.eq_def] at h
  split at h
  · split at h <;> cases h
  · cases h

theorem patternArgument_ok {v : Value} {a : Argument} (h : patternArgument v = .ok a) :
    ∃ s p, v = .text s ∧ Pattern.ofText s = .ok p ∧ a = .pattern p := by
  rw [patternArgument.eq_def] at h
  split at h
  · split at h <;> cases h
    next hpattern => exact ⟨_, _, rfl, hpattern, rfl⟩
  · cases h

theorem conditionArgument_ok {v : Value} {a : Argument} (h : conditionArgument v = .ok a) :
    ∃ c, Condition.ofValue v = .ok c ∧ a = .condition c := by
  rw [conditionArgument.eq_def] at h
  split at h <;> cases h
  next hcondition => exact ⟨_, hcondition, rfl⟩

theorem conditionArgument_ne_fault (v : Value) (f : Fault) : conditionArgument v ≠ .error (.fault f) := by
  intro h
  rw [conditionArgument.eq_def] at h
  split at h <;> cases h

theorem acceptArgument_ok {v : Value} {a : Argument} (h : acceptArgument v = .ok a) :
    ∃ items, a = .row items ∧ ∀ w ∈ items, ∃ s, w = .text s := by
  obtain ⟨declared, _, h⟩ := bind_eq_ok_iff.mp h
  obtain ⟨items, hitems, h⟩ := bind_eq_ok_iff.mp h
  cases h
  refine ⟨items, rfl, fun w hw => ?_⟩
  obtain ⟨d, _, hd⟩ := exists_of_mem_mapM hitems hw
  rw [foldedText.eq_def] at hd
  split at hd <;> cases hd
  exact ⟨_, rfl⟩

/-! ### Arguments that cannot be prepared -/

namespace Rule

/-- The standard rules that may be declared with one number. -/
def measuring : List String :=
  ["min", "max", "step", "length", "minlength", "maxlength", "mincount", "maxcount"]

/-- The standard rules that may be declared with two numbers. -/
def ranging : List String := ["length", "rangelength", "range"]

/-- An argument of a standard rule that can neither be prepared nor be refused, and the fault that it ends
with: a number beyond the binary ones, alone, in a pair or as a bound; a pattern with too many repetitions, or
one that looks behind too far; a list of files with a member that is no text. -/
inductive Unpreparable : String → Value → Fault → Prop where
  | number {name : String} {v : Value} : name ∈ measuring → v.IsBeyond → Unpreparable name v .overflow
  | pair {name : String} {low high v : Value} : name ∈ ranging → v ∈ [low, high] → v.IsBeyond →
      Unpreparable name (.list [low, high]) .overflow
  | bound {entries : List (String × Value)} {key : String} {v : Value} : key ∈ ["min", "max"] →
      entryOf? entries key = some v → v.IsBeyond → Unpreparable "length" (.object entries) .overflow
  | repetitions {s : String} : Pattern.ofText s = .error .tooManyRepetitions →
      Unpreparable "pattern" (.text s) .overflow
  | lookBehind {s : String} : Pattern.ofText s = .error .tooFarBehind →
      Unpreparable "pattern" (.text s) .patternTooWide
  | member {items : List Value} {v : Value} : v ∈ items → (∀ s, v ≠ .text s) →
      Unpreparable "accept" (.list items) .missingPart

variable {name : String} {v : Value} {f : Fault}

theorem unpreparable_number (hname : name ∈ measuring) (h : numberArgument v = .error (.fault f)) :
    Unpreparable name v f := by
  obtain ⟨hbeyond, rfl⟩ := numberValue_fault (map_eq_error_iff.mp h)
  exact .number hname hbeyond

theorem unpreparable_count (hname : name ∈ measuring) (h : countArgument v = .error (.fault f)) :
    Unpreparable name v f := by
  obtain ⟨hbeyond, rfl⟩ := countValue_fault (map_eq_error_iff.mp h)
  exact .number hname hbeyond

theorem unpreparable_pair (hname : name ∈ ranging)
    (hconvert : ∀ w, convert w = .error (.fault f) → w.IsBeyond ∧ f = .overflow)
    (h : pairArgument convert v = .error (.fault f)) : Unpreparable name v f := by
  obtain ⟨low, high, w, rfl, hw, hbeyond, rfl⟩ := pairArgument_fault hconvert h
  exact .pair hname hw hbeyond

theorem unpreparable_length (h : lengthArgument v = .error (.fault f)) : Unpreparable "length" v f := by
  rw [lengthArgument.eq_def] at h
  split at h
  · next entries =>
    dsimp only at h
    split at h
    · cases h
    · rcases bind_eq_error_iff.mp h with hlow | ⟨low, _, h⟩
      · obtain ⟨w, hentry, hbeyond, rfl⟩ := boundOf_fault hlow
        exact .bound (by decide) hentry hbeyond
      · rcases bind_eq_error_iff.mp h with hhigh | ⟨high, _, h⟩
        · obtain ⟨w, hentry, hbeyond, rfl⟩ := boundOf_fault hhigh
          exact .bound (by decide) hentry hbeyond
        · cases h
  · exact unpreparable_pair (by decide) (fun _ => countValue_fault) h
  · rcases bind_eq_error_iff.mp h with hexact | ⟨_, _, h⟩
    · obtain ⟨hbeyond, rfl⟩ := countValue_fault hexact
      exact .number (by decide) hbeyond
    · cases h

theorem unpreparable_pattern (h : patternArgument v = .error (.fault f)) : Unpreparable "pattern" v f := by
  rw [patternArgument.eq_def] at h
  split at h
  · split at h <;> cases h
    · next hpattern => exact .repetitions hpattern
    · next hpattern => exact .lookBehind hpattern
  · cases h

theorem unpreparable_accept (h : acceptArgument v = .error (.fault f)) : Unpreparable "accept" v f := by
  rcases bind_eq_error_iff.mp h with hlist | ⟨items, hlist, h⟩
  · exact absurd hlist (listOf_ne_fault v f)
  rcases bind_eq_error_iff.mp h with hfolded | ⟨_, _, h⟩
  · obtain ⟨w, hw, hfold⟩ := exists_of_mapM_eq_error hfolded
    rw [foldedText.eq_def] at hfold
    split at hfold
    · cases hfold
    · next hno =>
      cases hfold
      -- The members of a declared text are texts.
      rw [listOf.eq_def] at hlist
      split at hlist <;> cases hlist
      · obtain ⟨part, _, rfl⟩ := List.mem_map.mp hw
        exact absurd rfl (hno _)
      · exact .member hw hno
  · cases h

/-- **The preparation of a standard rule ends with a fault on an unpreparable argument only.** -/
theorem unpreparable_of_standard {rule : Rule} (hrule : rule ∈ standard)
    (h : rule.prepare v = .error (.fault f)) : Unpreparable rule.name v f := by
  -- An argument that is taken as it is has been prepared.
  have hplain : ∀ {name}, (Except.ok (.value v) : Except (Failure ArgumentError) Argument) = .error (.fault f) →
      Unpreparable name v f := fun h => by cases h
  have hreference : ∀ {name}, referenceArgument v = .error (.fault f) → Unpreparable name v f :=
    fun h => absurd h (referenceArgument_ne_fault v f)
  have hall : ∀ rule ∈ standard, rule.prepare v = .error (.fault f) → Unpreparable rule.name v f := by
    simp only [standard, List.forall_mem_cons]
    -- One entry for each rule, in the order of the table.
    exact ⟨hplain, fun h => absurd h (conditionArgument_ne_fault v f), hplain,
      unpreparable_number (by decide), unpreparable_number (by decide), unpreparable_pattern,
      hreference, hreference, unpreparable_length, unpreparable_count (by decide),
      unpreparable_count (by decide), unpreparable_pair (by decide) fun _ => countValue_fault,
      unpreparable_pair (by decide) fun _ => numberValue_fault, hplain, hplain,
      fun h => absurd (map_eq_error_iff.mp h) (listOf_ne_fault v f), hplain, hplain, hplain, hplain,
      hreference, unpreparable_count (by decide), unpreparable_count (by decide), hplain,
      unpreparable_accept, unpreparable_number (by decide), List.forall_mem_nil _⟩
  exact hall rule hrule h

end Rule

end FormCheck
