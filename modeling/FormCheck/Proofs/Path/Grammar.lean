import FormCheck.Path.Notation
import FormCheck.Proofs.Fallible
import Mathlib.Data.List.TakeWhile
import Mathlib.Tactic.Common

/-!
# The grammar of written paths

A written path is a row of stretches with a point between any two of them.  A stretch is a name, followed by marks in
brackets: indices in decimal digits, and where open indices are allowed, also `[*]` and `[]`.

* `Path.Mark`, `Path.Stretch` — the parts of a written path, with the characters that they are written with and the
  steps that they stand for;
* `Path.written` — the characters of several stretches;
* `Expect.Admits` — the texts that may come next in a written path, with the steps that they stand for;
* `Path.readFrom_eq_ok_iff` — **proved**: these texts are read, as these steps, and no other texts are.
-/

namespace FormCheck

open Text Number Fallible

namespace Path

/-! ### Marks and stretches -/

/-- What may stand in brackets after a name. -/
inductive Mark where
  | digits (ds : List Char)
  | star
  | bare
deriving DecidableEq

namespace Mark

/-- What a mark has between its brackets. -/
def inner : Mark → List Char
  | .digits ds => ds
  | .star => ['*']
  | .bare => []

/-- How a mark is written. -/
def chars (m : Mark) : List Char :=
  '[' :: (m.inner ++ [']'])

/-- The step that a mark stands for. -/
def step : Mark → Segment
  | .digits ds => .index (decimalValue ds)
  | .star | .bare => .each

/-- An index is written in decimal digits of any script, no more of them than are read as a number.  The other marks
stand where open indices are allowed. -/
def IsProper (allowOpen : Bool) : Mark → Prop
  | .digits ds => ds ≠ [] ∧ (∀ c ∈ ds, isDecimal c = true) ∧ ds.length ≤ readLimit
  | .star | .bare => allowOpen = true

instance (allowOpen : Bool) : DecidablePred (IsProper allowOpen)
  | .digits ds => decidable_of_iff (ds ≠ [] ∧ ds.all isDecimal = true ∧ ds.length ≤ readLimit) <| by
    rw [List.all_eq_true, IsProper]
  | .star | .bare => inferInstanceAs (Decidable (allowOpen = true))

end Mark

theorem isNameChar_iff {c : Char} : isNameChar c = true ↔ c ∉ ['.', '[', ']'] := by
  simp [isNameChar, and_assoc]

theorem all_isNameChar_iff {cs : List Char} : cs.all isNameChar = true ↔ ∀ c ∈ cs, c ∉ ['.', '[', ']'] := by
  simp only [List.all_eq_true, isNameChar_iff]

/-- A name with the marks after it. -/
structure Stretch where
  name : List Char
  marks : List Mark
deriving DecidableEq

namespace Stretch

/-- How a stretch is written. -/
def chars (s : Stretch) : List Char :=
  s.name ++ s.marks.flatMap Mark.chars

/-- The steps that a stretch stands for. -/
def steps (s : Stretch) : Path :=
  .name (String.ofList s.name) :: s.marks.map Mark.step

/-- A name has characters, and no points or brackets among them. -/
structure IsProper (allowOpen : Bool) (s : Stretch) : Prop where
  ne_nil : s.name ≠ []
  plain : ∀ c ∈ s.name, c ∉ ['.', '[', ']']
  marks : ∀ m ∈ s.marks, m.IsProper allowOpen

instance (allowOpen : Bool) : DecidablePred (IsProper allowOpen) := fun s =>
  decidable_of_iff (s.name ≠ [] ∧ s.name.all isNameChar = true ∧ ∀ m ∈ s.marks, m.IsProper allowOpen) <| by
    rw [all_isNameChar_iff]
    exact ⟨fun h => ⟨h.1, h.2.1, h.2.2⟩, fun h => ⟨h.ne_nil, h.plain, h.marks⟩⟩

end Stretch

/-- How several stretches are written: with a point between any two of them. -/
def written (stretches : List Stretch) : List Char :=
  ['.'].intercalate (stretches.map Stretch.chars)

/-- How marks and the stretches after them are written. -/
def writtenOn (marks : List Mark) (stretches : List Stretch) : List Char :=
  marks.flatMap Mark.chars ++ stretches.flatMap fun s => '.' :: s.chars

@[simp] theorem written_nil : written [] = [] := rfl

theorem written_cons (s : Stretch) (stretches : List Stretch) :
    written (s :: stretches) = s.name ++ writtenOn s.marks stretches := by
  induction stretches generalizing s with
  | nil => simp [written, writtenOn, Stretch.chars]
  | cons t stretches ih =>
    have hrest : written (t :: stretches) = ['.'].intercalate (t.chars :: stretches.map Stretch.chars) := rfl
    rw [written, List.map_cons, List.map_cons, List.intercalate_cons_cons, ← hrest, ih t]
    simp [writtenOn, Stretch.chars]

theorem writtenOn_nil_cons (s : Stretch) (stretches : List Stretch) :
    writtenOn [] (s :: stretches) = '.' :: written (s :: stretches) := by
  rw [written_cons]
  simp [writtenOn, Stretch.chars]

theorem writtenOn_cons (m : Mark) (marks : List Mark) (stretches : List Stretch) :
    writtenOn (m :: marks) stretches = m.chars ++ writtenOn marks stretches := by
  simp [writtenOn]

/-- No name goes on where marks or another stretch begin. -/
theorem not_isNameChar_writtenOn (marks : List Mark) (stretches : List Stretch) :
    ∀ c ∈ (writtenOn marks stretches).head?, isNameChar c = false := by
  intro c hc
  cases marks with
  | nil =>
    cases stretches with
    | nil => cases hc
    | cons s stretches => cases hc; rfl
  | cons m marks => cases hc; rfl

/-! ### What is written is read -/

/-- What stands between brackets is found again. -/
theorem bracketed?_mark {allowOpen : Bool} {m : Mark} (hm : m.IsProper allowOpen) (rest : List Char) :
    bracketed? (m.inner ++ ']' :: rest) = some (m.inner, rest) := by
  have hclose : isDecimal ']' = false := by decide
  cases m with
  | digits ds =>
    have hdrop : (ds ++ ']' :: rest).dropWhile isDecimal = ']' :: rest := by
      rw [List.dropWhile_append_of_pos hm.2.1, List.dropWhile_cons_of_neg (by simp [hclose])]
    have htake : (ds ++ ']' :: rest).takeWhile isDecimal = ds := by
      rw [List.takeWhile_append_of_pos hm.2.1, List.takeWhile_cons_of_neg (by simp [hclose]), List.append_nil]
    simp only [Mark.inner, bracketed?, hdrop, htake]
  | star => rfl
  | bare => rfl

theorem indexSegment_mark {allowOpen : Bool} {m : Mark} (hm : m.IsProper allowOpen) (text : String) :
    indexSegment allowOpen text m.inner = .ok m.step := by
  cases m with
  | digits ds =>
    obtain ⟨hne, hdigits, hlimit⟩ := hm
    have hall : (!ds.isEmpty && ds.all isDecimal) = true := by
      simpa [hne] using hdigits
    rw [Mark.inner, indexSegment, if_pos hall, if_neg (Nat.not_lt.mpr hlimit)]
    rfl
  | star =>
    obtain rfl : allowOpen = true := hm
    rfl
  | bare =>
    obtain rfl : allowOpen = true := hm
    rfl

variable {allowOpen : Bool} {text : String}

/-- A mark is read as its step. -/
theorem readFrom_mark {m : Mark} (hm : m.IsProper allowOpen) (position : Nat) (rest : List Char) :
    readFrom allowOpen text .more position (m.chars ++ rest) =
      (readFrom allowOpen text .more (position + m.inner.length + 2) rest).map (m.step :: ·) := by
  have hbracket := bracketed?_mark hm rest
  have hchars : m.chars ++ rest = '[' :: (m.inner ++ ']' :: rest) := by
    simp [Mark.chars]
  rw [hchars, readFrom, if_neg (by decide), if_pos rfl]
  split
  · next hnone => rw [hbracket] at hnone; cases hnone
  · next inner after hsome =>
    rw [hbracket] at hsome
    cases hsome
    rw [if_pos rfl, indexSegment_mark hm]
    cases readFrom allowOpen text .more (position + m.inner.length + 2) rest <;> rfl

/-- A point is read before a name. -/
theorem readFrom_point (position : Nat) (rest : List Char) :
    readFrom allowOpen text .more position ('.' :: rest) = readFrom allowOpen text .name (position + 1) rest := by
  rw [readFrom, if_pos rfl, if_pos rfl]

/-- A name is read up to the first character that is none of it. -/
theorem readFrom_name {expect : Expect} (hexpect : expect ≠ .more) {name rest : List Char} (hne : name ≠ [])
    (hplain : ∀ c ∈ name, c ∉ ['.', '[', ']']) (hrest : ∀ c ∈ rest.head?, isNameChar c = false) (position : Nat) :
    readFrom allowOpen text expect position (name ++ rest) =
      (readFrom allowOpen text .more (position + name.length) rest).map (.name (String.ofList name) :: ·) := by
  obtain ⟨c, tail, rfl⟩ := List.exists_cons_of_ne_nil hne
  have hchars : ∀ d ∈ tail, isNameChar d = true := fun d hd =>
    isNameChar_iff.mpr (hplain d (List.mem_cons_of_mem c hd))
  have hc := hplain c List.mem_cons_self
  simp only [List.mem_cons, List.not_mem_nil, or_false, not_or] at hc
  have hstop : rest.takeWhile isNameChar = [] ∧ rest.dropWhile isNameChar = rest := by
    cases rest with
    | nil => exact ⟨rfl, rfl⟩
    | cons d rest =>
      have hd : ¬ isNameChar d = true := by simp [hrest d rfl]
      exact ⟨List.takeWhile_cons_of_neg hd, List.dropWhile_cons_of_neg hd⟩
  have htake : (tail ++ rest).takeWhile isNameChar = tail := by
    rw [List.takeWhile_append_of_pos hchars, hstop.1, List.append_nil]
  have hdrop : (tail ++ rest).dropWhile isNameChar = rest := by
    rw [List.dropWhile_append_of_pos hchars, hstop.2]
  rw [List.cons_append, readFrom, if_neg hc.1, if_neg hc.2.1, if_neg hc.2.2]
  simp only [if_neg hexpect, htake, hdrop, List.length_cons, ← Nat.add_assoc]
  cases readFrom allowOpen text .more (position + tail.length + 1) rest <;> rfl

/-- Marks and the stretches after them are read as their steps. -/
theorem readFrom_writtenOn {marks : List Mark} {stretches : List Stretch} (hmarks : ∀ m ∈ marks, m.IsProper allowOpen)
    (hstretches : ∀ s ∈ stretches, s.IsProper allowOpen) (position : Nat) :
    readFrom allowOpen text .more position (writtenOn marks stretches) =
      .ok (marks.map Mark.step ++ stretches.flatMap Stretch.steps) := by
  induction stretches generalizing marks position with
  | nil =>
    induction marks generalizing position with
    | nil => rw [writtenOn, List.flatMap_nil, List.flatMap_nil, List.append_nil, readFrom]; rfl
    | cons m marks ih =>
      rw [List.forall_mem_cons] at hmarks
      rw [writtenOn_cons, readFrom_mark hmarks.1, ih hmarks.2]
      rfl
  | cons s stretches ihStretches =>
    rw [List.forall_mem_cons] at hstretches
    obtain ⟨hs, hstretches⟩ := hstretches
    induction marks generalizing position with
    | nil =>
      rw [writtenOn_nil_cons, written_cons, readFrom_point,
        readFrom_name (by decide) hs.ne_nil hs.plain (not_isNameChar_writtenOn _ _), ihStretches hs.marks hstretches]
      rfl
    | cons m marks ih =>
      rw [List.forall_mem_cons] at hmarks
      rw [writtenOn_cons, readFrom_mark hmarks.1, ih hmarks.2]
      rfl

/-! ### What is read has been written -/

/-- A text may come next, and stands for the steps of a path. -/
def Expect.Admits (allowOpen : Bool) : Expect → List Char → Path → Prop
  | .start, cs, p => ∃ stretches : List Stretch, (∀ s ∈ stretches, s.IsProper allowOpen) ∧
      cs = written stretches ∧ p = stretches.flatMap Stretch.steps
  | .name, cs, p => ∃ (s : Stretch) (stretches : List Stretch), (∀ t ∈ s :: stretches, t.IsProper allowOpen) ∧
      cs = written (s :: stretches) ∧ p = (s :: stretches).flatMap Stretch.steps
  | .more, cs, p => ∃ (marks : List Mark) (stretches : List Stretch), (∀ m ∈ marks, m.IsProper allowOpen) ∧
      (∀ s ∈ stretches, s.IsProper allowOpen) ∧
      cs = writtenOn marks stretches ∧ p = marks.map Mark.step ++ stretches.flatMap Stretch.steps

/-- What is found between brackets are digits, perhaps none, or an asterisk. -/
theorem eq_of_bracketed? {cs inner after : List Char} (h : bracketed? cs = some (inner, after)) :
    cs = inner ++ ']' :: after ∧ ((∀ c ∈ inner, isDecimal c = true) ∨ inner = ['*']) := by
  have hdigits : ∀ c ∈ cs.takeWhile isDecimal, isDecimal c = true := List.all_eq_true.mp List.all_takeWhile
  have hcs : cs.takeWhile isDecimal ++ cs.dropWhile isDecimal = cs := List.takeWhile_append_dropWhile
  unfold bracketed? at h
  split at h
  · next rest hdrop =>
    cases h
    rw [hdrop] at hcs
    exact ⟨hcs.symm, .inl hdigits⟩
  · split at h
    · cases h
      exact ⟨rfl, .inr rfl⟩
    · cases h

/-- What stands between brackets is a mark, if it is read as a step. -/
theorem exists_mark {inner : List Char} {s : Segment} (hinner : (∀ c ∈ inner, isDecimal c = true) ∨ inner = ['*'])
    (h : indexSegment allowOpen text inner = .ok s) :
    ∃ m : Mark, m.IsProper allowOpen ∧ m.inner = inner ∧ m.step = s := by
  rw [indexSegment] at h
  split at h
  · next hdigits =>
    split at h
    · cases h
    · next hlimit =>
      cases h
      simp only [Bool.and_eq_true, Bool.not_eq_true', List.isEmpty_eq_false_iff, List.all_eq_true] at hdigits
      exact ⟨.digits inner, ⟨hdigits.1, hdigits.2, Nat.not_lt.mp hlimit⟩, rfl, rfl⟩
  · next hnone =>
    split at h
    · next hopen =>
      cases h
      rcases hinner with hinner | rfl
      · have hnil : inner = [] := by
          by_contra hne
          exact hnone (by simpa [hne] using hinner)
        exact ⟨.bare, hopen, hnil.symm, rfl⟩
      · exact ⟨.star, hopen, rfl, rfl⟩
    · cases h

/-- A name and what is written on after it may come first, and after a point. -/
theorem Expect.Admits.name {expect : Expect} (hexpect : expect ≠ .more) {name rest : List Char} (hne : name ≠ [])
    (hplain : ∀ c ∈ name, c ∉ ['.', '[', ']']) {p : Path} (h : Expect.more.Admits allowOpen rest p) :
    expect.Admits allowOpen (name ++ rest) (.name (String.ofList name) :: p) := by
  obtain ⟨marks, stretches, hmarks, hstretches, rfl, rfl⟩ := h
  have hall : ∀ t ∈ (⟨name, marks⟩ : Stretch) :: stretches, t.IsProper allowOpen :=
    List.forall_mem_cons.mpr ⟨⟨hne, hplain, hmarks⟩, hstretches⟩
  have hwritten : name ++ writtenOn marks stretches = written (⟨name, marks⟩ :: stretches) :=
    (written_cons ⟨name, marks⟩ stretches).symm
  cases expect with
  | start => exact ⟨_, hall, hwritten, rfl⟩
  | name => exact ⟨_, _, hall, hwritten, rfl⟩
  | more => exact absurd rfl hexpect

/-- What is read is one of the texts that may come next. -/
theorem admits_of_readFrom {expect : Expect} {position : Nat} {cs : List Char} {p : Path}
    (h : readFrom allowOpen text expect position cs = .ok p) : expect.Admits allowOpen cs p := by
  -- The cases are those of the reader: the end, a point, an opening bracket, a closing one, and a name.
  fun_induction readFrom allowOpen text expect position cs generalizing p with
  | case1 => cases h
  | case2 expect _ hexpect =>
    cases h
    cases expect with
    | start => exact ⟨[], List.forall_mem_nil _, rfl, rfl⟩
    | name => exact absurd rfl hexpect
    | more => exact ⟨[], [], List.forall_mem_nil _, List.forall_mem_nil _, rfl, rfl⟩
  | case3 _ rest ih =>
    obtain ⟨s, stretches, hall, rfl, rfl⟩ := ih h
    exact ⟨[], s :: stretches, List.forall_mem_nil _, hall, (writtenOn_nil_cons s stretches).symm, rfl⟩
  | case4 => cases h
  | case5 => cases h
  | case6 _ rest inner after hbracket _ ih =>
    obtain ⟨s, hs, h⟩ := bind_eq_ok_iff.mp h
    obtain ⟨q, hq, h⟩ := bind_eq_ok_iff.mp h
    cases h
    obtain ⟨rfl, hinner⟩ := eq_of_bracketed? hbracket
    obtain ⟨m, hm, rfl, rfl⟩ := exists_mark hinner hs
    obtain ⟨marks, stretches, hmarks, hstretches, rfl, rfl⟩ := ih hq
    refine ⟨m :: marks, stretches, List.forall_mem_cons.mpr ⟨hm, hmarks⟩, hstretches, ?_, rfl⟩
    rw [writtenOn_cons, Mark.chars]
    simp
  | case7 => cases h
  | case8 => cases h
  | case9 => cases h
  | case10 expect _ c rest hpoint hopening hclosing tail name hexpect =>
    rename_i ih
    obtain ⟨q, hq, h⟩ := bind_eq_ok_iff.mp h
    cases h
    have hplain : ∀ d ∈ c :: tail, d ∉ ['.', '[', ']'] := by
      rw [List.forall_mem_cons]
      refine ⟨by simp [hpoint, hopening, hclosing], fun d hd => ?_⟩
      exact isNameChar_iff.mp (List.mem_takeWhile_imp hd)
    have hrest : c :: tail ++ rest.dropWhile isNameChar = c :: rest := by
      rw [List.cons_append, List.takeWhile_append_dropWhile]
    rw [← hrest]
    exact (ih hq).name hexpect (List.cons_ne_nil c tail) hplain

/-- **The texts that may come next are read, as the steps that they stand for, and no other texts are.** -/
theorem readFrom_eq_ok_iff {expect : Expect} {position : Nat} {cs : List Char} {p : Path} :
    readFrom allowOpen text expect position cs = .ok p ↔ expect.Admits allowOpen cs p := by
  refine ⟨admits_of_readFrom, fun h => ?_⟩
  -- A first stretch is read as its name, and what is written on after it.
  have hstretches : ∀ {expect : Expect} {s : Stretch} {stretches : List Stretch}, expect ≠ .more →
      (∀ t ∈ s :: stretches, t.IsProper allowOpen) →
      readFrom allowOpen text expect position (written (s :: stretches)) =
        .ok ((s :: stretches).flatMap Stretch.steps) := by
    intro expect s stretches hexpect hall
    rw [List.forall_mem_cons] at hall
    obtain ⟨hs, hall⟩ := hall
    rw [written_cons, readFrom_name hexpect hs.ne_nil hs.plain (not_isNameChar_writtenOn _ _),
      readFrom_writtenOn hs.marks hall]
    rfl
  cases expect with
  | start =>
    obtain ⟨stretches, hall, rfl, rfl⟩ := h
    cases stretches with
    | nil => rw [written_nil, readFrom]; rfl
    | cons s stretches => exact hstretches (by decide) hall
  | name =>
    obtain ⟨s, stretches, hall, rfl, rfl⟩ := h
    exact hstretches (by decide) hall
  | more =>
    obtain ⟨marks, stretches, hmarks, hall, rfl, rfl⟩ := h
    exact readFrom_writtenOn hmarks hall position

end Path

end FormCheck
