import FormCheck.Proofs.Number.Numeral
import FormCheck.Proofs.Path.Grammar

/-!
# Paths written and read again

A path is written in one way and may be read from many texts: its indices can have zeros in front, and digits of any
script.  Only the text in which they are short is the written form of the path.

* `Segment.IsWritable`, `Path.IsWritable` — the paths that the notation has a text for;
* `Path.readFrom_text` — **proved**: such a path is read from its written form;
* `Path.text_eq_iff` — **proved**: a text is the written form of the path that it stands for exactly when all its marks
  are short;
* `Path.ofText_inverts_text` — **proved**: which texts are read as paths, and that reading and writing are inverse to
  each other on paths, and on texts with short indices.
-/

namespace FormCheck

open Text Number

/-! ### What can be written -/

/-- A step that the notation can write: a name with characters, and none among them that ends a name, or an index with
no more digits than are read. -/
def Segment.IsWritable (allowOpen : Bool) : Segment → Prop
  | .name n => n.toList ≠ [] ∧ ∀ c ∈ n.toList, c ∉ ['.', '[', ']']
  | .index k => 0 ≤ k ∧ k.natAbs < 10 ^ readLimit
  | .each => allowOpen = true

instance (allowOpen : Bool) : DecidablePred (Segment.IsWritable allowOpen)
  | .name n => decidable_of_iff (n.toList ≠ [] ∧ n.toList.all Path.isNameChar = true) <| by
    rw [Path.all_isNameChar_iff, Segment.IsWritable]
  | .index k => inferInstanceAs (Decidable (0 ≤ k ∧ k.natAbs < 10 ^ readLimit))
  | .each => inferInstanceAs (Decidable (allowOpen = true))

namespace Path

/-- A path of such steps that is empty or begins with a name. -/
structure IsWritable (allowOpen : Bool) (p : Path) : Prop where
  first : ∀ s ∈ p.head?, s.isName = true
  steps : ∀ s ∈ p, s.IsWritable allowOpen

instance (allowOpen : Bool) : DecidablePred (IsWritable allowOpen) := fun p =>
  decidable_of_iff ((∀ s ∈ p.head?, s.isName = true) ∧ ∀ s ∈ p, s.IsWritable allowOpen)
    ⟨fun h => ⟨h.1, h.2⟩, fun h => ⟨h.first, h.steps⟩⟩

/-- A mark is written as the step that it stands for is. -/
def Mark.IsShort : Mark → Prop
  | .digits ds => Number.IsShort ds
  | .star => True
  | .bare => False

instance : DecidablePred Mark.IsShort
  | .digits ds => inferInstanceAs (Decidable (Number.IsShort ds))
  | .star => inferInstanceAs (Decidable True)
  | .bare => inferInstanceAs (Decidable False)

variable {allowOpen : Bool}

theorem natDigits_isProper {k : Int} (h : (Segment.index k).IsWritable allowOpen) :
    (Mark.digits (natDigits k.natAbs)).IsProper allowOpen := by
  obtain ⟨_, hlimit⟩ := h
  have hlength : (natDigits k.natAbs).length ≤ readLimit :=
    (length_natDigits_le_iff (by decide)).mpr hlimit
  refine ⟨natDigits_ne_nil _, fun c hc => ?_, hlength⟩
  obtain ⟨d, hd, rfl⟩ := exists_digit_of_mem_natDigits hc
  rw [isDecimal, digitValue?_digitChar hd]
  rfl

/-- A step that is no name is written as a mark. -/
theorem exists_mark_of_isWritable {s : Segment} (hs : s.IsWritable allowOpen) (hname : s.isName = false) :
    ∃ m : Mark, m.IsProper allowOpen ∧ m.step = s ∧ s.chars false = m.chars := by
  cases s with
  | name n => cases hname
  | index k =>
    have hpos : 0 ≤ k := hs.1
    refine ⟨.digits (natDigits k.natAbs), natDigits_isProper hs, ?_, ?_⟩
    · rw [Mark.step, decimalValue_natDigits, Int.natAbs_of_nonneg hpos]
    · rw [Segment.chars, intDigits, if_neg (Int.not_lt.mpr hpos)]
      rfl
  | each => exact ⟨.star, hs, rfl, rfl⟩

/-- Steps that do not come first are written as marks and stretches. -/
theorem exists_writtenOn {p : Path} (h : ∀ s ∈ p, s.IsWritable allowOpen) :
    ∃ (marks : List Mark) (stretches : List Stretch), (∀ m ∈ marks, m.IsProper allowOpen) ∧
      (∀ s ∈ stretches, s.IsProper allowOpen) ∧ p = marks.map Mark.step ++ stretches.flatMap Stretch.steps ∧
      p.flatMap (Segment.chars false) = writtenOn marks stretches := by
  induction p with
  | nil => exact ⟨[], [], List.forall_mem_nil _, List.forall_mem_nil _, rfl, rfl⟩
  | cons s p ih =>
    rw [List.forall_mem_cons] at h
    obtain ⟨marks, stretches, hmarks, hstretches, hp, hchars⟩ := ih h.2
    by_cases hname : s.isName = true
    · obtain ⟨n, rfl⟩ : ∃ n, s = .name n := by
        cases s <;> first | exact ⟨_, rfl⟩ | cases hname
      refine ⟨[], ⟨n.toList, marks⟩ :: stretches, List.forall_mem_nil _,
        List.forall_mem_cons.mpr ⟨⟨h.1.1, h.1.2, hmarks⟩, hstretches⟩, ?_, ?_⟩
      · rw [List.map_nil, List.nil_append, List.flatMap_cons, Stretch.steps, List.cons_append, ← hp,
          String.ofList_toList]
      · rw [List.flatMap_cons, hchars, writtenOn_nil_cons, written_cons]
        rfl
    · obtain ⟨m, hm, hstep, hwritten⟩ := exists_mark_of_isWritable h.1 (Bool.not_eq_true _ ▸ hname)
      refine ⟨m :: marks, stretches, List.forall_mem_cons.mpr ⟨hm, hmarks⟩, hstretches, ?_, ?_⟩
      · rw [List.map_cons, List.cons_append, ← hp, hstep]
      · rw [List.flatMap_cons, hchars, hwritten, writtenOn_cons]

/-- **A path that can be written is read from its written form.** -/
theorem readFrom_text {p : Path} (h : p.IsWritable allowOpen) (text : String) (position : Nat) :
    readFrom allowOpen text .start position p.chars = .ok p := by
  refine readFrom_eq_ok_iff.mpr ?_
  cases p with
  | nil => exact ⟨[], List.forall_mem_nil _, rfl, rfl⟩
  | cons s p =>
    obtain ⟨hs, hp⟩ := List.forall_mem_cons.mp h.steps
    obtain ⟨marks, stretches, hmarks, hstretches, rfl, hchars⟩ := exists_writtenOn hp
    obtain ⟨n, rfl⟩ : ∃ n, s = .name n := by
      cases s with
      | name n => exact ⟨n, rfl⟩
      | _ => cases h.first _ rfl
    refine ⟨⟨n.toList, marks⟩ :: stretches, List.forall_mem_cons.mpr ⟨⟨hs.1, hs.2, hmarks⟩, hstretches⟩, ?_, ?_⟩
    · rw [written_cons, ← hchars]
      rfl
    · rw [List.flatMap_cons, Stretch.steps, String.ofList_toList]
      rfl

/-! ### What is read can be written -/

theorem isWritable_of_mark {m : Mark} (h : m.IsProper allowOpen) : m.step.IsWritable allowOpen := by
  cases m with
  | digits ds =>
    obtain ⟨_, _, hlimit⟩ := h
    have hvalue : decimalValue ds < 10 ^ readLimit :=
      (decimalValue_lt ds).trans_le (Nat.pow_le_pow_right (by decide) hlimit)
    exact ⟨Int.natCast_nonneg _, by rwa [Int.natAbs_natCast]⟩
  | star => exact h
  | bare => exact h

/-- What stretches stand for can be written. -/
theorem isWritable_steps {stretches : List Stretch} (h : ∀ s ∈ stretches, s.IsProper allowOpen) :
    IsWritable allowOpen (stretches.flatMap Stretch.steps) := by
  refine ⟨fun s hs => ?_, fun s hs => ?_⟩
  · cases stretches with
    | nil => cases hs
    | cons t stretches => cases hs; rfl
  · obtain ⟨t, ht, hs⟩ := List.mem_flatMap.mp hs
    rcases List.mem_cons.mp hs with rfl | hs
    · exact ⟨by rw [String.toList_ofList]; exact (h t ht).ne_nil,
        by rw [String.toList_ofList]; exact (h t ht).plain⟩
    · obtain ⟨m, hm, rfl⟩ := List.mem_map.mp hs
      exact isWritable_of_mark ((h t ht).marks m hm)

/-! ### Which texts are written forms -/

/-- In one place, a mark and its step are written alike exactly when the mark is short. -/
theorem step_chars_append_iff {m : Mark} (hm : m.IsProper allowOpen) {x y : List Char} :
    m.step.chars false ++ x = m.chars ++ y ↔ m.IsShort ∧ x = y := by
  cases m with
  | digits ds =>
    obtain ⟨hne, hdigits, _⟩ := hm
    have hclose : isDecimal ']' = false := by decide
    have hwritten : (Mark.digits ds).step.chars false ++ x = '[' :: (natDigits (decimalValue ds) ++ ']' :: x) := by
      simp [Mark.step, Segment.chars, intDigits]
    have hmark : (Mark.digits ds).chars ++ y = '[' :: (ds ++ ']' :: y) := by
      simp [Mark.chars, Mark.inner]
    rw [hwritten, hmark, List.cons.injEq, Mark.IsShort, ← natDigits_decimalValue_iff hne]
    constructor
    · rintro ⟨_, h⟩
      -- Neither numeral goes on beyond its closing bracket.
      obtain ⟨hnumeral, hrest⟩ := append_inj_of_stop (fun c => c == ']')
        (fun c hc => beq_false_of_ne (ne_of_mem_natDigits hc (by decide)))
        (fun c hc => beq_false_of_ne (by rintro rfl; rw [hdigits _ hc] at hclose; cases hclose))
        (fun c hc => by cases hc; rfl) (fun c hc => by cases hc; rfl) h
      exact ⟨hnumeral, (List.cons.inj hrest).2⟩
    · rintro ⟨hnumeral, rfl⟩
      rw [hnumeral]
      exact ⟨rfl, rfl⟩
  | star => simp [Mark.step, Mark.chars, Mark.inner, Mark.IsShort, Segment.chars]
  | bare => simp [Mark.step, Mark.chars, Mark.inner, Mark.IsShort, Segment.chars]

/-- Marks and stretches are written as their steps exactly when all marks are short. -/
theorem steps_chars_iff {marks : List Mark} {stretches : List Stretch} (hmarks : ∀ m ∈ marks, m.IsProper allowOpen)
    (hstretches : ∀ s ∈ stretches, s.IsProper allowOpen) :
    (marks.map Mark.step ++ stretches.flatMap Stretch.steps).flatMap (Segment.chars false) = writtenOn marks stretches ↔
      (∀ m ∈ marks, m.IsShort) ∧ ∀ s ∈ stretches, ∀ m ∈ s.marks, m.IsShort := by
  -- One mark more, whatever comes after it.
  have hcons : ∀ {m : Mark} {marks : List Mark} {stretches : List Stretch} {P : Prop}, m.IsProper allowOpen →
      ((marks.map Mark.step ++ stretches.flatMap Stretch.steps).flatMap (Segment.chars false) =
        writtenOn marks stretches ↔ (∀ n ∈ marks, n.IsShort) ∧ P) →
      (((m :: marks).map Mark.step ++ stretches.flatMap Stretch.steps).flatMap (Segment.chars false) =
        writtenOn (m :: marks) stretches ↔ (∀ n ∈ m :: marks, n.IsShort) ∧ P) := by
    intro m marks stretches P hm ih
    rw [List.map_cons, List.cons_append, List.flatMap_cons, writtenOn_cons, step_chars_append_iff hm, ih,
      List.forall_mem_cons, and_assoc]
  induction stretches generalizing marks with
  | nil =>
    induction marks with
    | nil => simp [writtenOn]
    | cons m marks ih =>
      rw [List.forall_mem_cons] at hmarks
      exact hcons hmarks.1 (ih hmarks.2)
  | cons s stretches ihStretches =>
    induction marks with
    | nil =>
      obtain ⟨hs, hrest⟩ := List.forall_mem_cons.mp hstretches
      have hname : (Segment.name (String.ofList s.name)).chars false = '.' :: s.name := by
        rw [Segment.chars, if_neg Bool.false_ne_true, String.toList_ofList]
      have hon : _ ↔ _ := ihStretches hs.marks hrest
      rw [List.map_nil, List.nil_append, List.flatMap_cons, Stretch.steps, List.cons_append, List.flatMap_cons,
        hname, writtenOn_nil_cons, written_cons, List.cons_append, List.cons.injEq, List.append_right_inj,
        hon, List.forall_mem_cons]
      simp
    | cons m marks ih =>
      rw [List.forall_mem_cons] at hmarks
      exact hcons hmarks.1 (ih hmarks.2)

/-- **A text is the written form of the path that it stands for exactly when all its marks are short.** -/
theorem text_eq_iff {stretches : List Stretch} (h : ∀ s ∈ stretches, s.IsProper allowOpen) :
    chars (stretches.flatMap Stretch.steps) = written stretches ↔ ∀ s ∈ stretches, ∀ m ∈ s.marks, m.IsShort := by
  cases stretches with
  | nil => simp [chars]
  | cons s stretches =>
    obtain ⟨hs, hrest⟩ := List.forall_mem_cons.mp h
    have hfirst : chars ((s :: stretches).flatMap Stretch.steps) =
        s.name ++ (s.marks.map Mark.step ++ stretches.flatMap Stretch.steps).flatMap (Segment.chars false) := by
      rw [List.flatMap_cons, Stretch.steps, List.cons_append, chars, Segment.chars, if_pos rfl,
        String.toList_ofList]
    rw [hfirst, written_cons, List.append_right_inj, steps_chars_iff hs.marks hrest, List.forall_mem_cons]

/-! ### Reading and writing -/

/-- **Reading accepts the notation and nothing else, and is inverse to writing.**  A text is read as a path exactly when
it is a row of stretches, and then as their steps; every other text is refused.  A path that can be written is read from
its written form, and so is a path that has been read from any text.  This text is the written form exactly when each
of its indices is written in ASCII digits, without a zero in front that could be left out. -/
theorem ofText_inverts_text :
    (∀ (text : String) (p : Path), ofText text = .ok p ↔ ∃ stretches : List Stretch,
      (∀ s ∈ stretches, s.IsProper false) ∧ text.toList = written stretches ∧ p = stretches.flatMap Stretch.steps) ∧
    (∀ text : String, (¬ ∃ stretches : List Stretch, (∀ s ∈ stretches, s.IsProper false) ∧
      text.toList = written stretches) → ∃ e, ofText text = .error e) ∧
    (∀ p : Path, p.IsWritable false → ofText p.text = .ok p) ∧
    (∀ (text : String) (p : Path), ofText text = .ok p → ofText p.text = .ok p) ∧
    ∀ (text : String) (p : Path) (stretches : List Stretch), ofText text = .ok p →
      (∀ s ∈ stretches, s.IsProper false) → text.toList = written stretches →
      (p.text = text ↔ ∀ s ∈ stretches, ∀ m ∈ s.marks, m.IsShort) := by
  have hread : ∀ (text : String) (p : Path), ofText text = .ok p ↔ ∃ stretches : List Stretch,
      (∀ s ∈ stretches, s.IsProper false) ∧ text.toList = written stretches ∧
        p = stretches.flatMap Stretch.steps := fun text p => readFrom_eq_ok_iff
  have hwritable : ∀ p : Path, p.IsWritable false → ofText p.text = .ok p := by
    intro p hp
    rw [ofText, text, String.toList_ofList]
    exact readFrom_text hp _ 0
  refine ⟨hread, fun text hnone => ?refused, hwritable, fun text p hp => ?again,
    fun text p stretches hp hproper htext => ?short⟩
  case refused =>
    cases h : ofText text with
    | error e => exact ⟨e, rfl⟩
    | ok p =>
      obtain ⟨stretches, hproper, htext, _⟩ := (hread text p).mp h
      exact absurd ⟨stretches, hproper, htext⟩ hnone
  case again =>
    obtain ⟨stretches, hproper, _, rfl⟩ := (hread text p).mp hp
    exact hwritable _ (isWritable_steps hproper)
  case short =>
    have hsteps := (hread text _).mpr ⟨stretches, hproper, htext, rfl⟩
    obtain rfl : p = stretches.flatMap Stretch.steps := Except.ok.inj (hp.symm.trans hsteps)
    rw [← text_eq_iff hproper, ← htext]
    constructor
    · intro heq
      rw [← heq, Path.text, String.toList_ofList]
    · intro heq
      rw [Path.text, heq, String.ofList_toList]

/-- A text with an index in Arabic digits, and one with a zero in front. -/
def looseRow : String := "rows[\u0663][07].kind"

/-- The stretches of this text. -/
def looseStretches : List Stretch :=
  [⟨"rows".toList, [.digits ['\u0663'], .digits ['0', '7']]⟩, ⟨"kind".toList, []⟩]

/-- The kind of the seventh cell in the third row. -/
def kindInRow : Path :=
  [.name "rows", .index 3, .index 7, .name "kind"]

/-- The kind of a cell is read from the loose text, which is not its written form; from its written form it is read
too.  Without the point before the name, nothing is read. -/
theorem ofText_inverts_text_on_rows :
    ofText looseRow = .ok kindInRow ∧ kindInRow.text ≠ looseRow ∧ ofText kindInRow.text = .ok kindInRow ∧
      ofText "rows[3][7].kind" = .ok kindInRow ∧ ∃ e, ofText "rows[3]kind" = .error e := by
  obtain ⟨hread, hrefused, hwritable, hagain, hshort⟩ := ofText_inverts_text
  have hproper : ∀ s ∈ looseStretches, s.IsProper false := by decide
  have hloose : ofText looseRow = .ok kindInRow := (hread _ _).mpr ⟨looseStretches, hproper, by decide, by decide⟩
  refine ⟨hloose, ?_, hagain _ _ hloose, ?_, ?_⟩
  · rw [Ne, hshort _ _ looseStretches hloose hproper (by decide)]
    decide
  · have htext : kindInRow.text = "rows[3][7].kind" := by decide +kernel
    exact htext ▸ hwritable kindInRow (by decide +kernel)
  · refine hrefused _ fun ⟨stretches, hproper, htext⟩ => ?_
    have hsome := (hread _ _).mpr ⟨stretches, hproper, htext, rfl⟩
    have hnone : ¬ (ofText "rows[3]kind").toOption.isSome = true := by decide +kernel
    rw [hsome] at hnone
    exact hnone rfl

end Path

end FormCheck
