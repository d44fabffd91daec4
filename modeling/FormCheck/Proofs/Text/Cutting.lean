import FormCheck.Text.Blank
import FormCheck.Text.Cut
import FormCheck.Text.Numeral

/-!
# Texts put together and taken apart again

* `IsTight` — a text that neither begins nor ends with a blank character;
* `IsTight.intercalate` — **proved**: tight texts joined by anything make a tight text;
* `trimChars_of_tight` — **proved**: such a text is what is left of it when blank characters are put around it;
* `cutOnce_eq_some_iff` — **proved**: a text is cut in two at the first separator that it holds;
* `cutAt_intercalate` — **proved**: parts joined by a character that none of them holds are found again;
* `isBlank_of_isDecimal` — **proved**: no digit is blank.
-/

namespace FormCheck.Text

/-- What a look at each character tells of a text holds of all its characters. -/
theorem forall_mem_of_all {p : Char → Prop} [DecidablePred p] {cs : List Char}
    (h : (cs.all fun c => decide (p c)) = true) : ∀ c ∈ cs, p c := by
  simpa using h

/-! ### Blank characters -/

/-- A text with a first and a last character, neither of them blank. -/
structure IsTight (cs : List Char) : Prop where
  first : ∃ c ∈ cs.head?, isBlank c = false
  last : ∃ c ∈ cs.getLast?, isBlank c = false

instance (cs : List Char) : Decidable (IsTight cs) :=
  decidable_of_iff ((cs.head?.any fun c => !isBlank c) = true ∧ (cs.getLast?.any fun c => !isBlank c) = true) <| by
    simp only [Option.any_eq_true, Bool.not_eq_true']
    exact ⟨fun h => ⟨h.1, h.2⟩, fun h => ⟨h.first, h.last⟩⟩

namespace IsTight

variable {cs before after : List Char}

theorem ne_nil (h : IsTight cs) : cs ≠ [] := by
  rintro rfl
  obtain ⟨c, hc, _⟩ := h.first
  cases hc

theorem of_forall (hne : cs ≠ []) (h : ∀ c ∈ cs, isBlank c = false) : IsTight cs := by
  refine ⟨⟨cs.head hne, List.head?_eq_some_head hne, h _ (List.head_mem hne)⟩, ?_⟩
  exact ⟨cs.getLast hne, List.getLast?_eq_some_getLast hne, h _ (List.getLast_mem hne)⟩

/-- Whatever stands between two tight texts, the whole is tight. -/
theorem append (ha : IsTight before) (hb : IsTight after) (cs : List Char) :
    IsTight (before ++ (cs ++ after)) := by
  obtain ⟨a, hfirst, hablank⟩ := ha.first
  obtain ⟨b, hlast, hbblank⟩ := hb.last
  refine ⟨⟨a, ?_, hablank⟩, ⟨b, ?_, hbblank⟩⟩
  · rw [List.head?_append, Option.mem_def.mp hfirst]
    rfl
  · rw [List.getLast?_append, List.getLast?_append, Option.mem_def.mp hlast]
    rfl

/-- Tight texts joined by anything make a tight text. -/
theorem intercalate {parts : List (List Char)} (hne : parts ≠ []) (h : ∀ part ∈ parts, IsTight part)
    (sep : List Char) : IsTight (sep.intercalate parts) := by
  induction parts with
  | nil => exact absurd rfl hne
  | cons part parts ih =>
    rw [List.forall_mem_cons] at h
    cases parts with
    | nil =>
      rw [List.intercalate_singleton]
      exact h.1
    | cons next parts =>
      rw [List.intercalate_cons_cons, List.append_assoc]
      exact h.1.append (ih (List.cons_ne_nil next parts) h.2) sep

/-- What follows the blank characters before a tight text begins with it. -/
theorem dropWhile_append (h : IsTight cs) (hbefore : ∀ c ∈ before, isBlank c = true) :
    (before ++ (cs ++ after)).dropWhile isBlank = cs ++ after := by
  rw [List.dropWhile_append_of_pos hbefore]
  cases cs with
  | nil => exact absurd rfl h.ne_nil
  | cons c rest =>
    obtain ⟨_, hc, hblank⟩ := h.first
    cases hc
    rw [List.cons_append, List.dropWhile_cons_of_neg (by simp [hblank])]

theorem trimRightChars_append (h : IsTight cs) (hafter : ∀ c ∈ after, isBlank c = true) :
    trimRightChars (cs ++ after) = cs := by
  obtain ⟨c, hlast, hblank⟩ := h.last
  obtain ⟨start, rfl⟩ := List.getLast?_eq_some_iff.mp hlast
  have hreverse : ∀ c ∈ after.reverse, isBlank c = true := fun c hc => hafter c (List.mem_reverse.mp hc)
  rw [trimRightChars, List.reverse_append, List.dropWhile_append_of_pos hreverse]
  exact trimRightChars_of_last hblank

end IsTight

/-- What is neither in the parts nor between them is nowhere in the whole. -/
theorem not_mem_intercalate {c : Char} {sep : List Char} {parts : List (List Char)} (hsep : c ∉ sep)
    (h : ∀ part ∈ parts, c ∉ part) : c ∉ sep.intercalate parts := by
  induction parts with
  | nil => exact List.not_mem_nil
  | cons part parts ih =>
    rw [List.forall_mem_cons] at h
    cases parts with
    | nil =>
      rw [List.intercalate_singleton]
      exact h.1
    | cons next parts =>
      rw [List.intercalate_cons_cons, List.mem_append, List.mem_append]
      exact not_or.mpr ⟨not_or.mpr ⟨h.1, hsep⟩, ih h.2⟩

theorem trimChars_of_tight {cs before after : List Char} (h : IsTight cs)
    (hbefore : ∀ c ∈ before, isBlank c = true) (hafter : ∀ c ∈ after, isBlank c = true) :
    trimChars (before ++ (cs ++ after)) = cs := by
  rw [trimChars, h.dropWhile_append hbefore, h.trimRightChars_append hafter]

theorem IsTight.trimChars_eq {cs : List Char} (h : IsTight cs) : trimChars cs = cs := by
  have hnone : ∀ c ∈ [], isBlank c = true := by simp
  have htrim := trimChars_of_tight h hnone hnone
  rwa [List.nil_append, List.append_nil] at htrim

/-- The codes of the blank characters. -/
def blankCodes : List Nat :=
  blankRanges.flatMap fun r => List.range' r.1 (r.2 + 1 - r.1)

theorem toNat_mem_blankCodes {c : Char} (h : isBlank c = true) : c.toNat ∈ blankCodes := by
  obtain ⟨r, hr, hlow, hhigh⟩ := (Ranges.covers_iff _ c).mp h
  refine List.mem_flatMap.mpr ⟨r, hr, List.mem_range'_1.mpr ⟨hlow, ?_⟩⟩
  omega

/-- No digit is blank. -/
theorem isBlank_of_isDecimal {c : Char} (h : isDecimal c = true) : isBlank c = false := by
  have hnone : ∀ n ∈ blankCodes, isDecimal (Char.ofNat n) = false := by decide +kernel
  rw [← Bool.not_eq_true]
  intro hblank
  have hdigit := hnone _ (toNat_mem_blankCodes hblank)
  rw [Char.ofNat_toNat, h] at hdigit
  cases hdigit

/-! ### Parts between separators -/

theorem cutOnce_cons (sep c : Char) (cs : List Char) : cutOnce sep (c :: cs) =
    if c = sep then some ([], cs) else (cutOnce sep cs).map fun (before, after) => (c :: before, after) := by
  by_cases hc : c = sep
  · simp [cutOnce, hc]
  · rw [if_neg hc, cutOnce, cutOnce, List.dropWhile_cons_of_pos (by simpa using hc),
      List.takeWhile_cons_of_pos (by simpa using hc)]
    cases cs.dropWhile (· ≠ sep) with
    | nil => rfl
    | cons d rest => rfl

/-- A text is cut at the first separator: what stands before holds none. -/
theorem cutOnce_eq_some_iff {sep : Char} {cs before after : List Char} :
    cutOnce sep cs = some (before, after) ↔ cs = before ++ sep :: after ∧ sep ∉ before := by
  induction cs generalizing before with
  | nil => simp [cutOnce]
  | cons c cs ih =>
    rw [cutOnce_cons]
    cases before with
    | nil => by_cases hc : c = sep <;> simp [hc]
    | cons b before =>
      by_cases hc : c = sep
      · rw [if_pos hc, hc]
        constructor
        · intro h
          cases h
        · intro h
          cases h.1
          exact absurd List.mem_cons_self h.2
      · have hmap : (∃ x y, cutOnce sep cs = some (x, y) ∧ (c :: x, y) = (b :: before, after)) ↔
            c = b ∧ cutOnce sep cs = some (before, after) := by
          constructor
          · intro h
            obtain ⟨x, y, hcut, heq⟩ := h
            cases heq
            exact ⟨rfl, hcut⟩
          · intro h
            exact ⟨before, after, h.2, by rw [h.1]⟩
        rw [if_neg hc, Option.map_eq_some_iff, Prod.exists, hmap, ih]
        simp only [List.cons_append, List.cons.injEq, List.mem_cons, not_or]
        grind

theorem cutAt_eq_splitOn (sep : Char) (cs : List Char) : cutAt sep cs = cs.splitOn sep := by
  induction cs with
  | nil => rfl
  | cons c cs ih =>
    rw [cutAt, List.splitOn, List.splitOnP_cons_eq_if_modifyHead, ih]
    simp only [beq_iff_eq]
    split
    · rfl
    · cases hparts : cs.splitOn sep with
      | nil => exact absurd ((cutAt_ne_nil sep cs) (ih.trans hparts)) id
      | cons part parts => rw [List.splitOn] at hparts; rw [hparts]; rfl

theorem intercalate_cutAt (sep : Char) (cs : List Char) : [sep].intercalate (cutAt sep cs) = cs := by
  rw [cutAt_eq_splitOn]
  exact List.intercalate_splitOn sep

theorem notMem_of_mem_cutAt {sep : Char} {cs : List Char} : ∀ part ∈ cutAt sep cs, sep ∉ part := by
  induction cs with
  | nil => simp [cutAt]
  | cons c cs ih =>
    rw [cutAt]
    by_cases hc : c = sep
    · rw [if_pos hc]
      exact List.forall_mem_cons.mpr ⟨List.not_mem_nil, ih⟩
    · rw [if_neg hc]
      cases hparts : cutAt sep cs with
      | nil => exact absurd hparts (cutAt_ne_nil sep cs)
      | cons part parts =>
        rw [hparts, List.forall_mem_cons] at ih
        refine List.forall_mem_cons.mpr ⟨?_, ih.2⟩
        exact List.not_mem_cons_of_ne_of_not_mem (Ne.symm hc) ih.1

/-- Parts that are joined by a character which none of them holds are found again. -/
theorem cutAt_intercalate {sep : Char} {parts : List (List Char)} (hne : parts ≠ [])
    (h : ∀ part ∈ parts, sep ∉ part) : cutAt sep ([sep].intercalate parts) = parts := by
  rw [cutAt_eq_splitOn]
  exact List.splitOn_intercalate sep h hne

end FormCheck.Text
