import FormCheck.Condition.Expression
import FormCheck.Proofs.Text.Cutting
import Mathlib.Data.List.Forall2

/-!
# Separators outside of quotes

An expression is cut at `||`, and what is between them at `&&`.  Within quotes a separator is a part of the text.

* `Condition.Passes` — the search for a separator goes over a text, and a quote that begins in it ends in it;
* `Condition.passes_of_plain`, `Condition.passes_quoted` — **proved**: it goes over texts without quotes and without the
  separator, and over all that is quoted;
* `Condition.cutOutside_joined`, `Condition.cutOutside_intercalate` — **proved**: texts that the search goes over, joined
  by the separator, are found again, with the blanks around it if there are any.
-/

namespace FormCheck.Condition

open Text

/-- A text with blank characters around it. -/
def Padded (cs padded : List Char) : Prop :=
  ∃ before after : List Char, (∀ c ∈ before, isBlank c = true) ∧ (∀ c ∈ after, isBlank c = true) ∧
    padded = before ++ (cs ++ after)

/-- A search for two marks in a row goes over the text, outside of quotes before and after it.  What follows must not
make up a separator together with the end of the text. -/
def Passes (mark : Char) (cs : List Char) : Prop :=
  ∀ rest : List Char, (cs.getLast? = some mark → rest.head? ≠ some mark) →
    cutOutside [mark, mark] none (cs ++ rest) = cs.foldr pushFront (cutOutside [mark, mark] none rest)

/-- A mark that separates parts. -/
def IsMark (mark : Char) : Prop := mark = '&' ∨ mark = '|'

theorem IsMark.not_quote {mark : Char} (h : IsMark mark) : mark ≠ '\'' ∧ mark ≠ '"' := by
  rcases h with rfl | rfl <;> decide

theorem IsMark.not_blank {mark : Char} (h : IsMark mark) : isBlank mark = false := by
  rcases h with rfl | rfl <;> decide

theorem IsMark.not_mem_blank {mark : Char} (h : IsMark mark) {cs : List Char} (hcs : ∀ c ∈ cs, isBlank c = true) :
    mark ∉ cs := by
  intro hmem
  have hblank := hcs mark hmem
  rw [h.not_blank] at hblank
  cases hblank

theorem IsMark.space_ne {mark : Char} (h : IsMark mark) : ' ' ≠ mark := by
  rintro rfl
  cases h.not_blank

variable {mark : Char}

/-! ### One character at a time -/

theorem foldr_pushFront (cs part : List Char) (parts : List (List Char)) :
    cs.foldr pushFront (part :: parts) = (cs ++ part) :: parts := by
  induction cs with
  | nil => rfl
  | cons c cs ih => rw [List.foldr_cons, ih]; rfl

/-- A character that opens no quote and begins no separator belongs to the part. -/
theorem cutOutside_cons {c : Char} {rest : List Char} (hquote : c ≠ '\'' ∧ c ≠ '"')
    (h : c = mark → rest.head? ≠ some mark) :
    cutOutside [mark, mark] none (c :: rest) = pushFront c (cutOutside [mark, mark] none rest) := by
  have hseparator : ¬ ([mark, mark].isPrefixOf (c :: rest) = true) := by
    rw [List.isPrefixOf_iff_prefix]
    rintro ⟨tail, htail⟩
    cases htail
    exact h rfl rfl
  rw [cutOutside, if_neg (by simp [hquote]), if_neg hseparator]

/-- A separator outside of quotes ends the part. -/
theorem cutOutside_separator (hquote : mark ≠ '\'' ∧ mark ≠ '"') (rest : List Char) :
    cutOutside [mark, mark] none (mark :: mark :: rest) = [] :: cutOutside [mark, mark] none rest := by
  rw [cutOutside, if_neg (by simp [hquote]), if_pos (by simp)]
  rfl

theorem cutOutside_quoted {separator content : List Char} {q : Char} (hcontent : ∀ c ∈ content, c ≠ q)
    (rest : List Char) : cutOutside separator (some q) (content ++ q :: rest) =
      content.foldr pushFront (pushFront q (cutOutside separator none rest)) := by
  induction content with
  | nil => rw [List.nil_append, cutOutside, if_pos rfl]; rfl
  | cons c content ih =>
    rw [List.cons_append, cutOutside, if_neg (hcontent c List.mem_cons_self), ih fun d hd =>
      hcontent d (List.mem_cons_of_mem c hd)]
    rfl

/-! ### Texts that a search goes over -/

theorem passes_nil : Passes mark [] := fun _ _ => rfl

/-- The search goes over a text without quotes in which the separator does not occur. -/
theorem passes_of_plain {cs : List Char} (hquote : ∀ c ∈ cs, c ≠ '\'' ∧ c ≠ '"')
    (h : ¬ [mark, mark] <:+: cs) : Passes mark cs := by
  induction cs with
  | nil => exact passes_nil
  | cons c cs ih =>
    intro rest hrest
    have htail : Passes mark cs :=
      ih (fun d hd => hquote d (List.mem_cons_of_mem c hd)) fun hinside => h (hinside.trans (List.suffix_cons c cs).isInfix)
    have hnext : c = mark → (cs ++ rest).head? ≠ some mark := by
      rintro rfl
      cases cs with
      | nil => exact hrest rfl
      | cons d cs =>
        rintro hd
        cases hd
        exact h ⟨[], cs, rfl⟩
    rw [List.cons_append, cutOutside_cons (hquote c List.mem_cons_self) hnext, htail rest, List.foldr_cons]
    intro hlast
    refine hrest ?_
    rw [List.getLast?_cons, hlast]
    rfl

/-- The search goes over blank characters. -/
theorem passes_blank (hmark : IsMark mark) {blanks : List Char} (hblanks : ∀ c ∈ blanks, isBlank c = true) :
    Passes mark blanks := by
  refine passes_of_plain (fun c hc => ?_) fun hinside => ?_
  · have hc := hblanks c hc
    constructor <;> (rintro rfl; exact absurd hc (by decide))
  · exact hmark.not_mem_blank hblanks (hinside.subset List.mem_cons_self)

/-- Blank characters belong to the part that follows them. -/
theorem cutOutside_blank (hmark : IsMark mark) {before : List Char} (hbefore : ∀ c ∈ before, isBlank c = true)
    (rest : List Char) : cutOutside [mark, mark] none (before ++ rest) =
      before.foldr pushFront (cutOutside [mark, mark] none rest) := by
  refine passes_blank hmark hbefore rest fun hlast => ?_
  exact absurd (List.mem_of_getLast? hlast) (hmark.not_mem_blank hbefore)

/-- The search goes over a quoted text, whatever stands in it. -/
theorem passes_quoted {content : List Char} {q : Char} (hq : q = '\'' ∨ q = '"')
    (hcontent : ∀ c ∈ content, c ≠ q) : Passes mark (q :: (content ++ [q])) := by
  intro rest _
  have hopen : (decide (q = '\'') || decide (q = '"')) = true := by simpa using hq
  rw [List.cons_append, List.append_assoc, cutOutside, if_pos hopen, List.singleton_append,
    cutOutside_quoted hcontent]
  simp only [List.foldr_cons, List.foldr_append, List.foldr_nil]

/-- The search goes over two texts with a character between them that is neither a quote nor a mark. -/
theorem Passes.glue {a b : List Char} {c : Char} (ha : Passes mark a) (hb : Passes mark b)
    (hquote : c ≠ '\'' ∧ c ≠ '"') (hmark : c ≠ mark) : Passes mark (a ++ c :: b) := by
  intro rest hrest
  have hnext : ∀ {rest : List Char}, (c :: rest).head? ≠ some mark := fun h => hmark (Option.some.inj h)
  have hlast : b.getLast? = some mark → rest.head? ≠ some mark := by
    intro hb
    refine hrest ?_
    rw [List.getLast?_append, List.getLast?_cons, hb]
    rfl
  rw [List.append_assoc, List.cons_append, ha _ fun _ => hnext,
    cutOutside_cons hquote fun h => absurd h hmark, hb rest hlast, List.foldr_append, List.foldr_cons]

/-- The search goes over two texts in a row that do not make up a separator between them. -/
theorem Passes.append {a b : List Char} (ha : Passes mark a) (hb : Passes mark b)
    (h : a.getLast? = some mark → b.head? ≠ some mark) : Passes mark (a ++ b) := by
  intro rest hrest
  have hlast : b.getLast? = some mark → rest.head? ≠ some mark := by
    intro hb
    refine hrest ?_
    rw [List.getLast?_append, hb]
    rfl
  have hnext : a.getLast? = some mark → (b ++ rest).head? ≠ some mark := by
    intro hmark
    cases b with
    | nil =>
      refine hrest ?_
      rw [List.append_nil]
      exact hmark
    | cons c b => exact h hmark
  rw [List.append_assoc, ha _ hnext, hb rest hlast, List.foldr_append]

/-- The search goes over joined texts, if it goes over two texts with what joins them in between. -/
theorem passes_intercalate {separator : List Char}
    (hglue : ∀ {a b : List Char}, Passes mark a → Passes mark b → Passes mark (a ++ separator ++ b))
    {parts : List (List Char)} (h : ∀ part ∈ parts, Passes mark part) : Passes mark (separator.intercalate parts) := by
  induction parts with
  | nil => exact passes_nil
  | cons part parts ih =>
    have hrest := ih fun p hp => h p (List.mem_cons_of_mem part hp)
    cases parts with
    | nil =>
      rw [List.intercalate_singleton]
      exact h part List.mem_cons_self
    | cons next parts =>
      rw [List.intercalate_cons_cons]
      exact hglue (h part List.mem_cons_self) hrest

/-! ### Joined texts -/

/-- Texts with the separator between neighbours, and a space on either side of it. -/
def joinSpaced (mark : Char) (parts : List (List Char)) : List Char :=
  [' ', mark, mark, ' '].intercalate parts

theorem joinSpaced_cons_cons (part next : List Char) (parts : List (List Char)) :
    joinSpaced mark (part :: next :: parts) = part ++ ' ' :: mark :: mark :: ' ' :: joinSpaced mark (next :: parts) := by
  simp [joinSpaced, List.intercalate_cons_cons]

/-- The search for one separator goes over texts that are joined by the other one. -/
theorem passes_joinSpaced {other : Char} (hmark : IsMark mark) (hother : IsMark other) (hne : other ≠ mark)
    {parts : List (List Char)} (h : ∀ part ∈ parts, Passes mark part) : Passes mark (joinSpaced other parts) := by
  have hseparator : Passes mark [other, other] := by
    refine passes_of_plain (by simp [hother.not_quote]) fun hinside => ?_
    have hmem : mark ∈ [other, other] := hinside.subset List.mem_cons_self
    have heq : mark = other := by simpa using hmem
    exact hne heq.symm
  refine passes_intercalate (fun ha hb => ?_) h
  rw [List.append_assoc]
  exact ha.glue (hseparator.glue hb (by decide) hmark.space_ne) (by decide) hmark.space_ne

/-- **Joined texts are found again.**  A text that a search goes over ends at the next separator; the space before the
separator is still a part of it, and the one after the separator of the next text. -/
theorem cutOutside_joined (hmark : IsMark mark) {parts : List (List Char)} (hne : parts ≠ [])
    (h : ∀ part ∈ parts, Passes mark part) {before after : List Char} (hbefore : ∀ c ∈ before, isBlank c = true)
    (hafter : ∀ c ∈ after, isBlank c = true) :
    List.Forall₂ Padded parts (cutOutside [mark, mark] none (before ++ (joinSpaced mark parts ++ after))) := by
  induction parts generalizing before with
  | nil => exact absurd rfl hne
  | cons part parts ih =>
    have hpart := h part List.mem_cons_self
    have hspace : ∀ c ∈ [' '], isBlank c = true := forall_mem_of_all (by decide)
    cases parts with
    | nil =>
      have hnext : after.head? ≠ some mark := by
        intro hhead
        have hblank := hafter mark (List.mem_of_head? hhead)
        rw [hmark.not_blank] at hblank
        cases hblank
      have hend := cutOutside_blank hmark hafter []
      rw [List.append_nil, cutOutside] at hend
      rw [joinSpaced, List.intercalate_singleton, cutOutside_blank hmark hbefore, hpart after fun _ => hnext, hend]
      simp only [foldr_pushFront, List.append_nil]
      exact .cons ⟨before, after, hbefore, hafter, rfl⟩ .nil
    | cons next parts =>
      have hnext : (' ' :: mark :: mark :: ' ' :: (joinSpaced mark (next :: parts) ++ after)).head? ≠ some mark := by
        intro hhead
        exact hmark.space_ne (Option.some.inj hhead)
      have hrest := ih (List.cons_ne_nil next parts) (fun p hp => h p (List.mem_cons_of_mem part hp)) hspace
      rw [joinSpaced_cons_cons, List.append_assoc, cutOutside_blank hmark hbefore]
      simp only [List.cons_append]
      rw [hpart _ fun _ => hnext, cutOutside_cons (by decide) fun hc => absurd hc hmark.space_ne,
        cutOutside_separator hmark.not_quote, pushFront]
      simp only [foldr_pushFront]
      exact .cons ⟨before, [' '], hbefore, hspace, rfl⟩ hrest

/-- **Texts that are joined by the separator alone are found again,** if none of them ends with the mark. -/
theorem cutOutside_intercalate (hmark : IsMark mark) {parts : List (List Char)} (hne : parts ≠ [])
    (h : ∀ part ∈ parts, Passes mark part ∧ part.getLast? ≠ some mark) :
    cutOutside [mark, mark] none ([mark, mark].intercalate parts) = parts := by
  induction parts with
  | nil => exact absurd rfl hne
  | cons part parts ih =>
    obtain ⟨hpart, hlast⟩ := h part List.mem_cons_self
    cases parts with
    | nil =>
      have hend := hpart [] fun hmark => absurd hmark hlast
      rw [List.append_nil, cutOutside, foldr_pushFront, List.append_nil] at hend
      rw [List.intercalate_singleton, hend]
    | cons next parts =>
      have hrest := ih (List.cons_ne_nil next parts) fun p hp => h p (List.mem_cons_of_mem part hp)
      have hend := hpart (mark :: mark :: [mark, mark].intercalate (next :: parts)) fun hmark => absurd hmark hlast
      rw [cutOutside_separator hmark.not_quote, hrest, foldr_pushFront, List.append_nil] at hend
      rw [List.intercalate_cons_cons, List.append_assoc]
      exact hend

/-- Texts that do not end with a character do not do so when they are joined. -/
theorem getLast?_intercalate_ne {c : Char} (separator : List Char) {parts : List (List Char)} (hne : parts ≠ [])
    (h : ∀ part ∈ parts, part ≠ [] ∧ part.getLast? ≠ some c) :
    separator.intercalate parts ≠ [] ∧ (separator.intercalate parts).getLast? ≠ some c := by
  induction parts with
  | nil => exact absurd rfl hne
  | cons part parts ih =>
    cases parts with
    | nil =>
      rw [List.intercalate_singleton]
      exact h part List.mem_cons_self
    | cons next parts =>
      obtain ⟨hsome, hlast⟩ := ih (List.cons_ne_nil next parts) fun p hp => h p (List.mem_cons_of_mem part hp)
      rw [List.intercalate_cons_cons, List.getLast?_append_of_ne_nil _ hsome]
      exact ⟨by simp [hsome], hlast⟩

end FormCheck.Condition
