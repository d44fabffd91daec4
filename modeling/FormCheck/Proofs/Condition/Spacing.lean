import FormCheck.Proofs.Condition.WrittenForms

/-!
# Blank characters in a clause

An expression may be written with more blank characters than it needs, and in some places without any.  This file lays
clauses out with all the blank characters that may stand in them and reads the parts that blank characters set apart.

* `Condition.Spaced` — something that is written with blank characters around it;
* `Condition.trimChars_padded`, `Condition.padded_trimChars` — **proved**: what is left of a text without the blanks at
  its ends;
* `Condition.literalsOf_padded` — **proved**: a list of literals is read alike whatever blanks are around it;
* `Condition.literalsOf_members` — **proved**: spaced literals with commas between them are read as their values exactly
  if none of them holds a comma itself;
* `Condition.leadingKeyword_eq_some_iff` — **proved**: the keywords that a text can begin with;
* `Condition.WrittenMembership` — a membership with all its blank characters, and
  `WrittenMembership.ofClause_eq_iff` — **proved**: it is read as it is written exactly if no member holds a comma.
-/

namespace FormCheck.Condition

open Text Fallible

/-- Nothing but blank characters. -/
abbrev AreBlank (cs : List Char) : Prop := ∀ c ∈ cs, isBlank c = true

/-- Something that is written with blank characters around it. -/
structure Spaced (α : Type) where
  before : List Char
  core : α
  after : List Char

/-- How it is written. -/
def Spaced.chars {α : Type} (write : α → List Char) (x : Spaced α) : List Char :=
  x.before ++ (write x.core ++ x.after)

/-! ### Literals between blanks -/

/-- A literal of an expression that is no list: a quoted text may hold commas. -/
def Literal.IsLine : Literal → Prop
  | .quoted mark content => (mark = '\'' ∨ mark = '"') ∧ ∀ c ∈ content, c ≠ mark ∧ c ≠ '\n'
  | l => l.IsProper

instance : DecidablePred Literal.IsLine
  | .quoted mark content =>
    decidable_of_iff ((mark = '\'' ∨ mark = '"') ∧ (content.all fun c => decide (c ≠ mark ∧ c ≠ '\n')) = true)
      (by simp [Literal.IsLine])
  | .truth b => inferInstanceAs (Decidable (Literal.truth b).IsProper)
  | .null => inferInstanceAs (Decidable Literal.null.IsProper)
  | .whole sign digits => inferInstanceAs (Decidable (Literal.whole sign digits).IsProper)
  | .pointed sign digits part => inferInstanceAs (Decidable (Literal.pointed sign digits part).IsProper)
  | .word cs => inferInstanceAs (Decidable (Literal.word cs).IsProper)

namespace Literal

variable {l : Literal}

/-- A literal is one that can stand in a list, or it is quoted. -/
theorem IsLine.proper_or_quoted (h : l.IsLine) :
    l.IsProper ∨ ∃ mark content, l = .quoted mark content ∧ (mark = '\'' ∨ mark = '"') ∧
      ∀ c ∈ content, c ≠ mark ∧ c ≠ '\n' := by
  cases l with
  | quoted mark content => exact .inr ⟨mark, content, rfl, h⟩
  | _ => exact .inl h

theorem IsLine.tight (h : l.IsLine) : IsTight l.chars := by
  rcases h.proper_or_quoted with hproper | ⟨mark, content, rfl, hmark, _⟩
  · exact tight_chars hproper
  · exact tight_quoted hmark content

theorem IsLine.passes (h : l.IsLine) {mark : Char} (hmark : IsMark mark) : Passes mark l.chars := by
  rcases h.proper_or_quoted with hproper | ⟨quote, content, rfl, hquote, hcontent⟩
  · exact passes_chars hproper hmark
  · exact passes_quoted hquote fun c hc => (hcontent c hc).1

theorem IsLine.not_mem_newline (h : l.IsLine) : '\n' ∉ l.chars := by
  rcases h.proper_or_quoted with hproper | ⟨mark, content, rfl, hmark, hcontent⟩
  · exact (not_mem_chars hproper).1
  · have hnot : '\n' ≠ mark := by rcases hmark with rfl | rfl <;> decide
    intro hmem
    rcases List.mem_cons.mp hmem with heq | hmem
    · exact hnot heq
    rcases List.mem_append.mp hmem with hmem | hmem
    · exact (hcontent _ hmem).2 rfl
    · exact hnot (List.mem_singleton.mp hmem)

theorem IsLine.literalOf_eq (h : l.IsLine) : literalOf l.chars = .ok l.value := by
  rcases h.proper_or_quoted with hproper | ⟨mark, content, rfl, hmark, _⟩
  · exact literalOf_chars hproper
  · exact literalOf_quoted hmark content

end Literal

/-! ### Texts between blanks -/

/-- What is left of a text does not depend on the blank characters around it. -/
theorem trimChars_padded {cs padded : List Char} (h : Padded cs padded) : trimChars padded = trimChars cs := by
  obtain ⟨before, after, hbefore, hafter, rfl⟩ := h
  have hright : ∀ cs : List Char, trimRightChars (cs ++ after) = trimRightChars cs := by
    intro cs
    have hreverse : ∀ c ∈ after.reverse, isBlank c = true := fun c hc => hafter c (List.mem_reverse.mp hc)
    rw [trimRightChars, trimRightChars, List.reverse_append, List.dropWhile_append_of_pos hreverse]
  rw [trimChars, trimChars, List.dropWhile_append_of_pos hbefore, List.dropWhile_append]
  split
  · next hnone =>
    have hblank : after.dropWhile isBlank = [] := List.dropWhile_eq_nil_iff.mpr hafter
    rw [hblank, List.isEmpty_iff.mp hnone]
  · exact hright _

/-- A text is what is left of it with blank characters around it. -/
theorem padded_trimChars (cs : List Char) : Padded (trimChars cs) cs := by
  have hleft : cs = cs.takeWhile isBlank ++ cs.dropWhile isBlank := List.takeWhile_append_dropWhile.symm
  have hright : ∀ cs : List Char, cs = trimRightChars cs ++ (cs.reverse.takeWhile isBlank).reverse := by
    intro cs
    rw [trimRightChars, ← List.reverse_append, List.takeWhile_append_dropWhile, List.reverse_reverse]
  refine ⟨cs.takeWhile isBlank, ((cs.dropWhile isBlank).reverse.takeWhile isBlank).reverse, ?_, ?_, ?_⟩
  · exact List.all_eq_true.mp List.all_takeWhile
  · intro c hc
    exact List.all_eq_true.mp List.all_takeWhile c (List.mem_reverse.mp hc)
  · rw [trimChars, ← hright]
    exact hleft

theorem mem_of_mem_trimChars {c : Char} {cs : List Char} (h : c ∈ trimChars cs) : c ∈ cs := by
  obtain ⟨before, after, _, _, hcs⟩ := padded_trimChars cs
  rw [hcs]
  exact List.mem_append_right before (List.mem_append_left after h)

/-- Something is left of a text that is not blank. -/
theorem trimChars_ne_nil {c : Char} {cs : List Char} (hmem : c ∈ cs) (hc : isBlank c = false) : trimChars cs ≠ [] := by
  intro hnil
  obtain ⟨before, after, hbefore, hafter, hcs⟩ := padded_trimChars cs
  rw [hcs, hnil, List.nil_append] at hmem
  have hblank : isBlank c = true := (List.mem_append.mp hmem).elim (hbefore c) (hafter c)
  rw [hc] at hblank
  cases hblank

theorem literalOf_padded {cs padded : List Char} (h : Padded cs padded) : literalOf padded = literalOf cs := by
  rw [literalOf, literalOf, trimChars_padded h]

/-! ### Lists between blanks -/

theorem not_comma_of_blank {cs : List Char} (h : AreBlank cs) : ',' ∉ cs := by
  intro hmem
  have hblank := h _ hmem
  revert hblank
  decide

/-- Blank characters in front of a list belong to its first part. -/
theorem cutAt_blank_append {before : List Char} (h : AreBlank before) (cs : List Char) :
    List.Forall₂ Padded (cutAt ',' cs) (cutAt ',' (before ++ cs)) := by
  have hnone : AreBlank [] := List.forall_mem_nil _
  have hsame : ∀ part, Padded part part := fun part => ⟨[], [], hnone, hnone, (List.append_nil part).symm⟩
  induction before with
  | nil => exact List.forall₂_same.mpr fun part _ => hsame part
  | cons c before ih =>
    rw [AreBlank, List.forall_mem_cons] at h
    have hcomma : c ≠ ',' := by
      rintro rfl
      exact absurd h.1 (by decide)
    have hrest := ih h.2
    rw [List.cons_append, cutAt, if_neg hcomma]
    generalize hparts : cutAt ',' (before ++ cs) = parts at hrest
    generalize cutAt ',' cs = others at hrest
    cases hrest with
    | nil => exact absurd hparts (cutAt_ne_nil ',' _)
    | cons hpart hrest =>
      obtain ⟨blanks, after, hblanks, hafter, rfl⟩ := hpart
      exact .cons ⟨c :: blanks, after, List.forall_mem_cons.mpr ⟨h.1, hblanks⟩, hafter, rfl⟩ hrest

/-- Blank characters after a list belong to its last part. -/
theorem cutAt_append_blank {after : List Char} (h : AreBlank after) (cs : List Char) :
    List.Forall₂ (fun part padded => ∃ blanks, AreBlank blanks ∧ padded = part ++ blanks) (cutAt ',' cs)
      (cutAt ',' (cs ++ after)) := by
  induction cs with
  | nil =>
    have hwhole : cutAt ',' after = [after] := by
      have hone := cutAt_intercalate (List.cons_ne_nil after []) (List.forall_mem_singleton.mpr (not_comma_of_blank h))
      rwa [List.intercalate_singleton] at hone
    rw [List.nil_append, hwhole]
    exact .cons ⟨after, h, rfl⟩ .nil
  | cons c cs ih =>
    rw [List.cons_append, cutAt, cutAt]
    by_cases hcomma : c = ','
    · rw [if_pos hcomma, if_pos hcomma]
      exact .cons ⟨[], List.forall_mem_nil _, rfl⟩ ih
    · rw [if_neg hcomma, if_neg hcomma]
      generalize hparts : cutAt ',' cs = parts at ih
      generalize cutAt ',' (cs ++ after) = others at ih
      cases ih with
      | nil => exact absurd hparts (cutAt_ne_nil ',' _)
      | cons hpart hrest =>
        obtain ⟨blanks, hblanks, rfl⟩ := hpart
        exact .cons ⟨blanks, hblanks, rfl⟩ hrest

theorem mapM_literalOf_padded {parts others : List (List Char)} (h : List.Forall₂ Padded parts others) :
    others.mapM literalOf = parts.mapM literalOf := by
  induction h with
  | nil => rfl
  | cons hpart _ ih => rw [List.mapM_cons, List.mapM_cons, literalOf_padded hpart, ih]

/-- A list of literals is read alike whatever blanks are around it. -/
theorem literalsOf_padded {cs padded : List Char} (h : Padded cs padded) : literalsOf padded = literalsOf cs := by
  obtain ⟨before, after, hbefore, hafter, rfl⟩ := h
  have hnone : AreBlank [] := List.forall_mem_nil _
  have hright : List.Forall₂ Padded (cutAt ',' cs) (cutAt ',' (cs ++ after)) := by
    refine (cutAt_append_blank hafter cs).imp fun part padded hpadded => ?_
    obtain ⟨blanks, hblanks, rfl⟩ := hpadded
    exact ⟨[], blanks, hnone, hblanks, rfl⟩
  calc literalsOf (before ++ (cs ++ after))
      = literalsOf (cs ++ after) := mapM_literalOf_padded (cutAt_blank_append hbefore (cs ++ after))
    _ = literalsOf cs := mapM_literalOf_padded hright

/-! ### Members -/

/-- How the members of a list are written, with commas between them. -/
def membersChars (members : List (Spaced Literal)) : List Char :=
  [','].intercalate (members.map (Spaced.chars Literal.chars))

/-- A literal with blank characters around it, all in one line. -/
structure Spaced.IsMember (m : Spaced Literal) : Prop where
  before : AreBlank m.before
  core : m.core.IsLine
  after : AreBlank m.after
  line : '\n' ∉ m.before ∧ '\n' ∉ m.after

theorem Spaced.IsMember.padded {m : Spaced Literal} (h : m.IsMember) : Padded m.core.chars (m.chars Literal.chars) :=
  ⟨m.before, m.after, h.before, h.after, rfl⟩

/-- A text is cut into one part more than it has separators. -/
theorem length_cutAt (sep : Char) (cs : List Char) : (cutAt sep cs).length = cs.count sep + 1 := by
  induction cs with
  | nil => rfl
  | cons c cs ih =>
    rw [cutAt]
    by_cases hc : c = sep
    · rw [if_pos hc, List.length_cons, ih, hc, List.count_cons_self]
    · rw [if_neg hc, List.count_cons_of_ne hc, ← ih]
      generalize hparts : cutAt sep cs = parts
      cases parts with
      | nil => exact absurd hparts (cutAt_ne_nil sep cs)
      | cons part parts => rfl

/-- A text that is joined from parts has the separators between the parts and those in them. -/
theorem count_intercalate (sep : Char) {parts : List (List Char)} (hne : parts ≠ []) :
    ([sep].intercalate parts).count sep + 1 = parts.length + parts.flatten.count sep := by
  induction parts with
  | nil => exact absurd rfl hne
  | cons part parts ih =>
    cases parts with
    | nil =>
      rw [List.intercalate_singleton, List.flatten_singleton]
      exact Nat.add_comm _ 1
    | cons next parts =>
      have hrest := ih (List.cons_ne_nil next parts)
      rw [List.intercalate_cons_cons, List.count_append, List.count_append, List.count_singleton_self]
      rw [List.length_cons, List.flatten_cons, List.count_append]
      omega

/-- **Spaced literals with commas between them are read as their values exactly if none of them holds a comma.** -/
theorem literalsOf_members {members : List (Spaced Literal)} (hne : members ≠ [])
    (h : ∀ m ∈ members, m.IsMember) :
    literalsOf (membersChars members) = .ok (members.map (·.core.value)) ↔ ∀ m ∈ members, ',' ∉ m.core.chars := by
  have hsome : members.map (Spaced.chars Literal.chars) ≠ [] := by simpa using hne
  constructor
  · -- A comma in a member makes one part more than there are members.
    intro hread m hm hcomma
    have hlength := (mapM_eq_ok_iff.mp hread).length_eq
    have hcount := count_intercalate ',' hsome
    rw [length_cutAt, membersChars, hcount, List.length_map, List.length_map] at hlength
    have hnone : (members.map (Spaced.chars Literal.chars)).flatten.count ',' = 0 := by omega
    refine List.count_eq_zero.mp hnone (List.mem_flatten_of_mem (List.mem_map_of_mem hm) ?_)
    exact List.mem_append_right m.before (List.mem_append_left m.after hcomma)
  · intro hcomma
    have hcut : cutAt ',' (membersChars members) = members.map (Spaced.chars Literal.chars) := by
      refine cutAt_intercalate hsome fun part hpart => ?_
      obtain ⟨m, hm, rfl⟩ := List.mem_map.mp hpart
      intro hmem
      rcases List.mem_append.mp hmem with hmem | hmem
      · exact not_comma_of_blank (h m hm).before hmem
      · exact (List.mem_append.mp hmem).elim (hcomma m hm) (not_comma_of_blank (h m hm).after)
    rw [literalsOf, hcut]
    refine mapM_map_of_forall fun m hm => ?_
    rw [literalOf_padded (h m hm).padded]
    exact (h m hm).core.literalOf_eq

/-- Spaced literals with commas between them stand in one line, and they are not blank. -/
theorem membersChars_line {members : List (Spaced Literal)} (hne : members ≠ []) (h : ∀ m ∈ members, m.IsMember) :
    '\n' ∉ membersChars members ∧ ∃ c ∈ membersChars members, isBlank c = false := by
  constructor
  · refine not_mem_intercalate (by decide) fun part hpart => ?_
    obtain ⟨m, hm, rfl⟩ := List.mem_map.mp hpart
    intro hmem
    rcases List.mem_append.mp hmem with hmem | hmem
    · exact (h m hm).line.1 hmem
    · exact (List.mem_append.mp hmem).elim (h m hm).core.not_mem_newline (h m hm).line.2
  · cases members with
    | nil => exact absurd rfl hne
    | cons m members =>
      obtain ⟨c, hc, hblank⟩ := (h m List.mem_cons_self).core.tight.first
      refine ⟨c, ?_, hblank⟩
      have hfirst : c ∈ m.chars Literal.chars :=
        List.mem_append_right m.before (List.mem_append_left m.after (List.mem_of_head? hc))
      rw [membersChars, List.map_cons]
      cases members with
      | nil =>
        rw [List.map_nil, List.intercalate_singleton]
        exact hfirst
      | cons next members =>
        rw [List.map_cons, List.intercalate_cons_cons]
        exact List.mem_append_left _ (List.mem_append_left _ hfirst)

/-! ### Keywords -/

/-- How the keyword of a membership is written: `in`, or `not` and `in` with blank characters between them. -/
def keyword : Option (List Char) → List Char
  | none => "in".toList
  | some gap => "not".toList ++ (gap ++ "in".toList)

/-- Whether there are blank characters in the keyword if there have to be. -/
def IsKeyword (inner : Option (List Char)) : Prop := ∀ gap ∈ inner, gap ≠ [] ∧ AreBlank gap

theorem stripStart_eq_some_iff {start cs rest : List Char} : stripStart? start cs = some rest ↔ cs = start ++ rest := by
  rw [stripStart?]
  split
  · next h =>
    obtain ⟨tail, rfl⟩ := List.isPrefixOf_iff_prefix.mp h
    rw [List.drop_left, Option.some.injEq, List.append_cancel_left_eq]
  · next h =>
    refine iff_of_false (fun hnone => by cases hnone) ?_
    rintro rfl
    exact h (List.isPrefixOf_iff_prefix.mpr (List.prefix_append start rest))

theorem afterBlanks_eq_some_iff {cs rest : List Char} : afterBlanks? cs = some rest ↔
    ∃ blanks, blanks ≠ [] ∧ AreBlank blanks ∧ cs = blanks ++ rest ∧ ∀ c ∈ rest.head?, isBlank c = false := by
  constructor
  · intro h
    cases cs with
    | nil => cases h
    | cons c cs =>
      rw [afterBlanks?] at h
      split at h
      · next hc =>
        cases h
        refine ⟨c :: cs.takeWhile isBlank, List.cons_ne_nil _ _, ?_, ?_, ?_⟩
        · exact List.forall_mem_cons.mpr ⟨hc, List.all_eq_true.mp List.all_takeWhile⟩
        · rw [List.cons_append, List.takeWhile_append_dropWhile]
        · intro d hd
          have hstop := List.head?_dropWhile_not isBlank cs
          rw [Option.mem_def.mp hd] at hstop
          exact hstop
      · cases h
  · rintro ⟨blanks, hne, hblanks, rfl, hrest⟩
    cases blanks with
    | nil => exact absurd rfl hne
    | cons c blanks =>
      rw [AreBlank, List.forall_mem_cons] at hblanks
      rw [List.cons_append, afterBlanks?, if_pos hblanks.1, List.dropWhile_append_of_pos hblanks.2]
      cases rest with
      | nil => rfl
      | cons d rest =>
        have hd : ¬ (isBlank d = true) := by simp [hrest d rfl]
        rw [List.dropWhile_cons_of_neg hd]

/-- A keyword begins with a letter. -/
theorem dropWhile_keyword (inner : Option (List Char)) (rest : List Char) :
    (keyword inner ++ rest).dropWhile isBlank = keyword inner ++ rest := by
  cases inner <;> rfl

/-- **The keywords that a text can begin with.** -/
theorem leadingKeyword_eq_some_iff {cs rest : List Char} {op : Operator} : leadingKeyword? cs = some (op, rest) ↔
    ∃ inner, IsKeyword inner ∧ cs = keyword inner ++ rest ∧ op = if inner.isSome then .noneOf else .oneOf := by
  have hnegated : ∀ found : Operator × List Char,
      ((stripStart? "not".toList cs).bind fun rest => (afterBlanks? rest).bind fun rest =>
        (stripStart? "in".toList rest).bind fun rest => some (Operator.noneOf, rest)) = some found ↔
      ∃ gap, (gap ≠ [] ∧ AreBlank gap) ∧ cs = keyword (some gap) ++ found.2 ∧ found.1 = .noneOf := by
    intro found
    simp only [Option.bind_eq_some_iff, stripStart_eq_some_iff, afterBlanks_eq_some_iff]
    constructor
    · rintro ⟨_, rfl, _, ⟨gap, hne, hgap, rfl, _⟩, _, rfl, hfound⟩
      cases hfound
      exact ⟨gap, ⟨hne, hgap⟩, by simp [keyword], rfl⟩
    · rintro ⟨gap, ⟨hne, hgap⟩, hcs, hop⟩
      refine ⟨gap ++ ("in".toList ++ found.2), by simp [hcs, keyword], _, ⟨gap, hne, hgap, rfl, ?_⟩, _, rfl, ?_⟩
      · exact fun c hc => by cases hc; decide
      · rw [← hop]
  have hplain : (stripStart? "in".toList cs).map (Operator.oneOf, ·) = some (op, rest) ↔
      cs = keyword none ++ rest ∧ op = .oneOf := by
    rw [Option.map_eq_some_iff]
    simp only [stripStart_eq_some_iff, Prod.mk.injEq]
    constructor
    · rintro ⟨_, hcs, rfl, rfl⟩
      exact ⟨hcs, rfl⟩
    · rintro ⟨hcs, rfl⟩
      exact ⟨rest, hcs, rfl, rfl⟩
  show ((stripStart? "not".toList cs).bind fun rest => (afterBlanks? rest).bind fun rest =>
    (stripStart? "in".toList rest).bind fun rest => some (Operator.noneOf, rest)).orElse
      (fun _ => (stripStart? "in".toList cs).map (Operator.oneOf, ·)) = some (op, rest) ↔ _
  cases hfirst : (stripStart? "not".toList cs).bind fun rest => (afterBlanks? rest).bind fun rest =>
      (stripStart? "in".toList rest).bind fun rest => some (Operator.noneOf, rest) with
  | some found =>
    obtain ⟨gap, hgap, hcs, hop⟩ := (hnegated found).mp hfirst
    rw [Option.orElse_some, Option.some.injEq]
    constructor
    · rintro rfl
      exact ⟨some gap, fun b hb => Option.some.inj hb ▸ hgap, hcs, hop⟩
    · rintro ⟨inner, hinner, hother, rfl⟩
      cases inner with
      | none =>
        -- What begins with the negated keyword does not begin with the other one.
        rw [hcs] at hother
        cases hother
      | some b =>
        have hsecond := (hnegated (.noneOf, rest)).mpr ⟨b, hinner b rfl, hother, rfl⟩
        rw [hfirst] at hsecond
        exact Option.some.inj hsecond
  | none =>
    rw [Option.orElse_none, hplain]
    constructor
    · rintro ⟨hcs, rfl⟩
      exact ⟨none, fun _ hb => (by cases hb), hcs, rfl⟩
    · rintro ⟨inner, hinner, hcs, rfl⟩
      cases inner with
      | none => exact ⟨hcs, rfl⟩
      | some b =>
        have hsecond := (hnegated (.noneOf, rest)).mpr ⟨b, hinner b rfl, hcs, rfl⟩
        rw [hfirst] at hsecond
        cases hsecond

/-! ### Memberships -/

/-- A membership as it is written, with all its blank characters. -/
structure WrittenMembership where
  reference : List Char
  gap : List Char
  inner : Option (List Char)
  space : List Char
  members : List (Spaced Literal)

namespace WrittenMembership

/-- How it is written. -/
def chars (m : WrittenMembership) : List Char :=
  m.reference ++ (m.gap ++ (keyword m.inner ++ (m.space ++ membersChars m.members)))

/-- The clause that it writes. -/
def clause (m : WrittenMembership) : Clause :=
  .membership m.reference m.inner.isSome (m.members.map Spaced.core)

/-- Blank characters stand on both sides of the keyword, and in it where there have to be. -/
structure IsProper (m : WrittenMembership) : Prop where
  reference : IsBare m.reference
  gap : AreBlank m.gap
  gap_ne_nil : m.gap ≠ []
  inner : IsKeyword m.inner
  space : AreBlank m.space
  space_ne_nil : m.space ≠ []
  some : m.members ≠ []
  members : ∀ x ∈ m.members, x.IsMember

variable {m : WrittenMembership} {padded : List Char}

/-- A membership is taken apart as it is written. -/
theorem membership_eq (h : m.IsProper) (hpadded : Padded m.chars padded) : ∃ operand,
    membership? padded = some (m.reference, if m.inner.isSome then .noneOf else .oneOf, operand) ∧
      literalsOf operand = literalsOf (membersChars m.members) := by
  obtain ⟨before, after, hbefore, hafter, rfl⟩ := hpadded
  obtain ⟨c, gap, hgap⟩ := List.exists_cons_of_ne_nil h.gap_ne_nil
  obtain ⟨d, space, hspace⟩ := List.exists_cons_of_ne_nil h.space_ne_nil
  have hblanks := h.gap
  rw [hgap, AreBlank, List.forall_mem_cons] at hblanks
  have hspaces := h.space
  rw [hspace, AreBlank, List.forall_mem_cons] at hspaces
  obtain ⟨hline, e, he, hnotblank⟩ := membersChars_line h.some h.members
  have hmembers : Padded (membersChars m.members) (membersChars m.members ++ after) :=
    ⟨[], after, List.forall_mem_nil _, hafter, rfl⟩
  have htext : m.chars ++ after = m.reference ++ c ::
      (gap ++ (keyword m.inner ++ (d :: (space ++ (membersChars m.members ++ after))))) := by
    simp only [chars, hgap, hspace, List.append_assoc, List.cons_append]
  have hkeyword := leadingKeyword_eq_some_iff.mpr
    ⟨m.inner, h.inner, (rfl : _ = keyword m.inner ++ (d :: (space ++ (membersChars m.members ++ after)))), rfl⟩
  have hoperand := memberOperand_eq hspaces.1 hspaces.2 (trimChars_ne_nil (List.mem_append_left after he) hnotblank)
    (fun hmem => hline (mem_of_mem_trimChars (trimChars_padded hmembers ▸ hmem)))
  refine ⟨trimChars (membersChars m.members ++ after), ?_, ?_⟩
  · rw [htext, Condition.membership_eq h.reference hbefore hblanks.1, List.dropWhile_append_of_pos hblanks.2,
      dropWhile_keyword, hkeyword, Option.bind_some, hoperand, Option.map_some]
  · rw [← literalsOf_padded (padded_trimChars _), literalsOf_padded hmembers]

/-- **A membership is read as it is written exactly if none of its members holds a comma.** -/
theorem ofClause_eq_iff (h : m.IsProper) (hpadded : Padded m.chars padded) :
    ofClause padded = .ok (.compare m.clause.comparison) ↔ ∀ x ∈ m.members, ',' ∉ x.core.chars := by
  obtain ⟨operand, hmembership, hliterals⟩ := membership_eq h hpadded
  have hvalues : m.clause.comparison = ⟨String.ofList m.reference, if m.inner.isSome then .noneOf else .oneOf,
      .list (m.members.map (·.core.value)), none⟩ := by
    rw [clause, Clause.comparison, List.map_map]
    rfl
  rw [← literalsOf_members h.some h.members, ofClause, hmembership, hvalues]
  dsimp only
  rw [hliterals, bind_eq_ok_iff]
  constructor
  · rintro ⟨values, hread, hsame⟩
    rw [hread]
    cases hsame
    rfl
  · intro hread
    exact ⟨_, hread, rfl⟩

end WrittenMembership

end FormCheck.Condition
