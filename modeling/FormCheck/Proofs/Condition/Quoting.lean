import FormCheck.Proofs.Condition.Spacing

/-!
# What quotes protect

Within quotes a literal may hold anything but its quote: separators, symbols, keywords and commas.  The search for
separators goes over all that is quoted, but a list of literals is cut at every comma, and where no blank stands on
either side of a symbol, a symbol or a keyword in the quotes is taken for the one that is meant.

* `Condition.WrittenRelation`, `Condition.Written` — clauses as they are written, with all their blank characters;
* `Condition.IsClear` — a literal in which no symbol and no keyword can be taken for the one in front of it;
* `WrittenRelation.ofClause_eq_iff` — **proved**: a comparison is read as it is written exactly if a blank stands on
  either side of its symbol, or its literal is clear;
* `Condition.reads_as_written_iff` — **proved**: an expression is read as it is written exactly if all its comparisons
  are, and no member of a list holds a comma.
-/

namespace FormCheck.Condition

open Text Fallible

/-! ### Comparisons -/

/-- Whether a literal is quoted. -/
def Literal.isQuoted : Literal → Bool
  | .quoted _ _ => true
  | _ => false

/-- A comparison with one literal as it is written, with all its blank characters. -/
structure WrittenRelation where
  reference : List Char
  gap : List Char
  op : Operator
  space : List Char
  literal : Literal

namespace WrittenRelation

/-- How it is written. -/
def chars (r : WrittenRelation) : List Char :=
  r.reference ++ (r.gap ++ ((symbolOf? r.op).getD [] ++ (r.space ++ r.literal.chars)))

/-- The clause that it writes. -/
def clause (r : WrittenRelation) : Clause :=
  .relation r.reference r.op r.literal

/-- Blank characters may be left out beside a quoted text only. -/
structure IsProper (r : WrittenRelation) : Prop where
  reference : IsBare r.reference
  gap : AreBlank r.gap
  symbol : (symbolOf? r.op).isSome = true
  space : AreBlank r.space
  literal : r.literal.IsLine
  apart : r.literal.isQuoted = true ∨ r.gap ≠ [] ∧ r.space ≠ []

end WrittenRelation

/-- What follows the first word of a text and the blank characters after it. -/
def afterWord (cs : List Char) : List Char :=
  (cs.dropWhile (!isBlank ·)).dropWhile isBlank

/-- No symbol stands in the first word of a text or after it, and no keyword between it and another word. -/
structure IsClear (cs : List Char) : Prop where
  word : ∀ op symbol, symbolOf? op = some symbol → ¬ symbol <:+: cs.takeWhile (!isBlank ·)
  symbol : ∀ op symbol, symbolOf? op = some symbol → ¬ symbol <+: afterWord cs
  keyword : ∀ inner, IsKeyword inner → ∀ c, isBlank c = true → ¬ keyword inner ++ [c] <+: afterWord cs

/-! ### Looking for a symbol -/

theorem mem_symbols_iff {op : Operator} {symbol : List Char} : (symbol, op) ∈ symbols ↔ symbolOf? op = some symbol := by
  cases op <;> simp [symbols, symbolOf?, eq_comm]

/-- A symbol is found exactly where one stands at the front. -/
theorem leadingSymbol_isSome_iff {cs : List Char} :
    (leadingSymbol? cs).isSome = true ↔ ∃ op symbol, symbolOf? op = some symbol ∧ symbol <+: cs := by
  rw [leadingSymbol?, Option.isSome_map, List.find?_isSome]
  constructor
  · rintro ⟨⟨symbol, op⟩, hmem, hfront⟩
    exact ⟨op, symbol, mem_symbols_iff.mp hmem, List.isPrefixOf_iff_prefix.mp hfront⟩
  · rintro ⟨op, symbol, hsymbol, hfront⟩
    exact ⟨(symbol, op), mem_symbols_iff.mpr hsymbol, List.isPrefixOf_iff_prefix.mpr hfront⟩

theorem leadingSymbol_eq_none {cs : List Char} (h : ∀ op symbol, symbolOf? op = some symbol → ¬ symbol <+: cs) :
    leadingSymbol? cs = none := by
  rw [← Option.not_isSome_iff_eq_none, leadingSymbol_isSome_iff]
  rintro ⟨op, symbol, hsymbol, hfront⟩
  exact h op symbol hsymbol hfront

/-- **The longest beginning of a word after which a symbol follows.**  It is at least as long as any other one. -/
theorem cutAtSymbol_eq_some {word after : List Char} {k : Nat} (hafter : leadingSymbol? (after.dropWhile isBlank) = none)
    (hpos : 0 < k) (hlt : k < word.length) (hk : (leadingSymbol? (word.drop k ++ after)).isSome = true) :
    ∃ n op operand, k ≤ n ∧ n < word.length ∧ leadingSymbol? (word.drop n ++ after) = some (op, operand) ∧
      cutAtSymbol? word after = some (word.take n, op, operand) := by
  have hcut : cutAtSymbol? word after = ((List.range word.length).reverse.filter (0 < ·)).findSome? fun n =>
      (leadingSymbol? (word.drop n ++ after)).map fun found => (word.take n, found.1, found.2) := by
    rw [cutAtSymbol?, hafter]
  have hmem : k ∈ (List.range word.length).reverse.filter (0 < ·) := by
    simp [hpos, hlt]
  have hsorted : ((List.range word.length).reverse.filter (0 < ·)).Pairwise (· > ·) := by
    refine List.Pairwise.filter _ ?_
    rw [List.pairwise_reverse]
    exact List.pairwise_lt_range
  have hsome : (((List.range word.length).reverse.filter (0 < ·)).findSome? fun n =>
      (leadingSymbol? (word.drop n ++ after)).map fun found => (word.take n, found.1, found.2)).isSome = true := by
    rw [List.findSome?_isSome_iff]
    exact ⟨k, hmem, by rw [Option.isSome_map]; exact hk⟩
  obtain ⟨found, hfound⟩ := Option.isSome_iff_exists.mp hsome
  obtain ⟨longer, n, shorter, hlist, hn, hlonger⟩ := List.findSome?_eq_some_iff.mp hfound
  obtain ⟨⟨op, operand⟩, hsymbol, rfl⟩ := Option.map_eq_some_iff.mp hn
  have hnmem : n ∈ (List.range word.length).reverse.filter (0 < ·) := by
    rw [hlist]
    exact List.mem_append_right longer List.mem_cons_self
  have hnlt : n < word.length := by
    simp only [List.mem_filter, List.mem_reverse, List.mem_range] at hnmem
    exact hnmem.1
  refine ⟨n, op, operand, ?_, hnlt, hsymbol, hcut.trans hfound⟩
  rw [hlist] at hmem hsorted
  rcases List.mem_append.mp hmem with hbefore | hrest
  · have hnone := hlonger k hbefore
    rw [Option.map_eq_none_iff] at hnone
    rw [hnone] at hk
    cases hk
  · rcases List.mem_cons.mp hrest with rfl | hafter
    · exact Nat.le_refl k
    · exact Nat.le_of_lt (List.rel_of_pairwise_cons (List.pairwise_append.mp hsorted).2.1 hafter)

/-! ### Blanks after a literal -/

/-- A text before the end of another one does not reach beyond a character that it does not hold. -/
theorem prefix_append_iff {q : Char} {front cs after : List Char} (hlast : cs.getLast? = some q) (hq : q ∉ front) :
    front <+: cs ++ after ↔ front <+: cs := by
  constructor
  · intro h
    rcases List.prefix_or_prefix_of_prefix h (List.prefix_append cs after) with hfront | hcs
    · exact hfront
    · exact absurd (hcs.subset (List.mem_of_getLast? hlast)) hq
  · exact fun h => h.trans (List.prefix_append cs after)

section Blanks

variable {cs after : List Char}

/-- The first word of a text is the same with blank characters after the text. -/
theorem takeWhile_append_blank (hafter : AreBlank after) :
    (cs ++ after).takeWhile (!isBlank ·) = cs.takeWhile (!isBlank ·) ∧
      (cs ++ after).dropWhile (!isBlank ·) = cs.dropWhile (!isBlank ·) ++ after := by
  have hstop : after.takeWhile (!isBlank ·) = [] ∧ after.dropWhile (!isBlank ·) = after := by
    cases after with
    | nil => exact ⟨rfl, rfl⟩
    | cons c after =>
      have hc : ¬ ((!isBlank c) = true) := by simp [hafter c List.mem_cons_self]
      exact ⟨List.takeWhile_cons_of_neg hc, List.dropWhile_cons_of_neg hc⟩
  rw [List.takeWhile_append, List.dropWhile_append, hstop.1, hstop.2, List.append_nil]
  constructor
  · split
    · next hall =>
      exact (List.takeWhile_eq_self_iff.mpr ((List.takeWhile_prefix _).eq_of_length hall ▸
        List.all_eq_true.mp List.all_takeWhile)).symm
    · rfl
  · split
    · next hnone => rw [List.isEmpty_iff.mp hnone, List.nil_append]
    · rfl

/-- What follows the first word is the same, but for the blank characters after it. -/
theorem afterWord_append (hafter : AreBlank after) :
    afterWord (cs ++ after) = if afterWord cs = [] then [] else afterWord cs ++ after := by
  have hblank : after.dropWhile isBlank = [] := List.dropWhile_eq_nil_iff.mpr hafter
  rw [afterWord, (takeWhile_append_blank hafter).2, List.dropWhile_append, hblank]
  simp only [List.isEmpty_iff]
  rfl

/-- What follows the first word ends like the text. -/
theorem getLast?_afterWord {q : Char} (hlast : cs.getLast? = some q) (hne : afterWord cs ≠ []) :
    (afterWord cs).getLast? = some q := by
  have hsuffix : afterWord cs <:+ cs := (List.dropWhile_suffix _).trans (List.dropWhile_suffix _)
  obtain ⟨front, hfront⟩ := hsuffix
  rw [← hfront, List.getLast?_append_of_ne_nil front hne] at hlast
  exact hlast

theorem prefix_afterWord_append_iff {q : Char} {front : List Char} (hafter : AreBlank after)
    (hlast : cs.getLast? = some q) (hq : q ∉ front) :
    front <+: afterWord (cs ++ after) ↔ front <+: afterWord cs := by
  rw [afterWord_append hafter]
  split
  · next hnil => rw [hnil]
  · next hne => exact prefix_append_iff (getLast?_afterWord hlast hne) hq

/-- A symbol and a keyword are not empty, and hold no quotes and no blanks but those within a keyword. -/
theorem symbol_plain {op : Operator} {symbol : List Char} (h : symbolOf? op = some symbol) :
    symbol ≠ [] ∧ ∀ c ∈ symbol, isBlank c = false ∧ c ≠ '\'' ∧ c ≠ '"' := by
  cases op <;> cases h <;> exact ⟨List.cons_ne_nil _ _, forall_mem_of_all (by decide)⟩

theorem not_mem_keyword {q : Char} (hq : q = '\'' ∨ q = '"') {inner : Option (List Char)} (h : IsKeyword inner) :
    q ∉ keyword inner := by
  have hblank : isBlank q = false := by rcases hq with rfl | rfl <;> decide
  have hword : q ∉ "not".toList ∧ q ∉ "in".toList := by rcases hq with rfl | rfl <;> decide
  cases inner with
  | none => exact hword.2
  | some gap =>
    intro hmem
    rcases List.mem_append.mp hmem with hmem | hmem
    · exact hword.1 hmem
    rcases List.mem_append.mp hmem with hmem | hmem
    · have hgap := (h gap rfl).2 q hmem
      rw [hblank] at hgap
      cases hgap
    · exact hword.2 hmem

theorem not_mem_symbol {q : Char} (hq : q = '\'' ∨ q = '"') {op : Operator} {symbol : List Char}
    (h : symbolOf? op = some symbol) : q ∉ symbol := by
  intro hmem
  have hplain := (symbol_plain h).2 q hmem
  rcases hq with rfl | rfl
  · exact hplain.2.1 rfl
  · exact hplain.2.2 rfl

theorem symbol_front_iff {q : Char} (hq : q = '\'' ∨ q = '"') (hlast : cs.getLast? = some q) (hafter : AreBlank after)
    {op : Operator} {symbol : List Char} (h : symbolOf? op = some symbol) :
    symbol <+: afterWord (cs ++ after) ↔ symbol <+: afterWord cs :=
  prefix_afterWord_append_iff hafter hlast (not_mem_symbol hq h)

theorem keyword_front_iff {q c : Char} (hq : q = '\'' ∨ q = '"') (hlast : cs.getLast? = some q)
    (hafter : AreBlank after) {inner : Option (List Char)} (h : IsKeyword inner) (hc : isBlank c = true) :
    keyword inner ++ [c] <+: afterWord (cs ++ after) ↔ keyword inner ++ [c] <+: afterWord cs := by
  refine prefix_afterWord_append_iff hafter hlast fun hmem => ?_
  rcases List.mem_append.mp hmem with hmem | hmem
  · exact not_mem_keyword hq h hmem
  · rw [← List.mem_singleton.mp hmem] at hc
    rcases hq with rfl | rfl <;> exact absurd hc (by decide)

/-- What is clear stays clear with blank characters after it. -/
theorem IsClear.append {q : Char} (h : IsClear cs) (hq : q = '\'' ∨ q = '"') (hlast : cs.getLast? = some q)
    (hafter : AreBlank after) : IsClear (cs ++ after) where
  word op symbol hop := (takeWhile_append_blank hafter).1.symm ▸ h.word op symbol hop
  symbol op symbol hop hfront := h.symbol op symbol hop ((symbol_front_iff hq hlast hafter hop).mp hfront)
  keyword inner hinner c hc hfront :=
    h.keyword inner hinner c hc ((keyword_front_iff hq hlast hafter hinner hc).mp hfront)

end Blanks

/-! ### Reading a comparison without blanks -/

theorem afterBlanks_eq {cs rest : List Char} (h : afterBlanks? cs = some rest) : rest = cs.dropWhile isBlank := by
  obtain ⟨blanks, _, hblanks, rfl, hrest⟩ := afterBlanks_eq_some_iff.mp h
  rw [List.dropWhile_append_of_pos hblanks]
  cases rest with
  | nil => rfl
  | cons c rest =>
    have hc : ¬ (isBlank c = true) := by simp [hrest c rfl]
    rw [List.dropWhile_cons_of_neg hc]

/-- What a membership has after its first word. -/
theorem exists_of_membership {cs : List Char} {found : List Char × Operator × List Char}
    (h : membership? cs = some found) : ∃ inner c rest, IsKeyword inner ∧ isBlank c = true ∧
      afterWord (cs.dropWhile isBlank) = keyword inner ++ c :: rest ∧
      found.2.1 = if inner.isSome then .noneOf else .oneOf := by
  simp only [membership?, Option.bind_eq_bind, Option.bind_eq_some_iff] at h
  obtain ⟨rest, hrest, ⟨op, operandPart⟩, hkeyword, operand, hoperand, h⟩ := h
  obtain ⟨inner, hinner, hsplit, hop⟩ := leadingKeyword_eq_some_iff.mp hkeyword
  have hblank : ∃ c tail, operandPart = c :: tail ∧ isBlank c = true := by
    rw [memberOperand?] at hoperand
    obtain ⟨body, hbody, _⟩ := Option.bind_eq_some_iff.mp hoperand
    obtain ⟨blanks, hne, hblanks, hcs, _⟩ := afterBlanks_eq_some_iff.mp hbody
    obtain ⟨c, tail, rfl⟩ := List.exists_cons_of_ne_nil hne
    exact ⟨c, tail ++ body, hcs, hblanks c List.mem_cons_self⟩
  obtain ⟨c, tail, rfl, hc⟩ := hblank
  refine ⟨inner, c, tail, hinner, hc, ?_, ?_⟩
  · rw [← hsplit, afterBlanks_eq hrest]
    rfl
  · split at h
    · cases h
    · cases h
      exact hop

section Reading

variable {reference symbol before cs after : List Char} {op : Operator}

/-- Where no blank stands before the symbol, the first word goes on after it. -/
theorem word_of_glued (h : IsBare reference) (hsymbol : symbolOf? op = some symbol) (hbefore : AreBlank before)
    (rest : List Char) :
    ((before ++ (reference ++ (symbol ++ rest))).dropWhile isBlank).takeWhile (!isBlank ·) =
        reference ++ (symbol ++ rest.takeWhile (!isBlank ·)) ∧
      ((before ++ (reference ++ (symbol ++ rest))).dropWhile isBlank).dropWhile (!isBlank ·) =
        rest.dropWhile (!isBlank ·) := by
  have hword : ∀ c ∈ reference, (!isBlank c) = true := fun c hc => by rw [(h.plain c hc).1]; rfl
  have hmark : ∀ c ∈ symbol, (!isBlank c) = true := fun c hc => by rw [((symbol_plain hsymbol).2 c hc).1]; rfl
  rw [h.tight.dropWhile_append hbefore, List.takeWhile_append_of_pos hword, List.dropWhile_append_of_pos hword,
    List.takeWhile_append_of_pos hmark, List.dropWhile_append_of_pos hmark]
  exact ⟨rfl, rfl⟩

theorem relation_eq_bind (cs : List Char) : relation? cs =
    (cutAtSymbol? ((cs.dropWhile isBlank).takeWhile (!isBlank ·)) ((cs.dropWhile isBlank).dropWhile (!isBlank ·))).bind
      fun found => if ((cs.dropWhile isBlank).takeWhile (!isBlank ·)).isEmpty || (trimChars found.2.2).contains '\n'
        then none else some (found.1, found.2.1, trimChars found.2.2) := rfl

/-- A text without blanks that stands at the front of another one and goes no further than to a blank. -/
theorem prefix_of_stop {front cs rest : List Char} (hfront : ∀ c ∈ front, isBlank c = false)
    (hrest : ∀ c ∈ rest.head?, isBlank c = true) (h : front <+: cs ++ rest) : front <+: cs := by
  rcases List.prefix_or_prefix_of_prefix h (List.prefix_append cs rest) with hshort | ⟨more, rfl⟩
  · exact hshort
  · cases more with
    | nil => rw [List.append_nil]
    | cons c more =>
      rw [List.prefix_append_right_inj] at h
      obtain ⟨tail, rfl⟩ := h
      have hblank := hrest c rfl
      rw [hfront c (List.mem_append_right cs List.mem_cons_self)] at hblank
      cases hblank

/-- A symbol that stands later in the first word than the one before the literal stands in the literal. -/
theorem symbol_in_word (hsymbol : symbolOf? op = some symbol) {rest : List Char} (hhead : rest.head? ≠ some '=') {n : Nat}
    (hn : reference.length < n)
    (h : (leadingSymbol? ((reference ++ (symbol ++ rest.takeWhile (!isBlank ·))).drop n ++
      rest.dropWhile (!isBlank ·))).isSome = true) :
    ∃ op symbol, symbolOf? op = some symbol ∧ symbol <:+: rest.takeWhile (!isBlank ·) := by
  obtain ⟨j, rfl⟩ := Nat.exists_eq_add_of_lt hn
  rw [Nat.add_assoc, List.drop_length_add_append] at h
  obtain ⟨other, found, hfound, hfront⟩ := leadingSymbol_isSome_iff.mp h
  by_cases hj : j + 1 < symbol.length
  · -- The second character of a symbol begins another one only if that goes on after it.
    exfalso
    have hlength : symbol.length ≤ 2 := by cases op <;> cases hsymbol <;> decide
    obtain rfl : j = 0 := by omega
    have hdrop : symbol.drop 1 = ['='] := by
      cases op <;> cases hsymbol <;> first | rfl | exact absurd hj (by decide)
    rw [List.drop_append_of_le_length (by omega), hdrop, List.append_assoc, List.takeWhile_append_dropWhile] at hfront
    obtain ⟨tail, htail⟩ := hfront
    refine hhead ?_
    cases other <;> cases hfound <;> cases htail
    rfl
  · have hdrop : (symbol ++ rest.takeWhile (!isBlank ·)).drop (j + 1) =
        (rest.takeWhile (!isBlank ·)).drop (j + 1 - symbol.length) := by
      rw [List.drop_append, List.drop_eq_nil_of_le (by omega), List.nil_append]
    rw [hdrop] at hfront
    have hstop : ∀ c ∈ (rest.dropWhile (!isBlank ·)).head?, isBlank c = true := by
      intro c hc
      have hnot := List.head?_dropWhile_not (!isBlank ·) rest
      rw [Option.mem_def.mp hc] at hnot
      simpa using hnot
    have hinside := prefix_of_stop (fun c hc => ((symbol_plain hfound).2 c hc).1) hstop hfront
    exact ⟨other, found, hfound, hinside.isInfix.trans (List.drop_suffix _ _).isInfix⟩

/-- **A clear literal is read where it stands,** though no blank stands between the reference and the symbol. -/
theorem ofClause_of_clear {q : Char} {v : Value} (h : IsBare reference) (hsymbol : symbolOf? op = some symbol)
    (hbefore : AreBlank before) (hafter : AreBlank after) (hq : q = '\'' ∨ q = '"') (hlast : cs.getLast? = some q)
    (hhead : cs.head? ≠ some '=') (hline : '\n' ∉ trimChars cs) (hv : literalOf cs = .ok v) (hclear : IsClear cs) :
    ofClause (before ++ (reference ++ (symbol ++ (cs ++ after)))) =
      .ok (.compare ⟨String.ofList reference, op, v, none⟩) := by
  obtain ⟨hword, hrest⟩ := word_of_glued h hsymbol hbefore (cs ++ after)
  have hclear : IsClear (cs ++ after) := hclear.append hq hlast hafter
  have hpadded : Padded cs (cs ++ after) := ⟨[], after, List.forall_mem_nil _, hafter, rfl⟩
  have hnext : (cs ++ after).head? ≠ some '=' := by
    have hne : cs ≠ [] := by rintro rfl; cases hlast
    rw [List.head?_append_of_ne_nil cs hne]
    exact hhead
  have hmembership : membership? (before ++ (reference ++ (symbol ++ (cs ++ after)))) = none := by
    rw [Option.eq_none_iff_forall_ne_some]
    intro found hfound
    obtain ⟨inner, c, rest, hinner, hc, htext, _⟩ := exists_of_membership hfound
    rw [afterWord, hrest] at htext
    refine hclear.keyword inner hinner c hc ⟨rest, ?_⟩
    rw [List.append_assoc, List.singleton_append]
    exact htext.symm
  generalize hw : reference ++ (symbol ++ (cs ++ after).takeWhile (!isBlank ·)) = word at hword
  have hlength : word.length = reference.length + (symbol.length + ((cs ++ after).takeWhile (!isBlank ·)).length) := by
    rw [← hw, List.length_append, List.length_append]
  have hsome : 0 < symbol.length := List.length_pos_iff.mpr (symbol_plain hsymbol).1
  have hreference : 0 < reference.length := List.length_pos_iff.mpr h.ne_nil
  have hfound : leadingSymbol? (word.drop reference.length ++ (cs ++ after).dropWhile (!isBlank ·)) =
      some (op, cs ++ after) := by
    rw [← hw, List.drop_left, List.append_assoc, List.takeWhile_append_dropWhile, leadingSymbol_eq hsymbol hnext]
  have hshorter : reference.length < word.length := by omega
  obtain ⟨n, op', operand, hn, hlt, hsymbol', hcut⟩ := cutAtSymbol_eq_some
    (leadingSymbol_eq_none hclear.symbol) hreference hshorter (by rw [hfound]; rfl)
  -- No longer beginning of the word has a symbol after it.
  have hsame : n = reference.length := by
    rcases Nat.eq_or_lt_of_le hn with hsame | hlonger
    · exact hsame.symm
    · have hisSome : (leadingSymbol? (word.drop n ++ (cs ++ after).dropWhile (!isBlank ·))).isSome = true := by
        rw [hsymbol']
        rfl
      rw [← hw] at hisSome
      obtain ⟨other, found, hother, hinside⟩ := symbol_in_word hsymbol hnext hlonger hisSome
      exact absurd hinside (hclear.word other found hother)
  subst hsame
  rw [hfound] at hsymbol'
  cases hsymbol'
  have htake : word.take reference.length = reference := by rw [← hw, List.take_left]
  have hempty : word.isEmpty = false := List.isEmpty_eq_false_iff.mpr (List.length_pos_iff.mp (by omega))
  have hcontains : (trimChars (cs ++ after)).contains '\n' = false := by
    rw [trimChars_padded hpadded]
    simpa using hline
  have hoperand : literalOf (trimChars (cs ++ after)) = .ok v := by
    rw [← literalOf_padded (padded_trimChars (cs ++ after)), literalOf_padded hpadded, hv]
  rw [ofClause, hmembership]
  simp only [relation_eq_bind, hword, hrest, hcut, Option.bind_some, htake, hempty, hcontains, Bool.or_self,
    Bool.false_eq_true, if_false, hoperand]
  rfl

/-- What is read as a comparison with one literal is no membership, and has the reference for its first part. -/
theorem exists_relation_of_ofClause {clause : List Char} {v : Value} (hsymbol : symbolOf? op = some symbol)
    (hread : ofClause clause = .ok (.compare ⟨String.ofList reference, op, v, none⟩)) :
    membership? clause = none ∧ ∃ op operand, relation? clause = some (reference, op, operand) := by
  rw [ofClause] at hread
  cases hmembership : membership? clause with
  | some found =>
    obtain ⟨inner, c, rest, _, _, _, hop⟩ := exists_of_membership hmembership
    rw [hmembership] at hread
    obtain ⟨operands, _, hread⟩ := bind_eq_ok_iff.mp hread
    obtain ⟨_, hsame, _⟩ := Comparison.mk.inj (Condition.compare.inj (Except.ok.inj hread))
    rw [← hsame, hop] at hsymbol
    split at hsymbol <;> cases hsymbol
  | none =>
    rw [hmembership] at hread
    cases hrelation : relation? clause with
    | none =>
      rw [hrelation] at hread
      cases hread
    | some found =>
      rw [hrelation] at hread
      obtain ⟨operand, _, hread⟩ := bind_eq_ok_iff.mp hread
      obtain ⟨hsame, _⟩ := Comparison.mk.inj (Condition.compare.inj (Except.ok.inj hread))
      rw [← String.ofList_injective hsame]
      exact ⟨rfl, _, _, rfl⟩

/-- A keyword after the first word of a quoted text makes a membership of the comparison. -/
theorem exists_membership_of_keyword {q c : Char} {inner : Option (List Char)} (h : IsBare reference)
    (hsymbol : symbolOf? op = some symbol) (hbefore : AreBlank before) (hafter : AreBlank after)
    (hq : q = '\'' ∨ q = '"') (hlast : cs.getLast? = some q) (hline : '\n' ∉ cs) (hinner : IsKeyword inner)
    (hc : isBlank c = true) (hfront : keyword inner ++ [c] <+: afterWord cs) :
    ∃ found, membership? (before ++ (reference ++ (symbol ++ (cs ++ after)))) = some found := by
  obtain ⟨hword, hrest⟩ := word_of_glued h hsymbol hbefore (cs ++ after)
  obtain ⟨rest, hsplit⟩ := hfront
  have hqblank : isBlank q = false := by rcases hq with rfl | rfl <;> decide
  have hsome : afterWord cs ≠ [] := by
    rw [← hsplit]
    simp
  -- The quote at the end stands behind the keyword, and so it is a part of the operand.
  have hqmem : q ∈ rest := by
    have hend := getLast?_afterWord hlast hsome
    rw [← hsplit] at hend
    rcases List.mem_append.mp (List.mem_of_getLast? hend) with hmem | hmem
    · exfalso
      rcases List.mem_append.mp hmem with hmem | hmem
      · exact not_mem_keyword hq hinner hmem
      · rw [List.mem_singleton.mp hmem, hc] at hqblank
        cases hqblank
    · exact hmem
  have hrestline : '\n' ∉ rest := by
    intro hmem
    have hsuffix : afterWord cs <:+ cs := (List.dropWhile_suffix _).trans (List.dropWhile_suffix _)
    exact hline (hsuffix.subset (hsplit ▸ List.mem_append_right _ hmem))
  have htail : afterWord (cs ++ after) = keyword inner ++ c :: (rest ++ after) := by
    rw [afterWord_append hafter, if_neg hsome, ← hsplit]
    simp
  have hblanks : afterBlanks? ((cs ++ after).dropWhile (!isBlank ·)) = some (keyword inner ++ c :: (rest ++ after)) := by
    rw [← htail, afterWord]
    have hstop := List.head?_dropWhile_not (!isBlank ·) (cs ++ after)
    generalize hdropped : (cs ++ after).dropWhile (!isBlank ·) = dropped at hstop ⊢
    cases dropped with
    | nil =>
      rw [afterWord, hdropped] at htail
      simp at htail
    | cons d dropped =>
      have hd : isBlank d = true := by simpa using hstop
      rw [afterBlanks?, if_pos hd, List.dropWhile_cons_of_pos hd]
  have hkeyword := leadingKeyword_eq_some_iff.mpr
    ⟨inner, hinner, (rfl : _ = keyword inner ++ c :: (rest ++ after)), rfl⟩
  have hpadded : Padded rest (rest ++ after) := ⟨[], after, List.forall_mem_nil _, hafter, rfl⟩
  have hoperand := memberOperand_eq hc (List.forall_mem_nil _)
    (trimChars_ne_nil (List.mem_append_left after hqmem) hqblank)
    (fun hmem => hrestline (mem_of_mem_trimChars (trimChars_padded hpadded ▸ hmem)))
  rw [List.nil_append] at hoperand
  have hempty : (reference ++ (symbol ++ (cs ++ after).takeWhile (!isBlank ·))).isEmpty = false :=
    List.isEmpty_eq_false_iff.mpr (List.append_ne_nil_of_left_ne_nil h.ne_nil _)
  rw [membership?]
  simp only [hword, hrest, hblanks, hkeyword, hoperand, hempty, Option.bind_eq_bind, Option.bind_some,
    Bool.false_eq_true, if_false]
  exact ⟨_, rfl⟩

/-- Where the first word is cut off in front of a symbol, no symbol stands in it after that one: it would make what is
cut off longer. -/
theorem not_infix_of_cutAtSymbol {word rest operand : List Char} {op : Operator} (hne : symbol ≠ [])
    (hnone : leadingSymbol? (rest.dropWhile isBlank) = none)
    (hcut : cutAtSymbol? (reference ++ (symbol ++ word)) rest = some (reference, op, operand)) {other : Operator}
    {found : List Char} (hother : symbolOf? other = some found) : ¬ found <:+: word := by
  rintro ⟨front, back, rfl⟩
  have hsome : 0 < symbol.length := List.length_pos_iff.mpr hne
  have hfound : 0 < found.length := List.length_pos_iff.mpr (symbol_plain hother).1
  have hsplit : reference ++ (symbol ++ (front ++ found ++ back)) = (reference ++ (symbol ++ front)) ++ (found ++ back) := by
    simp only [List.append_assoc]
  rw [hsplit] at hcut
  have hshorter : (reference ++ (symbol ++ front)).length < ((reference ++ (symbol ++ front)) ++ (found ++ back)).length := by
    simp only [List.length_append]
    omega
  have hisSome : (leadingSymbol? (((reference ++ (symbol ++ front)) ++ (found ++ back)).drop
      (reference ++ (symbol ++ front)).length ++ rest)).isSome = true := by
    rw [List.drop_left, List.append_assoc]
    exact leadingSymbol_isSome_iff.mpr ⟨other, found, hother, List.prefix_append _ _⟩
  have hpos : 0 < (reference ++ (symbol ++ front)).length := by
    simp only [List.length_append]
    omega
  obtain ⟨n, _, _, hn, hlt, _, hlongest⟩ := cutAtSymbol_eq_some hnone hpos hshorter hisSome
  rw [hlongest, Option.some.injEq] at hcut
  have hlength := congrArg (fun found => found.1.length) hcut
  simp only [List.length_append, List.length_take] at hn hlt hlength
  omega

/-- **A literal that is read where it stands is clear,** if no blank stands between the reference and the literal. -/
theorem clear_of_ofClause {q : Char} {v : Value} (h : IsBare reference) (hsymbol : symbolOf? op = some symbol)
    (hbefore : AreBlank before) (hafter : AreBlank after) (hq : q = '\'' ∨ q = '"') (hlast : cs.getLast? = some q)
    (hline : '\n' ∉ cs) (hread : ofClause (before ++ (reference ++ (symbol ++ (cs ++ after)))) =
      .ok (.compare ⟨String.ofList reference, op, v, none⟩)) : IsClear cs := by
  obtain ⟨hword, hrest⟩ := word_of_glued h hsymbol hbefore (cs ++ after)
  obtain ⟨hmembership, op', operand, hrelation⟩ := exists_relation_of_ofClause hsymbol hread
  have hsome : 0 < symbol.length := List.length_pos_iff.mpr (symbol_plain hsymbol).1
  have hcut : ∃ op operand, cutAtSymbol? (reference ++ (symbol ++ (cs ++ after).takeWhile (!isBlank ·)))
      ((cs ++ after).dropWhile (!isBlank ·)) = some (reference, op, operand) := by
    rw [relation_eq_bind, hword, hrest] at hrelation
    obtain ⟨found, hcut, hrelation⟩ := Option.bind_eq_some_iff.mp hrelation
    split at hrelation
    · cases hrelation
    · cases hrelation
      exact ⟨_, _, hcut⟩
  obtain ⟨_, _, hcut⟩ := hcut
  -- A symbol after the first word would make the whole word the reference.
  have hnone : leadingSymbol? (afterWord (cs ++ after)) = none := by
    rw [Option.eq_none_iff_forall_ne_some]
    intro next hnext
    rw [cutAtSymbol?, ← afterWord, hnext, Option.some.injEq] at hcut
    have hlength := congrArg (fun found => found.1.length) hcut
    simp only [List.length_append] at hlength
    omega
  refine ⟨fun other found hother hinside => ?_, fun other found hother hfront => ?_,
    fun inner hinner c hc hfront => ?_⟩
  · rw [← (takeWhile_append_blank hafter).1] at hinside
    exact not_infix_of_cutAtSymbol (symbol_plain hsymbol).1 hnone hcut hother hinside
  · have hisSome := leadingSymbol_isSome_iff.mpr
      ⟨other, found, hother, (symbol_front_iff hq hlast hafter hother).mpr hfront⟩
    rw [hnone] at hisSome
    cases hisSome
  · obtain ⟨found, hfound⟩ := exists_membership_of_keyword h hsymbol hbefore hafter hq hlast hline hinner hc hfront
    rw [hmembership] at hfound
    cases hfound

end Reading

/-! ### Clauses -/

namespace Literal

/-- A quoted text begins and ends with its quote. -/
theorem exists_quote {l : Literal} (h : l.IsLine) (hquoted : l.isQuoted = true) :
    ∃ q, (q = '\'' ∨ q = '"') ∧ l.chars.head? = some q ∧ l.chars.getLast? = some q := by
  cases l with
  | quoted q content =>
    refine ⟨q, h.1, rfl, ?_⟩
    rw [chars, List.getLast?_cons, List.getLast?_append]
    rfl
  | _ => cases hquoted

end Literal

namespace WrittenRelation

variable {r : WrittenRelation} {padded : List Char}

/-- A blank stands before the symbol or after it, or the literal is clear. -/
def IsClear (r : WrittenRelation) : Prop :=
  r.gap = [] → r.space = [] → Condition.IsClear r.literal.chars

/-- A quoted text is clear with blank characters in front of it. -/
theorem isClear_of_space {space cs : List Char} {q : Char} (hspace : AreBlank space) (hne : space ≠ [])
    (hq : q = '\'' ∨ q = '"') (hhead : cs.head? = some q) : Condition.IsClear (space ++ cs) := by
  obtain ⟨d, blanks, rfl⟩ := List.exists_cons_of_ne_nil hne
  obtain ⟨rest, rfl⟩ : ∃ rest, cs = q :: rest := by
    cases cs with
    | nil => cases hhead
    | cons c rest => exact ⟨rest, by rw [Option.some.inj hhead]⟩
  have hd : ¬ ((!isBlank d) = true) := by simp [hspace d List.mem_cons_self]
  have hqblank : ¬ (isBlank q = true) := by rcases hq with rfl | rfl <;> decide
  have hword : (d :: blanks ++ q :: rest).takeWhile (!isBlank ·) = [] := List.takeWhile_cons_of_neg hd
  have hafter : afterWord (d :: blanks ++ q :: rest) = q :: rest := by
    have hdrop : (d :: blanks ++ q :: rest).dropWhile (!isBlank ·) = d :: blanks ++ q :: rest :=
      List.dropWhile_cons_of_neg hd
    rw [afterWord, hdrop, List.dropWhile_append_of_pos hspace, List.dropWhile_cons_of_neg hqblank]
  refine ⟨fun op symbol hop => ?_, fun op symbol hop => ?_, fun inner hinner c hc => ?_⟩
  · rw [hword, List.infix_nil]
    exact (symbol_plain hop).1
  · rw [hafter]
    intro hfront
    obtain ⟨c, tail, rfl⟩ := List.exists_cons_of_ne_nil (symbol_plain hop).1
    have hsame : c = q := (List.cons_prefix_cons.mp hfront).1
    exact not_mem_symbol hq hop (hsame ▸ List.mem_cons_self)
  · rw [hafter]
    rcases hq with rfl | rfl <;> cases inner <;> simp [keyword]

/-- What stands between the symbol and the end of a comparison is no part of a symbol. -/
theorem head?_operand (h : r.IsProper) : (r.space ++ r.literal.chars).head? ≠ some '=' := by
  intro hequals
  by_cases hspace : r.space = []
  · have hquoted : r.literal.isQuoted = true := h.apart.resolve_right fun hapart => hapart.2 hspace
    obtain ⟨q, hq, hfirst, _⟩ := Literal.exists_quote h.literal hquoted
    rw [hspace, List.nil_append, hfirst, Option.some.injEq] at hequals
    rcases hq with rfl | rfl <;> exact absurd hequals (by decide)
  · rw [List.head?_append_of_ne_nil r.space hspace] at hequals
    exact absurd (h.space _ (List.mem_of_head? hequals)) (by decide)

/-- Where a blank stands before the symbol, a comparison is read as it is written. -/
theorem ofClause_of_gap (h : r.IsProper) (hgap : r.gap ≠ []) (hpadded : Padded r.chars padded) :
    ofClause padded = .ok (.compare r.clause.comparison) := by
  obtain ⟨before, after, hbefore, hafter, rfl⟩ := hpadded
  obtain ⟨symbol, hsymbol⟩ := Option.isSome_iff_exists.mp h.symbol
  have htext : r.chars ++ after = r.reference ++ (r.gap ++ (symbol ++ ((r.space ++ r.literal.chars) ++ after))) := by
    simp only [chars, hsymbol, Option.getD_some, List.append_assoc]
  have hoperandPadded : Padded r.literal.chars ((r.space ++ r.literal.chars) ++ after) :=
    ⟨r.space, after, h.space, hafter, List.append_assoc _ _ _⟩
  have hoperand : trimChars ((r.space ++ r.literal.chars) ++ after) = r.literal.chars := by
    rw [trimChars_padded hoperandPadded, h.literal.tight.trimChars_eq]
  have hnext : ((r.space ++ r.literal.chars) ++ after).head? ≠ some '=' := by
    rw [List.head?_append_of_ne_nil _ (List.append_ne_nil_of_right_ne_nil _ h.literal.tight.ne_nil)]
    exact head?_operand h
  have hrelation := relation_eq h.reference hsymbol h.gap hgap hnext
    (by rw [hoperand]; exact h.literal.not_mem_newline) hbefore
  have hmembership : membership? (before ++ (r.reference ++
      (r.gap ++ (symbol ++ ((r.space ++ r.literal.chars) ++ after))))) = none := by
    obtain ⟨c, gap, hsplit⟩ := List.exists_cons_of_ne_nil hgap
    have hblanks := h.gap
    rw [hsplit, AreBlank, List.forall_mem_cons] at hblanks
    obtain ⟨hfront, hkeyword⟩ := front_of_symbol hsymbol ((r.space ++ r.literal.chars) ++ after)
    rw [hsplit, List.cons_append, membership_eq h.reference hbefore hblanks.1,
      List.dropWhile_append_of_pos hblanks.2, hfront, hkeyword, Option.bind_none]
  rw [htext, ofClause, hmembership]
  simp only [hrelation, hoperand, h.literal.literalOf_eq]
  rfl

/-- **A comparison is read as it is written exactly if a blank stands on either side of its symbol, or its literal is
clear.** -/
theorem ofClause_eq_iff (h : r.IsProper) (hpadded : Padded r.chars padded) :
    ofClause padded = .ok (.compare r.clause.comparison) ↔ r.IsClear := by
  by_cases hgap : r.gap ≠ []
  · exact iff_of_true (ofClause_of_gap h hgap hpadded) fun hnil => absurd hnil hgap
  rw [not_not] at hgap
  obtain ⟨before, after, hbefore, hafter, rfl⟩ := hpadded
  obtain ⟨symbol, hsymbol⟩ := Option.isSome_iff_exists.mp h.symbol
  have hquoted : r.literal.isQuoted = true := h.apart.resolve_right fun hapart => hapart.1 hgap
  obtain ⟨q, hq, hfirst, hlast⟩ := Literal.exists_quote h.literal hquoted
  have htext : r.chars ++ after = r.reference ++ (symbol ++ ((r.space ++ r.literal.chars) ++ after)) := by
    simp only [chars, hgap, hsymbol, Option.getD_some, List.append_assoc, List.nil_append]
  rw [htext]
  constructor
  · intro hread _ hspace
    rw [hspace, List.nil_append] at hread
    exact clear_of_ofClause h.reference hsymbol hbefore hafter hq hlast h.literal.not_mem_newline hread
  · intro hclear
    have hspaced : Padded r.literal.chars (r.space ++ r.literal.chars) :=
      ⟨r.space, [], h.space, List.forall_mem_nil _, by rw [List.append_nil]⟩
    have hv : literalOf (r.space ++ r.literal.chars) = .ok r.literal.value := by
      rw [literalOf_padded hspaced, h.literal.literalOf_eq]
    have hline : '\n' ∉ trimChars (r.space ++ r.literal.chars) := by
      rw [trimChars_padded hspaced, h.literal.tight.trimChars_eq]
      exact h.literal.not_mem_newline
    have hend : (r.space ++ r.literal.chars).getLast? = some q := by
      rw [List.getLast?_append, hlast]
      rfl
    refine ofClause_of_clear h.reference hsymbol hbefore hafter hq hend (head?_operand h) hline hv ?_
    by_cases hspace : r.space = []
    · rw [hspace, List.nil_append]
      exact hclear hgap hspace
    · exact isClear_of_space h.space hspace hq hfirst

end WrittenRelation

/-- The search for a separator goes over a symbol, which has no mark at either end. -/
theorem symbol_edges {mark : Char} (hmark : IsMark mark) {op : Operator} {symbol : List Char}
    (h : symbolOf? op = some symbol) :
    Passes mark symbol ∧ symbol.getLast? ≠ some mark ∧ ∀ rest, (symbol ++ rest).head? ≠ some mark := by
  have hbare : IsBare symbol := by cases op <;> cases h <;> decide
  refine ⟨hbare.passes hmark, ?_⟩
  rcases hmark with rfl | rfl <;> cases op <;> cases h <;> exact ⟨by decide, fun _ => by simp⟩

/-- The search for a separator goes over blank characters in front of what it goes over. -/
theorem Passes.blank_append {mark : Char} (hmark : IsMark mark) {blanks rest : List Char} (hblanks : AreBlank blanks)
    (h : Passes mark rest) : Passes mark (blanks ++ rest) :=
  (passes_blank hmark hblanks).append h fun hlast =>
    absurd (List.mem_of_getLast? hlast) (hmark.not_mem_blank hblanks)

/-- The search for a separator goes over what is spaced, if it goes over what stands between the blanks. -/
theorem passes_spaced {α : Type} {write : α → List Char} {x : Spaced α} {mark : Char} (hmark : IsMark mark)
    (hbefore : AreBlank x.before) (hafter : AreBlank x.after) (h : Passes mark (write x.core)) :
    Passes mark (x.chars write) := by
  have hend : Passes mark (write x.core ++ x.after) := h.append (passes_blank hmark hafter) fun _ hhead =>
    hmark.not_mem_blank hafter (List.mem_of_head? hhead)
  exact .blank_append hmark hbefore hend

/-- The search for a separator goes over a comparison, whatever is quoted in it. -/
theorem WrittenRelation.passes_chars {r : WrittenRelation} (h : r.IsProper) {mark : Char} (hmark : IsMark mark) :
    Passes mark r.chars := by
  obtain ⟨symbol, hsymbol⟩ := Option.isSome_iff_exists.mp h.symbol
  obtain ⟨hpasses, hend, hfront⟩ := symbol_edges hmark hsymbol
  have hfirst : ∀ rest, (r.gap ++ (symbol ++ rest)).head? ≠ some mark := by
    intro rest
    by_cases hgap : r.gap = []
    · rw [hgap, List.nil_append]
      exact hfront rest
    · rw [List.head?_append_of_ne_nil r.gap hgap]
      exact fun hhead => hmark.not_mem_blank h.gap (List.mem_of_head? hhead)
  have hrest : Passes mark (symbol ++ (r.space ++ r.literal.chars)) :=
    hpasses.append (.blank_append hmark h.space (h.literal.passes hmark)) fun hlast => absurd hlast hend
  rw [chars, hsymbol, Option.getD_some]
  exact (h.reference.passes hmark).append (.blank_append hmark h.gap hrest) fun _ => hfirst _

/-- The search for a separator goes over the keyword of a membership, which ends with a letter. -/
theorem passes_keyword {inner : Option (List Char)} (h : IsKeyword inner) {mark : Char} (hmark : IsMark mark) :
    Passes mark (keyword inner) ∧ (keyword inner).getLast? ≠ some mark := by
  have hin : Passes mark "in".toList := IsBare.passes (by decide) hmark
  have hnot : Passes mark "not".toList := IsBare.passes (by decide) hmark
  have hlast : (keyword inner).getLast? = some 'n' := by
    cases inner with
    | none => rfl
    | some gap =>
      rw [keyword, List.getLast?_append, List.getLast?_append]
      rfl
  constructor
  · cases inner with
    | none => exact hin
    | some gap =>
      refine hnot.append (.blank_append hmark (h gap rfl).2 hin) fun hend => ?_
      rcases hmark with rfl | rfl <;> exact absurd hend (by decide)
  · rw [hlast]
    rcases hmark with rfl | rfl <;> decide

/-- The search for a separator goes over a membership, whatever is quoted in it. -/
theorem WrittenMembership.passes_chars {m : WrittenMembership} (h : m.IsProper) {mark : Char} (hmark : IsMark mark) :
    Passes mark m.chars := by
  have hmembers : Passes mark (membersChars m.members) := by
    have hcomma : ',' ≠ mark := by rcases hmark with rfl | rfl <;> decide
    refine passes_intercalate (fun ha hb => ?_) fun part hpart => ?_
    · rw [List.append_assoc]
      exact ha.glue hb (by decide) hcomma
    · obtain ⟨x, hx, rfl⟩ := List.mem_map.mp hpart
      have hmember := h.members x hx
      exact passes_spaced hmark hmember.before hmember.after (hmember.core.passes hmark)
  obtain ⟨hkeyword, hend⟩ := passes_keyword h.inner hmark
  have hrest : Passes mark (keyword m.inner ++ (m.space ++ membersChars m.members)) :=
    hkeyword.append (.blank_append hmark h.space hmembers) fun hlast => absurd hlast hend
  refine (h.reference.passes hmark).append (.blank_append hmark h.gap hrest) fun _ hhead => ?_
  rw [List.head?_append_of_ne_nil m.gap h.gap_ne_nil] at hhead
  exact hmark.not_mem_blank h.gap (List.mem_of_head? hhead)

/-- A clause as it is written. -/
inductive Written where
  | relation (r : WrittenRelation)
  | membership (m : WrittenMembership)

namespace Written

/-- How it is written. -/
def chars : Written → List Char
  | .relation r => r.chars
  | .membership m => m.chars

/-- The clause that it writes. -/
def clause : Written → Clause
  | .relation r => r.clause
  | .membership m => m.clause

/-- Blank characters stand where they have to, and nowhere else than they may. -/
def IsProper : Written → Prop
  | .relation r => r.IsProper
  | .membership m => m.IsProper

/-- Nothing in the quotes is taken for something else: no symbol and no keyword in a comparison without blanks, and no
comma in a list. -/
def IsClear : Written → Prop
  | .relation r => r.IsClear
  | .membership m => ∀ x ∈ m.members, ',' ∉ x.core.chars

/-- **A clause is read as it is written exactly if it is clear,** whatever blanks are around it. -/
theorem ofClause_eq_iff {w : Written} (h : w.IsProper) {padded : List Char} (hpadded : Padded w.chars padded) :
    ofClause padded = .ok (.compare w.clause.comparison) ↔ w.IsClear := by
  cases w with
  | relation r => exact WrittenRelation.ofClause_eq_iff h hpadded
  | membership m => exact WrittenMembership.ofClause_eq_iff h hpadded

/-- The search for a separator goes over a clause, whatever is quoted in it. -/
theorem passes_chars {w : Written} (h : w.IsProper) {mark : Char} (hmark : IsMark mark) : Passes mark w.chars := by
  cases w with
  | relation r => exact WrittenRelation.passes_chars h hmark
  | membership m => exact WrittenMembership.passes_chars h hmark

theorem chars_ne_nil {w : Written} (h : w.IsProper) : w.chars ≠ [] := by
  cases w with
  | relation r => exact List.append_ne_nil_of_left_ne_nil h.reference.ne_nil _
  | membership m => exact List.append_ne_nil_of_left_ne_nil h.reference.ne_nil _

end Written

/-! ### Expressions -/

/-- A clause with blank characters around it.  Where it ends with a mark of a separator, a blank has to follow. -/
structure Spaced.IsClause (x : Spaced Written) : Prop where
  before : AreBlank x.before
  core : x.core.IsProper
  after : AreBlank x.after
  closed : ∀ mark ∈ ['&', '|'], (x.chars Written.chars).getLast? ≠ some mark

/-- The search for a separator goes over a spaced clause, and stops behind it. -/
theorem Spaced.IsClause.passes {x : Spaced Written} (h : x.IsClause) {mark : Char} (hmark : IsMark mark) :
    Passes mark (x.chars Written.chars) ∧ x.chars Written.chars ≠ [] ∧
      (x.chars Written.chars).getLast? ≠ some mark := by
  refine ⟨passes_spaced hmark h.before h.after (Written.passes_chars h.core hmark), ?_, ?_⟩
  · have hcore := Written.chars_ne_nil h.core
    exact List.append_ne_nil_of_right_ne_nil _ (List.append_ne_nil_of_left_ne_nil hcore _)
  · refine h.closed mark ?_
    rcases hmark with rfl | rfl <;> decide

/-- How alternatives are written, each of clauses of which all have to hold. -/
def writing (alternatives : List (List (Spaced Written))) : List Char :=
  ['|', '|'].intercalate (alternatives.map fun clauses => ['&', '&'].intercalate (clauses.map (Spaced.chars Written.chars)))

/-- Conditions that are joined in the same number are told apart by what they join. -/
theorem eq_of_joined_eq {join : List Condition → Condition} (hjoin : Function.Injective join) {xs ys : List Condition}
    (hlength : xs.length = ys.length) (h : joined join xs = joined join ys) : xs = ys := by
  match xs, ys with
  | [], [] => rfl
  | [x], [y] => exact congrArg (fun c => [c]) h
  | _ :: _ :: _, _ :: _ :: _ => exact hjoin h

/-- Conditions that are read one by one are joined as they are meant exactly if each of them is read so. -/
theorem mapM_joined_iff {α : Type} {join : List Condition → Condition} (hjoin : Function.Injective join) {xs : List α}
    {read : α → Except ConditionError Condition} {mean : α → Condition} :
    (xs.mapM read >>= fun members => pure (joined join members)) = .ok (joined join (xs.map mean)) ↔
      ∀ x ∈ xs, read x = .ok (mean x) := by
  constructor
  · intro h
    obtain ⟨members, hread, hsame⟩ := bind_eq_ok_iff.mp h
    have hlength : members.length = (xs.map mean).length := by
      rw [List.length_map]
      exact (mapM_eq_ok_iff.mp hread).length_eq.symm
    rw [eq_of_joined_eq hjoin hlength (Except.ok.inj hsame), mapM_eq_ok_iff, List.forall₂_map_right_iff,
      List.forall₂_same] at hread
    exact hread
  · intro h
    have hread : xs.mapM read = .ok (xs.map mean) :=
      mapM_eq_ok_iff.mpr (List.forall₂_map_right_iff.mpr (List.forall₂_same.mpr h))
    rw [hread]
    rfl

section Clauses

variable {clauses : List (Spaced Written)} (h : ∀ x ∈ clauses, x.IsClause)

include h

theorem passes_clauses {mark : Char} (hmark : IsMark mark) {part : List Char}
    (hpart : part ∈ clauses.map (Spaced.chars Written.chars)) :
    Passes mark part ∧ part ≠ [] ∧ part.getLast? ≠ some mark := by
  obtain ⟨x, hx, rfl⟩ := List.mem_map.mp hpart
  exact (h x hx).passes hmark

/-- Clauses that all have to hold are read one by one. -/
theorem ofConjunction_clauses (hne : clauses ≠ []) :
    ofConjunction (['&', '&'].intercalate (clauses.map (Spaced.chars Written.chars))) =
      clauses.mapM (fun x => ofClause (x.chars Written.chars)) >>= fun members => pure (joined .all members) := by
  have hsome : clauses.map (Spaced.chars Written.chars) ≠ [] := by simpa using hne
  rw [ofConjunction, cutOutside_intercalate (.inl rfl) hsome fun part hpart =>
    ⟨(passes_clauses h (.inl rfl) hpart).1, (passes_clauses h (.inl rfl) hpart).2.2⟩, List.mapM_map]
  rfl

/-- The search for alternatives goes over clauses that all have to hold, and stops behind them. -/
theorem passes_conjunction (hne : clauses ≠ []) :
    Passes '|' (['&', '&'].intercalate (clauses.map (Spaced.chars Written.chars))) ∧
      (['&', '&'].intercalate (clauses.map (Spaced.chars Written.chars))).getLast? ≠ some '|' := by
  have hsome : clauses.map (Spaced.chars Written.chars) ≠ [] := by simpa using hne
  have hparts := fun part (hpart : part ∈ clauses.map (Spaced.chars Written.chars)) =>
    passes_clauses h (.inr rfl) hpart
  have hand : Passes '|' ['&', '&'] := passes_of_plain (forall_mem_of_all (by decide)) (by decide)
  refine ⟨passes_intercalate (fun ha hb => ?_) fun part hpart => (hparts part hpart).1,
    (getLast?_intercalate_ne _ hsome fun part hpart => (hparts part hpart).2).2⟩
  rw [List.append_assoc]
  exact ha.append (hand.append hb fun hlast => absurd hlast (by decide)) fun _ => by simp

end Clauses

/-- The clauses of an expression are read one by one. -/
theorem ofExpression_writing {alternatives : List (List (Spaced Written))} (hne : alternatives ≠ [])
    (h : ∀ clauses ∈ alternatives, clauses ≠ [] ∧ ∀ x ∈ clauses, x.IsClause) :
    ofExpression (String.ofList (writing alternatives)) =
      alternatives.mapM (fun clauses => clauses.mapM (fun x => ofClause (x.chars Written.chars)) >>= fun members =>
        pure (joined .all members)) >>= fun members => pure (joined .any members) := by
  have hparts : ∀ part ∈ alternatives.map fun clauses => ['&', '&'].intercalate (clauses.map (Spaced.chars Written.chars)),
      Passes '|' part ∧ part.getLast? ≠ some '|' := by
    intro part hpart
    obtain ⟨clauses, hmem, rfl⟩ := List.mem_map.mp hpart
    exact passes_conjunction (h clauses hmem).2 (h clauses hmem).1
  have hread : (alternatives.mapM fun clauses =>
      ofConjunction (['&', '&'].intercalate (clauses.map (Spaced.chars Written.chars)))) =
        alternatives.mapM fun clauses => clauses.mapM (fun x => ofClause (x.chars Written.chars)) >>= fun members =>
          pure (joined .all members) :=
    mapM_congr fun clauses hmem => ofConjunction_clauses (h clauses hmem).2 (h clauses hmem).1
  rw [ofExpression, String.toList_ofList, writing, cutOutside_intercalate (.inr rfl) (by simpa using hne) hparts,
    List.mapM_map, ← hread]
  rfl

/-- **An expression is read as it is written exactly if all its clauses are clear.** -/
theorem reads_as_written_iff {alternatives : List (List (Spaced Written))} (hne : alternatives ≠ [])
    (hclauses : ∀ clauses ∈ alternatives, clauses ≠ [] ∧ ∀ x ∈ clauses, x.IsClause) :
    ofExpression (String.ofList (writing alternatives)) =
        .ok (meaning (alternatives.map fun clauses => clauses.map fun x => x.core.clause)) ↔
      ∀ clauses ∈ alternatives, ∀ x ∈ clauses, x.core.IsClear := by
  have hmeaning : meaning (alternatives.map fun clauses => clauses.map fun x => x.core.clause) =
      joined .any (alternatives.map fun clauses => joined .all (clauses.map fun x =>
        .compare x.core.clause.comparison)) := by
    simp only [meaning, List.map_map, Function.comp_def]
  rw [ofExpression_writing hne hclauses, hmeaning, mapM_joined_iff fun _ _ h => Condition.any.inj h]
  refine forall₂_congr fun clauses hmem => ?_
  rw [mapM_joined_iff fun _ _ h => Condition.all.inj h]
  refine forall₂_congr fun x hx => ?_
  have hclause := (hclauses clauses hmem).2 x hx
  exact Written.ofClause_eq_iff hclause.core ⟨x.before, x.after, hclause.before, hclause.after, rfl⟩

/-- A title with a separator in it, and no blank beside the symbol. -/
def byTitle : Spaced Written :=
  ⟨[], .relation ⟨"title".toList, [], .equals, [], .quoted '\'' "a || b, c".toList⟩, [' ']⟩

/-- Kinds with quotes in them, and blanks within the keyword and beside a comma. -/
def byKind : Spaced Written :=
  ⟨[' '], .membership ⟨"kind".toList, [' '], some [' ', ' '], [' '],
    [⟨[], .quoted '\'' "d e".toList, [' ']⟩, ⟨[], .quoted '"' "f's".toList, []⟩, ⟨[], .whole .bare ['7'], []⟩]⟩, []⟩

/-- A size that is not quoted. -/
def bySize : Spaced Written :=
  ⟨[], .relation ⟨"size".toList, ['\t'], .atLeast, [' '], .pointed .plus ['2'] ['5', '0']⟩, []⟩

theorem isClause_byTitle : byTitle.IsClause where
  before := forall_mem_of_all (by decide)
  core := ⟨by decide +kernel, forall_mem_of_all (by decide), rfl, forall_mem_of_all (by decide), by decide +kernel,
    .inl rfl⟩
  after := forall_mem_of_all (by decide)
  closed := forall_mem_of_all (by decide +kernel)

theorem isClause_byKind : byKind.IsClause where
  before := forall_mem_of_all (by decide)
  core := by
    have hblank : AreBlank [' '] := forall_mem_of_all (by decide)
    have hnone : AreBlank [] := List.forall_mem_nil _
    refine ⟨by decide +kernel, hblank, List.cons_ne_nil _ _, ?_, hblank, List.cons_ne_nil _ _,
      List.cons_ne_nil _ _, ?_⟩
    · rintro gap hgap
      cases hgap
      exact ⟨List.cons_ne_nil _ _, forall_mem_of_all (by decide)⟩
    · simp only [List.mem_cons, List.not_mem_nil, or_false, forall_eq_or_imp, forall_eq]
      exact ⟨⟨hnone, by decide +kernel, hblank, by decide⟩, ⟨hnone, by decide +kernel, hnone, by decide⟩,
        ⟨hnone, by decide +kernel, hnone, by decide⟩⟩
  after := List.forall_mem_nil _
  closed := forall_mem_of_all (by decide +kernel)

theorem isClause_bySize : bySize.IsClause where
  before := List.forall_mem_nil _
  core := ⟨by decide +kernel, forall_mem_of_all (by decide), rfl, forall_mem_of_all (by decide), by decide +kernel,
    .inr ⟨List.cons_ne_nil _ _, List.cons_ne_nil _ _⟩⟩
  after := List.forall_mem_nil _
  closed := forall_mem_of_all (by decide +kernel)

/-- No symbol and no keyword stands in the title: its second word begins with the separator. -/
theorem isClear_byTitle : byTitle.core.IsClear := by
  have hafter : afterWord (Literal.chars (.quoted '\'' "a || b, c".toList)) = "|| b, c'".toList := by decide +kernel
  refine fun _ _ => ⟨fun op symbol hop => ?_, fun op symbol hop => ?_, fun inner hinner c hc => ?_⟩
  · cases op <;> cases hop <;> decide +kernel
  · cases op <;> cases hop <;> decide +kernel
  · rw [hafter]
    cases inner <;> simp [keyword]

/-- A quoted title with both separators in it, a list with a quote of the other sort, and a signed number between blanks
are read as they are written. -/
theorem reads_as_written_of_titles :
    (∀ clauses ∈ [[byTitle, byKind], [bySize]], clauses ≠ [] ∧ ∀ x ∈ clauses, x.IsClause) ∧
      ofExpression "title=='a || b, c' && kind not  in 'd e' ,\"f's\",7||size\t>= +2.50" =
        .ok (meaning [[.relation "title".toList .equals (.quoted '\'' "a || b, c".toList),
          .membership "kind".toList true [.quoted '\'' "d e".toList, .quoted '"' "f's".toList, .whole .bare ['7']]],
          [.relation "size".toList .atLeast (.pointed .plus ['2'] ['5', '0'])]]) := by
  have hclauses : ∀ clauses ∈ [[byTitle, byKind], [bySize]], clauses ≠ [] ∧ ∀ x ∈ clauses, x.IsClause := by
    simp only [List.mem_cons, List.not_mem_nil, or_false, forall_eq_or_imp, forall_eq]
    exact ⟨⟨List.cons_ne_nil _ _, isClause_byTitle, isClause_byKind⟩, List.cons_ne_nil _ _, isClause_bySize⟩
  have hclear : ∀ clauses ∈ [[byTitle, byKind], [bySize]], ∀ x ∈ clauses, x.core.IsClear := by
    simp only [List.mem_cons, List.not_mem_nil, or_false, forall_eq_or_imp, forall_eq]
    have hcomma : byKind.core.IsClear := by
      show ∀ x ∈ _, ',' ∉ Literal.chars (Spaced.core x)
      decide +kernel
    exact ⟨⟨isClear_byTitle, hcomma⟩, fun hgap => absurd hgap (List.cons_ne_nil _ _)⟩
  have htext : String.ofList (writing [[byTitle, byKind], [bySize]]) =
      "title=='a || b, c' && kind not  in 'd e' ,\"f's\",7||size\t>= +2.50" := by decide +kernel
  have hread := (reads_as_written_iff (List.cons_ne_nil _ _) hclauses).mpr hclear
  rw [htext] at hread
  exact ⟨hclauses, hread⟩

/-- **Not every quote protects.**  A comma in quotes ends a member of a list, and a symbol or a keyword in quotes is taken
for the one of the comparison, where no blank stands beside that one. -/
theorem not_every_quote_protects :
    ofExpression "kind in 'a,b',c" =
        .ok (.compare ⟨"kind", .oneOf, .list [.text "'a", .text "b'", .text "c"], none⟩) ∧
      ofExpression "a=='x==y'" = .ok (.compare ⟨"a=='x", .equals, .text "y'", none⟩) ∧
      ofExpression "a=='x in y'" = .ok (.compare ⟨"a=='x", .oneOf, .list [.text "y'"], none⟩) := by
  have hone : ∀ {text : String}, cutOutside ['|', '|'] none text.toList = [text.toList] →
      cutOutside ['&', '&'] none text.toList = [text.toList] → ∀ {c}, ofClause text.toList = .ok c →
      ofExpression text = .ok c := by
    intro text hor hand c hread
    rw [ofExpression, hor, List.mapM_cons, ofConjunction, hand, List.mapM_cons, hread]
    rfl
  refine ⟨hone ?_ ?_ rfl, hone ?_ ?_ rfl, hone ?_ ?_ rfl⟩ <;> decide +kernel

end FormCheck.Condition
