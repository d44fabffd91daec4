import FormCheck.Proofs.Condition.Literals
import FormCheck.Proofs.Condition.Operands

/-!
# The two written forms of a condition

A condition is written as an expression or as an object.  The reader of expressions finds the separators, the words and
the operands for itself; in an object they stand apart.

* `Condition.Clause` — a comparison of a reference with one literal or with several;
* `Clause.chars`, `Clause.document` — a clause in an expression, and as an object;
* `Condition.expression`, `Condition.document`, `Condition.nested` — alternatives of joined clauses in an expression, as
  an object that joins only where there are several, and as one that joins at both levels;
* `Condition.ofClause_padded` — **proved**: a clause in an expression is read as its comparison;
* `Condition.written_forms_agree` — **proved**: what is written in either form is the same condition.
-/

namespace FormCheck.Condition

open Text Fallible

/-! ### Clauses -/

/-- How an operator is written that compares with one literal. -/
def symbolOf? : Operator → Option (List Char)
  | .equals => some ['=', '=']
  | .notEquals => some ['!', '=']
  | .atLeast => some ['>', '=']
  | .atMost => some ['<', '=']
  | .above => some ['>']
  | .below => some ['<']
  | .oneOf | .noneOf | .empty => none

/-- A comparison with one literal, or the membership of a list of literals or its negation. -/
inductive Clause where
  | relation (reference : List Char) (op : Operator) (literal : Literal)
  | membership (reference : List Char) (negated : Bool) (literals : List Literal)

namespace Clause

/-- How a clause is written in an expression. -/
def chars : Clause → List Char
  | .relation reference op literal => reference ++ ' ' :: ((symbolOf? op).getD [] ++ ' ' :: literal.chars)
  | .membership reference negated literals =>
    reference ++ ' ' :: ((if negated then "not in" else "in").toList ++
      ' ' :: [','].intercalate (literals.map Literal.chars))

/-- How a clause is written as an object. -/
def document : Clause → Value
  | .relation reference op literal => .object [("path", .text (String.ofList reference)), (op.key, literal.value)]
  | .membership reference negated literals =>
    .object [("path", .text (String.ofList reference)),
      (if negated then "not_in" else "in", .list (literals.map Literal.value))]

/-- The comparison that a clause stands for. -/
def comparison : Clause → Comparison
  | .relation reference op literal => ⟨String.ofList reference, op, literal.value, none⟩
  | .membership reference negated literals =>
    ⟨String.ofList reference, if negated then .noneOf else .oneOf, .list (literals.map Literal.value), none⟩

/-- What a clause is written with: a reference that is not empty and has no blank characters, quotes and separators in
it, an operator with a symbol, and literals. -/
def IsProper : Clause → Prop
  | .relation reference op literal => IsBare reference ∧ (symbolOf? op).isSome = true ∧ literal.IsProper
  | .membership reference _ literals => IsBare reference ∧ literals ≠ [] ∧ ∀ l ∈ literals, l.IsProper

instance : DecidablePred IsProper
  | .relation _ _ _ => inferInstanceAs (Decidable (_ ∧ _ ∧ _))
  | .membership _ _ _ => inferInstanceAs (Decidable (_ ∧ _ ∧ _))

end Clause

/-! ### Reading a clause -/

section Reading

variable {reference before after : List Char}

/-- The first word of a clause ends at the first blank character. -/
theorem takeWhile_word (h : IsBare reference) (hbefore : ∀ c ∈ before, isBlank c = true) {rest : List Char}
    (hrest : ∀ c ∈ rest.head?, isBlank c = true) :
    ((before ++ (reference ++ rest)).dropWhile isBlank).takeWhile (!isBlank ·) = reference ∧
      ((before ++ (reference ++ rest)).dropWhile isBlank).dropWhile (!isBlank ·) = rest := by
  have hword : ∀ c ∈ reference, (!isBlank c) = true := fun c hc => by rw [(h.plain c hc).1]; rfl
  rw [h.tight.dropWhile_append hbefore, List.takeWhile_append_of_pos hword, List.dropWhile_append_of_pos hword]
  cases rest with
  | nil => exact ⟨List.append_nil reference, rfl⟩
  | cons c rest =>
    have hblank : ¬ ((!isBlank c) = true) := by simp [hrest c rfl]
    rw [List.takeWhile_cons_of_neg (p := (!isBlank ·)) hblank, List.dropWhile_cons_of_neg (p := (!isBlank ·)) hblank]
    exact ⟨List.append_nil reference, rfl⟩

theorem membership_eq (h : IsBare reference) (hbefore : ∀ c ∈ before, isBlank c = true) {c : Char}
    (hc : isBlank c = true) (rest : List Char) :
    membership? (before ++ (reference ++ c :: rest)) =
      (leadingKeyword? (rest.dropWhile isBlank)).bind fun found =>
        (memberOperand? found.2).map fun operand => (reference, found.1, operand) := by
  have hhead : ∀ d ∈ (c :: rest).head?, isBlank d = true := fun _ hd => Option.some.inj hd ▸ hc
  obtain ⟨hword, hrest⟩ := takeWhile_word h hbefore hhead
  have hne : reference.isEmpty = false := List.isEmpty_eq_false_iff.mpr h.ne_nil
  have hblanks : afterBlanks? (c :: rest) = some (rest.dropWhile isBlank) := by rw [afterBlanks?, if_pos hc]
  rw [membership?]
  simp only [hword, hrest, hblanks, hne, Option.bind_eq_bind, Option.bind_some, Bool.false_eq_true, if_false,
    Option.map_eq_bind]
  rfl

/-- The operand of a membership is what stands between the blanks. -/
theorem memberOperand_eq {c : Char} {blanks operand : List Char} (hc : isBlank c = true)
    (hblanks : ∀ c ∈ blanks, isBlank c = true) (hne : trimChars operand ≠ []) (hline : '\n' ∉ trimChars operand) :
    memberOperand? (c :: (blanks ++ operand)) = some (trimChars operand) := by
  have hbody : afterBlanks? (c :: (blanks ++ operand)) = some (operand.dropWhile isBlank) := by
    rw [afterBlanks?, if_pos hc, List.dropWhile_append_of_pos hblanks]
  have hsome : (operand.dropWhile isBlank).isEmpty = false := by
    rw [List.isEmpty_eq_false_iff]
    intro hnone
    rw [trimChars, hnone] at hne
    exact hne rfl
  have hcontains : (trimRightChars (operand.dropWhile isBlank)).contains '\n' = false :=
    Bool.eq_false_iff.mpr fun hmem => hline (List.contains_iff_mem.mp hmem)
  rw [memberOperand?]
  simp only [hbody, hsome, hcontains, Option.bind_eq_bind, Option.bind_some, Bool.false_eq_true, if_false]
  rfl

/-- A symbol is found at the front of a text, unless what follows makes another one of it. -/
theorem leadingSymbol_eq {op : Operator} {symbol rest : List Char} (h : symbolOf? op = some symbol)
    (hrest : rest.head? ≠ some '=') : leadingSymbol? (symbol ++ rest) = some (op, rest) := by
  have hnext : ['='].isPrefixOf rest = false := by
    cases rest with
    | nil => rfl
    | cons d rest =>
      have hd : '=' ≠ d := fun hd => hrest (congrArg some hd.symm)
      simp [List.isPrefixOf, hd]
  cases op <;> cases h <;> simp [leadingSymbol?, symbols, List.isPrefixOf, hnext]

/-- A symbol is no keyword, and no blank character. -/
theorem front_of_symbol {op : Operator} {symbol : List Char} (h : symbolOf? op = some symbol) (rest : List Char) :
    (symbol ++ rest).dropWhile isBlank = symbol ++ rest ∧ leadingKeyword? (symbol ++ rest) = none := by
  cases op <;> cases h <;> exact ⟨rfl, rfl⟩

theorem relation_eq {op : Operator} {symbol gap rest : List Char} (h : IsBare reference)
    (hsymbol : symbolOf? op = some symbol) (hgap : ∀ c ∈ gap, isBlank c = true) (hne : gap ≠ [])
    (hrest : rest.head? ≠ some '=') (hline : '\n' ∉ trimChars rest) (hbefore : ∀ c ∈ before, isBlank c = true) :
    relation? (before ++ (reference ++ (gap ++ (symbol ++ rest)))) = some (reference, op, trimChars rest) := by
  have hhead : ∀ c ∈ (gap ++ (symbol ++ rest)).head?, isBlank c = true := by
    rw [List.head?_append_of_ne_nil gap hne]
    exact fun c hc => hgap c (List.mem_of_head? hc)
  obtain ⟨hword, hafter⟩ := takeWhile_word h hbefore hhead
  have hreference : reference.isEmpty = false := List.isEmpty_eq_false_iff.mpr h.ne_nil
  have hcontains : (trimChars rest).contains '\n' = false := by simpa using hline
  have hcut : cutAtSymbol? reference (gap ++ (symbol ++ rest)) = some (reference, op, rest) := by
    rw [cutAtSymbol?, List.dropWhile_append_of_pos hgap, (front_of_symbol hsymbol rest).1,
      leadingSymbol_eq hsymbol hrest]
  rw [relation?]
  simp only [hword, hafter, hcut, hreference, hcontains, Option.bind_eq_bind, Option.bind_some, Bool.or_self,
    Bool.false_eq_true, if_false]

end Reading

namespace Literal

/-- Literals with commas between them stand in one line, and no blank at the ends of it. -/
theorem tight_intercalate {literals : List Literal} (hne : literals ≠ []) (h : ∀ l ∈ literals, l.IsProper) :
    IsTight ([','].intercalate (literals.map chars)) ∧ '\n' ∉ [','].intercalate (literals.map chars) := by
  have hpart : ∀ part ∈ literals.map chars, IsTight part ∧ '\n' ∉ part := by
    intro part hpart
    obtain ⟨l, hl, rfl⟩ := List.mem_map.mp hpart
    exact ⟨tight_chars (h l hl), (not_mem_chars (h l hl)).1⟩
  refine ⟨.intercalate (by simpa using hne) (fun part hmem => (hpart part hmem).1) [','], ?_⟩
  exact not_mem_intercalate (by decide) fun part hmem => (hpart part hmem).2

/-- Literals with commas between them are read as their values. -/
theorem literalsOf_intercalate {literals : List Literal} (hne : literals ≠ []) (h : ∀ l ∈ literals, l.IsProper) :
    literalsOf ([','].intercalate (literals.map chars)) = .ok (literals.map value) := by
  have hcut : cutAt ',' ([','].intercalate (literals.map chars)) = literals.map chars := by
    refine cutAt_intercalate (by simpa using hne) fun part hpart => ?_
    obtain ⟨l, hl, rfl⟩ := List.mem_map.mp hpart
    exact (not_mem_chars (h l hl)).2
  rw [literalsOf, hcut]
  exact mapM_map_of_forall fun l hl => literalOf_chars (h l hl)

end Literal

/-- **A clause is read as the comparison that it stands for,** whatever blanks are around it. -/
theorem ofClause_padded {c : Clause} (h : c.IsProper) {padded : List Char} (hpadded : Padded c.chars padded) :
    ofClause padded = .ok (.compare c.comparison) := by
  obtain ⟨before, after, hbefore, hafter, rfl⟩ := hpadded
  have hspace : ∀ c ∈ [' '], isBlank c = true := forall_mem_of_all (by decide)
  have hnone : ∀ c ∈ [], isBlank c = true := List.forall_mem_nil _
  cases c with
  | relation reference op literal =>
    obtain ⟨hreference, hop, hliteral⟩ := h
    obtain ⟨symbol, hsymbol⟩ := Option.isSome_iff_exists.mp hop
    have htext : (Clause.relation reference op literal).chars ++ after =
        reference ++ ' ' :: (symbol ++ ' ' :: (literal.chars ++ after)) := by
      simp only [Clause.chars, hsymbol, Option.getD_some, List.append_assoc, List.cons_append]
    obtain ⟨hblanks, hkeyword⟩ := front_of_symbol hsymbol (' ' :: (literal.chars ++ after))
    have htrim : trimChars (' ' :: (literal.chars ++ after)) = literal.chars :=
      trimChars_of_tight (Literal.tight_chars hliteral) hspace hafter
    have hline : '\n' ∉ trimChars (' ' :: (literal.chars ++ after)) := by
      rw [htrim]
      exact (Literal.not_mem_chars hliteral).1
    have hrelation : relation? (before ++ (reference ++ ([' '] ++ (symbol ++ ' ' :: (literal.chars ++ after))))) =
        some (reference, op, trimChars (' ' :: (literal.chars ++ after))) :=
      relation_eq hreference hsymbol hspace (List.cons_ne_nil _ _) (by simp) hline hbefore
    rw [htrim, List.singleton_append] at hrelation
    rw [htext, ofClause, membership_eq hreference hbefore (by decide), hblanks, hkeyword, Option.bind_none]
    simp only [hrelation, literalOf_chars hliteral]
    rfl
  | membership reference negated literals =>
    obtain ⟨hreference, hne, hliterals⟩ := h
    have htext : (Clause.membership reference negated literals).chars ++ after =
        reference ++ ' ' :: ((if negated then "not in" else "in").toList ++
          ' ' :: ([','].intercalate (literals.map Literal.chars) ++ after)) := by
      simp only [Clause.chars, List.append_assoc, List.cons_append]
    have hkeyword : ∀ rest, leadingKeyword?
        (((if negated then "not in" else "in").toList ++ ' ' :: rest).dropWhile isBlank) =
          some (if negated then .noneOf else .oneOf, ' ' :: rest) := by
      intro rest
      cases negated <;> rfl
    obtain ⟨htight, hline⟩ := Literal.tight_intercalate hne hliterals
    have htrim : trimChars ([','].intercalate (literals.map Literal.chars) ++ after) =
        [','].intercalate (literals.map Literal.chars) := trimChars_of_tight htight hnone hafter
    have hsome : trimChars ([','].intercalate (literals.map Literal.chars) ++ after) ≠ [] := by
      rw [htrim]
      exact htight.ne_nil
    have hoperand := memberOperand_eq (c := ' ') (by decide) hnone hsome (htrim.symm ▸ hline)
    rw [List.nil_append, htrim] at hoperand
    rw [htext, ofClause, membership_eq hreference hbefore (by decide), hkeyword, Option.bind_some, hoperand,
      Option.map_some]
    simp only [Literal.literalsOf_intercalate hne hliterals]
    rfl

/-! ### Expressions -/

/-- The search for a separator goes over a clause. -/
theorem Clause.passes_chars {c : Clause} (h : c.IsProper) {mark : Char} (hmark : IsMark mark) :
    Passes mark c.chars := by
  have hspace := hmark.space_ne
  have hword : ∀ {cs : List Char}, IsBare cs → Passes mark cs := fun hcs => hcs.passes hmark
  cases c with
  | relation reference op literal =>
    obtain ⟨hreference, hop, hliteral⟩ := h
    have hsymbol : Passes mark ((symbolOf? op).getD []) := by
      obtain ⟨symbol, hsymbol⟩ := Option.isSome_iff_exists.mp hop
      rw [hsymbol, Option.getD_some]
      cases op <;> cases hsymbol <;> exact hword (by decide)
    exact (hword hreference).glue (hsymbol.glue (Literal.passes_chars hliteral hmark) (by decide) hspace) (by decide)
      hspace
  | membership reference negated literals =>
    obtain ⟨hreference, _, hliterals⟩ := h
    have hcomma : ',' ≠ mark := by rcases hmark with rfl | rfl <;> decide
    have hoperand : Passes mark ([','].intercalate (literals.map Literal.chars)) := by
      refine passes_intercalate (fun ha hb => ?_) fun part hpart => ?_
      · rw [List.append_assoc]
        exact ha.glue hb (by decide) hcomma
      · obtain ⟨l, hl, rfl⟩ := List.mem_map.mp hpart
        exact Literal.passes_chars (hliterals l hl) hmark
    have hin : Passes mark "in".toList := hword (by decide)
    have hkeyword : Passes mark (if negated then "not in" else "in").toList := by
      cases negated with
      | false => exact hin
      | true => exact (hword (by decide : IsBare "not".toList)).glue hin (by decide) hspace
    exact (hword hreference).glue (hkeyword.glue hoperand (by decide) hspace) (by decide) hspace

/-- How clauses are written of which all have to hold. -/
def conjunction (clauses : List Clause) : List Char :=
  joinSpaced '&' (clauses.map Clause.chars)

/-- How alternatives are written, each of clauses of which all have to hold. -/
def expression (alternatives : List (List Clause)) : String :=
  String.ofList (joinSpaced '|' (alternatives.map conjunction))

/-- The condition that alternatives stand for.  A single one stands for itself. -/
def meaning (alternatives : List (List Clause)) : Condition :=
  joined .any (alternatives.map fun clauses => joined .all (clauses.map fun c => .compare c.comparison))

/-- Parts with blanks around them are read as what they stand for, one by one. -/
theorem mapM_of_padded {α β : Type} {read : List Char → Except ConditionError β} {write : α → List Char} {mean : α → β}
    {xs : List α} {parts : List (List Char)} (hparts : List.Forall₂ Padded (xs.map write) parts)
    (hread : ∀ x ∈ xs, ∀ {part}, Padded (write x) part → read part = .ok (mean x)) :
    parts.mapM read = .ok (xs.map mean) := by
  induction xs generalizing parts with
  | nil =>
    cases hparts
    rfl
  | cons x xs ih =>
    rw [List.map_cons] at hparts
    cases hparts with
    | cons hpart hrest =>
      rw [List.mapM_cons, hread x List.mem_cons_self hpart, ih hrest fun y hy => hread y (List.mem_cons_of_mem x hy)]
      rfl

theorem ofConjunction_padded {clauses : List Clause} (hne : clauses ≠ []) (h : ∀ c ∈ clauses, c.IsProper)
    {padded : List Char} (hpadded : Padded (conjunction clauses) padded) :
    ofConjunction padded = .ok (joined .all (clauses.map fun c => .compare c.comparison)) := by
  obtain ⟨before, after, hbefore, hafter, rfl⟩ := hpadded
  have hpasses : ∀ part ∈ clauses.map Clause.chars, Passes '&' part := by
    intro part hpart
    obtain ⟨c, hc, rfl⟩ := List.mem_map.mp hpart
    exact c.passes_chars (h c hc) (.inl rfl)
  have hparts := cutOutside_joined (.inl rfl) (by simpa using hne) hpasses hbefore hafter
  rw [ofConjunction, conjunction, mapM_of_padded hparts fun c hc _ => ofClause_padded (h c hc)]
  rfl

theorem ofExpression_expression {alternatives : List (List Clause)} (hne : alternatives ≠ [])
    (hclauses : ∀ clauses ∈ alternatives, clauses ≠ [] ∧ ∀ c ∈ clauses, c.IsProper) :
    ofExpression (expression alternatives) = .ok (meaning alternatives) := by
  have hpasses : ∀ part ∈ alternatives.map conjunction, Passes '|' part := by
    intro part hpart
    obtain ⟨clauses, hc, rfl⟩ := List.mem_map.mp hpart
    refine passes_joinSpaced (.inr rfl) (.inl rfl) (by decide) fun part hpart => ?_
    obtain ⟨c, hmem, rfl⟩ := List.mem_map.mp hpart
    exact c.passes_chars ((hclauses clauses hc).2 c hmem) (.inr rfl)
  have hparts := cutOutside_joined (.inr rfl) (by simpa using hne) hpasses (by simp : ∀ c ∈ [], isBlank c = true)
    (by simp : ∀ c ∈ [], isBlank c = true)
  rw [List.nil_append, List.append_nil] at hparts
  rw [ofExpression, expression, String.toList_ofList, mapM_of_padded hparts fun clauses hc _ =>
    ofConjunction_padded (hclauses clauses hc).1 (hclauses clauses hc).2]
  rfl

/-! ### Objects -/

/-- An object that joins the conditions of a list where there are several. -/
def collapsed (key : String) : List Value → Value
  | [v] => v
  | vs => .object [(key, .list vs)]

/-- How alternatives are written as an object that joins only where there are several. -/
def document (alternatives : List (List Clause)) : Value :=
  collapsed "any" (alternatives.map fun clauses => collapsed "all" (clauses.map Clause.document))

/-- How alternatives are written as an object with an object for each of them. -/
def nested (alternatives : List (List Clause)) : Value :=
  .object [("any", .list (alternatives.map fun clauses => .object [("all", .list (clauses.map Clause.document))]))]

theorem ofMembers_of_mapM {key : String} {vs : List Value} {conditions : List Condition} (hne : vs ≠ [])
    (h : vs.mapM ofValue = .ok conditions) : ofMembers key (.list vs) = .ok conditions := by
  cases vs with
  | nil => exact absurd rfl hne
  | cons v vs => rw [ofMembers, ofList_eq_mapM, h]; simp

theorem ofValue_all {vs : List Value} {conditions : List Condition} (hne : vs ≠ [])
    (h : vs.mapM ofValue = .ok conditions) : ofValue (.object [("all", .list vs)]) = .ok (.all conditions) := by
  rw [ofValue, if_neg (by decide), if_pos rfl, ofMembers_of_mapM hne h]
  rfl

theorem ofValue_any {vs : List Value} {conditions : List Condition} (hne : vs ≠ [])
    (h : vs.mapM ofValue = .ok conditions) : ofValue (.object [("any", .list vs)]) = .ok (.any conditions) := by
  rw [ofValue, if_neg (by decide), if_neg (by decide), if_pos rfl, ofMembers_of_mapM hne h]
  rfl

theorem ofValue_collapsed {key : String} {join : List Condition → Condition}
    (hjoin : ∀ {vs : List Value} {conditions : List Condition}, vs ≠ [] → vs.mapM ofValue = .ok conditions →
      ofValue (.object [(key, .list vs)]) = .ok (join conditions))
    {vs : List Value} {conditions : List Condition} (hne : vs ≠ []) (h : vs.mapM ofValue = .ok conditions) :
    ofValue (collapsed key vs) = .ok (joined join conditions) := by
  have hall := mapM_eq_ok_iff.mp h
  cases hall with
  | nil => exact absurd rfl hne
  | cons hv hrest =>
    cases hrest with
    | nil => exact hv
    | cons _ _ => exact hjoin hne h

theorem ofValue_comparison {reference : String} {op : Operator} {declared operand : Value}
    (hreference : allBlank reference = false) (h : operandFor op declared = .ok operand) :
    ofValue (.object [("path", .text reference), (op.key, declared)]) = .ok (.compare ⟨reference, op, operand, none⟩) := by
  have hjoin : joinKeys.find? (hasEntry [("path", .text reference), (op.key, declared)]) = none := by
    cases op <;> rfl
  have hdeclared : ([("path", .text reference), (op.key, declared)] : List (String × Value)).filter (·.1 != "path") =
      [(op.key, declared)] := by
    cases op <;> rfl
  have hentries : ofEntries [("path", .text reference), (op.key, declared)] =
      .ok (.compare ⟨reference, op, operand, none⟩) := by
    have hpath : entryOf? [("path", Value.text reference), (op.key, declared)] "path" = some (.text reference) := rfl
    rw [ofEntries, hpath]
    have hknown : [op.key].filter (fun key => (Operator.ofKey? key).isNone) = [] := by simp [Operator.ofKey?_key]
    simp only [hreference, hdeclared, hknown, Operator.ofKey?_key, h, List.map_cons, List.map_nil]
    rfl
  rw [ofValue, hjoin]
  · exact hentries
  · intro key v hsingle
    cases hsingle

/-- The object of a clause declares its comparison. -/
theorem ofValue_clause {c : Clause} (h : c.IsProper) : ofValue c.document = .ok (.compare c.comparison) := by
  have hreference : ∀ {reference : List Char}, IsBare reference → allBlank (String.ofList reference) = false := by
    intro reference hbare
    rw [allBlank, String.toList_ofList, List.all_eq_false]
    have hfirst := List.head_mem hbare.ne_nil
    exact ⟨_, hfirst, by simp [(hbare.plain _ hfirst).1]⟩
  cases c with
  | relation reference op literal =>
    obtain ⟨hbare, hop, _⟩ := h
    refine ofValue_comparison (hreference hbare) ?_
    cases op <;> first | rfl | cases hop
  | membership reference negated literals =>
    cases negated with
    | false => exact @ofValue_comparison _ .oneOf _ _ (hreference h.1) rfl
    | true => exact @ofValue_comparison _ .noneOf _ _ (hreference h.1) rfl

/-- **The two written forms of a condition agree.**  Alternatives of clauses are read as the same condition from the
expression that joins them with `&&` and `||` and from the object that lists them under `all` and `any`. -/
theorem written_forms_agree {alternatives : List (List Clause)} (hne : alternatives ≠ [])
    (hclauses : ∀ clauses ∈ alternatives, clauses ≠ [] ∧ ∀ c ∈ clauses, c.IsProper) :
    ofValue (.text (expression alternatives)) = .ok (meaning alternatives) ∧
      ofValue (document alternatives) = .ok (meaning alternatives) ∧
      ofValue (nested alternatives) =
        .ok (.any (alternatives.map fun clauses => .all (clauses.map fun c => .compare c.comparison))) := by
  have hmembers : ∀ clauses ∈ alternatives,
      (clauses.map Clause.document).mapM ofValue = .ok (clauses.map fun c => .compare c.comparison) :=
    fun clauses hmem => mapM_map_of_forall fun c hc => ofValue_clause ((hclauses clauses hmem).2 c hc)
  have hsome : ∀ clauses ∈ alternatives, clauses.map Clause.document ≠ [] := fun clauses hmem => by
    simpa using (hclauses clauses hmem).1
  refine ⟨?_, ?_, ?_⟩
  · rw [ofValue]
    exact ofExpression_expression hne hclauses
  · refine ofValue_collapsed ofValue_any (by simpa using hne) (mapM_map_of_forall fun clauses hmem => ?_)
    exact ofValue_collapsed ofValue_all (hsome clauses hmem) (hmembers clauses hmem)
  · refine ofValue_any (by simpa using hne) (mapM_map_of_forall fun clauses hmem => ?_)
    exact ofValue_all (hsome clauses hmem) (hmembers clauses hmem)

/-- A single clause is its own expression and its own object. -/
example (c : Clause) : expression [[c]] = String.ofList c.chars ∧ document [[c]] = c.document := by
  refine ⟨?_, rfl⟩
  simp [expression, conjunction, joinSpaced]

/-- Orders on hold of certain kinds, and large ones. -/
def orders : List (List Clause) :=
  [[.relation "status".toList .equals (.quoted '\'' "held && x || y".toList),
    .membership ".kind".toList true [.word "R&D".toList, .whole .minus "7".toList, .null]],
   [.relation "items[0].size".toList .atLeast (.pointed .plus "2".toList "50".toList)]]

/-- The orders are the same condition as a text, in which a quoted status holds both separators, and as an object. -/
theorem written_forms_agree_on_orders :
    orders ≠ [] ∧ (∀ clauses ∈ orders, clauses ≠ [] ∧ ∀ c ∈ clauses, c.IsProper) ∧
      ofValue (.text "status == 'held && x || y' && .kind not in R&D,-7,null || items[0].size >= +2.50")
        = .ok (meaning orders) ∧
      ofValue (document orders) = .ok (meaning orders) := by
  have hne : orders ≠ [] := List.cons_ne_nil _ _
  have hclauses : ∀ clauses ∈ orders, clauses ≠ [] ∧ ∀ c ∈ clauses, c.IsProper := by decide +kernel
  have htext : expression orders =
      "status == 'held && x || y' && .kind not in R&D,-7,null || items[0].size >= +2.50" := by decide +kernel
  obtain ⟨hexpression, hdocument, _⟩ := written_forms_agree hne hclauses
  rw [htext] at hexpression
  exact ⟨hne, hclauses, hexpression, hdocument⟩

end FormCheck.Condition
