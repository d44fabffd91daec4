import FormCheck.Proofs.Condition.Separators
import FormCheck.Proofs.Form.References

/-!
# Cutting expressions and reading the parts

An expression is cut at `||` where that stands outside quotes, and its parts are read as expressions, or it is cut at
`&&` in the same way.  A quote that is open at the end of a text is open at the end of its last part, and in no part is
a separator found again, so nothing is left to read after two steps.

* `Condition.intercalate_cutOutside` — **proved**: the parts joined by the separator are the text;
* `Condition.uncut_parts`, `Condition.uncut_other` — **proved**: a part is not cut again, neither at the separator that
  has been looked for nor at one that the text is not cut at;
* `Condition.Rereads` — reading a text calls for reading a part; `Condition.wellFounded_rereads` — **proved**: this
  comes to an end, for the parts are shorter;
* `Condition.ofExpression_eq` — **proved**: reading the parts as expressions is reading the expression;
* `Condition.IsNormal` — alternatives of conjunctions of comparisons, where a single member stands by itself;
* `Condition.clauses`, `Condition.separators` — the texts between the separators of both kinds, and these;
* `Condition.cut_losslessly_and_read_normal` — **proved**: what is read is normal, and has one comparison for each
  clause, in order.
-/

namespace FormCheck.Condition

open Fallible

variable {separator other part cs : List Char} {quote : Option Char} {parts : List (List Char)}

/-! ### Nothing is lost -/

theorem pushFront_ne_nil (c : Char) (parts : List (List Char)) : pushFront c parts ≠ [] := by
  cases parts <;> exact List.cons_ne_nil _ _

theorem cutOutside_ne_nil (separator : List Char) (quote : Option Char) (cs : List Char) :
    cutOutside separator quote cs ≠ [] := by
  fun_cases cutOutside separator quote cs with
  | case1 => exact List.cons_ne_nil _ _
  | case2 => exact pushFront_ne_nil _ _
  | case3 => exact pushFront_ne_nil _ _
  | case4 => exact List.cons_ne_nil _ _
  | case5 => exact pushFront_ne_nil _ _

theorem exists_cutOutside_eq_cons (separator : List Char) (quote : Option Char) (cs : List Char) :
    ∃ part parts, cutOutside separator quote cs = part :: parts :=
  List.exists_cons_of_ne_nil (cutOutside_ne_nil separator quote cs)

theorem intercalate_pushFront (c : Char) (h : parts ≠ []) :
    separator.intercalate (pushFront c parts) = c :: separator.intercalate parts := by
  cases parts with
  | nil => exact absurd rfl h
  | cons part parts => cases parts <;> simp [pushFront, List.intercalate_cons_cons]

theorem intercalate_nil_cons (h : parts ≠ []) :
    separator.intercalate ([] :: parts) = separator ++ separator.intercalate parts := by
  obtain ⟨part, rest, rfl⟩ := List.exists_cons_of_ne_nil h
  rw [List.intercalate_cons_cons, List.nil_append]

/-- What follows a separator, one of whose characters has been read. -/
theorem drop_of_isPrefixOf {c : Char} {rest : List Char} (hne : separator ≠ [])
    (h : separator.isPrefixOf (c :: rest) = true) :
    separator ++ rest.drop (separator.length - 1) = c :: rest := by
  obtain ⟨d, tail, rfl⟩ := List.exists_cons_of_ne_nil hne
  obtain ⟨rfl, htail⟩ := List.cons_prefix_cons.mp (List.isPrefixOf_iff_prefix.mp h)
  obtain ⟨after, rfl⟩ := htail
  rw [List.length_cons, Nat.add_sub_cancel, List.drop_left, List.cons_append]

/-- The parts of a text, joined by the separator, are the text. -/
theorem intercalate_cutOutside (hne : separator ≠ []) (quote : Option Char) (cs : List Char) :
    separator.intercalate (cutOutside separator quote cs) = cs := by
  fun_induction cutOutside separator quote cs with
  | case1 => rfl
  | case2 c rest q ih =>
    rw [intercalate_pushFront c (cutOutside_ne_nil _ _ _)]
    exact congrArg (c :: ·) ih
  | case3 c rest hquote ih => rw [intercalate_pushFront c (cutOutside_ne_nil _ _ _), ih]
  | case4 c rest _ hstart ih =>
    rw [intercalate_nil_cons (cutOutside_ne_nil _ _ _), ih, drop_of_isPrefixOf hne hstart]
  | case5 c rest _ _ ih => rw [intercalate_pushFront c (cutOutside_ne_nil _ _ _), ih]

theorem prefix_of_cutOutside (hne : separator ≠ []) (h : cutOutside separator quote cs = part :: parts) :
    part <+: cs := by
  have hjoined := intercalate_cutOutside hne quote cs
  rw [h] at hjoined
  cases parts with
  | nil => exact ⟨[], by rw [← hjoined, List.intercalate_singleton, List.append_nil]⟩
  | cons next parts =>
    rw [List.intercalate_cons_cons, List.append_assoc] at hjoined
    exact ⟨_, hjoined⟩

/-- Each of several texts is shorter than all of them joined. -/
theorem length_add_le_intercalate (separator : List Char) (hpart : part ∈ parts) :
    part.length + (parts.length - 1) * separator.length ≤ (separator.intercalate parts).length := by
  induction parts generalizing part with
  | nil => cases hpart
  | cons first parts ih =>
    cases parts with
    | nil =>
      rw [List.mem_singleton.mp hpart]
      simp
    | cons next parts =>
      rw [List.intercalate_cons_cons]
      simp only [List.length_append, List.length_cons, Nat.add_sub_cancel, Nat.add_mul, Nat.one_mul] at ih ⊢
      rcases List.mem_cons.mp hpart with rfl | hpart
      · have hnext := ih List.mem_cons_self
        omega
      · have hrest := ih hpart
        omega

/-- A part of a text that is cut at all is shorter than the text. -/
theorem length_lt_of_mem_cutOutside (hne : separator ≠ []) (hpart : part ∈ cutOutside separator none cs)
    (hcut : 1 < (cutOutside separator none cs).length) : part.length < cs.length := by
  have hlength := length_add_le_intercalate separator hpart
  have hpos := List.length_pos_of_ne_nil hne
  rw [intercalate_cutOutside hne] at hlength
  have hmul := Nat.mul_le_mul (Nat.le_sub_one_of_lt hcut) hpos
  omega

/-! ### Parts are not cut again -/

/-- The search for the separator goes over a text to its end and finds none. -/
def Uncut (separator : List Char) (quote : Option Char) (cs : List Char) : Prop :=
  cutOutside separator quote cs = [cs]

theorem uncut_nil (separator : List Char) (quote : Option Char) : Uncut separator quote [] := by
  rw [Uncut, cutOutside]

theorem pushFront_eq_singleton_iff {c : Char} (h : parts ≠ []) : pushFront c parts = [c :: cs] ↔ parts = [cs] := by
  obtain ⟨part, rest, rfl⟩ := List.exists_cons_of_ne_nil h
  simp [pushFront]

variable {c q : Char}

theorem uncut_cons_quoted :
    Uncut separator (some q) (c :: cs) ↔ Uncut separator (if c = q then none else some q) cs := by
  rw [Uncut, cutOutside, pushFront_eq_singleton_iff (cutOutside_ne_nil _ _ _), Uncut]

theorem uncut_cons_quote (hc : c = '\'' ∨ c = '"') : Uncut separator none (c :: cs) ↔ Uncut separator (some c) cs := by
  rw [Uncut, cutOutside, if_pos (by simpa using hc), pushFront_eq_singleton_iff (cutOutside_ne_nil _ _ _), Uncut]

theorem uncut_cons_plain (hc : ¬ (c = '\'' ∨ c = '"')) :
    Uncut separator none (c :: cs) ↔ ¬ separator <+: c :: cs ∧ Uncut separator none cs := by
  rw [Uncut, cutOutside, if_neg (by simpa using hc), ← List.isPrefixOf_iff_prefix]
  split_ifs with hstart
  · refine iff_of_false (fun h => ?_) fun h => h.1 hstart
    cases (List.cons.inj h).1
  · rw [pushFront_eq_singleton_iff (cutOutside_ne_nil _ _ _), Uncut]
    exact (and_iff_right hstart).symm

/-- What a text begins with is not cut either. -/
theorem Uncut.of_prefix (h : Uncut separator quote cs) (hpart : part <+: cs) : Uncut separator quote part := by
  induction part generalizing quote cs with
  | nil => exact uncut_nil _ _
  | cons c part ih =>
    obtain ⟨rest, rfl⟩ := hpart
    have hrest : part <+: part ++ rest := List.prefix_append part rest
    rw [List.cons_append] at h
    cases quote with
    | some q => exact uncut_cons_quoted.mpr (ih (uncut_cons_quoted.mp h) hrest)
    | none =>
      by_cases hc : c = '\'' ∨ c = '"'
      · exact (uncut_cons_quote hc).mpr (ih ((uncut_cons_quote hc).mp h) hrest)
      · obtain ⟨hstart, h⟩ := (uncut_cons_plain hc).mp h
        refine (uncut_cons_plain hc).mpr ⟨fun hfront => hstart ?_, ih h hrest⟩
        exact hfront.trans (List.prefix_append (c :: part) rest)

/-- What follows characters that are no quotes is not cut either. -/
theorem Uncut.of_append {before : List Char} (h : Uncut separator none (before ++ cs))
    (hbefore : ∀ c ∈ before, ¬ (c = '\'' ∨ c = '"')) : Uncut separator none cs := by
  induction before with
  | nil => exact h
  | cons c before ih =>
    rw [List.forall_mem_cons] at hbefore
    exact ih ((uncut_cons_plain hbefore.1).mp h).2 hbefore.2

/-- Of a text and the character before it, the character goes to the first part. -/
theorem exists_of_pushFront (h : pushFront c (cutOutside separator quote cs) = part :: parts) :
    ∃ first, cutOutside separator quote cs = first :: parts ∧ part = c :: first := by
  obtain ⟨first, others, hcut⟩ := exists_cutOutside_eq_cons separator quote cs
  rw [hcut] at h
  cases h
  exact ⟨first, hcut, rfl⟩

/-- The parts of a text are not cut again, the first one from within the quote in which the text begins. -/
theorem uncut_parts (hne : separator ≠ []) (h : cutOutside separator quote cs = part :: parts) :
    Uncut separator quote part ∧ ∀ p ∈ parts, Uncut separator none p := by
  fun_induction cutOutside separator quote cs generalizing part parts with
  | case1 =>
    cases h
    exact ⟨uncut_nil _ _, List.forall_mem_nil _⟩
  | case2 c rest q ih =>
    obtain ⟨first, hcut, rfl⟩ := exists_of_pushFront h
    obtain ⟨hfirst, hparts⟩ := ih hcut
    exact ⟨uncut_cons_quoted.mpr hfirst, hparts⟩
  | case3 c rest hquote ih =>
    obtain ⟨first, hcut, rfl⟩ := exists_of_pushFront h
    obtain ⟨hfirst, hparts⟩ := ih hcut
    exact ⟨(uncut_cons_quote (by simpa using hquote)).mpr hfirst, hparts⟩
  | case4 c rest _ _ ih =>
    cases h
    obtain ⟨first, others, hcut⟩ := exists_cutOutside_eq_cons separator none (rest.drop (separator.length - 1))
    rw [hcut]
    exact ⟨uncut_nil _ _, List.forall_mem_cons.mpr (ih hcut)⟩
  | case5 c rest hquote hstart ih =>
    obtain ⟨first, hcut, rfl⟩ := exists_of_pushFront h
    obtain ⟨hfirst, hparts⟩ := ih hcut
    refine ⟨(uncut_cons_plain (by simpa using hquote)).mpr ⟨fun hfront => hstart ?_, hfirst⟩, hparts⟩
    have hlonger : c :: first <+: c :: rest := List.cons_prefix_cons.mpr ⟨rfl, prefix_of_cutOutside hne hcut⟩
    exact List.isPrefixOf_iff_prefix.mpr (hfront.trans hlonger)

theorem uncut_of_mem (hne : separator ≠ []) (hpart : part ∈ cutOutside separator none cs) :
    Uncut separator none part := by
  obtain ⟨first, parts, hcut⟩ := exists_cutOutside_eq_cons separator none cs
  rw [hcut] at hpart
  exact List.forall_mem_cons.mpr (uncut_parts hne hcut) part hpart

/-- A quote that is not closed lasts to the end. -/
example : cutOutside ['|', '|'] none "a == 'b || c".toList = ["a == 'b || c".toList] := by decide +kernel

/-- The parts that are found with one separator are cut at another one no more than the text is. -/
theorem uncut_other (hne : separator ≠ []) (hplain : ∀ c ∈ separator, ¬ (c = '\'' ∨ c = '"'))
    (huncut : Uncut other quote cs) (h : cutOutside separator quote cs = part :: parts) :
    Uncut other quote part ∧ ∀ p ∈ parts, Uncut other none p := by
  refine ⟨huncut.of_prefix (prefix_of_cutOutside hne h), ?_⟩
  fun_induction cutOutside separator quote cs generalizing part parts with
  | case1 =>
    cases h
    exact List.forall_mem_nil _
  | case2 c rest q ih =>
    obtain ⟨first, hcut, rfl⟩ := exists_of_pushFront h
    exact ih (uncut_cons_quoted.mp huncut) hcut
  | case3 c rest hquote ih =>
    obtain ⟨first, hcut, rfl⟩ := exists_of_pushFront h
    exact ih ((uncut_cons_quote (by simpa using hquote)).mp huncut) hcut
  | case4 c rest _ hstart ih =>
    cases h
    have hrest : Uncut other none (rest.drop (separator.length - 1)) := by
      rw [← drop_of_isPrefixOf hne hstart] at huncut
      exact huncut.of_append hplain
    obtain ⟨first, others, hcut⟩ := exists_cutOutside_eq_cons separator none (rest.drop (separator.length - 1))
    rw [hcut]
    exact List.forall_mem_cons.mpr ⟨hrest.of_prefix (prefix_of_cutOutside hne hcut), ih hrest hcut⟩
  | case5 c rest hquote _ ih =>
    obtain ⟨first, hcut, rfl⟩ := exists_of_pushFront h
    exact ih ((uncut_cons_plain (by simpa using hquote)).mp huncut).2 hcut

theorem uncut_other_of_mem (hne : separator ≠ []) (hplain : ∀ c ∈ separator, ¬ (c = '\'' ∨ c = '"'))
    (huncut : Uncut other none cs) (hpart : part ∈ cutOutside separator none cs) : Uncut other none part := by
  obtain ⟨first, parts, hcut⟩ := exists_cutOutside_eq_cons separator none cs
  rw [hcut] at hpart
  exact List.forall_mem_cons.mpr (uncut_other hne hplain huncut hcut) part hpart

/-- A text with a single part is this part. -/
theorem uncut_of_length (hne : separator ≠ []) (h : ¬ 1 < (cutOutside separator none cs).length) :
    Uncut separator none cs := by
  obtain ⟨first, parts, hcut⟩ := exists_cutOutside_eq_cons separator none cs
  have hjoined := intercalate_cutOutside hne none cs
  rw [hcut] at h hjoined
  obtain rfl : parts = [] := List.eq_nil_of_length_eq_zero (by rw [List.length_cons] at h; omega)
  rw [List.intercalate_singleton] at hjoined
  rw [Uncut, hcut, hjoined]

/-! ### Reading parts as expressions of their own -/

/-- Reading a text calls for reading another one as an expression: it is one of several alternatives, or one of several
conjuncts where there are no alternatives. -/
inductive Rereads : List Char → List Char → Prop
  | alternative {cs part : List Char} (hcut : 1 < (cutOutside ['|', '|'] none cs).length)
      (hpart : part ∈ cutOutside ['|', '|'] none cs) : Rereads part cs
  | conjunct {cs part : List Char} (huncut : ¬ 1 < (cutOutside ['|', '|'] none cs).length)
      (hcut : 1 < (cutOutside ['&', '&'] none cs).length) (hpart : part ∈ cutOutside ['&', '&'] none cs) :
      Rereads part cs

theorem Rereads.length_lt (h : Rereads part cs) : part.length < cs.length := by
  cases h with
  | alternative hcut hpart => exact length_lt_of_mem_cutOutside (List.cons_ne_nil _ _) hpart hcut
  | conjunct _ hcut hpart => exact length_lt_of_mem_cutOutside (List.cons_ne_nil _ _) hpart hcut

/-- Reading parts as expressions comes to an end. -/
theorem wellFounded_rereads : WellFounded Rereads :=
  Subrelation.wf Rereads.length_lt (measure List.length).wf

theorem joined_of_several {join : List Condition → Condition} {members : List Condition} (h : 1 < members.length) :
    joined join members = join members := by
  rw [joined.eq_def]
  split
  · exact absurd h (Nat.lt_irrefl 1)
  · rfl

/-- Several members are joined whatever they are. -/
theorem mapM_joined_of_several {join : List Condition → Condition} {read : List Char → Except ConditionError Condition}
    (h : 1 < parts.length) :
    (do let members ← parts.mapM read; return joined join members) =
      (do let members ← parts.mapM read; return join members) := by
  refine bind_congr_of_ok fun members hmembers => ?_
  rw [joined_of_several ((mapM_eq_ok_iff.mp hmembers).length_eq ▸ h)]

theorem ofConjunction_of_uncut (h : Uncut ['&', '&'] none cs) : ofConjunction cs = ofClause cs := by
  rw [ofConjunction, h, List.mapM_cons, List.mapM_nil]
  cases ofClause cs <;> rfl

theorem ofExpression_of_uncut (h : Uncut ['|', '|'] none cs) : ofExpression (String.ofList cs) = ofConjunction cs := by
  rw [ofExpression, String.toList_ofList, h, List.mapM_cons, List.mapM_nil]
  cases ofConjunction cs <;> rfl

/-- **The parts of an expression are read as expressions.**  Where there are several alternatives, each of them is read
like a text of its own, and so is each of several conjuncts where there are no alternatives. -/
theorem ofExpression_eq (cs : List Char) : ofExpression (String.ofList cs) =
    if 1 < (cutOutside ['|', '|'] none cs).length then do
      let members ← (cutOutside ['|', '|'] none cs).mapM fun part => ofExpression (String.ofList part)
      return .any members
    else if 1 < (cutOutside ['&', '&'] none cs).length then do
      let members ← (cutOutside ['&', '&'] none cs).mapM fun part => ofExpression (String.ofList part)
      return .all members
    else ofClause cs := by
  have hor : ['|', '|'] ≠ [] := List.cons_ne_nil _ _
  have hand : ['&', '&'] ≠ [] := List.cons_ne_nil _ _
  split_ifs with halternatives hconjuncts
  · have hpart : ∀ part ∈ cutOutside ['|', '|'] none cs, ofExpression (String.ofList part) = ofConjunction part :=
      fun part hpart => ofExpression_of_uncut (uncut_of_mem hor hpart)
    rw [mapM_congr hpart, ← mapM_joined_of_several halternatives, ofExpression, String.toList_ofList]
  · have huncut := uncut_of_length hor halternatives
    have hplain : ∀ c ∈ ['&', '&'], ¬ (c = '\'' ∨ c = '"') := Text.forall_mem_of_all (by decide)
    have hpart : ∀ part ∈ cutOutside ['&', '&'] none cs, ofExpression (String.ofList part) = ofClause part := by
      intro part hpart
      rw [ofExpression_of_uncut (uncut_other_of_mem hand hplain huncut hpart)]
      exact ofConjunction_of_uncut (uncut_of_mem hand hpart)
    rw [mapM_congr hpart, ← mapM_joined_of_several hconjuncts, ofExpression_of_uncut huncut, ofConjunction]
  · rw [ofExpression_of_uncut (uncut_of_length hor halternatives)]
    exact ofConjunction_of_uncut (uncut_of_length hand hconjuncts)

/-! ### The form of what is read -/

/-- A comparison, or at least two of them that all have to hold. -/
inductive IsConjunction : Condition → Prop
  | single (x : Comparison) : IsConjunction (.compare x)
  | several {members : List Condition} (hseveral : 1 < members.length) (h : ∀ m ∈ members, ∃ x, m = .compare x) :
      IsConjunction (.all members)

/-- Comparisons that all have to hold, or at least two alternatives of such comparisons. -/
inductive IsNormal : Condition → Prop
  | single {condition : Condition} (h : IsConjunction condition) : IsNormal condition
  | several {members : List Condition} (hseveral : 1 < members.length) (h : ∀ m ∈ members, IsConjunction m) :
      IsNormal (.any members)

theorem exists_of_ofClause {condition : Condition} (h : ofClause cs = .ok condition) : ∃ x, condition = .compare x := by
  rw [ofClause] at h
  split at h
  · obtain ⟨operands, _, h⟩ := bind_eq_ok_iff.mp h
    cases h
    exact ⟨_, rfl⟩
  · split at h
    · obtain ⟨v, _, h⟩ := bind_eq_ok_iff.mp h
      cases h
      exact ⟨_, rfl⟩
    · cases h

/-- Members that are joined are a single one by itself, or several. -/
theorem joined_induction {join : List Condition → Condition} {motive : Condition → Prop} {members : List Condition}
    (h : members ≠ []) (single : ∀ m, members = [m] → motive m) (several : 1 < members.length → motive (join members)) :
    motive (joined join members) := by
  obtain ⟨m, rest, rfl⟩ := List.exists_cons_of_ne_nil h
  cases rest with
  | nil => exact single m rfl
  | cons next rest =>
    have hseveral : 1 < (m :: next :: rest).length := by simp
    rw [joined_of_several hseveral]
    exact several hseveral

/-- Clauses that are read as comparisons, one by one. -/
def ReadAs (clauses : List (List Char)) (comparisons : List Comparison) : Prop :=
  List.Forall₂ (fun clause x => ofClause clause = .ok (.compare x)) clauses comparisons

section Joining

variable {join : List Condition → Condition} {read : List Char → Except ConditionError Condition}
  {members : List Condition}

theorem ne_nil_of_mapM (hparts : parts ≠ []) (h : parts.mapM read = .ok members) : members ≠ [] := by
  rintro rfl
  exact hparts (List.forall₂_nil_right_iff.mp (mapM_eq_ok_iff.mp h))

/-- The comparisons of joined members are read from the clauses of the parts that the members are read from. -/
theorem readAs_joined {clauses : List Char → List (List Char)} (hparts : parts ≠ []) (h : parts.mapM read = .ok members)
    (hjoin : (join members).comparisons = comparisonsOf members)
    (hread : ∀ {part m}, read part = .ok m → ReadAs (clauses part) m.comparisons) :
    ReadAs (parts.flatMap clauses) (joined join members).comparisons := by
  have hall : ReadAs (parts.flatMap clauses) (members.flatMap comparisons) :=
    List.rel_flatMap (mapM_eq_ok_iff.mp h) fun _ _ hpart => hread hpart
  refine joined_induction (motive := fun joint => ReadAs (parts.flatMap clauses) joint.comparisons)
    (ne_nil_of_mapM hparts h) (fun m hm => ?_) fun _ => ?_
  · rwa [hm, List.flatMap_singleton] at hall
  · rwa [hjoin, comparisonsOf_eq_flatMap]

end Joining

theorem isConjunction_of_ofConjunction {condition : Condition} (h : ofConjunction cs = .ok condition) :
    IsConjunction condition := by
  obtain ⟨members, hmembers, h⟩ := bind_eq_ok_iff.mp h
  cases h
  have hcompare : ∀ m ∈ members, ∃ x, m = .compare x := by
    intro m hm
    obtain ⟨clause, _, hclause⟩ := exists_of_mem_mapM hmembers hm
    exact exists_of_ofClause hclause
  refine joined_induction (ne_nil_of_mapM (cutOutside_ne_nil _ _ _) hmembers) (fun m hm => ?_) fun hseveral =>
    .several hseveral hcompare
  obtain ⟨x, rfl⟩ := hcompare m (hm ▸ List.mem_cons_self)
  exact .single x

theorem readAs_of_ofConjunction {condition : Condition} (h : ofConjunction cs = .ok condition) :
    ReadAs (cutOutside ['&', '&'] none cs) condition.comparisons := by
  obtain ⟨members, hmembers, h⟩ := bind_eq_ok_iff.mp h
  cases h
  have hclause : ∀ {clause m}, ofClause clause = .ok m → ReadAs [clause] m.comparisons := by
    intro clause m hclause
    obtain ⟨x, rfl⟩ := exists_of_ofClause hclause
    rw [comparisons]
    exact .cons hclause .nil
  have hread : ReadAs ((cutOutside ['&', '&'] none cs).flatMap fun clause => [clause]) (joined .all members).comparisons :=
    readAs_joined (cutOutside_ne_nil _ _ _) hmembers (by rw [comparisons]) hclause
  rwa [List.flatMap_singleton'] at hread

theorem isNormal_of_ofExpression {text : String} {condition : Condition} (h : ofExpression text = .ok condition) :
    IsNormal condition := by
  obtain ⟨members, hmembers, h⟩ := bind_eq_ok_iff.mp h
  cases h
  have hconjunction : ∀ m ∈ members, IsConjunction m := by
    intro m hm
    obtain ⟨part, _, hpart⟩ := exists_of_mem_mapM hmembers hm
    exact isConjunction_of_ofConjunction hpart
  refine joined_induction (ne_nil_of_mapM (cutOutside_ne_nil _ _ _) hmembers) (fun m hm => ?_) fun hseveral =>
    .several hseveral hconjunction
  exact .single (hconjunction m (hm ▸ List.mem_cons_self))

theorem readAs_of_ofExpression {text : String} {condition : Condition} (h : ofExpression text = .ok condition) :
    ReadAs ((cutOutside ['|', '|'] none text.toList).flatMap (cutOutside ['&', '&'] none)) condition.comparisons := by
  obtain ⟨members, hmembers, h⟩ := bind_eq_ok_iff.mp h
  cases h
  exact readAs_joined (cutOutside_ne_nil _ _ _) hmembers (by rw [comparisons]) readAs_of_ofConjunction

/-! ### Both separators in one search -/

/-- The separators of a text outside quotes in order, each by the mark that stands in it twice. -/
def separators (quote : Option Char) : List Char → List Char
  | [] => []
  | c :: rest =>
    match quote with
    | some q => separators (if c = q then none else some q) rest
    | none =>
      if c = '\'' || c = '"' then separators (some c) rest
      else if (c = '&' || c = '|') && rest.head? = some c then c :: separators none (rest.drop 1)
      else separators none rest
termination_by cs => cs.length
decreasing_by all_goals simp; try omega

/-- The parts of a text between the separators of both kinds. -/
def clauses (quote : Option Char) : List Char → List (List Char)
  | [] => [[]]
  | c :: rest =>
    match quote with
    | some q => pushFront c (clauses (if c = q then none else some q) rest)
    | none =>
      if c = '\'' || c = '"' then pushFront c (clauses (some c) rest)
      else if (c = '&' || c = '|') && rest.head? = some c then [] :: clauses none (rest.drop 1)
      else pushFront c (clauses none rest)
termination_by cs => cs.length
decreasing_by all_goals simp; try omega

/-- Texts with a separator after each but the last. -/
def weave : List (List Char) → List Char → List Char
  | clause :: clauses, mark :: marks => clause ++ mark :: mark :: weave clauses marks
  | clauses, _ => clauses.flatten

theorem clauses_ne_nil (quote : Option Char) (cs : List Char) : clauses quote cs ≠ [] := by
  fun_cases clauses quote cs with
  | case1 => exact List.cons_ne_nil _ _
  | case2 => exact pushFront_ne_nil _ _
  | case3 => exact pushFront_ne_nil _ _
  | case4 => exact List.cons_ne_nil _ _
  | case5 => exact pushFront_ne_nil _ _

theorem weave_pushFront (c : Char) (h : parts ≠ []) (marks : List Char) :
    weave (pushFront c parts) marks = c :: weave parts marks := by
  obtain ⟨part, rest, rfl⟩ := List.exists_cons_of_ne_nil h
  cases marks <;> rfl

theorem length_pushFront (c : Char) (h : parts ≠ []) : (pushFront c parts).length = parts.length := by
  obtain ⟨part, rest, rfl⟩ := List.exists_cons_of_ne_nil h
  rfl

theorem pushFront_append (c : Char) (h : parts ≠ []) (others : List (List Char)) :
    pushFront c (parts ++ others) = pushFront c parts ++ others := by
  obtain ⟨part, rest, rfl⟩ := List.exists_cons_of_ne_nil h
  rfl

/-- A mark before its like is a separator. -/
theorem eq_of_head? {rest : List Char} (h : ((c = '&' || c = '|') && rest.head? = some c) = true) :
    (c = '&' ∨ c = '|') ∧ rest = c :: rest.drop 1 := by
  obtain ⟨hmark, hhead⟩ := Bool.and_eq_true_iff.mp h
  obtain ⟨tail, rfl⟩ := List.head?_eq_some_iff.mp (of_decide_eq_true hhead)
  exact ⟨by simpa using hmark, rfl⟩

/-- The clauses and the separators of a text make up the text, and there is one clause more. -/
theorem weave_clauses (quote : Option Char) (cs : List Char) : weave (clauses quote cs) (separators quote cs) = cs ∧
    (clauses quote cs).length = (separators quote cs).length + 1 := by
  fun_induction separators quote cs with
  | case1 quote =>
    rw [clauses]
    exact ⟨rfl, rfl⟩
  | case2 c rest q ih =>
    rw [clauses, weave_pushFront c (clauses_ne_nil _ _), length_pushFront c (clauses_ne_nil _ _)]
    exact ⟨congrArg (c :: ·) ih.1, ih.2⟩
  | case3 c rest hquote ih =>
    rw [clauses, if_pos hquote, weave_pushFront c (clauses_ne_nil _ _), length_pushFront c (clauses_ne_nil _ _)]
    exact ⟨congrArg (c :: ·) ih.1, ih.2⟩
  | case4 c rest hquote hmark ih =>
    rw [clauses, if_neg hquote, if_pos hmark, weave, List.nil_append, ih.1, ← (eq_of_head? hmark).2]
    exact ⟨rfl, congrArg (· + 1) ih.2⟩
  | case5 c rest hquote hmark ih =>
    rw [clauses, if_neg hquote, if_neg hmark, weave_pushFront c (clauses_ne_nil _ _),
      length_pushFront c (clauses_ne_nil _ _)]
    exact ⟨congrArg (c :: ·) ih.1, ih.2⟩

/-- The parts between the separators of both kinds are found one kind after the other. -/
theorem clauses_eq_of_cutOutside (h : cutOutside ['|', '|'] quote cs = part :: parts) :
    clauses quote cs = cutOutside ['&', '&'] quote part ++ parts.flatMap (cutOutside ['&', '&'] none) := by
  fun_induction clauses quote cs generalizing part parts with
  | case1 quote =>
    rw [cutOutside] at h
    cases h
    rw [cutOutside]
    rfl
  | case2 c rest q ih =>
    rw [cutOutside] at h
    obtain ⟨first, hcut, rfl⟩ := exists_of_pushFront h
    rw [cutOutside, ← pushFront_append c (cutOutside_ne_nil _ _ _)]
    exact congrArg (pushFront c) (ih hcut)
  | case3 c rest hquote ih =>
    rw [cutOutside, if_pos hquote] at h
    obtain ⟨first, hcut, rfl⟩ := exists_of_pushFront h
    rw [cutOutside, if_pos hquote, ← pushFront_append c (cutOutside_ne_nil _ _ _), ih hcut]
  | case4 c rest hquote hmark ih =>
    obtain ⟨hmark, hrest⟩ := eq_of_head? hmark
    rw [hrest] at h
    rcases hmark with rfl | rfl
    · -- Both marks belong to the first alternative, which is cut between them.
      have hother : ∀ tail, cutOutside ['|', '|'] none ('&' :: tail) =
          pushFront '&' (cutOutside ['|', '|'] none tail) :=
        fun tail => cutOutside_cons (by decide) fun hsame => absurd hsame (by decide)
      rw [hother] at h
      obtain ⟨later, hlater, rfl⟩ := exists_of_pushFront h
      rw [hother] at hlater
      obtain ⟨first, hcut, rfl⟩ := exists_of_pushFront hlater
      rw [cutOutside_separator (by decide), ih hcut, List.cons_append]
    · rw [cutOutside_separator (by decide)] at h
      cases h
      obtain ⟨first, others, hcut⟩ := exists_cutOutside_eq_cons ['|', '|'] none (rest.drop 1)
      rw [hcut, ih hcut, cutOutside]
      rfl
  | case5 c rest hquote hmark ih =>
    have hplain : c ≠ '\'' ∧ c ≠ '"' := by simpa using hquote
    have hapart : c = '&' ∨ c = '|' → rest.head? ≠ some c := by simpa using hmark
    rw [cutOutside_cons hplain fun hc => hc ▸ hapart (.inr hc)] at h
    obtain ⟨first, hcut, rfl⟩ := exists_of_pushFront h
    have hnext : c = '&' → first.head? ≠ some '&' := by
      rintro rfl hhead
      obtain ⟨tail, rfl⟩ := List.head?_eq_some_iff.mp hhead
      obtain ⟨after, rfl⟩ := prefix_of_cutOutside (List.cons_ne_nil _ _) hcut
      exact hapart (.inl rfl) rfl
    rw [cutOutside_cons hplain hnext, ← pushFront_append c (cutOutside_ne_nil _ _ _), ih hcut]

theorem clauses_eq_flatMap (cs : List Char) :
    clauses none cs = (cutOutside ['|', '|'] none cs).flatMap (cutOutside ['&', '&'] none) := by
  obtain ⟨part, parts, hcut⟩ := exists_cutOutside_eq_cons ['|', '|'] none cs
  rw [clauses_eq_of_cutOutside hcut, hcut, List.flatMap_cons]

/-- **Cutting loses nothing, and what is read is in normal form.**  The parts of a text between the occurrences of a
separator outside quotes make up the text again, none of them is cut again, and each of several is shorter than the
text.  So an expression can be read by reading its parts as expressions, which comes to an end, and what is read is a
comparison, several comparisons that all have to hold, or several alternatives of these; the comparisons are read in
order from the clauses between the separators, of which there is one more than there are separators. -/
theorem cut_losslessly_and_read_normal :
    (∀ separator cs : List Char, separator ≠ [] →
      separator.intercalate (cutOutside separator none cs) = cs ∧
        ∀ part ∈ cutOutside separator none cs, cutOutside separator none part = [part] ∧
          (1 < (cutOutside separator none cs).length → part.length < cs.length)) ∧
      (WellFounded Rereads ∧ ∀ cs : List Char, ofExpression (String.ofList cs) =
        if 1 < (cutOutside ['|', '|'] none cs).length then do
          let members ← (cutOutside ['|', '|'] none cs).mapM fun part => ofExpression (String.ofList part)
          return .any members
        else if 1 < (cutOutside ['&', '&'] none cs).length then do
          let members ← (cutOutside ['&', '&'] none cs).mapM fun part => ofExpression (String.ofList part)
          return .all members
        else ofClause cs) ∧
      ∀ (text : String) (condition : Condition), ofExpression text = .ok condition → IsNormal condition ∧
        weave (clauses none text.toList) (separators none text.toList) = text.toList ∧
        List.Forall₂ (fun clause x => ofClause clause = .ok (.compare x)) (clauses none text.toList)
          condition.comparisons ∧
        condition.comparisons.length = (separators none text.toList).length + 1 := by
  refine ⟨fun separator cs hne => ⟨intercalate_cutOutside hne none cs, fun part hpart => ⟨uncut_of_mem hne hpart, ?_⟩⟩,
    ⟨wellFounded_rereads, ofExpression_eq⟩, fun text condition h => ?_⟩
  · exact length_lt_of_mem_cutOutside hne hpart
  · have hread := readAs_of_ofExpression h
    rw [← clauses_eq_flatMap] at hread
    obtain ⟨hweave, hlength⟩ := weave_clauses none text.toList
    exact ⟨isNormal_of_ofExpression h, hweave, hread, by rw [← hread.length_eq, hlength]⟩

/-- Offers of certain kinds and names, and large ones. -/
def offers : Condition :=
  .any [.all [.compare ⟨"kind", .oneOf, .list [.text "a", .text "b"], none⟩,
      .compare ⟨"name", .equals, .text "x || y", none⟩],
    .compare ⟨"size", .above, .int 3, none⟩]

/-- The quoted name keeps its separator, the pieces make up the text again, and the condition has three comparisons, one
more than there are separators. -/
theorem cut_losslessly_and_read_normal_on_offers :
    (['|', '|'] : List Char) ≠ [] ∧
      ofExpression "kind in a,b && name == 'x || y' || size > 3" = .ok offers ∧
      ['|', '|'].intercalate (cutOutside ['|', '|'] none "kind in a,b && name == 'x || y' || size > 3".toList) =
        "kind in a,b && name == 'x || y' || size > 3".toList ∧
      IsNormal offers ∧ separators none "kind in a,b && name == 'x || y' || size > 3".toList = ['&', '|'] ∧
      offers.comparisons.length = 3 := by
  have hor : (['|', '|'] : List Char) ≠ [] := List.cons_ne_nil _ _
  have hread : ofExpression "kind in a,b && name == 'x || y' || size > 3" = .ok offers := by
    have halternatives : cutOutside ['|', '|'] none "kind in a,b && name == 'x || y' || size > 3".toList =
        ["kind in a,b && name == 'x || y' ".toList, " size > 3".toList] := by decide +kernel
    have hconjuncts : cutOutside ['&', '&'] none "kind in a,b && name == 'x || y' ".toList =
        ["kind in a,b ".toList, " name == 'x || y' ".toList] := by decide +kernel
    have hsingle : cutOutside ['&', '&'] none " size > 3".toList = [" size > 3".toList] := by decide +kernel
    rw [ofExpression, halternatives]
    simp only [List.mapM_cons, List.mapM_nil, ofConjunction, hconjuncts, hsingle]
    rfl
  have hseparators : separators none "kind in a,b && name == 'x || y' || size > 3".toList = ['&', '|'] := by
    decide +kernel
  obtain ⟨hcut, _, hnormal⟩ := cut_losslessly_and_read_normal
  obtain ⟨hform, _, _, hlength⟩ := hnormal _ _ hread
  rw [hseparators] at hlength
  exact ⟨hor, hread, (hcut _ _ hor).1, hform, hseparators, hlength⟩

end FormCheck.Condition
