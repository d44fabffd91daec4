import FormCheck.Proofs.Text.Cutting
import FormCheck.Proofs.Text.Languages
import FormCheck.Rule.Format
import Mathlib.Data.List.Infix

/-!
# The grammar of mail addresses

A mail address is described in three ways: by the function that takes it apart at its separators, by a grammar, and
by a regular expression together with a look at the points before the at sign.

* `IsMailAddress` — the grammar: a local part, an at sign and labels with points between them;
* `isMailbox_iff` — **proved**: the function accepts what the grammar describes and nothing else;
* `isMailAddress_iff_mem_expression` — **proved**: so do the expression and the look at the points;
* `Check.mailbox_passes_iff` — **proved**: a value passes, where the argument says yes, when its text is a mail address.
-/

namespace FormCheck.Address

open FormCheck.Text

variable {cs part rest : List Char}

/-! ### Points -/

/-- Points stand within the text only, and one at a time. -/
structure PointsWithin (cs : List Char) : Prop where
  first : cs.head? ≠ some '.'
  last : cs.getLast? ≠ some '.'
  apart : ¬ ['.', '.'] <:+: cs

/-- Where two points in a row stand in a text whose first points are known. -/
theorem points_infix_append (hpart : '.' ∉ part) :
    ['.', '.'] <:+: part ++ '.' :: rest ↔ rest.head? = some '.' ∨ ['.', '.'] <:+: rest := by
  induction part with
  | nil =>
    rw [List.nil_append, List.infix_cons_iff, List.cons_prefix_cons]
    cases rest with
    | nil => simp
    | cons c rest => simp [List.cons_prefix_cons, eq_comm]
  | cons c part ih =>
    rw [List.mem_cons, not_or] at hpart
    rw [List.cons_append, List.infix_cons_iff, ih hpart.2, List.cons_prefix_cons]
    simp [hpart.1]

theorem PointsWithin.of_notMem (h : '.' ∉ part) : PointsWithin part := by
  refine ⟨?_, ?_, ?_⟩
  · intro hhead
    exact h (List.mem_of_head? hhead)
  · intro hlast
    exact h (List.mem_of_getLast? hlast)
  · intro hpair
    exact h (hpair.subset List.mem_cons_self)

/-- A text with a first point: something stands before it and after it, and no point follows at once. -/
theorem pointsWithin_append_iff (hpart : '.' ∉ part) :
    PointsWithin (part ++ '.' :: rest) ↔ part ≠ [] ∧ rest ≠ [] ∧ PointsWithin rest := by
  constructor
  · intro h
    have hpartne : part ≠ [] := by
      intro hnil
      subst hnil
      exact h.first rfl
    have hrestne : rest ≠ [] := by
      intro hnil
      subst hnil
      exact h.last (by simp)
    have hapart := h.apart
    rw [points_infix_append hpart, not_or] at hapart
    refine ⟨hpartne, hrestne, hapart.1, ?_, hapart.2⟩
    intro hlast
    apply h.last
    rw [List.getLast?_append, List.getLast?_cons, hlast]
    rfl
  · intro h
    obtain ⟨hpartne, hrestne, hrest⟩ := h
    refine ⟨?_, ?_, ?_⟩
    · rw [List.head?_append_of_ne_nil _ hpartne]
      exact (PointsWithin.of_notMem hpart).first
    · rw [List.getLast?_append_cons, List.getLast?_cons_of_ne_nil hrestne]
      exact hrest.last
    · rw [points_infix_append hpart, not_or]
      exact ⟨hrest.first, hrest.apart⟩

/-! ### The local part -/

/-- A character that may stand before the at sign. -/
def isLocalChar (c : Char) : Bool :=
  isAtomChar c || c == '.'

/-- What may stand before the at sign: characters of atoms and points, no point at either end and no two in a row. -/
structure IsLocal (cs : List Char) : Prop where
  ne_nil : cs ≠ []
  chars : ∀ c ∈ cs, isLocalChar c = true
  points : PointsWithin cs

theorem at_notMem_of_isLocalChar (h : ∀ c ∈ cs, isLocalChar c = true) : '@' ∉ cs := by
  intro hmem
  have hat : isLocalChar '@' = false := by decide
  have hchar := h _ hmem
  rw [hat] at hchar
  cases hchar

theorem isAtom_iff : isAtom part = true ↔ part ≠ [] ∧ ∀ c ∈ part, isAtomChar c = true := by
  simp [isAtom]

theorem forall_isLocalChar_iff (hpart : '.' ∉ part) :
    (∀ c ∈ part, isLocalChar c = true) ↔ ∀ c ∈ part, isAtomChar c = true := by
  apply forall₂_congr
  intro c hc
  have hne : c ≠ '.' := by
    intro heq
    exact hpart (heq ▸ hc)
  simp [isLocalChar, hne]

theorem isLocal_iff_isAtom (hpart : '.' ∉ part) : IsLocal part ↔ isAtom part = true := by
  rw [isAtom_iff, ← forall_isLocalChar_iff hpart]
  constructor
  · intro h
    exact ⟨h.ne_nil, h.chars⟩
  · intro h
    exact ⟨h.1, h.2, PointsWithin.of_notMem hpart⟩

/-- A text with a first point is a local part when an atom stands before the point and a local part after it. -/
theorem isLocal_append_iff (hpart : '.' ∉ part) :
    IsLocal (part ++ '.' :: rest) ↔ isAtom part = true ∧ IsLocal rest := by
  have hpoint : isLocalChar '.' = true := by decide
  have hchars : (∀ c ∈ part ++ '.' :: rest, isLocalChar c = true) ↔
      (∀ c ∈ part, isAtomChar c = true) ∧ ∀ c ∈ rest, isLocalChar c = true := by
    rw [List.forall_mem_append, List.forall_mem_cons, forall_isLocalChar_iff hpart]
    simp only [hpoint, true_and]
  rw [isAtom_iff]
  constructor
  · intro h
    obtain ⟨hpartne, hrestne, hpoints⟩ := (pointsWithin_append_iff hpart).mp h.points
    obtain ⟨hatom, hrest⟩ := hchars.mp h.chars
    exact ⟨⟨hpartne, hatom⟩, hrestne, hrest, hpoints⟩
  · intro h
    obtain ⟨⟨hpartne, hatom⟩, hrest⟩ := h
    refine ⟨by simp, hchars.mpr ⟨hatom, hrest.chars⟩, ?_⟩
    exact (pointsWithin_append_iff hpart).mpr ⟨hpartne, hrest.ne_nil, hrest.points⟩

/-- Parts with points between them are a local part when each of them is an atom. -/
theorem isLocal_intercalate_iff {parts : List (List Char)} (hne : parts ≠ []) (h : ∀ part ∈ parts, '.' ∉ part) :
    IsLocal (['.'].intercalate parts) ↔ ∀ part ∈ parts, isAtom part = true := by
  induction parts with
  | nil => exact absurd rfl hne
  | cons part parts ih =>
    rw [List.forall_mem_cons] at h ⊢
    cases parts with
    | nil =>
      rw [List.intercalate_singleton, isLocal_iff_isAtom h.1]
      simp
    | cons next parts =>
      rw [List.intercalate_cons_cons, List.append_assoc, List.singleton_append, isLocal_append_iff h.1,
        ih (List.cons_ne_nil next parts) h.2]

theorem isLocalPart_iff : isLocalPart cs = true ↔ IsLocal cs := by
  have hparts := isLocal_intercalate_iff (cutAt_ne_nil '.' cs) notMem_of_mem_cutAt
  rw [intercalate_cutAt] at hparts
  rw [hparts, isLocalPart, List.all_eq_true]

/-! ### The domain -/

/-- A character of a label. -/
def isLabelChar (c : Char) : Bool :=
  c.isAlphanum || c == '-'

/-- A label of a domain: letters, digits and hyphens, at most 63, a letter or digit at either end. -/
structure IsDomainLabel (cs : List Char) : Prop where
  short : cs.length ≤ 63
  chars : ∀ c ∈ cs, isLabelChar c = true
  first : ∃ c ∈ cs.head?, c.isAlphanum = true
  last : ∃ c ∈ cs.getLast?, c.isAlphanum = true

theorem isLabel_iff : isLabel cs = true ↔ IsDomainLabel cs := by
  simp only [isLabel, isLabelEnd, Bool.and_eq_true, Option.any_eq_true, decide_eq_true_eq, List.all_eq_true]
  constructor
  · intro h
    obtain ⟨⟨⟨hfirst, hlast⟩, hshort⟩, hchars⟩ := h
    exact ⟨hshort, hchars, hfirst, hlast⟩
  · intro h
    exact ⟨⟨⟨h.first, h.last⟩, h.short⟩, h.chars⟩

/-- No separator stands in a label. -/
theorem IsDomainLabel.notMem (h : IsDomainLabel cs) {c : Char} (hc : isLabelChar c = false) : c ∉ cs := by
  intro hmem
  have hchar := h.chars c hmem
  rw [hc] at hchar
  cases hchar

theorem isDomain_iff : isDomain cs = true ↔
    ∃ labels, cs = ['.'].intercalate labels ∧ 2 ≤ labels.length ∧ ∀ label ∈ labels, IsDomainLabel label := by
  simp only [isDomain, Bool.and_eq_true, decide_eq_true_eq, List.all_eq_true, isLabel_iff]
  constructor
  · intro h
    exact ⟨cutAt '.' cs, (intercalate_cutAt '.' cs).symm, h⟩
  · intro h
    obtain ⟨labels, rfl, hlength, hlabels⟩ := h
    have hne : labels ≠ [] := by
      intro hnil
      rw [hnil] at hlength
      cases hlength
    rw [cutAt_intercalate hne fun label hlabel => (hlabels label hlabel).notMem (by decide)]
    exact ⟨hlength, hlabels⟩

/-! ### The grammar -/

/-- A mail address: a local part, an at sign and at least two labels with points between them. -/
def IsMailAddress (cs : List Char) : Prop :=
  ∃ name labels, cs = name ++ '@' :: ['.'].intercalate labels ∧ IsLocal name ∧
    2 ≤ labels.length ∧ ∀ label ∈ labels, IsDomainLabel label

/-- **A text is taken for a mail address when it is one.** -/
theorem isMailbox_iff : isMailbox cs = true ↔ IsMailAddress cs := by
  rw [isMailbox]
  constructor
  · intro h
    split at h
    · rename_i name domain hcut
      obtain ⟨rfl, _⟩ := cutOnce_eq_some_iff.mp hcut
      rw [Bool.and_eq_true, isLocalPart_iff, isDomain_iff] at h
      obtain ⟨hname, labels, rfl, hlabels⟩ := h
      exact ⟨name, labels, rfl, hname, hlabels⟩
    · cases h
  · intro h
    obtain ⟨name, labels, rfl, hname, hlabels⟩ := h
    rw [cutOnce_eq_some_iff.mpr ⟨rfl, at_notMem_of_isLocalChar hname.chars⟩]
    rw [Bool.and_eq_true, isLocalPart_iff, isDomain_iff]
    exact ⟨hname, labels, rfl, hlabels⟩

/-! ### The regular expression -/

/-- A letter or digit, and perhaps up to 61 letters, digits and hyphens and another letter or digit. -/
def labelExpression : Language Char :=
  oneOf Char.isAlphanum * (1 + upTo 61 (oneOf isLabelChar) * oneOf Char.isAlphanum)

/-- Characters of local parts at least once, an at sign, a label, and at least once a point and a label. -/
def mailExpression : Language Char :=
  plus (oneOf isLocalChar) * (only '@' * (labelExpression * plus (only '.' * labelExpression)))

theorem isLabelChar_of_isAlphanum {c : Char} (h : c.isAlphanum = true) : isLabelChar c = true := by
  rw [isLabelChar, h, Bool.true_or]

theorem isDomainLabel_singleton {c : Char} : IsDomainLabel [c] ↔ c.isAlphanum = true := by
  constructor
  · intro h
    simpa using h.first
  · intro h
    exact ⟨by simp, by simpa using isLabelChar_of_isAlphanum h, by simpa using h, by simpa using h⟩

/-- What stands between the ends of a label of two characters or more. -/
theorem isDomainLabel_ends_iff {c d : Char} {middle : List Char} : IsDomainLabel (c :: (middle ++ [d])) ↔
    c.isAlphanum = true ∧ (middle.length ≤ 61 ∧ ∀ m ∈ middle, isLabelChar m = true) ∧ d.isAlphanum = true := by
  have hlast : (c :: (middle ++ [d])).getLast? = some d := by rw [← List.cons_append, List.getLast?_concat]
  have hlength : (c :: (middle ++ [d])).length = middle.length + 2 := by simp
  have hchars : (∀ m ∈ c :: (middle ++ [d]), isLabelChar m = true) ↔
      isLabelChar c = true ∧ (∀ m ∈ middle, isLabelChar m = true) ∧ isLabelChar d = true := by
    rw [List.forall_mem_cons, List.forall_mem_append, List.forall_mem_singleton]
  constructor
  · intro h
    have hshort := h.short
    have hfirst := h.first
    have hend := h.last
    rw [hlength] at hshort
    rw [hlast] at hend
    exact ⟨by simpa using hfirst, ⟨by omega, (hchars.mp h.chars).2.1⟩, by simpa using hend⟩
  · intro h
    obtain ⟨hc, ⟨hshort, hmiddle⟩, hd⟩ := h
    refine ⟨by omega, ?_, ⟨c, rfl, hc⟩, ⟨d, hlast, hd⟩⟩
    exact hchars.mpr ⟨isLabelChar_of_isAlphanum hc, hmiddle, isLabelChar_of_isAlphanum hd⟩

/-- A label is one character, or two with more between them. -/
theorem mem_labelExpression : cs ∈ labelExpression ↔ IsDomainLabel cs := by
  cases cs with
  | nil =>
    constructor
    · intro h
      exact absurd h nil_notMem_oneOf_mul
    · intro h
      obtain ⟨c, hc, _⟩ := h.first
      cases hc
  | cons c cs =>
    rw [labelExpression, cons_mem_oneOf_mul, Language.mem_add, Language.mem_one, Language.mem_mul]
    constructor
    · intro h
      obtain ⟨hc, rfl | ⟨middle, hmiddle, _, ⟨d, hd, rfl⟩, rfl⟩⟩ := h
      · exact isDomainLabel_singleton.mpr hc
      · exact isDomainLabel_ends_iff.mpr ⟨hc, mem_upTo_oneOf.mp hmiddle, hd⟩
    · intro h
      rcases List.eq_nil_or_concat cs with rfl | ⟨middle, d, rfl⟩
      · exact ⟨isDomainLabel_singleton.mp h, Or.inl rfl⟩
      · rw [List.concat_eq_append] at h ⊢
        obtain ⟨hc, hmiddle, hd⟩ := isDomainLabel_ends_iff.mp h
        exact ⟨hc, Or.inr ⟨middle, mem_upTo_oneOf.mpr hmiddle, [d], ⟨d, hd, rfl⟩, rfl⟩⟩

theorem mem_mailExpression : cs ∈ mailExpression ↔ ∃ name labels, cs = name ++ '@' :: ['.'].intercalate labels ∧
    (name ≠ [] ∧ ∀ c ∈ name, isLocalChar c = true) ∧ 2 ≤ labels.length ∧ ∀ label ∈ labels, IsDomainLabel label := by
  rw [mailExpression, Language.mem_mul]
  constructor
  · intro h
    obtain ⟨name, hname, _, hrest, rfl⟩ := h
    obtain ⟨domain, hdomain, rfl⟩ := mem_only_mul.mp hrest
    obtain ⟨labels, hlength, hlabels, rfl⟩ := mem_mul_plus_only.mp hdomain
    refine ⟨name, labels, rfl, mem_plus_oneOf.mp hname, hlength, ?_⟩
    intro label hlabel
    exact mem_labelExpression.mp (hlabels label hlabel)
  · intro h
    obtain ⟨name, labels, rfl, hname, hlength, hlabels⟩ := h
    refine ⟨name, mem_plus_oneOf.mpr hname, _, mem_only_mul.mpr ⟨_, ?_, rfl⟩, rfl⟩
    refine mem_mul_plus_only.mpr ⟨labels, hlength, ?_, rfl⟩
    intro label hlabel
    exact mem_labelExpression.mpr (hlabels label hlabel)

/-- **The expression describes the mail addresses, but for the points before the first at sign**: a text is a mail
address when the expression describes it and these points stand within that part, one at a time. -/
theorem isMailAddress_iff_mem_expression :
    IsMailAddress cs ↔ cs ∈ mailExpression ∧ PointsWithin (cs.takeWhile (· != '@')) := by
  have hbefore : ∀ {name domain : List Char}, (∀ c ∈ name, isLocalChar c = true) →
      (name ++ '@' :: domain).takeWhile (· != '@') = name := by
    intro name domain hname
    have hpass : ∀ c ∈ name, (c != '@') = true := by
      intro c hc
      rw [bne_iff_ne]
      intro heq
      exact at_notMem_of_isLocalChar hname (heq ▸ hc)
    rw [List.takeWhile_append_of_pos hpass]
    simp
  rw [mem_mailExpression]
  constructor
  · intro h
    obtain ⟨name, labels, rfl, hname, hlabels⟩ := h
    rw [hbefore hname.chars]
    exact ⟨⟨name, labels, rfl, ⟨hname.ne_nil, hname.chars⟩, hlabels⟩, hname.points⟩
  · intro h
    obtain ⟨⟨name, labels, rfl, ⟨hne, hchars⟩, hlabels⟩, hpoints⟩ := h
    rw [hbefore hchars] at hpoints
    exact ⟨name, labels, rfl, ⟨hne, hchars, hpoints⟩, hlabels⟩

end FormCheck.Address

namespace FormCheck.Check

open FormCheck.Address

/-- **The grammar of mail addresses is what the check asks for.**  A value passes, where the argument says yes, when
its text is a mail address, and fails otherwise; where it has no text there is no answer.  That is also what the expression
describes, with the points before the first at sign looked at afterwards. -/
theorem mailbox_passes_iff (v : Value) (context : Context) {a : Argument} (ha : a.isTruthy = true) :
    (∀ s, v.toText = .ok s →
      ∃ b, mailbox v a context = .ok (.ofBool b) ∧ (b = true ↔ IsMailAddress s.toList) ∧
        (b = true ↔ s.toList ∈ mailExpression ∧ PointsWithin (s.toList.takeWhile (· != '@')))) ∧
      ∀ f, v.toText = .error f → mailbox v a context = .error f := by
  rw [mailbox, if_pos ha]
  constructor
  · intro s hs
    rw [hs]
    exact ⟨isMailbox s.toList, rfl, isMailbox_iff, isMailbox_iff.trans isMailAddress_iff_mem_expression⟩
  · intro f hf
    rw [hf]
    rfl

/-- A text with points within its local part is a mail address; with two of them in a row it is none. -/
theorem mailbox_passes_iff_of_points : (Argument.value (.bool true)).isTruthy = true ∧
    IsMailAddress "first.last+tag@sub.example.co.uk".toList ∧ ¬ IsMailAddress "first..last@example.com".toList := by
  have hyes : (Argument.value (.bool true)).isTruthy = true := rfl
  have hpasses : ∀ s : String, ∃ b,
      mailbox (.text s) (.value (.bool true)) ⟨[], none, .absent, [], none⟩ = .ok (.ofBool b) ∧
        (b = true ↔ IsMailAddress s.toList) := by
    intro s
    obtain ⟨b, hb, haddress, _⟩ := (mailbox_passes_iff (.text s) ⟨[], none, .absent, [], none⟩ hyes).1 s rfl
    exact ⟨b, hb, haddress⟩
  obtain ⟨b, hb, haddress⟩ := hpasses "first.last+tag@sub.example.co.uk"
  obtain ⟨c, hc, hrow⟩ := hpasses "first..last@example.com"
  have hwithin : b = true := by
    cases b with
    | true => rfl
    | false => cases hb
  have htwo : c ≠ true := by
    cases c with
    | true => cases hc
    | false => decide
  exact ⟨hyes, haddress.mp hwithin, fun h => htwo (hrow.mpr h)⟩

end FormCheck.Check
