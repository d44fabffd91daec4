import Mathlib.Computability.Language

/-!
# Regular languages of texts

What a regular expression describes, from its characters up: a class of characters, one part after another, a part
any number of times or up to a bound.

* `oneOf`, `plus`, `upTo` — one character of a class; a part at least once; a part at most so many times;
* `mem_oneOf_pow`, `mem_plus_oneOf`, `mem_upTo_oneOf` — **proved**: a repeated class describes the texts of its
  characters, told apart by their length alone;
* `mem_mul_plus_only` — **proved**: a part, and at least once a separator and the part again, describe the texts of two
  parts or more with separators between them.
-/

namespace FormCheck.Text

open scoped Computability

variable {p : Char → Bool} {l : Language Char} {c : Char} {cs : List Char}

/-- The texts of one character of a class. -/
def oneOf (p : Char → Bool) : Language Char :=
  {cs | ∃ c, p c = true ∧ cs = [c]}

/-- The text of one character. -/
def only (c : Char) : Language Char :=
  oneOf (· == c)

/-- A part at least once. -/
def plus (l : Language Char) : Language Char :=
  l * l∗

/-- A part at most `n` times. -/
def upTo (n : Nat) (l : Language Char) : Language Char :=
  {cs | ∃ m ≤ n, cs ∈ l ^ m}

/-! ### One character -/

@[simp] theorem nil_notMem_oneOf_mul : [] ∉ oneOf p * l := by
  intro h
  obtain ⟨_, ⟨c, _, rfl⟩, rest, _, hnil⟩ := Language.mem_mul.mp h
  cases hnil

@[simp] theorem cons_mem_oneOf_mul : c :: cs ∈ oneOf p * l ↔ p c = true ∧ cs ∈ l := by
  rw [Language.mem_mul]
  constructor
  · intro h
    obtain ⟨_, ⟨d, hd, rfl⟩, rest, hrest, heq⟩ := h
    cases heq
    exact ⟨hd, hrest⟩
  · intro h
    exact ⟨[c], ⟨c, h.1, rfl⟩, cs, h.2, rfl⟩

@[simp] theorem nil_notMem_only_mul : [] ∉ only c * l :=
  nil_notMem_oneOf_mul

@[simp] theorem cons_mem_only_mul {d : Char} : d :: cs ∈ only c * l ↔ d = c ∧ cs ∈ l := by
  rw [only, cons_mem_oneOf_mul, beq_iff_eq]

/-! ### Characters in a row -/

/-- A class repeated `n` times describes the texts of `n` of its characters. -/
theorem mem_oneOf_pow {n : Nat} : cs ∈ oneOf p ^ n ↔ cs.length = n ∧ ∀ c ∈ cs, p c = true := by
  induction n generalizing cs with
  | zero =>
    rw [pow_zero, Language.mem_one, List.length_eq_zero_iff]
    constructor
    · intro h
      subst h
      simp
    · intro h
      exact h.1
  | succ n ih =>
    rw [pow_succ']
    cases cs with
    | nil => simp
    | cons c cs =>
      rw [cons_mem_oneOf_mul, ih, List.length_cons, List.forall_mem_cons]
      constructor
      · intro h
        exact ⟨congrArg (· + 1) h.2.1, h.1, h.2.2⟩
      · intro h
        exact ⟨h.2.1, Nat.succ.inj h.1, h.2.2⟩

theorem mem_kstar_oneOf : cs ∈ (oneOf p)∗ ↔ ∀ c ∈ cs, p c = true := by
  rw [Language.kstar_eq_iSup_pow, Language.mem_iSup]
  simp only [mem_oneOf_pow, exists_and_right, exists_eq', true_and]

theorem mem_plus_oneOf : cs ∈ plus (oneOf p) ↔ cs ≠ [] ∧ ∀ c ∈ cs, p c = true := by
  rw [plus]
  cases cs with
  | nil => simp
  | cons c cs => simp [mem_kstar_oneOf]

theorem mem_upTo_oneOf {n : Nat} : cs ∈ upTo n (oneOf p) ↔ cs.length ≤ n ∧ ∀ c ∈ cs, p c = true := by
  show (∃ m ≤ n, cs ∈ oneOf p ^ m) ↔ _
  simp only [mem_oneOf_pow]
  constructor
  · intro h
    obtain ⟨m, hm, rfl, hall⟩ := h
    exact ⟨hm, hall⟩
  · intro h
    exact ⟨cs.length, h.1, rfl, h.2⟩

/-! ### Parts with separators -/

/-- Each part after the first one with its separator before it. -/
theorem intercalate_cons_eq_append_flatMap (sep : Char) (part : List Char) (parts : List (List Char)) :
    [sep].intercalate (part :: parts) = part ++ parts.flatMap (sep :: ·) := by
  induction parts generalizing part with
  | nil => simp
  | cons next parts ih =>
    rw [List.intercalate_cons_cons, ih, List.flatMap_cons]
    simp

theorem mem_only_mul {sep : Char} : cs ∈ only sep * l ↔ ∃ part ∈ l, cs = sep :: part := by
  cases cs with
  | nil => simp
  | cons c cs =>
    rw [cons_mem_only_mul]
    simp [and_comm]

theorem mem_kstar_only_mul {sep : Char} :
    cs ∈ (only sep * l)∗ ↔ ∃ parts : List (List Char), (∀ part ∈ parts, part ∈ l) ∧ cs = parts.flatMap (sep :: ·) := by
  rw [Language.mem_kstar]
  constructor
  · intro h
    obtain ⟨pieces, rfl, hpieces⟩ := h
    induction pieces with
    | nil => exact ⟨[], by simp, rfl⟩
    | cons piece pieces ih =>
      rw [List.forall_mem_cons] at hpieces
      obtain ⟨part, hpart, rfl⟩ := mem_only_mul.mp hpieces.1
      obtain ⟨parts, hparts, heq⟩ := ih hpieces.2
      exact ⟨part :: parts, List.forall_mem_cons.mpr ⟨hpart, hparts⟩, by rw [List.flatten_cons, heq, List.flatMap_cons]⟩
  · intro h
    obtain ⟨parts, hparts, rfl⟩ := h
    refine ⟨parts.map (sep :: ·), List.flatMap_def, ?_⟩
    intro piece hpiece
    obtain ⟨part, hpart, rfl⟩ := List.mem_map.mp hpiece
    exact mem_only_mul.mpr ⟨part, hparts part hpart, rfl⟩

/-- A part, and at least once a separator and the part again: two parts or more with separators between them. -/
theorem mem_mul_plus_only {sep : Char} : cs ∈ l * plus (only sep * l) ↔
    ∃ parts : List (List Char), 2 ≤ parts.length ∧ (∀ part ∈ parts, part ∈ l) ∧ cs = [sep].intercalate parts := by
  constructor
  · intro h
    obtain ⟨first, hfirst, _, hmore, rfl⟩ := Language.mem_mul.mp h
    obtain ⟨_, hnext, _, hrest, rfl⟩ := Language.mem_mul.mp hmore
    obtain ⟨second, hsecond, rfl⟩ := mem_only_mul.mp hnext
    obtain ⟨others, hothers, rfl⟩ := mem_kstar_only_mul.mp hrest
    refine ⟨first :: second :: others, by simp, ?_, ?_⟩
    · rw [List.forall_mem_cons, List.forall_mem_cons]
      exact ⟨hfirst, hsecond, hothers⟩
    · rw [intercalate_cons_eq_append_flatMap, List.flatMap_cons]
  · intro h
    obtain ⟨parts, hlength, hparts, rfl⟩ := h
    match parts with
    | first :: second :: others =>
      rw [List.forall_mem_cons, List.forall_mem_cons] at hparts
      rw [intercalate_cons_eq_append_flatMap, List.flatMap_cons]
      apply Language.append_mem_mul hparts.1
      apply Language.append_mem_mul (mem_only_mul.mpr ⟨second, hparts.2.1, rfl⟩)
      exact mem_kstar_only_mul.mpr ⟨others, hparts.2.2, rfl⟩

end FormCheck.Text
