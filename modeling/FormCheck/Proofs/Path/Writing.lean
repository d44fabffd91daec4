import FormCheck.Path.Basic
import Mathlib.Tactic.Common

/-!
# When a written path tells which path it is

The written form of a path runs names and indices together.  A point or an opening bracket inside a name looks
like the beginning of the next step, and an empty name at the beginning leaves no trace at all.

* `Segment.IsPlain`, `Path.IsPlain` — a step, and a path, without such names;
* `Path.flatMap_chars_injective` — **proved**: a run of plain steps is told from its characters;
* `Path.text_injective` — **proved**: plain paths with the same written form are the same.
-/

namespace FormCheck

open Number

/-! ### Numerals -/

namespace Number

/-- Nothing but the ten digits stands in the numeral of a count. -/
theorem exists_digit_of_mem_natDigits {n : Nat} {c : Char} (hc : c ∈ natDigits n) :
    ∃ d, d < 10 ∧ c = digitChar d := by
  induction n using natDigits.induct with
  | case1 n h =>
    rw [natDigits, if_pos h, List.mem_singleton] at hc
    exact ⟨n, h, hc⟩
  | case2 n h ih =>
    rw [natDigits, if_neg h, List.mem_append, List.mem_singleton] at hc
    rcases hc with hc | hc
    · exact ih hc
    · exact ⟨n % 10, by omega, hc⟩

theorem ne_of_mem_natDigits {n : Nat} {c d : Char} (hc : c ∈ natDigits n)
    (hd : ∀ k ∈ List.range 10, digitChar k ≠ d) : c ≠ d := by
  obtain ⟨k, hk, rfl⟩ := exists_digit_of_mem_natDigits hc
  exact hd k (List.mem_range.mpr hk)

theorem natDigits_injective {m n : Nat} (h : natDigits m = natDigits n) : m = n := by
  rw [← decimalValue_natDigits m, h, decimalValue_natDigits n]

/-- The numeral of a count does not begin with a sign. -/
theorem natDigits_ne_minus (m : Nat) (cs : List Char) : natDigits m ≠ '-' :: cs := by
  intro h
  have hmem : '-' ∈ natDigits m := h ▸ List.mem_cons_self
  exact ne_of_mem_natDigits hmem (by decide) rfl

theorem intDigits_injective {m n : Int} (h : intDigits m = intDigits n) : m = n := by
  rw [intDigits, intDigits] at h
  by_cases hm : m < 0
  · by_cases hn : n < 0
    · rw [if_pos hm, if_pos hn, List.cons.injEq] at h
      have := natDigits_injective h.2
      omega
    · rw [if_pos hm, if_neg hn] at h
      exact absurd h.symm (natDigits_ne_minus _ _)
  · by_cases hn : n < 0
    · rw [if_neg hm, if_pos hn] at h
      exact absurd h (natDigits_ne_minus _ _)
    · rw [if_neg hm, if_neg hn] at h
      have := natDigits_injective h
      omega

theorem ne_of_mem_intDigits {n : Int} {c d : Char} (hc : c ∈ intDigits n) (hminus : '-' ≠ d)
    (hd : ∀ k ∈ List.range 10, digitChar k ≠ d) : c ≠ d := by
  rw [intDigits] at hc
  split at hc
  · rcases List.mem_cons.mp hc with rfl | hc
    · exact hminus
    · exact ne_of_mem_natDigits hc hd
  · exact ne_of_mem_natDigits hc hd

end Number

/-! ### Steps -/

/-- A character at which the name of a step cannot go on. -/
def startsStep (c : Char) : Bool :=
  c == '.' || c == '['

/-- A name in which nothing looks like the beginning of a step. -/
def isPlainName (s : String) : Bool :=
  s.toList.all fun c => !startsStep c

namespace Segment

/-- A step that is no name, or a plain one. -/
def IsPlain : Segment → Prop
  | .name s => isPlainName s = true
  | _ => True

/-- What stands between the brackets of a step that is no name. -/
def inBrackets : Segment → List Char
  | .index n => intDigits n
  | _ => ['*']

theorem chars_of_not_name {s : Segment} (h : s.isName = false) (first : Bool) :
    s.chars first = '[' :: s.inBrackets ++ [']'] := by
  cases s with
  | name n => cases h
  | index n => rfl
  | each => rfl

theorem ne_close_of_mem_inBrackets (s : Segment) : ∀ c ∈ s.inBrackets, c ≠ ']' := by
  intro c hc
  cases s with
  | index n => exact ne_of_mem_intDigits hc (by decide) (by decide)
  | name n => exact ne_of_eq_of_ne (List.mem_singleton.mp hc) (by decide)
  | each => exact ne_of_eq_of_ne (List.mem_singleton.mp hc) (by decide)

theorem inBrackets_injective {s t : Segment} (hs : s.isName = false) (ht : t.isName = false)
    (h : s.inBrackets = t.inBrackets) : s = t := by
  have hstar : ∀ n : Int, intDigits n ≠ ['*'] := by
    intro n hn
    have hmem : '*' ∈ intDigits n := hn ▸ List.mem_singleton_self _
    exact ne_of_mem_intDigits hmem (by decide) (by decide) rfl
  cases s with
  | name _ => cases hs
  | index m =>
    cases t with
    | name _ => cases ht
    | index n => rw [intDigits_injective h]
    | each => exact absurd h (hstar m)
  | each =>
    cases t with
    | name _ => cases ht
    | index n => exact absurd h.symm (hstar n)
    | each => rfl

theorem ne_startsStep_of_plain {s : String} (h : (Segment.name s).IsPlain) :
    ∀ c ∈ s.toList, startsStep c = false := by
  intro c hc
  have := List.all_eq_true.mp h c hc
  simpa using this

end Segment

/-! ### Runs of steps -/

/-- Two texts that go on alike up to the first character of a kind have the same beginnings and the same
rests. -/
theorem append_inj_of_stop (stop : Char → Bool) {a b x y : List Char} (ha : ∀ c ∈ a, stop c = false)
    (hb : ∀ c ∈ b, stop c = false) (hx : ∀ c ∈ x.head?, stop c = true) (hy : ∀ c ∈ y.head?, stop c = true)
    (h : a ++ x = b ++ y) : a = b ∧ x = y := by
  -- Where one beginning is longer, it holds the character at which the other rest begins.
  have hclash : ∀ {c : Char} {d z : List Char}, stop c = false → (∀ e ∈ z.head?, stop e = true) →
      c :: d = z → False := by
    rintro c d z hc hz rfl
    rw [hz c rfl] at hc
    cases hc
  induction a generalizing b with
  | nil =>
    cases b with
    | nil => exact ⟨rfl, h⟩
    | cons d b => exact (hclash (hb d List.mem_cons_self) hx h.symm).elim
  | cons c a ih =>
    cases b with
    | nil => exact (hclash (ha c List.mem_cons_self) hy h).elim
    | cons d b =>
      rw [List.cons_append, List.cons_append, List.cons.injEq] at h
      obtain ⟨rfl, h⟩ := h
      rw [List.forall_mem_cons] at ha hb
      obtain ⟨rfl, rfl⟩ := ih ha.2 hb.2 h
      exact ⟨rfl, rfl⟩

namespace Path

/-- A path of plain steps that does not begin with an empty name. -/
def IsPlain (p : Path) : Prop :=
  (∀ s ∈ p, s.IsPlain) ∧ p.head? ≠ some (.name "")

/-- A step that does not come first begins with a point or a bracket. -/
theorem startsStep_flatMap_chars (p : Path) :
    ∀ c ∈ (p.flatMap (Segment.chars false)).head?, startsStep c = true := by
  intro c hc
  cases p with
  | nil => cases hc
  | cons s p => cases s <;> cases hc <;> rfl

/-- The first step and the rest are told from the characters, once it is known whether the step is a name. -/
theorem chars_append_injective {s t : Segment} {x y : List Char} {first : Bool} (hs : s.IsPlain)
    (ht : t.IsPlain) (hx : ∀ c ∈ x.head?, startsStep c = true) (hy : ∀ c ∈ y.head?, startsStep c = true)
    (hname : s.isName = t.isName) (h : s.chars first ++ x = t.chars first ++ y) : s = t ∧ x = y := by
  by_cases hbracket : s.isName = false
  · rw [Segment.chars_of_not_name hbracket, Segment.chars_of_not_name (hname ▸ hbracket)] at h
    rw [List.cons_append, List.cons_append, List.append_assoc, List.append_assoc, List.cons_append,
      List.cons_append, List.cons.injEq] at h
    obtain ⟨hinner, hrest⟩ := append_inj_of_stop (fun c => c == ']')
      (fun c hc => beq_false_of_ne (s.ne_close_of_mem_inBrackets c hc))
      (fun c hc => beq_false_of_ne (t.ne_close_of_mem_inBrackets c hc))
      (fun c hc => by cases hc; rfl) (fun c hc => by cases hc; rfl) h.2
    exact ⟨Segment.inBrackets_injective hbracket (hname ▸ hbracket) hinner, (List.cons.inj hrest).2⟩
  · obtain ⟨a, rfl⟩ : ∃ a, s = .name a := by
      cases s <;> first | exact ⟨_, rfl⟩ | exact absurd rfl hbracket
    obtain ⟨b, rfl⟩ : ∃ b, t = .name b := by
      cases t <;> first | exact ⟨_, rfl⟩ | cases hname
    have hchars : a.toList ++ x = b.toList ++ y := by
      cases first with
      | true => exact h
      | false => exact (List.cons.inj h).2
    obtain ⟨hab, hxy⟩ := append_inj_of_stop startsStep (Segment.ne_startsStep_of_plain hs)
      (Segment.ne_startsStep_of_plain ht) hx hy hchars
    exact ⟨by rw [String.toList_injective hab], hxy⟩

/-- **A run of plain steps is told from its characters.** -/
theorem flatMap_chars_injective {p q : Path} (hp : ∀ s ∈ p, s.IsPlain) (hq : ∀ s ∈ q, s.IsPlain)
    (h : p.flatMap (Segment.chars false) = q.flatMap (Segment.chars false)) : p = q := by
  have hne : ∀ s : Segment, s.chars false ≠ [] := by
    intro s
    cases s <;> exact List.cons_ne_nil _ _
  induction p generalizing q with
  | nil =>
    cases q with
    | nil => rfl
    | cons t q => exact absurd (List.append_eq_nil_iff.mp h.symm).1 (hne t)
  | cons s p ih =>
    cases q with
    | nil => exact absurd (List.append_eq_nil_iff.mp h).1 (hne s)
    | cons t q =>
      rw [List.forall_mem_cons] at hp hq
      rw [List.flatMap_cons, List.flatMap_cons] at h
      have hname : s.isName = t.isName := by
        have hhead := congrArg List.head? h
        cases s <;> cases t <;> first | rfl | cases hhead
      obtain ⟨rfl, hrest⟩ := chars_append_injective hp.1 hq.1 (startsStep_flatMap_chars p)
        (startsStep_flatMap_chars q) hname h
      rw [ih hp.2 hq.2 hrest]

/-- A step that is no empty name begins with a bracket exactly when it is no name. -/
theorem head?_chars_first {s : Segment} (hs : s.IsPlain) (hempty : s ≠ .name "") (x : List Char) :
    (s.chars true ++ x).head? ≠ none ∧ ((s.chars true ++ x).head? = some '[' ↔ s.isName = false) := by
  cases s with
  | name a =>
    cases hchars : a.toList with
    | nil => exact absurd (by rw [String.toList_injective (hchars.trans String.toList_empty.symm)]) hempty
    | cons c cs =>
      have hc := Segment.ne_startsStep_of_plain hs c (by rw [hchars]; exact List.mem_cons_self)
      have hne : c ≠ '[' := by
        rintro rfl
        cases hc
      simp [Segment.chars, hchars, hne, Segment.isName]
  | index n => simp [Segment.chars, Segment.isName]
  | each => simp [Segment.chars, Segment.isName]

/-- **Plain paths with the same written form are the same.** -/
theorem text_injective {p q : Path} (hp : p.IsPlain) (hq : q.IsPlain) (h : p.text = q.text) : p = q := by
  have h : p.chars = q.chars := String.ofList_injective h
  obtain ⟨hp, hpfirst⟩ := hp
  obtain ⟨hq, hqfirst⟩ := hq
  cases p with
  | nil =>
    cases q with
    | nil => rfl
    | cons t q =>
      rw [List.forall_mem_cons] at hq
      have hhead := (head?_chars_first hq.1 (fun ht => hqfirst (by rw [ht]; rfl))
        (q.flatMap (Segment.chars false))).1
      exact absurd (congrArg List.head? h).symm hhead
  | cons s p =>
    rw [List.forall_mem_cons] at hp
    have hshead := head?_chars_first hp.1 (fun hs => hpfirst (by rw [hs]; rfl))
      (p.flatMap (Segment.chars false))
    cases q with
    | nil => exact absurd (congrArg List.head? h) hshead.1
    | cons t q =>
      rw [List.forall_mem_cons] at hq
      have hthead := head?_chars_first hq.1 (fun ht => hqfirst (by rw [ht]; rfl))
        (q.flatMap (Segment.chars false))
      have hname : s.isName = t.isName := by
        rw [← Bool.not_inj_iff, Bool.eq_iff_iff, Bool.not_eq_true', Bool.not_eq_true', ← hshead.2, ← hthead.2]
        exact iff_of_eq (congrArg (fun cs => List.head? cs = some '[') h)
      obtain ⟨rfl, hrest⟩ := chars_append_injective hp.1 hq.1 (startsStep_flatMap_chars p)
        (startsStep_flatMap_chars q) hname h
      rw [flatMap_chars_injective hp.2 hq.2 hrest]

end Path

end FormCheck
