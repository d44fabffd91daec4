import FormCheck.Proofs.Path.RoundTrip
import FormCheck.Proofs.Text.Cutting

/-!
# References written and read again

A reference is written as some points and a path, perhaps with blank characters around them.  The points tell how many
groups to climb, and an open index of the path is written `[*]` or `[]`.  Reading has to tell the points in front from
those between names, and the blanks around the reference from those inside of names.

* `Path.spellings` — the ways to write a path in a reference;
* `Path.IsReferable` — the paths that a reference has a text for;
* `Reference.written` — a path with points before it, and with other text around both;
* `Path.readFrom_spelling` — **proved**: a path is read from each of its spellings;
* `Reference.ofText_written` — **proved**: the points are told from the path after them, and blanks around both do not
  count;
* `Reference.ofText_inverts_written` — **proved**: what a reference has been written for is read from it.
-/

namespace FormCheck

open Text Number

/-! ### Spellings -/

/-- The ways to write a step in a reference. -/
def Segment.spellings (first : Bool) : Segment → List (List Char)
  | .each => [['[', '*', ']'], ['[', ']']]
  | s => [s.chars first]

namespace Path

/-- The ways to write steps that do not come first. -/
def spellingsOn : Path → List (List Char)
  | [] => [[]]
  | s :: p => (s.spellings false).flatMap fun cs => (spellingsOn p).map (cs ++ ·)

/-- The ways to write a path in a reference. -/
def spellings : Path → List (List Char)
  | [] => [[]]
  | s :: p => (s.spellings true).flatMap fun cs => (spellingsOn p).map (cs ++ ·)

/-- A path that can be written, begins with a name, and has no blank characters at the ends of its names. -/
structure IsReferable (p : Path) : Prop extends p.IsWritable true where
  ne_nil : p ≠ []
  tight : ∀ n, .name n ∈ p → IsTight n.toList

variable {p : Path} {cs : List Char}

theorem mem_spellingsOn_cons {s : Segment} : cs ∈ spellingsOn (s :: p) ↔
    ∃ front ∈ s.spellings false, ∃ rest ∈ spellingsOn p, cs = front ++ rest := by
  simp only [spellingsOn, List.mem_flatMap, List.mem_map, eq_comm]

theorem mem_spellings_cons {s : Segment} : cs ∈ spellings (s :: p) ↔
    ∃ front ∈ s.spellings true, ∃ rest ∈ spellingsOn p, cs = front ++ rest := by
  simp only [spellings, List.mem_flatMap, List.mem_map, eq_comm]

/-- The written form of a path is one of its spellings. -/
theorem chars_mem_spellings (p : Path) : p.chars ∈ p.spellings := by
  have hstep : ∀ (s : Segment) (first : Bool), s.chars first ∈ s.spellings first := by
    intro s first
    cases s <;> exact List.mem_cons_self
  have hsteps : ∀ p : Path, p.flatMap (Segment.chars false) ∈ spellingsOn p := by
    intro p
    induction p with
    | nil => exact List.mem_singleton_self []
    | cons s p ih => exact mem_spellingsOn_cons.mpr ⟨_, hstep s false, _, ih, List.flatMap_cons⟩
  cases p with
  | nil => exact List.mem_singleton_self []
  | cons s p => exact mem_spellings_cons.mpr ⟨_, hstep s true, _, hsteps p, rfl⟩

/-- A path that a reference has a text for begins with a name, and is spelled as this name and the other steps. -/
theorem IsReferable.exists_name (h : p.IsReferable) : ∃ n q, p = .name n :: q ∧
    ∀ cs ∈ p.spellings, ∃ rest ∈ spellingsOn q, cs = n.toList ++ rest := by
  obtain ⟨s, q, rfl⟩ := List.exists_cons_of_ne_nil h.ne_nil
  cases s with
  | name n =>
    refine ⟨n, q, rfl, fun cs hcs => ?_⟩
    obtain ⟨front, hfront, rest, hrest, rfl⟩ := mem_spellings_cons.mp hcs
    obtain rfl := List.mem_singleton.mp hfront
    exact ⟨rest, hrest, rfl⟩
  | _ => cases h.first _ rfl

/-! ### Spellings are read -/

/-- A step that is no name is spelled as a mark. -/
theorem exists_mark_of_spelling {s : Segment} (hs : s.IsWritable true) (hname : s.isName = false)
    (h : cs ∈ s.spellings false) : ∃ m : Mark, m.IsProper true ∧ m.step = s ∧ cs = m.chars := by
  cases s with
  | name n => cases hname
  | index k =>
    obtain ⟨m, hm, hstep, hwritten⟩ := exists_mark_of_isWritable hs hname
    exact ⟨m, hm, hstep, (List.mem_singleton.mp h).trans hwritten⟩
  | each =>
    rcases List.mem_cons.mp h with hstar | hbare
    · exact ⟨.star, rfl, rfl, hstar⟩
    · exact ⟨.bare, rfl, rfl, List.mem_singleton.mp hbare⟩

/-- No name goes on where the next step begins. -/
theorem not_isNameChar_spelling (h : cs ∈ spellingsOn p) : ∀ c ∈ cs.head?, isNameChar c = false := by
  intro c hc
  cases p with
  | nil =>
    obtain rfl := List.mem_singleton.mp h
    cases hc
  | cons s p =>
    obtain ⟨front, hfront, rest, _, rfl⟩ := mem_spellingsOn_cons.mp h
    cases s with
    | each =>
      simp only [Segment.spellings, List.mem_cons, List.not_mem_nil, or_false] at hfront
      rcases hfront with rfl | rfl <;> cases hc <;> rfl
    | _ =>
      obtain rfl := List.mem_singleton.mp hfront
      cases hc
      rfl

/-- Steps that do not come first are read from each of their spellings. -/
theorem readFrom_spellingsOn (hp : ∀ s ∈ p, s.IsWritable true) (h : cs ∈ spellingsOn p) (text : String)
    (position : Nat) : readFrom true text .more position cs = .ok p := by
  induction p generalizing cs position with
  | nil =>
    rw [List.mem_singleton.mp h, readFrom]
    rfl
  | cons s p ih =>
    rw [List.forall_mem_cons] at hp
    obtain ⟨front, hfront, rest, hrest, rfl⟩ := mem_spellingsOn_cons.mp h
    by_cases hname : s.isName = true
    · obtain ⟨n, rfl⟩ : ∃ n, s = .name n := by
        cases s <;> first | exact ⟨_, rfl⟩ | cases hname
      obtain rfl : front = '.' :: n.toList := List.mem_singleton.mp hfront
      rw [List.cons_append, readFrom_point, readFrom_name (by decide) hp.1.1 hp.1.2 (not_isNameChar_spelling hrest),
        ih hp.2 hrest, String.ofList_toList]
      rfl
    · obtain ⟨m, hm, rfl, rfl⟩ := exists_mark_of_spelling hp.1 (Bool.not_eq_true _ ▸ hname) hfront
      rw [readFrom_mark hm, ih hp.2 hrest]
      rfl

/-- **A path is read from each of its spellings.** -/
theorem readFrom_spelling (h : p.IsReferable) (hcs : cs ∈ p.spellings) (text : String) (position : Nat) :
    readFrom true text .start position cs = .ok p := by
  obtain ⟨n, q, rfl, hspelled⟩ := h.exists_name
  obtain ⟨rest, hrest, rfl⟩ := hspelled cs hcs
  obtain ⟨hn, hq⟩ := List.forall_mem_cons.mp h.steps
  rw [readFrom_name (by decide) hn.1 hn.2 (not_isNameChar_spelling hrest), readFrom_spellingsOn hq hrest,
    String.ofList_toList]
  rfl

/-! ### Spellings have no blanks at their ends -/

theorem isTight_spellingsOn (hp : ∀ n, .name n ∈ p → IsTight n.toList) (h : cs ∈ spellingsOn p)
    {front : List Char} (hfront : IsTight front) : IsTight (front ++ cs) := by
  induction p generalizing cs front with
  | nil => rwa [List.mem_singleton.mp h, List.append_nil]
  | cons s p ih =>
    obtain ⟨step, hstep, rest, hrest, rfl⟩ := mem_spellingsOn_cons.mp h
    -- A step ends in a name or in a closing bracket.
    have hend : ∃ start last, IsTight last ∧ step = start ++ last := by
      have hclose : IsTight [']'] := by decide
      cases s with
      | name n => exact ⟨['.'], n.toList, hp n List.mem_cons_self, List.mem_singleton.mp hstep⟩
      | index k => exact ⟨'[' :: intDigits k, [']'], hclose, List.mem_singleton.mp hstep⟩
      | each =>
        simp only [Segment.spellings, List.mem_cons, List.not_mem_nil, or_false] at hstep
        rcases hstep with rfl | rfl
        · exact ⟨['[', '*'], [']'], hclose, rfl⟩
        · exact ⟨['['], [']'], hclose, rfl⟩
    obtain ⟨start, last, hlast, rfl⟩ := hend
    rw [← List.append_assoc]
    exact ih (fun n hn => hp n (List.mem_cons_of_mem s hn)) hrest (hfront.append hlast start)

theorem IsReferable.isTight_spelling (h : p.IsReferable) (hcs : cs ∈ p.spellings) : IsTight cs := by
  obtain ⟨n, q, rfl, hspelled⟩ := h.exists_name
  obtain ⟨rest, hrest, rfl⟩ := hspelled cs hcs
  exact isTight_spellingsOn (fun m hm => h.tight m (List.mem_cons_of_mem _ hm)) hrest (h.tight n List.mem_cons_self)

/-- No spelling begins with a point. -/
theorem IsReferable.head_ne_point (h : p.IsReferable) (hcs : cs ∈ p.spellings) : ∀ c ∈ cs.head?, c ≠ '.' := by
  obtain ⟨n, q, rfl, hspelled⟩ := h.exists_name
  obtain ⟨rest, _, rfl⟩ := hspelled cs hcs
  have hn : (Segment.name n).IsWritable true := h.steps _ List.mem_cons_self
  obtain ⟨c, tail, hchars⟩ := List.exists_cons_of_ne_nil hn.1
  have hc : c ∉ ['.', '[', ']'] := hn.2 c (hchars ▸ List.mem_cons_self)
  rintro _ hd rfl
  rw [hchars, List.cons_append, List.head?_cons] at hd
  cases hd
  exact hc List.mem_cons_self

end Path

/-! ### References -/

namespace Reference

/-- A reference as it may be written: some points and a path, with other text before and after. -/
def written (before : String) (points : Nat) (path after : String) : String :=
  before ++ String.ofList (List.replicate points '.') ++ path ++ after

/-- The groups to climb for some points before a path: none are counted where the path starts at the root. -/
def climbed : Nat → Option Nat
  | 0 => none
  | points + 1 => some points

variable {before after : String}

/-- **The points are told from the path after them, and blanks around both do not count.** -/
theorem ofText_written (hbefore : allBlank before = true) (hafter : allBlank after = true) {path : String}
    (htight : IsTight path.toList) (hpoint : ∀ c ∈ path.toList.head?, c ≠ '.') {segments : Path}
    (hread : Path.readFrom true path .start 0 path.toList = .ok segments) (points : Nat) :
    ofText (written before points path after) =
      .ok ⟨written before points path after, segments, climbed points⟩ := by
  have htrim : trimChars (written before points path after).toList = List.replicate points '.' ++ path.toList := by
    have hall : IsTight (List.replicate points '.' ++ path.toList) := by
      cases points with
      | zero => exact htight
      | succ points =>
        have hfirst : IsTight ['.'] := by decide
        exact hfirst.append htight (List.replicate points '.')
    have hchars : (written before points path after).toList =
        before.toList ++ ((List.replicate points '.' ++ path.toList) ++ after.toList) := by
      simp [written]
    rw [hchars]
    exact trimChars_of_tight hall (List.all_eq_true.mp hbefore) (List.all_eq_true.mp hafter)
  have hpoints : ∀ c ∈ List.replicate points '.', (c == '.') = true := by
    intro c hc
    rw [List.eq_of_mem_replicate hc]
    rfl
  obtain ⟨c, rest, hpath⟩ := List.exists_cons_of_ne_nil htight.ne_nil
  have hc : ¬ (c == '.') = true := by
    rw [beq_iff_eq]
    exact hpoint c (by rw [hpath]; rfl)
  have htake : (List.replicate points '.' ++ path.toList).takeWhile (· == '.') = List.replicate points '.' := by
    rw [List.takeWhile_append_of_pos hpoints, hpath,
      List.takeWhile_cons_of_neg (p := (· == '.')) hc, List.append_nil]
  have hdrop : (List.replicate points '.' ++ path.toList).dropWhile (· == '.') = path.toList := by
    rw [List.dropWhile_append_of_pos hpoints, hpath,
      List.dropWhile_cons_of_neg (p := (· == '.')) hc]
  have hempty : path.toList.isEmpty = false := List.isEmpty_eq_false_iff.mpr htight.ne_nil
  have hclimbed : (if (List.replicate points '.').isEmpty then none
      else some ((List.replicate points '.').length - 1)) = climbed points := by
    cases points with
    | zero => rfl
    | succ points => simp [climbed, List.replicate_succ]
  rw [ofText]
  simp only [htrim, htake, hdrop, hempty, String.ofList_toList, hread, hclimbed]
  rfl

/-- **What a reference has been written for is read from it.**  It has been written for a path that begins with a name,
can be written, and has no blanks at the ends of its names; with any number of points before it, and blanks around both.
It is read as this path, and as climbing one group less than there are points, or as starting at the root if there are
none.  This is so for the written form of the path, and also where some of its open indices are written `[]`.  The
written form on its own is read as this path exactly when the path has no open indices. -/
theorem ofText_inverts_written {p : Path} (h : p.IsReferable) (hbefore : allBlank before = true)
    (hafter : allBlank after = true) (points : Nat) :
    ofText (written before points p.text after) = .ok ⟨written before points p.text after, p, climbed points⟩ ∧
    (∀ cs ∈ p.spellings, ofText (written before points (String.ofList cs) after) =
      .ok ⟨written before points (String.ofList cs) after, p, climbed points⟩) ∧
    (Path.ofText p.text = .ok p ↔ .each ∉ p) := by
  have hspelled : ∀ cs ∈ p.spellings, ofText (written before points (String.ofList cs) after) =
      .ok ⟨written before points (String.ofList cs) after, p, climbed points⟩ := by
    intro cs hcs
    refine ofText_written hbefore hafter ?_ ?_ ?_ points
    · rw [String.toList_ofList]
      exact h.isTight_spelling hcs
    · rw [String.toList_ofList]
      exact h.head_ne_point hcs
    · rw [String.toList_ofList]
      exact Path.readFrom_spelling h hcs _ 0
  refine ⟨hspelled p.chars p.chars_mem_spellings, hspelled, ?_⟩
  constructor
  · intro hread heach
    obtain ⟨stretches, hproper, _, rfl⟩ := Path.readFrom_eq_ok_iff.mp hread
    cases (Path.isWritable_steps hproper).steps _ heach
  · intro heach
    have hwritable : p.IsWritable false := by
      refine ⟨h.first, fun s hs => ?_⟩
      cases s with
      | each => exact absurd hs heach
      | _ => exact h.steps _ hs
    rw [Path.ofText, Path.text, String.toList_ofList]
    exact Path.readFrom_text hwritable _ 0

/-- The label of an option in the seventh page of the options of a group. -/
def optionLabel : Path :=
  [.name "poll groups", .each, .name "options", .index 7, .each, .name "label"]

/-- A reference to the label from the group above, with blanks around it and one inside of a name, and with both marks
for an open index.  The label has no written form as a path. -/
theorem ofText_inverts_written_on_options : optionLabel.IsReferable ∧
    ofText " ..poll groups[].options[7][*].label\n" =
      .ok ⟨" ..poll groups[].options[7][*].label\n", optionLabel, some 1⟩ ∧
    ofText "poll groups[*].options[7][*].label" =
      .ok ⟨"poll groups[*].options[7][*].label", optionLabel, none⟩ ∧
    Path.ofText optionLabel.text ≠ .ok optionLabel := by
  have hlabel : optionLabel.IsReferable := by
    refine ⟨by decide +kernel, List.cons_ne_nil _ _, fun n hn => ?_⟩
    simp only [optionLabel, List.mem_cons, Segment.name.injEq, reduceCtorEq, List.not_mem_nil, false_or, or_false] at hn
    rcases hn with rfl | rfl | rfl <;> decide
  have hmixed : "poll groups[].options[7][*].label".toList ∈ optionLabel.spellings := by decide +kernel
  have habove := (@ofText_inverts_written " " "\n" _ hlabel (by decide) (by decide) 2).2.1 _ hmixed
  have hroot := @ofText_inverts_written "" "" _ hlabel (by decide) (by decide) 0
  have htext : written "" 0 optionLabel.text "" = "poll groups[*].options[7][*].label" := by decide +kernel
  refine ⟨hlabel, ?_, ?_, ?_⟩
  · have hwritten : written " " 2 (String.ofList "poll groups[].options[7][*].label".toList) "\n" =
        " ..poll groups[].options[7][*].label\n" := by decide +kernel
    rwa [hwritten] at habove
  · rw [← htext]
    exact hroot.1
  · rw [Ne, hroot.2.2]
    decide

end Reference

end FormCheck
