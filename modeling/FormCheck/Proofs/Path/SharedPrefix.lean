import FormCheck.Proofs.Path.Filling
import Mathlib.Data.List.Forall2

/-!
# What filling open indices finds

Filling goes along a path and a place side by side, and looks at every open index back at all that has been written so
far.  What it finds can be said without a walk: a path like the given one, which runs along with the place up to the last
index that had to be filled.

* `Path.SharesOpen` — two paths are the same up to the last open index of a third one;
* `Path.Fills` — a path is another one with its open indices filled, and shares the beginning with a place that this
  needs;
* `Path.fill_eq_some_iff_fills`, `Path.fill_iff_fills` — **proved**: filling finds this path, and finds nothing only where
  there is none; a path without open indices is found as it is;
* `Path.not_every_shared_beginning_fills` — **proved**: the shared beginning alone is not enough, since a place may have a
  name where the path has an open index.
-/

namespace FormCheck.Path

/-- Up to the last open index of a path, this one included, two other paths are the same. -/
def SharesOpen (path filled place : Path) : Prop :=
  ∀ u v : Path, path = u ++ .each :: v → .each ∉ v → filled.take (u.length + 1) = place.take (u.length + 1)

/-- A path is another one with its open indices filled from a place: it is the same elsewhere, and up to the last open
index it is the place. -/
structure Fills (filled path place : Path) : Prop where
  concrete : filled.IsConcrete
  length_eq : filled.length = path.length
  kept : ∀ (n : Nat) (s : Segment), path[n]? = some s → s ≠ .each → filled[n]? = some s
  indexed : ∀ n : Nat, path[n]? = some .each → ∃ k, filled[n]? = some (.index k)
  shared : path.SharesOpen filled place

variable {path place filled : Path} {s r b : Segment}

/-! ### Step by step -/

/-- What a step of a path may become: itself, or an index where it is open. -/
def FillsStep (r s : Segment) : Prop :=
  if s = .each then ∃ k, r = .index k else r = s

theorem FillsStep.ne_each (h : FillsStep r s) : r ≠ .each := by
  rw [FillsStep] at h
  split_ifs at h with hs
  · obtain ⟨k, rfl⟩ := h
    intro heq
    cases heq
  · rwa [h]

theorem exists_last_each (h : .each ∈ path) : ∃ u v : Path, path = u ++ .each :: v ∧ .each ∉ v := by
  induction path with
  | nil => cases h
  | cons s path ih =>
    by_cases hrest : .each ∈ path
    · obtain ⟨u, v, rfl, hv⟩ := ih hrest
      exact ⟨s :: u, v, rfl, hv⟩
    · obtain rfl := (List.mem_cons.mp h).resolve_right hrest
      exact ⟨[], path, rfl, hrest⟩

theorem sharesOpen_of_notMem (h : .each ∉ path) (filled place : Path) : SharesOpen path filled place := by
  rintro u v rfl
  exact absurd (List.mem_append_right u List.mem_cons_self) h

/-- Nothing that has to be filled is filled from a place that has come to its end. -/
theorem sharesOpen_nil_iff : SharesOpen (s :: path) (r :: filled) [] ↔ .each ∉ s :: path := by
  refine ⟨fun h hmem => ?_, fun h => sharesOpen_of_notMem h _ _⟩
  obtain ⟨u, v, hpath, hv⟩ := exists_last_each hmem
  cases h u v hpath hv

theorem sharesOpen_cons_iff :
    SharesOpen (s :: path) (r :: filled) (b :: place) ↔
      (.each ∈ s :: path → r = b) ∧ SharesOpen path filled place := by
  constructor
  · intro h
    refine ⟨fun hmem => ?_, fun u v hpath hv => ?_⟩
    · obtain ⟨u, v, hpath, hv⟩ := exists_last_each hmem
      exact (List.cons.inj (h u v hpath hv)).1
    · exact (List.cons.inj (h (s :: u) v (congrArg (s :: ·) hpath) hv)).2
  · rintro ⟨hhead, htail⟩ u v hpath hv
    have hrb : r = b := hhead (hpath ▸ List.mem_append_right u List.mem_cons_self)
    cases u with
    | nil => rw [hrb]; rfl
    | cons t u =>
      have hrest := htail u v (List.cons.inj hpath).2 hv
      rw [List.length_cons, List.take_succ_cons, List.take_succ_cons, hrb, hrest]

/-- Filling, from a place up to which everything was the same or not: each step becomes what it may, and where an index
is still to be filled everything before it was the same. -/
theorem fillFrom_eq_some_iff {agree : Bool} :
    fillFrom agree path place = some filled ↔
      List.Forall₂ FillsStep filled path ∧ (.each ∈ path → agree = true) ∧ SharesOpen path filled place := by
  induction path generalizing agree place filled with
  | nil =>
    rw [fillFrom, Option.some.injEq, List.forall₂_nil_right_iff, eq_comm]
    exact ⟨fun h => ⟨h, fun h => (by cases h), sharesOpen_of_notMem List.not_mem_nil _ _⟩, And.left⟩
  | cons s path ih =>
    rw [List.forall₂_cons_right_iff]
    by_cases hs : s = .each
    · -- An open index: the place has to have an index here, and both agree again from here on.
      subst hs
      constructor
      · intro h
        cases place with
        | nil => cases h
        | cons b place =>
          cases b with
          | index k =>
            rw [fillFrom] at h
            split_ifs at h with hagree
            obtain ⟨rest, hrest, rfl⟩ := Option.map_eq_some_iff.mp h
            obtain ⟨hsteps, _, hshared⟩ := ih.mp hrest
            exact ⟨⟨.index k, rest, ⟨k, rfl⟩, hsteps, rfl⟩, fun _ => hagree,
              sharesOpen_cons_iff.mpr ⟨fun _ => rfl, hshared⟩⟩
          | _ => cases h
      · rintro ⟨⟨r, rest, ⟨k, rfl⟩, hsteps, rfl⟩, hagree, hshared⟩
        cases place with
        | nil => exact absurd List.mem_cons_self (sharesOpen_nil_iff.mp hshared)
        | cons b place =>
          obtain ⟨hhead, hrest⟩ := sharesOpen_cons_iff.mp hshared
          obtain rfl := hhead List.mem_cons_self
          rw [fillFrom, if_pos (hagree List.mem_cons_self), ih.mpr ⟨hsteps, fun _ => rfl, hrest⟩]
          rfl
    · -- Any other step stays, and has to be that of the place if an open index follows.
      have hmem : .each ∈ s :: path ↔ .each ∈ path := by rw [List.mem_cons, or_iff_right (Ne.symm hs)]
      have hstep : ∀ r, FillsStep r s ↔ r = s := fun r => by rw [FillsStep, if_neg hs]
      simp only [hmem, hstep]
      cases place with
      | nil =>
        rw [fillFrom_closed_nil hs, Option.map_eq_some_iff]
        constructor
        · rintro ⟨rest, hrest, rfl⟩
          obtain ⟨hsteps, hclosed, _⟩ := ih.mp hrest
          have hnot : .each ∉ path := fun h => by cases hclosed h
          exact ⟨⟨s, rest, rfl, hsteps, rfl⟩, fun h => absurd h hnot, sharesOpen_nil_iff.mpr (hmem.not.mpr hnot)⟩
        · rintro ⟨⟨r, rest, rfl, hsteps, rfl⟩, _, hshared⟩
          have hnot := hmem.not.mp (sharesOpen_nil_iff.mp hshared)
          exact ⟨rest, ih.mpr ⟨hsteps, fun h => absurd h hnot, sharesOpen_of_notMem hnot _ _⟩, rfl⟩
      | cons b place =>
        rw [fillFrom_closed hs, Option.map_eq_some_iff]
        constructor
        · rintro ⟨rest, hrest, rfl⟩
          obtain ⟨hsteps, hagree, hshared⟩ := ih.mp hrest
          simp only [Bool.and_eq_true, beq_iff_eq] at hagree
          exact ⟨⟨s, rest, rfl, hsteps, rfl⟩, fun h => (hagree h).1,
            sharesOpen_cons_iff.mpr ⟨fun h => (hagree (hmem.mp h)).2, hshared⟩⟩
        · rintro ⟨⟨r, rest, rfl, hsteps, rfl⟩, hagree, hshared⟩
          obtain ⟨hhead, hshared⟩ := sharesOpen_cons_iff.mp hshared
          refine ⟨rest, ih.mpr ⟨hsteps, fun h => ?_, hshared⟩, rfl⟩
          rw [Bool.and_eq_true, beq_iff_eq]
          exact ⟨hagree h, hhead (hmem.mpr h)⟩

/-! ### The whole path -/

theorem fills_iff : filled.Fills path place ↔ List.Forall₂ FillsStep filled path ∧ SharesOpen path filled place := by
  constructor
  · rintro ⟨_, hlength, hkept, hindexed, hshared⟩
    refine ⟨List.forall₂_iff_get.mpr ⟨hlength, fun n hfilled hpath => ?_⟩, hshared⟩
    have hget : path[n]? = some (path.get ⟨n, hpath⟩) := List.getElem?_eq_getElem hpath
    rw [FillsStep]
    split_ifs with hs
    · obtain ⟨k, hk⟩ := hindexed n (hget.trans (congrArg some hs))
      exact ⟨k, (List.getElem?_eq_some_iff.mp hk).2⟩
    · exact (List.getElem?_eq_some_iff.mp (hkept n _ hget hs)).2
  · rintro ⟨hsteps, hshared⟩
    have hstep : ∀ (n : Nat) (s : Segment), path[n]? = some s → ∃ r, filled[n]? = some r ∧ FillsStep r s := by
      intro n s hn
      obtain ⟨hpath, rfl⟩ := List.getElem?_eq_some_iff.mp hn
      have hfilled : n < filled.length := hsteps.length_eq ▸ hpath
      exact ⟨filled[n], List.getElem?_eq_getElem hfilled, hsteps.get hfilled hpath⟩
    refine ⟨?concrete, hsteps.length_eq, fun n s hn hs => ?kept, fun n hn => ?indexed, hshared⟩
    case concrete =>
      clear hshared hstep
      induction hsteps with
      | nil => exact List.not_mem_nil
      | cons hr _ ih => exact fun hmem => (List.mem_cons.mp hmem).elim (fun heq => hr.ne_each heq.symm) ih
    case kept =>
      obtain ⟨r, hr, hrs⟩ := hstep n s hn
      rw [FillsStep, if_neg hs] at hrs
      rw [hr, hrs]
    case indexed =>
      obtain ⟨r, hr, hrs⟩ := hstep n .each hn
      rw [FillsStep, if_pos rfl] at hrs
      obtain ⟨k, rfl⟩ := hrs
      exact ⟨k, hr⟩

/-- Filling finds what a path becomes with its open indices filled. -/
theorem fill_eq_some_iff_fills : path.fill place = some filled ↔ filled.Fills path place := by
  rw [fill, fillFrom_eq_some_iff, fills_iff]
  exact and_congr_right fun _ => and_iff_right fun _ => rfl

/-- A path without open indices is filled by itself, from any place. -/
theorem IsConcrete.fills_self (h : path.IsConcrete) (place : Path) : path.Fills path place where
  concrete := h
  length_eq := rfl
  kept _ _ hn _ := hn
  indexed _ hn := absurd (List.mem_of_getElem? hn) h
  shared := sharesOpen_of_notMem h path place

/-- **Filling is a matter of the beginning that a path shares with a place.**  What it finds is the one path that keeps
all steps but the open ones, has an index in place of each of these, and runs along with the place up to the last of
them; it finds nothing only where there is no such path, and a path without open indices as it stands. -/
theorem fill_iff_fills (path place : Path) :
    (∀ filled, path.fill place = some filled ↔ filled.Fills path place) ∧
    (path.fill place = none ↔ ¬ ∃ filled : Path, filled.Fills path place) ∧
    (path.IsConcrete → path.fill place = some path) := by
  refine ⟨fun filled => fill_eq_some_iff_fills, ?_, fun h => fill_eq_some_iff_fills.mpr (h.fills_self place)⟩
  rw [Option.eq_none_iff_forall_ne_some, not_exists]
  exact forall_congr' fun filled => not_congr fill_eq_some_iff_fills

/-- The labels of the options of a question, whichever option of whichever group of questions is asked for, and the first
group of all. -/
def labels : Path :=
  [.name "groups", .each, .name "options", .each, .name "label"]

/-- From an option the labels are filled by the indices on the way to it, from a group they are not; and the title of
the first group is itself from wherever it is asked for. -/
theorem fill_iff_fills_on_labels :
    Fills [.name "groups", .index 3, .name "options", .index 1, .name "label"] labels
      [.name "groups", .index 3, .name "options", .index 1, .name "copy"] ∧
    (¬ ∃ filled : Path, filled.Fills labels [.name "groups", .index 3, .name "title"]) ∧
    fill [.name "groups", .index 0, .name "title"] [.name "groups", .index 3, .name "options"] =
      some [.name "groups", .index 0, .name "title"] := by
  refine ⟨?_, ?_, ?_⟩
  · exact ((fill_iff_fills _ _).1 _).mp (by decide)
  · exact (fill_iff_fills _ _).2.1.mp (by decide)
  · exact (fill_iff_fills _ _).2.2 (show Segment.each ∉ _ by decide)

/-- A shared beginning is not enough for a path to be found: where the path has an open index, the place may have a
name, and this fills nothing. -/
theorem not_every_shared_beginning_fills : ¬ ∀ path place filled : Path, place.IsConcrete →
    (path.fill place = some filled ↔ filled.IsConcrete ∧ filled.length = path.length ∧
      (∀ (n : Nat) (s : Segment), path[n]? = some s → s ≠ .each → filled[n]? = some s) ∧
      path.SharesOpen filled place) := by
  intro h
  have hclaim := (h [.name "groups", .each, .name "title"] [.name "groups", .name "info"]
    [.name "groups", .name "info", .name "title"] (show Segment.each ∉ _ by decide)).mpr
  have hkept : ∀ (n : Nat) (s : Segment), [.name "groups", .each, .name "title"][n]? = some s → s ≠ .each →
      [.name "groups", .name "info", .name "title"][n]? = some s := by
    intro n s hn hs
    rcases n with _ | _ | n
    · exact hn
    · exact absurd (Option.some.inj hn).symm hs
    · exact hn
  have hshared : SharesOpen [.name "groups", .each, .name "title"] [.name "groups", .name "info", .name "title"]
      [.name "groups", .name "info"] := by
    rw [sharesOpen_cons_iff, sharesOpen_cons_iff]
    exact ⟨fun _ => rfl, fun _ => rfl, sharesOpen_of_notMem (by decide) _ _⟩
  cases hclaim ⟨show Segment.each ∉ _ by decide, rfl, hkept, hshared⟩

end FormCheck.Path
