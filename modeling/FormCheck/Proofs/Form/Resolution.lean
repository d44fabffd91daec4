import FormCheck.Proofs.Form.Linking
import Mathlib.Logic.Function.Iterate

/-!
# Which places references lead to

A written reference begins with some points and goes on with steps.  The points tell where it starts: at the root, or
at a group around the field that has it.  From there the steps are taken as they are written, but for an open index in
front of each name that is applied to an array.

* `Path.climb_eq` — **proved**: climbing leads as many groups up as there are around a field, and no further;
* `Reference.origin`, `Reference.start?_eq` — where a reference starts, by its points;
* `Field.threaded` — the steps of a reference with the open indices that it leaves out;
* `Field.descend_eq_ok_iff` — **proved**: steps lead to the place that they are threaded to, if a field stands there;
* `Form.resolve_threads` — **proved**: a reference on a field of a form leads to the place that its steps are threaded
  to from its start, and is refused where no field stands there, or where it climbs past the root.
-/

namespace FormCheck

open Fallible

/-! ### Climbing -/

namespace Path

/-- The number of names in a path: so many groups are around a field that stands there. -/
def depth (p : Path) : Nat :=
  p.countP Segment.isName

theorem depth_concat_name (p : Path) (n : String) : depth (p ++ [.name n]) = p.depth + 1 := by
  rw [depth, List.countP_append]
  rfl

theorem depth_dropIndices (p : Path) : p.dropIndices.depth = p.depth := by
  obtain ⟨indices, hp, hindices⟩ := exists_indices p
  have hnone : indices.countP Segment.isName = 0 :=
    List.countP_eq_zero.mpr fun s hs => by rw [hindices s hs]; exact Bool.false_ne_true
  have hsum : p.depth = p.dropIndices.depth + indices.countP Segment.isName := by
    rw [depth, depth, ← List.countP_append, ← hp]
  rw [hsum, hnone, Nat.add_zero]

/-- Less the indices at its end, a path is empty or ends in a name. -/
theorem dropIndices_cases (p : Path) :
    p.dropIndices = [] ∨ ∃ n, p.dropIndices = p.enclosing ++ [.name n] := by
  induction p using List.reverseRecOn with
  | nil => exact .inl rfl
  | append_singleton p s ih =>
    rw [enclosing, dropIndices_concat]
    cases s with
    | name n =>
      rw [if_pos (show (Segment.name n).isName = true from rfl), List.dropLast_concat]
      exact .inr ⟨n, rfl⟩
    | index n => exact ih
    | each => exact ih

/-- Around the group that holds a field there is one group less. -/
theorem depth_enclosing (p : Path) : p.enclosing.depth = p.depth - 1 := by
  rw [← depth_dropIndices p]
  rcases p.dropIndices_cases with hnil | ⟨n, hname⟩
  · rw [enclosing, hnil]
    rfl
  · rw [hname, depth_concat_name, Nat.add_sub_cancel]

theorem isEmpty_dropIndices (p : Path) : p.dropIndices.isEmpty = decide (p.depth = 0) := by
  rw [← depth_dropIndices p]
  rcases p.dropIndices_cases with hnil | ⟨n, hname⟩
  · rw [hnil]
    rfl
  · rw [hname, depth_concat_name]
    simp

/-- **Climbing leads as many groups up as there are, and no further.** -/
theorem climb_eq (n : Nat) (p : Path) :
    climb n p = if n ≤ p.depth then some (enclosing^[n] p) else none := by
  induction n generalizing p with
  | zero => rfl
  | succ n ih =>
    rw [climb, isEmpty_dropIndices, ih, depth_enclosing, Function.iterate_succ_apply]
    by_cases hroot : p.depth = 0
    · simp [hroot]
    · have hstep : n ≤ p.depth - 1 ↔ n + 1 ≤ p.depth := by omega
      simp [hroot, hstep]

end Path

/-! ### Where a reference starts -/

namespace Reference

/-- The number of points with which a written reference begins. -/
def points (expression : String) : Nat :=
  ((Text.trimChars expression.toList).takeWhile (· == '.')).length

/-- Where a reference on the field at `base` starts: without points at the root, else as many groups above. -/
def origin (expression : String) (base : Path) : Path :=
  if points expression = 0 then [] else Path.enclosing^[points expression] base

/-- The reference climbs past the root.  One point stands for the group of the field, and for the root on the root
itself. -/
def ClimbsPast (expression : String) (base : Path) : Prop :=
  max base.depth 1 < points expression

instance (expression : String) (base : Path) : Decidable (ClimbsPast expression base) :=
  inferInstanceAs (Decidable (_ < _))

theorem levelsUp_of_ofText {expression : String} {reference : Reference} (h : ofText expression = .ok reference) :
    reference.levelsUp = if points expression = 0 then none else some (points expression - 1) := by
  rw [ofText] at h
  split at h
  · cases h
  · obtain ⟨segments, _, h⟩ := bind_eq_ok_iff.mp h
    cases h
    rw [points]
    generalize (Text.trimChars expression.toList).takeWhile (· == '.') = leading
    cases leading <;> rfl

theorem start?_eq {expression : String} {reference : Reference} (h : ofText expression = .ok reference) (base : Path) :
    reference.start? base = if points expression ≤ max base.depth 1 then some (origin expression base) else none := by
  rw [start?, levelsUp_of_ofText h, origin]
  cases points expression with
  | zero => simp
  | succ n =>
    have hclimb : n ≤ base.depth - 1 ↔ n + 1 ≤ max base.depth 1 := by omega
    simp only [Nat.add_eq_zero_iff, Nat.one_ne_zero, and_false, if_false, Nat.add_sub_cancel]
    rw [Path.climb_eq, Path.depth_enclosing, ← Function.iterate_succ_apply]
    simp only [hclimb]

end Reference

/-! ### Where its steps lead -/

namespace Field

/-- An array stands at a place below the root. -/
def isArrayAt (root : Field) (place : Path) : Bool :=
  ((root.at? place).bind item?).isSome

/-- What a step from a place adds to it: the step, after an open index if it is a name and an array stands there. -/
def taken (root : Field) (place : Path) (s : Segment) : Path :=
  if s.isName && root.isArrayAt place then [.each, s] else [s]

/-- The steps of a reference from a place, with an open index in front of each name that is applied to an array. -/
def threaded (root : Field) (place : Path) : Path → Path
  | [] => []
  | s :: rest => root.taken place s ++ root.threaded (place ++ root.taken place s) rest

variable {root field : Field} {place found : Path}

theorem at?_append_of (h : root.at? place = some field) (p : Path) : root.at? (place ++ p) = field.at? p := by
  rw [at?_append, h]
  rfl

/-- A name is looked up in the field that stands where it is looked up. -/
theorem at?_holder (h : root.at? place = some field) :
    root.at? (field.holder place).2 = some (field.holder place).1 := by
  cases field with
  | array info item => exact at?_append_of h [.each]
  | _ => exact h

theorem append_taken_name (h : root.at? place = some field) (n : String) :
    place ++ root.taken place (.name n) = (field.holder place).2 ++ [.name n] := by
  have harray : root.isArrayAt place = field.item?.isSome := by
    rw [isArrayAt, h]
    rfl
  rw [taken, harray]
  cases field with
  | array info item => exact (List.append_assoc place [.each] [.name n]).symm
  | _ => rfl

/-- A step goes on from the field at the place that it adds up to, and is refused if there is none. -/
theorem descend_cons (h : root.at? place = some field) (s : Segment) (rest : Path) :
    (∃ next, root.at? (place ++ root.taken place s) = some next ∧
      field.descend place (s :: rest) = next.descend (place ++ root.taken place s) rest) ∨
    (root.at? (place ++ root.taken place s) = none ∧
      ∃ problem, field.descend place (s :: rest) = .error problem) := by
  have hone : ∀ {f : Field} (t : Segment), f.at? [t] = f.step? t := by
    intro f t
    rw [at?_cons]
    cases f.step? t <;> rfl
  -- An index is taken as it is, and only an array has a field for it.
  have hindex : s.isName = false → root.at? (place ++ root.taken place s) = field.item? := by
    intro hs
    rw [taken, hs, Bool.false_and, if_neg Bool.false_ne_true, at?_append_of h, hone]
    cases s with
    | name n => cases hs
    | index n => rfl
    | each => rfl
  cases s with
  | name n =>
    rw [append_taken_name h, at?_append_of (at?_holder h), hone, descend_name]
    show (∃ next, (field.holder place).1.child? n = some next ∧ _) ∨ (field.holder place).1.child? n = none ∧ _
    cases (field.holder place).1.child? n with
    | none => exact .inr ⟨rfl, _, rfl⟩
    | some child => exact .inl ⟨child, rfl, rfl⟩
  | index n =>
    rw [hindex rfl]
    cases field with
    | array info item => exact .inl ⟨item, rfl, rfl⟩
    | _ => exact .inr ⟨rfl, _, rfl⟩
  | each =>
    rw [hindex rfl]
    cases field with
    | array info item => exact .inl ⟨item, rfl, rfl⟩
    | _ => exact .inr ⟨rfl, _, rfl⟩

/-- **Steps lead to the place that they are threaded to, if a field stands there.** -/
theorem descend_eq_ok_iff (h : root.at? place = some field) (steps : Path) :
    field.descend place steps = .ok found ↔
      found = place ++ root.threaded place steps ∧ ∃ f, root.at? found = some f := by
  induction steps generalizing field place with
  | nil =>
    rw [threaded, List.append_nil]
    constructor
    · intro hdescend
      cases hdescend
      exact ⟨rfl, field, h⟩
    · rintro ⟨rfl, _⟩
      rfl
  | cons s rest ih =>
    rw [threaded, ← List.append_assoc]
    rcases descend_cons h s rest with ⟨next, hnext, hdescend⟩ | ⟨hnone, problem, hdescend⟩
    · rw [hdescend, ih hnext]
    · rw [hdescend]
      refine iff_of_false (fun hok => by cases hok) fun ⟨hfound, f, hf⟩ => ?_
      -- No field stands below a place where none stands.
      obtain ⟨g, hg⟩ := exists_at?_of_prefix hf (hfound ▸ List.prefix_append _ _)
      rw [hnone] at hg
      cases hg

/-- The group that holds a field of a form stands where the path to the field says. -/
theorem exists_group_enclosing (hroot : root.kind = .group) (h : root.at? place = some field) :
    ∃ g, root.at? place.enclosing = some g ∧ g.kind = .group := by
  rcases place.dropIndices_cases with hnil | ⟨n, hname⟩
  · rw [Path.enclosing, hnil]
    exact ⟨root, rfl, hroot⟩
  · obtain ⟨g, hg⟩ := exists_at?_of_prefix h place.enclosing_prefix
    obtain ⟨c, hc⟩ := exists_at?_of_prefix h (hname ▸ place.dropIndices_prefix)
    rw [at?_append_of hg, at?_cons] at hc
    refine ⟨g, hg, ?_⟩
    cases g with
    | group info children => rfl
    | _ => cases hc

/-- **A reference on a field of a form starts at a group.** -/
theorem exists_group_origin (hroot : root.kind = .group) (h : root.at? place = some field) (expression : String) :
    ∃ g, root.at? (Reference.origin expression place) = some g ∧ g.kind = .group := by
  have hclimb : ∀ n, ∃ g, root.at? (Path.enclosing^[n + 1] place) = some g ∧ g.kind = .group := by
    intro n
    induction n with
    | zero => exact exists_group_enclosing hroot h
    | succ n ih =>
      obtain ⟨g, hg, _⟩ := ih
      rw [Function.iterate_succ_apply']
      exact exists_group_enclosing hroot hg
  rw [Reference.origin]
  cases Reference.points expression with
  | zero => exact ⟨root, rfl, hroot⟩
  | succ n =>
    rw [if_neg (Nat.succ_ne_zero n)]
    exact hclimb n

end Field

/-- A declaration of a group that is not repeated is built into a group. -/
theorem Declaration.exists_group_of_build {registry : Registry} {declaration : Declaration} {name : String}
    {place : Path} {field : Field} (htype : declaration.type = Kind.group.key)
    (hrepeated : declaration.isRepeated = false) (h : declaration.build registry name place = .ok field) :
    ∃ info children, field = .group info children := by
  obtain ⟨type, repeated, details, children, item⟩ := declaration
  have hgroup : Kind.ofKey? type = some .group := by
    rw [show type = Kind.group.key from htype]
    rfl
  cases build_eq_ok_iff.mp h with
  | leaf hkind _ => rw [hgroup] at hkind; cases hkind
  | group _ _ _ => exact ⟨_, _, rfl⟩
  | repeatedGroup _ _ _ _ => cases hrepeated
  | array hkind _ _ => rw [hgroup] at hkind; cases hkind

namespace Form

variable {registry : Registry} {document : Value} {form : Form}

/-- The root of a form is a group. -/
theorem root_kind (hform : Form.ofDocument registry document = .ok form) : form.root.kind = .group := by
  obtain ⟨draft, _, _, htype, hrepeated, hdraft, hroot⟩ := Form.ofDocument_eq_ok_iff.mp hform
  obtain ⟨info, children, rfl⟩ := Declaration.exists_group_of_build htype hrepeated hdraft
  obtain ⟨linked, fields, _, _, hlinked⟩ := Field.link_group_iff.mp hroot
  rw [hlinked]
  rfl

/-- **A reference on a field of a form leads to the place that its steps are threaded to.**  It starts at a group; it
leads to a place exactly if it can be read, does not climb past the root, and a field stands at the place that its steps
are threaded to from its start.  Otherwise it is refused, and nothing else goes wrong; one that climbs past the root is
refused for that. -/
theorem resolve_threads (hform : Form.ofDocument registry document = .ok form) {base : Path} {field : Field}
    (hbase : form.root.at? base = some field) (expression : String) :
    (∃ g, form.root.at? (Reference.origin expression base) = some g ∧ g.kind = .group) ∧
    (∀ place, form.root.resolve expression base = .ok place ↔ ∃ reference,
      Reference.ofText expression = .ok reference ∧ ¬ Reference.ClimbsPast expression base ∧
        place = Reference.origin expression base
          ++ form.root.threaded (Reference.origin expression base) reference.segments ∧
        ∃ f, form.root.at? place = some f) ∧
    ((∃ place, form.root.resolve expression base = .ok place) ∨
      ∃ problem, form.root.resolve expression base = .error (.refused problem)) ∧
    ∀ reference, Reference.ofText expression = .ok reference → Reference.ClimbsPast expression base →
      form.root.resolve expression base = .error (.refused .aboveRoot) := by
  obtain ⟨g, hg, hkind⟩ := Field.exists_group_origin (root_kind hform) hbase expression
  refine ⟨⟨g, hg, hkind⟩, fun place => ?leads, ?refused, fun reference hreference hpast => ?climbs⟩
  case leads =>
    rw [Field.resolve_eq_ok_iff]
    refine exists_congr fun reference => ?_
    constructor
    · rintro ⟨start, f, hreference, hstart, hf, hdescend⟩
      rw [Reference.start?_eq hreference] at hstart
      split at hstart
      · next hpoints =>
        cases hstart
        obtain ⟨hplace, hfound⟩ := (Field.descend_eq_ok_iff hf _).mp hdescend
        exact ⟨hreference, Nat.not_lt.mpr hpoints, hplace, hfound⟩
      · cases hstart
    · rintro ⟨hreference, hpast, hplace, hfound⟩
      refine ⟨_, g, hreference, ?_, hg, (Field.descend_eq_ok_iff hg _).mpr ⟨hplace, hfound⟩⟩
      rw [Reference.start?_eq hreference, if_pos (Nat.not_lt.mp hpast)]
  case refused =>
    cases hresolve : form.root.resolve expression base with
    | ok place => exact .inl ⟨place, rfl⟩
    | error failure =>
      cases failure with
      | refused problem => exact .inr ⟨problem, rfl⟩
      | fault f => exact absurd hresolve (Field.resolve_ne_fault hbase expression)
  case climbs =>
    simp only [Field.resolve, hreference, Field.resolveReference, Reference.start?_eq hreference,
      if_neg (Nat.not_le.mpr hpast)]

/-- A form for groups of options, each group with a title and each option with a label. -/
def titledGroups : Value :=
  .object [("type", .text "group"), ("properties", .object [
    ("note", .object [("type", .text "text")]),
    ("groups", .object [("type", .text "array"), ("items", .object [("type", .text "group"),
      ("properties", .object [
        ("title", .object [("type", .text "text")]),
        ("options", .object [("type", .text "array"), ("items", .object [("type", .text "group"),
          ("properties", .object [("label", .object [("type", .text "text")])])])])])])])])]

/-- The place of the labels. -/
def labels : Path :=
  [.name "groups", .each, .name "options", .each, .name "label"]

/-- Where the steps of a reference on a label are threaded to, and whether a field stands there. -/
def landingOnLabels (form : Form) (expression : String) (steps : Path) : Path × Bool :=
  let start := Reference.origin expression labels
  let place := start ++ form.root.threaded start steps
  (place, (form.root.at? place).isSome)

/-- On a label, a reference leads through arrays by names alone, and an index in it is kept.  Two points stand for the
group around the options, three for the root, where there is no label, and four for nothing. -/
theorem resolve_threads_on_labels : ∃ form field, Form.ofDocument Registry.standard titledGroups = .ok form ∧
    form.root.at? labels = some field ∧
    form.root.resolve "groups.options[2].label" labels
      = .ok [.name "groups", .each, .name "options", .index 2, .name "label"] ∧
    form.root.resolve " ..title" labels = .ok [.name "groups", .each, .name "title"] ∧
    (∃ problem, form.root.resolve "...label" labels = .error (.refused problem)) ∧
    form.root.resolve "....note" labels = .error (.refused .aboveRoot) := by
  have hrun : ((Form.ofDocument Registry.standard titledGroups).toOption.bind fun form =>
      (form.root.at? labels).map fun field => (field.name,
        landingOnLabels form "groups.options[2].label" [.name "groups", .name "options", .index 2, .name "label"],
        landingOnLabels form " ..title" [.name "title"], landingOnLabels form "...label" [.name "label"])) =
      some ("label", ([.name "groups", .each, .name "options", .index 2, .name "label"], true),
        ([.name "groups", .each, .name "title"], true), ([.name "label"], false)) := by
    decide +kernel
  obtain ⟨form, hform, hrun⟩ := exists_eq_ok_of_bind hrun
  obtain ⟨field, hfield, hrun⟩ := Option.map_eq_some_iff.mp hrun
  obtain ⟨_, hlandings⟩ := Prod.mk.inj hrun
  obtain ⟨hlabel, hlandings⟩ := Prod.mk.inj hlandings
  obtain ⟨htitle, hnone⟩ := Prod.mk.inj hlandings
  have hread : ∀ expression steps levels, Reference.ofText expression = .ok ⟨expression, steps, levels⟩ →
      ∀ place, landingOnLabels form expression steps = (place, true) → ¬ Reference.ClimbsPast expression labels →
      form.root.resolve expression labels = .ok place := by
    intro expression steps levels htext place hlanding hpast
    obtain ⟨hplace, hfound⟩ := Prod.mk.inj hlanding
    refine ((resolve_threads hform hfield expression).2.1 place).mpr ⟨_, htext, hpast, hplace.symm, ?_⟩
    exact Option.isSome_iff_exists.mp (hplace ▸ hfound)
  refine ⟨form, field, hform, hfield, ?_, ?_, ?_, ?_⟩
  · exact hread _ _ none (by decide +kernel) _ hlabel (by decide +kernel)
  · exact hread _ _ (some 1) (by decide +kernel) _ htitle (by decide +kernel)
  · have hnote : Reference.ofText "...label" = .ok ⟨"...label", [.name "label"], some 2⟩ := by decide +kernel
    obtain ⟨_, hleads, hrefused, _⟩ := resolve_threads hform hfield "...label"
    refine hrefused.resolve_left fun ⟨place, hplace⟩ => ?_
    obtain ⟨reference, hreference, _, hthreaded, f, hf⟩ := (hleads place).mp hplace
    obtain rfl := Except.ok.inj (hnote.symm.trans hreference)
    obtain ⟨_, hnowhere⟩ := Prod.mk.inj hnone
    rw [hthreaded] at hf
    rw [hf] at hnowhere
    cases hnowhere
  · exact (resolve_threads hform hfield "....note").2.2.2 ⟨"....note", [.name "note"], some 3⟩ (by decide +kernel)
      (by decide +kernel)

end Form

end FormCheck
