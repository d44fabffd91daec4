import FormCheck.Proofs.Evaluation.Locality
import FormCheck.Proofs.Form.Resolution
import FormCheck.Proofs.Form.Scope

/-!
# Relative references and array elements

A reference with points before it climbs to a group around the field that has it.  The climbing is done once, when the
form is built, on a place with open indices; these are filled in when the field is evaluated at a place in the data.
Both together lead to the group around this very place: what is read stands in the array elements that the field
itself stands in.

* `Path.iterate_enclosing_prefix`, `Path.iterate_enclosing_outline` — **proved**: the group so many groups above a
  place lies on the way to it, and climbing is no matter of the indices;
* `Path.exists_of_fillFrom_outline` — **proved**: a path that goes on from the outline of a place on the way is
  filled to a path that goes on from this place;
* `Form.prefix_of_fill` — **proved**: what a relative reference is filled to lies in the group that it climbs to;
* `Form.reads_own_elements` — **proved**: a relative reference without indices is filled at each place of its field,
  and what it reads is part of the group around this place.
-/

namespace FormCheck

open Fallible

namespace Path

/-! ### Climbing at a place -/

/-- The group so many groups above a place lies on the way to it. -/
theorem iterate_enclosing_prefix (n : Nat) (p : Path) : enclosing^[n] p <+: p := by
  induction n with
  | zero => exact List.prefix_refl p
  | succ n ih =>
    have hone : (enclosing^[n] p).enclosing <+: enclosing^[n] p := enclosing_prefix _
    rw [Function.iterate_succ_apply']
    exact hone.trans ih

/-- Climbing is no matter of the indices. -/
theorem iterate_enclosing_outline (n : Nat) (p : Path) : enclosing^[n] p.outline = (enclosing^[n] p).outline := by
  induction n generalizing p with
  | zero => rfl
  | succ n ih => rw [Function.iterate_succ_apply, Function.iterate_succ_apply, enclosing_outline, ih]

/-! ### Filling at a place -/

/-- **A path that goes on from the outline of a place on the way is filled to a path that goes on from this place.** -/
theorem exists_of_fillFrom_outline {q rest base filled : Path} (h : fill (q.outline ++ rest) (q ++ base) = some filled) :
    ∃ found, filled = q ++ found := by
  -- Each step of the outline agrees with the step of the place, or is filled with it.
  induction q generalizing filled with
  | nil => exact ⟨filled, rfl⟩
  | cons s q ih =>
    cases s with
    | name n =>
      have hstep : fill (outline (.name n :: q) ++ rest) (.name n :: q ++ base) =
          (fill (outline q ++ rest) (q ++ base)).map (.name n :: ·) := by
        rw [fill, outline_cons]
        show fillFrom true (.name n :: (outline q ++ rest)) (.name n :: (q ++ base)) = _
        rw [fillFrom_closed (by simp), beq_self_eq_true]
        rfl
      rw [hstep] at h
      obtain ⟨r, hr, rfl⟩ := Option.map_eq_some_iff.mp h
      obtain ⟨found, rfl⟩ := ih hr
      exact ⟨found, rfl⟩
    | index k =>
      obtain ⟨r, hr, rfl⟩ := Option.map_eq_some_iff.mp h
      obtain ⟨found, rfl⟩ := ih hr
      exact ⟨found, rfl⟩
    | each => cases h

end Path

namespace Form

variable {registry : Registry} {document data : Value} {form : Form} {p : Path} {field : Field}
  {reference : String × Path}

/-- What is stored for a reference is what it stands for on the outline of a place of the field, and can be filled from
this place as far as outlines tell. -/
theorem resolve_of_mem_stored_at (hkeys : document.keysOnce = true)
    (hform : Form.ofDocument registry document = .ok form) (hfield : form.fieldAt? p = some field)
    (hr : reference ∈ field.info.stored) :
    form.root.resolve reference.1 p.outline = .ok reference.2 ∧ reference.2.canFill p = true := by
  have hat : form.root.at? p = some field := fieldAt?_eq_at? form p ▸ hfield
  have hplace : field.place = p.outline := info_place_of_at? hkeys hform hat
  obtain ⟨hresolve, hfill⟩ := resolve_of_mem_stored hform (Field.mem_preorder_of_at? hat) hr
  rw [hplace] at hresolve hfill
  rw [Path.canFill_outline] at hfill
  exact ⟨hresolve, hfill⟩

/-- Below the group that a reference climbs to, a stored place goes on from the outline of this group at each place of
the field. -/
theorem exists_stored_below (hkeys : document.keysOnce = true) (hform : Form.ofDocument registry document = .ok form)
    (hfield : form.fieldAt? p = some field) (hr : reference ∈ field.info.stored)
    (hrelative : 1 ≤ Reference.points reference.1) :
    ∃ rest, reference.2 = (Path.enclosing^[Reference.points reference.1] p).outline ++ rest := by
  obtain ⟨hresolve, _⟩ := resolve_of_mem_stored_at hkeys hform hfield hr
  obtain ⟨written, start, f, hwritten, hstart, hf, hdescend⟩ := Field.resolve_eq_ok_iff.mp hresolve
  rw [Reference.start?_eq hwritten] at hstart
  split at hstart
  · cases hstart
    obtain ⟨hthreaded, _⟩ := (Field.descend_eq_ok_iff hf _).mp hdescend
    have horigin : Reference.origin reference.1 p.outline =
        (Path.enclosing^[Reference.points reference.1] p).outline := by
      rw [Reference.origin, if_neg (by omega), Path.iterate_enclosing_outline]
    rw [horigin] at hthreaded
    exact ⟨_, hthreaded⟩
  · cases hstart

/-- **What a relative reference is filled to lies in the group that it climbs to**, also where it has indices. -/
theorem prefix_of_fill (hkeys : document.keysOnce = true) (hform : Form.ofDocument registry document = .ok form)
    (hfield : form.fieldAt? p = some field) (hr : reference ∈ field.info.stored)
    (hrelative : 1 ≤ Reference.points reference.1) {found : Path} (hfill : reference.2.fill p = some found) :
    Path.enclosing^[Reference.points reference.1] p <+: found := by
  obtain ⟨rest, hbelow⟩ := exists_stored_below hkeys hform hfield hr hrelative
  obtain ⟨below, hp⟩ := Path.iterate_enclosing_prefix (Reference.points reference.1) p
  have hfill' : Path.fill ((Path.enclosing^[Reference.points reference.1] p).outline ++ rest)
      (Path.enclosing^[Reference.points reference.1] p ++ below) = some found := by
    rw [← hbelow, hp]
    exact hfill
  obtain ⟨inside, rfl⟩ := Path.exists_of_fillFrom_outline hfill'
  exact List.prefix_append _ _

/-- What is stored for a reference without indices is filled at each place of the field. -/
theorem exists_fill_of_mem_stored (hkeys : document.keysOnce = true)
    (hform : Form.ofDocument registry document = .ok form) (hp : form.Reaches data p)
    (hfield : form.fieldAt? p = some field) (hr : reference ∈ field.info.stored)
    (hindex : ∀ written, Reference.ofText reference.1 = .ok written → ∀ k, .index k ∉ written.segments) :
    ∃ found, reference.2.fill p = some found := by
  obtain ⟨hresolve, hfill⟩ := resolve_of_mem_stored_at hkeys hform hfield hr
  have hopen : ∀ k, .index k ∉ reference.2 := by
    intro k hk
    rcases Field.index_mem_of_resolve hresolve hk with hbase | ⟨written, hwritten, hsegment⟩
    · exact Path.index_not_mem_outline p k hbase
    · exact hindex written hwritten k hsegment
  have haligned : reference.2.Aligned p := by
    intro u v k hpath _
    exact absurd (by rw [hpath]; simp) (hopen k)
  exact Option.isSome_iff_exists.mp ((Path.fill_isSome_iff hp.isConcrete hfill).mpr haligned)

/-- **A relative reference stays in the elements of its own field.**  At each place that an evaluation visits, a
reference with points before it and without indices is filled; what it is filled to has the outline of the stored
place, and lies in the group that is as many groups above the place as the reference has points.  This group is visited
too, and what is read is part of the value that the data holds there. -/
theorem reads_own_elements (hkeys : document.keysOnce = true)
    (hform : Form.ofDocument registry document = .ok form) (hp : form.Reaches data p)
    (hfield : form.fieldAt? p = some field) (hr : reference ∈ field.info.stored)
    (hrelative : 1 ≤ Reference.points reference.1)
    (hindex : ∀ written, Reference.ofText reference.1 = .ok written → ∀ k, .index k ∉ written.segments) :
    ∃ group inside g, group = Path.enclosing^[Reference.points reference.1] p ∧ group <+: p ∧
      form.Reaches data group ∧ form.fieldAt? group = some g ∧ g.kind = .group ∧
      reference.2.fill p = some (group ++ inside) ∧ Path.outline (group ++ inside) = reference.2.outline ∧
      data.readAt reference.2 p = (data.follow group).follow inside := by
  have hat : form.root.at? p = some field := fieldAt?_eq_at? form p ▸ hfield
  obtain ⟨found, hfound⟩ := exists_fill_of_mem_stored hkeys hform hp hfield hr hindex
  obtain ⟨inside, rfl⟩ := prefix_of_fill hkeys hform hfield hr hrelative hfound
  obtain ⟨g, hg, hkind⟩ := Field.exists_group_origin (root_kind hform) hat reference.1
  rw [Reference.origin, if_neg (by omega), ← fieldAt?_eq_at?] at hg
  have haround : Path.enclosing^[Reference.points reference.1] p <+: p := Path.iterate_enclosing_prefix _ p
  refine ⟨_, inside, g, rfl, haround, hp.of_prefix haround, hg, hkind, hfound, Path.outline_of_fill hfound, ?_⟩
  rw [Value.readAt, hfound]
  exact Value.follow_append data _ inside

/-- A form for polls.  The answers to a question have to repeat it. -/
def polls : Value :=
  .object [("type", .text "group"), ("properties", .object [
    ("questions", .object [("type", .text "array"), ("items", .object [("type", .text "group"),
      ("properties", .object [
        ("wording", .object [("type", .text "text")]),
        ("answers", .object [("type", .text "array"), ("items", .object [("type", .text "group"),
          ("properties", .object [
            ("asked", .object [("type", .text "text"),
              ("rules", .object [("match", .text "..wording")])])])])])])])])])]

/-- Two questions, of which the second one is answered. -/
def answers : Value :=
  .object [("questions", .list [
    .object [("wording", .text "Who?")],
    .object [("wording", .text "When?"), ("answers", .list [.object [("asked", .text "When?")]])]])]

/-- The answer to the second question. -/
def answered : Path :=
  [.name "questions", .index 1, .name "answers", .index 0, .name "asked"]

/-- The answer to the second question is compared with the second question. -/
theorem reads_own_elements_of_answers : ∃ form field target inside,
    Form.ofDocument Registry.standard polls = .ok form ∧ form.Reaches answers answered ∧
      form.fieldAt? answered = some field ∧ ("..wording", target) ∈ field.info.stored ∧
      target.fill answered = some ([.name "questions", .index 1] ++ inside) ∧
      answers.readAt target answered = (answers.follow [.name "questions", .index 1]).follow inside := by
  have hrun : ((Form.ofDocument Registry.standard polls).toOption.bind fun form =>
      (form.evaluate Registry.standard true answers none).toOption.bind fun reports =>
        (form.fieldAt? answered).map fun field =>
          (field.info.stored, decide (answered ∈ reports.map Report.path))) =
      some ([("..wording", [.name "questions", .each, .name "wording"])], true) := by
    decide +kernel
  obtain ⟨form, hform, hrun⟩ := exists_eq_ok_of_bind hrun
  obtain ⟨reports, hreports, hrun⟩ := exists_eq_ok_of_bind hrun
  obtain ⟨field, hfield, hrun⟩ := Option.map_eq_some_iff.mp hrun
  obtain ⟨hstored, hmem⟩ := Prod.mk.inj hrun
  have hkeys : polls.keysOnce = true := by decide +kernel
  have hreaches : form.Reaches answers answered :=
    (mem_reports_iff_reaches (root_placed hkeys hform) hreports).mp (of_decide_eq_true hmem)
  have hr : ("..wording", [.name "questions", .each, .name "wording"]) ∈ field.info.stored := by
    rw [hstored]
    exact List.mem_singleton_self _
  have hread : Reference.ofText "..wording" = .ok ⟨"..wording", [.name "wording"], some 1⟩ := by decide +kernel
  have hindex : ∀ written, Reference.ofText "..wording" = .ok written → ∀ k, .index k ∉ written.segments := by
    intro written hwritten
    obtain rfl := Except.ok.inj (hread.symm.trans hwritten)
    simp
  obtain ⟨group, inside, _, hgroup, _, _, _, _, hfill, _, hvalue⟩ :=
    reads_own_elements hkeys hform hreaches hfield hr (by decide +kernel) hindex
  have hquestion : group = [.name "questions", .index 1] := by
    rw [hgroup]
    decide +kernel
  rw [hquestion] at hfill hvalue
  exact ⟨form, field, _, inside, hform, hreaches, hfield, hr, hfill, hvalue⟩

end Form

end FormCheck
