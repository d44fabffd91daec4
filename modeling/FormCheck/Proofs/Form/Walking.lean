import FormCheck.Proofs.Form.Representation
import Mathlib.Data.List.Nodup

/-!
# Walking a form, and finding its fields

A walk keeps a stack of the fields that are still to come.  In every round it takes the field at the end of the stack and
puts what lies right below it there instead, the last part first.  So the first part is the next one, and all below it
comes before the second part.

* `Walk`, `Walk.next?`, `Walk.after?` — a walk under way, one round of it and so many rounds;
* `Walk.course_of_next`, `Walk.remaining_of_next` — **proved**: a round leaves what will have been passed in the end as it
  is, and there is one field less to come;
* `Walk.after_remaining` — **proved**: so a walk ends after as many rounds as there are fields to come;
* `Form.walk_eq_preorder`, `Field.Placed.places_nodup` — **proved**: the fields of a form are walked in the order of
  declaration, and no two of them stand at the same place;
* `Form.walk_finds` — **proved**: a walk over a form passes every field once, and the field at a place is the one that is
  passed at its outline, if there is any.
-/

namespace FormCheck

open Fallible

/-! ### Fields still to come -/

namespace Field

/-- Of the fields still to come the first one is passed before its parts, and these before the others. -/
theorem preorderOfAll_cons (field : Field) (rest : List Field) :
    preorderOfAll (field :: rest) = field :: preorderOfAll (field.parts ++ rest) := by
  rw [preorderOfAll, preorder_eq_cons, preorderOfAll_eq_flatMap, preorderOfAll_eq_flatMap, List.flatMap_append,
    List.cons_append]

theorem sizeOfAll_cons (field : Field) (rest : List Field) :
    sizeOfAll (field :: rest) = sizeOfAll (field.parts ++ rest) + 1 := by
  have hparts := Form.sizeOfAll_parts field
  rw [sizeOfAll, Form.sizeOfAll_append]
  omega

end Field

/-! ### Rounds of a walk -/

/-- A walk under way: the fields that it has passed, and a stack of those still to come with the next one at its end. -/
structure Walk where
  passed : List Field
  stack : List Field

namespace Walk

variable {w next : Walk}

/-- The next round: the field at the end of the stack is passed, and what lies right below it is put on the stack, the
first part at the end. -/
def next? (w : Walk) : Option Walk :=
  w.stack.getLast?.map fun field => ⟨w.passed ++ [field], w.stack.dropLast ++ field.parts.reverse⟩

/-- The walk after so many rounds, if it does not end before. -/
def after? : Nat → Walk → Option Walk
  | 0, w => some w
  | n + 1, w => w.next?.bind (after? n)

/-- What a walk will have passed in the end. -/
def course (w : Walk) : List Field :=
  w.passed ++ Field.preorderOfAll w.stack.reverse

/-- How many fields are still to come. -/
def remaining (w : Walk) : Nat :=
  Field.sizeOfAll w.stack.reverse

theorem next?_eq_none_iff : w.next? = none ↔ w.stack = [] := by
  rw [next?, Option.map_eq_none_iff, List.getLast?_eq_none_iff]

/-- Before a round the field that it passes is at the end of the stack. -/
theorem next?_eq_some_iff : w.next? = some next ↔
    ∃ field rest, w.stack = rest ++ [field] ∧ next = ⟨w.passed ++ [field], rest ++ field.parts.reverse⟩ := by
  rw [next?, Option.map_eq_some_iff]
  constructor
  · rintro ⟨field, hlast, rfl⟩
    exact ⟨field, w.stack.dropLast, (List.dropLast_append_getLast? field hlast).symm, rfl⟩
  · rintro ⟨field, rest, hstack, rfl⟩
    exact ⟨field, by rw [hstack, List.getLast?_concat], by rw [hstack, List.dropLast_concat]⟩

/-- Seen from the end of the stack, a round puts the parts of a field in its place. -/
theorem reverse_stack_of_next (h : w.next? = some next) : ∃ field rest, w.stack.reverse = field :: rest ∧
    next.stack.reverse = field.parts ++ rest ∧ next.passed = w.passed ++ [field] := by
  obtain ⟨field, rest, hstack, rfl⟩ := next?_eq_some_iff.mp h
  refine ⟨field, rest.reverse, ?_, ?_, rfl⟩
  · rw [hstack, List.reverse_concat]
  · rw [List.reverse_append, List.reverse_reverse]

/-- A round changes nothing about what will have been passed. -/
theorem course_of_next (h : w.next? = some next) : next.course = w.course := by
  obtain ⟨field, rest, hstack, hnext, hpassed⟩ := reverse_stack_of_next h
  rw [course, course, hstack, hnext, hpassed, Field.preorderOfAll_cons, List.append_assoc, List.singleton_append]

/-- After a round there is one field less to come. -/
theorem remaining_of_next (h : w.next? = some next) : w.remaining = next.remaining + 1 := by
  obtain ⟨field, rest, hstack, hnext, _⟩ := reverse_stack_of_next h
  rw [remaining, remaining, hstack, hnext, Field.sizeOfAll_cons]

/-- A walk with nothing to come has an empty stack. -/
theorem stack_eq_nil_of_remaining (h : w.remaining = 0) : w.stack = [] := by
  by_contra hne
  obtain ⟨next, hnext⟩ := Option.ne_none_iff_exists'.mp (mt next?_eq_none_iff.mp hne)
  rw [remaining_of_next hnext] at h
  cases h

/-- **A walk ends**, after as many rounds as there are fields to come, and then it has passed all of its course. -/
theorem after_remaining (w : Walk) : w.after? w.remaining = some ⟨w.course, []⟩ := by
  generalize hn : w.remaining = n
  induction n generalizing w with
  | zero =>
    have hstack := stack_eq_nil_of_remaining hn
    obtain ⟨passed, stack⟩ := w
    cases hstack
    rw [after?, course, List.reverse_nil, Field.preorderOfAll, List.append_nil]
  | succ n ih =>
    have hne : w.next? ≠ none := by
      intro hnone
      rw [remaining, next?_eq_none_iff.mp hnone] at hn
      cases hn
    obtain ⟨next, hnext⟩ := Option.ne_none_iff_exists'.mp hne
    have hremaining := remaining_of_next hnext
    rw [after?, hnext, Option.bind_some, ih next (by omega), course_of_next hnext]

end Walk

/-! ### The order of a walk -/

namespace Form

theorem walkFrom_eq_preorder (pending : List Field) : walkFrom pending = Field.preorderOfAll pending := by
  fun_induction walkFrom pending with
  | case1 => rfl
  | case2 field rest ih => rw [ih, Field.preorderOfAll_cons]

/-- The fields of a form are walked in the order of declaration. -/
theorem walk_eq_preorder (form : Form) : form.walk = form.root.preorder := by
  rw [walk, walkFrom_eq_preorder, Field.preorderOfAll, Field.preorderOfAll, List.append_nil]

end Form

/-! ### Places -/

namespace Field

/-- What lies at or below a placed field stands there. -/
theorem Placed.prefix_of_mem {place : Path} {field f : Field} (h : field.Placed place) (hf : f ∈ field.preorder) :
    place <+: f.place := by
  obtain ⟨p, hp, _⟩ := h.exists_at?_of_mem hf
  exact ⟨p, hp.symm⟩

/-- What stands a step below a place does not stand at it. -/
theorem ne_of_prefix_concat {place p : Path} {s : Segment} (h : place ++ [s] <+: p) : p ≠ place := by
  rintro rfl
  have hlength := h.length_le
  rw [List.length_append, List.length_singleton] at hlength
  omega

/-- Steps from a place by different names lead apart. -/
theorem eq_of_prefix_concat {place p : Path} {s t : Segment} (hs : place ++ [s] <+: p) (ht : place ++ [t] <+: p) :
    s = t := by
  have hlength : (place ++ [s]).length = (place ++ [t]).length := by simp only [List.length_append, List.length_singleton]
  have hsame := (List.prefix_of_prefix_length_le hs ht hlength.le).eq_of_length hlength
  exact (List.cons.inj (List.append_cancel_left hsame)).1

/-- No two fields at or below a placed one stand at the same place. -/
theorem Placed.places_nodup {place : Path} {field : Field} (h : field.Placed place) :
    (field.preorder.map Field.place).Nodup := by
  induction h with
  | leaf _ => exact List.nodup_singleton _
  | @group place info children hplace hnames hchildren ih =>
    rw [preorder_eq_cons, List.map_cons, List.map_flatMap, List.nodup_cons, List.nodup_flatMap]
    refine ⟨fun hmem => ?own, ih, ?apart⟩
    case own =>
      obtain ⟨c, hc, hmem⟩ := List.mem_flatMap.mp hmem
      obtain ⟨f, hf, heq⟩ := List.mem_map.mp hmem
      exact ne_of_prefix_concat ((hchildren c hc).prefix_of_mem hf) (heq.trans hplace)
    case apart =>
      refine (List.pairwise_map.mp hnames).imp_of_mem fun {c d} hc hd hne p hp hq => hne ?_
      obtain ⟨f, hf, rfl⟩ := List.mem_map.mp hp
      obtain ⟨g, hg, heq⟩ := List.mem_map.mp hq
      exact Segment.name.inj
        (eq_of_prefix_concat ((hchildren c hc).prefix_of_mem hf) (heq ▸ (hchildren d hd).prefix_of_mem hg))
  | @array place info item hplace hitem ih =>
    rw [preorder_eq_cons, List.map_cons, parts, List.flatMap_singleton, List.nodup_cons]
    refine ⟨fun hmem => ?_, ih⟩
    obtain ⟨f, hf, heq⟩ := List.mem_map.mp hmem
    exact ne_of_prefix_concat (hitem.prefix_of_mem hf) (heq.trans hplace)

end Field

/-! ### A walk over a form -/

namespace Form

variable {registry : Registry} {document : Value} {form : Form}

/-- The fields of a form are those that are found at its places. -/
theorem mem_walk_iff (hplaced : form.root.Placed []) {f : Field} : f ∈ form.walk ↔ ∃ p, form.root.at? p = some f := by
  rw [walk_eq_preorder]
  constructor
  · intro hf
    obtain ⟨p, _, hat⟩ := hplaced.exists_at?_of_mem hf
    exact ⟨p, hat⟩
  · rintro ⟨p, hat⟩
    exact Field.mem_preorder_of_at? hat

/-- **A walk over a form passes each of its fields once, and these are what is found at places.**  The walk ends after as
many rounds as fields have been built, and has then passed the fields in the order of declaration, each before its parts
and those before its next sibling.  No two of them stand at the same place, each is found at all places with the outline
of its own, and at other places nothing is found. -/
theorem walk_finds (hkeys : document.keysOnce = true) (hform : Form.ofDocument registry document = .ok form) :
    (Walk.after? form.size ⟨[], [form.root]⟩ = some ⟨form.walk, []⟩ ∧ Walk.next? ⟨form.walk, []⟩ = none) ∧
    form.walk = form.root.preorder ∧
    form.walk.length = form.size ∧ form.size = (Declaration.ofValue document).fieldCount ∧
    (form.walk.map Field.place).Nodup ∧ (∀ f, f ∈ form.walk ↔ ∃ p, form.root.at? p = some f) ∧
    (∀ f ∈ form.walk, ∀ p : Path, p.outline = f.place → form.fieldAt? p = some f) ∧
    ∀ p : Path, (∀ f ∈ form.walk, f.place ≠ p.outline) → form.fieldAt? p = none := by
  have hplaced := root_placed hkeys hform
  obtain ⟨_, hsound, hcount, hlength⟩ := isSound_of_document hkeys hform
  refine ⟨⟨?rounds, rfl⟩, form.walk_eq_preorder, by rw [walk_eq_preorder, hlength], hcount, ?apart,
    fun f => mem_walk_iff hplaced, fun f hf p hp => ?found, fun p hnone => ?nothing⟩
  case rounds =>
    have hrun := Walk.after_remaining ⟨[], [form.root]⟩
    rw [Walk.course, Walk.remaining, List.reverse_singleton, Field.sizeOfAll, Field.sizeOfAll, Nat.add_zero,
      Field.preorderOfAll, Field.preorderOfAll, List.append_nil, List.nil_append] at hrun
    rw [walk_eq_preorder]
    exact hrun
  case apart =>
    rw [walk_eq_preorder]
    exact hplaced.places_nodup
  case found =>
    have hself := (hsound f (form.walk_eq_preorder ▸ hf)).found
    rw [fieldAt?_eq_at?] at hself
    rw [fieldAt?, hp, hself]
  case nothing =>
    by_contra hsome
    obtain ⟨f, hf⟩ := Option.ne_none_iff_exists'.mp hsome
    rw [fieldAt?_eq_at?] at hf
    exact hnone f ((mem_walk_iff hplaced).mpr ⟨p, hf⟩) (info_place_of_at? hkeys hform hf)

/-- A form for a museum: its rooms, each with a name and notes, and its address. -/
def museum : Value :=
  .object [("type", .text "group"), ("properties", .object [
    ("rooms", .object [("type", .text "group"), ("multiple", .bool true), ("properties", .object [
      ("name", .object [("type", .text "text")]),
      ("notes", .object [("type", .text "array"), ("items", .object [("type", .text "text")])])])]),
    ("address", .object [("type", .text "group"), ("properties", .object [
      ("city", .object [("type", .text "text")])])])])]

/-- Eight fields are walked in the museum's form, the notes of a room before the address; the first note of the fifth
room is found, and rooms together have no name. -/
theorem walk_finds_in_museum : ∃ form note, Form.ofDocument Registry.standard museum = .ok form ∧
    Walk.after? 8 ⟨[], [form.root]⟩ = some ⟨form.walk, []⟩ ∧
    form.walk.map Field.place = [[], [.name "rooms"], [.name "rooms", .each], [.name "rooms", .each, .name "name"],
      [.name "rooms", .each, .name "notes"], [.name "rooms", .each, .name "notes", .each], [.name "address"],
      [.name "address", .name "city"]] ∧
    note ∈ form.walk ∧ note.place = [.name "rooms", .each, .name "notes", .each] ∧
    form.fieldAt? [.name "rooms", .index 4, .name "notes", .index 0] = some note ∧
    form.fieldAt? [.name "rooms", .name "name"] = none := by
  have hrun : ((Form.ofDocument Registry.standard museum).toOption.bind fun form =>
      some (form.size, form.root.preorder.map Field.place)) =
      some (8, [[], [.name "rooms"], [.name "rooms", .each], [.name "rooms", .each, .name "name"],
        [.name "rooms", .each, .name "notes"], [.name "rooms", .each, .name "notes", .each], [.name "address"],
        [.name "address", .name "city"]]) := by
    decide +kernel
  obtain ⟨form, hform, hrun⟩ := exists_eq_ok_of_bind hrun
  obtain ⟨hsize, hplaces⟩ := Prod.mk.inj (Option.some.inj hrun)
  obtain ⟨⟨hrounds, _⟩, hwalk, _, _, _, _, hfound, hnothing⟩ := walk_finds (by decide +kernel) hform
  rw [hsize] at hrounds
  rw [← hwalk] at hplaces
  have hnote : [.name "rooms", .each, .name "notes", .each] ∈ form.walk.map Field.place := by
    rw [hplaces]
    decide
  obtain ⟨note, hmem, hplace⟩ := List.mem_map.mp hnote
  refine ⟨form, note, hform, hrounds, hplaces, hmem, hplace, hfound note hmem _ (by rw [hplace]; rfl), ?_⟩
  refine hnothing _ fun f hf heq => ?_
  have hother := List.mem_map_of_mem (f := Field.place) hf
  rw [heq, hplaces] at hother
  revert hother
  decide

end Form

end FormCheck
