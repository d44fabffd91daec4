import FormCheck.Corpus.Input
import FormCheck.Path.Binding
import FormCheck.Proofs.Form.Placement
import FormCheck.Proofs.Value.Change

/-!
# Entries that are not there

An input of a corpus marks entries of objects that are not there.  They are taken out before the input is looked at, and
then reading the input is reading what was written, but for the marked entries and all below them.

* `Value.MarkedOn` — a path goes through a marked entry;
* `Value.follow_withoutUndefined`, `Value.follow_withoutUndefined_of_marked` — **proved**: what is read at a path is
  what was written there, less the marked entries in it, and nothing below a marked entry;
* `Value.withoutUndefined_withoutUndefined`, `Value.withoutUndefined_eq_self_iff` — **proved**: a second time there is
  nothing to take out, and there was nothing at first exactly when no path goes through a marked entry;
* `Value.reads_without_undefined` — **proved**: the two together, with the members of lists, which keep their positions.
-/

namespace FormCheck.Value

variable {v w : Value} {p : Path} {s : Segment}

/-- Some name on the path is the key of a marked entry. -/
def MarkedOn (v : Value) (p : Path) : Prop :=
  ∃ (before after : Path) (name : String), p = before ++ .name name :: after ∧
    entry? (v.follow before) name = some (.text undefinedMarker)

/-! ### Taking out, part by part -/

theorem isUndefined_iff : v.isUndefined = true ↔ v = .text undefinedMarker := by
  cases v <;> simp [isUndefined]

theorem isUndefined_withoutUndefined (v : Value) : v.withoutUndefined.isUndefined = v.isUndefined := by
  cases v <;> rfl

theorem withoutUndefined_of_plain (hlist : v.isList = false) (hobject : v.isObject = false) :
    v.withoutUndefined = v := by
  cases v with
  | list items => cases hlist
  | object entries => cases hobject
  | _ => rfl

theorem withoutUndefined_list (items : List Value) :
    (Value.list items).withoutUndefined = .list (items.map withoutUndefined) := by
  rw [withoutUndefined]
  congr 1
  induction items with
  | nil => rfl
  | cons v items ih => rw [itemsWithoutUndefined, List.map_cons, ih]

/-- An entry that is not marked is found with the marked ones in its value taken out. -/
theorem entryOf?_entriesWithoutUndefined {entries : List (String × Value)} (h : (entries.map (·.1)).Nodup)
    (key : String) : entryOf? (entriesWithoutUndefined entries) key =
      (entryOf? entries key).bind fun w => if w.isUndefined then none else some w.withoutUndefined := by
  induction entries with
  | nil => rfl
  | cons e entries ih =>
    obtain ⟨name, w⟩ := e
    rw [List.map_cons, List.nodup_cons] at h
    rw [entriesWithoutUndefined, entryOf?_cons]
    by_cases hname : name = key
    · subst hname
      rw [if_pos rfl, Option.bind_some]
      split_ifs with hw
      · -- No other entry has the key of the marked one.
        have hnone : entryOf? entries name = none :=
          entryOf?_eq_none fun d hd hkey => h.1 (List.mem_map.mpr ⟨d, hd, hkey⟩)
        rw [ih h.2, hnone]
        rfl
      · rw [entryOf?_cons, if_pos rfl]
    · rw [if_neg hname]
      split_ifs with hw
      · exact ih h.2
      · rw [entryOf?_cons, if_neg hname]
        exact ih h.2

/-! ### One step -/

theorem step?_name_withoutUndefined (hkeys : v.keysOnce = true) (name : String) :
    v.withoutUndefined.step? (.name name) =
      (v.entry? name).bind fun w => if w.isUndefined then none else some w.withoutUndefined := by
  cases v with
  | object entries => exact entryOf?_entriesWithoutUndefined (keysOnce_object_iff.mp hkeys).1 name
  | _ => rfl

theorem step?_withoutUndefined_of_not_name (v : Value) (hs : s.isName = false) :
    v.withoutUndefined.step? s = (v.step? s).map withoutUndefined := by
  cases s with
  | name n => cases hs
  | index k =>
    cases v with
    | list items =>
      rw [withoutUndefined_list, step?, step?]
      split_ifs
      · exact List.getElem?_map
      · rfl
    | _ => rfl
  | each => cases v <;> rfl

theorem not_markedOn_nil (v : Value) : ¬ v.MarkedOn [] := by
  rintro ⟨before, after, name, h, _⟩
  cases before <;> cases h

theorem markedOn_cons_iff : v.MarkedOn (s :: p) ↔
    (∃ name, s = .name name ∧ v.entry? name = some (.text undefinedMarker)) ∨ ∃ w, v.step? s = some w ∧ w.MarkedOn p := by
  constructor
  · rintro ⟨before, after, name, hp, hentry⟩
    cases before with
    | nil =>
      obtain ⟨rfl, rfl⟩ := List.cons.inj hp
      exact .inl ⟨name, rfl, by rwa [follow_nil] at hentry⟩
    | cons t before =>
      obtain ⟨rfl, rfl⟩ := List.cons.inj hp
      rw [follow_cons] at hentry
      cases hstep : v.step? s with
      | none => rw [hstep] at hentry; cases hentry
      | some w =>
        rw [hstep] at hentry
        exact .inr ⟨w, rfl, before, after, name, rfl, hentry⟩
  · rintro (⟨name, rfl, hentry⟩ | ⟨w, hstep, before, after, name, rfl, hentry⟩)
    · exact ⟨[], p, name, rfl, by rwa [follow_nil]⟩
    · refine ⟨s :: before, after, name, rfl, ?_⟩
      rwa [follow_cons, hstep]

/-! ### Reading -/

/-- Nothing is read below a marked entry. -/
theorem follow_withoutUndefined_of_marked (hkeys : v.keysOnce = true) (h : v.MarkedOn p) :
    v.withoutUndefined.follow p = .absent := by
  induction p generalizing v with
  | nil => exact absurd h (not_markedOn_nil v)
  | cons s p ih =>
    rw [follow_cons]
    rcases markedOn_cons_iff.mp h with ⟨name, rfl, hentry⟩ | ⟨w, hstep, hw⟩
    · rw [step?_name_withoutUndefined hkeys, hentry]
      rfl
    · have hrest := ih (keysOnce_of_step? hkeys hstep) hw
      cases s with
      | name n =>
        have hentry : v.entry? n = some w := hstep
        rw [step?_name_withoutUndefined hkeys, hentry, Option.bind_some]
        split_ifs
        · rfl
        · exact hrest
      | _ =>
        rw [step?_withoutUndefined_of_not_name v rfl, hstep]
        exact hrest

/-- Elsewhere what was written is read, less the marked entries in it. -/
theorem follow_withoutUndefined (hkeys : v.keysOnce = true) (h : ¬ v.MarkedOn p) :
    v.withoutUndefined.follow p = (v.follow p).withoutUndefined := by
  induction p generalizing v with
  | nil => rw [follow_nil, follow_nil]
  | cons s p ih =>
    rw [markedOn_cons_iff, not_or] at h
    have hstep : v.withoutUndefined.step? s = (v.step? s).map withoutUndefined := by
      cases s with
      | name n =>
        rw [step?_name_withoutUndefined hkeys, step?]
        cases hentry : v.entry? n with
        | none => rfl
        | some w =>
          have hw : ¬ w.isUndefined = true := fun hw => h.1 ⟨n, rfl, by rw [hentry, isUndefined_iff.mp hw]⟩
          rw [Option.bind_some, if_neg hw, Option.map_some]
      | _ => exact step?_withoutUndefined_of_not_name v rfl
    rw [follow_cons, follow_cons, hstep]
    cases hnext : v.step? s with
    | none => rfl
    | some w => exact ih (keysOnce_of_step? hkeys hnext) fun hw => h.2 ⟨w, hnext, hw⟩

/-! ### Taking out twice, and nothing to take out -/

/-- A second time there is nothing to take out. -/
theorem withoutUndefined_withoutUndefined (v : Value) : v.withoutUndefined.withoutUndefined = v.withoutUndefined := by
  induction v using Value.induction_parts with
  | plain v hlist hobject => rw [withoutUndefined_of_plain hlist hobject, withoutUndefined_of_plain hlist hobject]
  | list items ih =>
    rw [withoutUndefined_list, withoutUndefined_list, List.map_map]
    exact congrArg Value.list (List.map_congr_left ih)
  | object entries ih =>
    rw [withoutUndefined, withoutUndefined]
    congr 1
    induction entries with
    | nil => rfl
    | cons e entries ihEntries =>
      obtain ⟨name, w⟩ := e
      rw [List.forall_mem_cons] at ih
      rw [entriesWithoutUndefined]
      split_ifs with hw
      · exact ihEntries ih.2
      · rw [entriesWithoutUndefined, isUndefined_withoutUndefined, if_neg hw, ih.1, ihEntries ih.2]

/-- Where no path goes through a marked entry, there is nothing to take out. -/
theorem withoutUndefined_of_unmarked (hkeys : v.keysOnce = true) (h : ∀ p, ¬ v.MarkedOn p) : v.withoutUndefined = v := by
  induction v using Value.induction_parts with
  | plain v hlist hobject => exact withoutUndefined_of_plain hlist hobject
  | list items ih =>
    have hsame : ∀ w ∈ items, w.withoutUndefined = w := by
      intro w hw
      obtain ⟨i, hi, rfl⟩ := List.getElem_of_mem hw
      have hstep : (Value.list items).step? (.index i) = some items[i] := by
        rw [step?, if_pos (Int.natCast_nonneg i), Int.toNat_natCast, List.getElem?_eq_getElem hi]
      exact ih _ hw (keysOnce_list_iff.mp hkeys _ hw) fun p hp => h _ (markedOn_cons_iff.mpr (.inr ⟨_, hstep, hp⟩))
    rw [withoutUndefined_list]
    exact congrArg Value.list ((List.map_congr_left hsame).trans (List.map_id items))
  | object entries ih =>
    obtain ⟨hnodup, hvalues⟩ := keysOnce_object_iff.mp hkeys
    have hsame : ∀ e ∈ entries, ¬ e.2.isUndefined = true ∧ e.2.withoutUndefined = e.2 := by
      intro e he
      have hstep := entryOf?_eq_some_of_mem hnodup he
      refine ⟨fun hundefined => ?_, ih e he (hvalues e he) fun p hp => ?_⟩
      · exact h [.name e.1] (markedOn_cons_iff.mpr (.inl ⟨e.1, rfl, hstep.trans (by rw [isUndefined_iff.mp hundefined])⟩))
      · exact h (.name e.1 :: p) (markedOn_cons_iff.mpr (.inr ⟨e.2, hstep, hp⟩))
    rw [withoutUndefined]
    congr 1
    clear ih hkeys h hnodup hvalues
    induction entries with
    | nil => rfl
    | cons e entries ih =>
      rw [List.forall_mem_cons] at hsame
      rw [entriesWithoutUndefined, if_neg hsame.1.1, hsame.1.2, ih hsame.2]

/-- There is nothing to take out exactly when no path goes through a marked entry. -/
theorem withoutUndefined_eq_self_iff (hkeys : v.keysOnce = true) :
    v.withoutUndefined = v ↔ ∀ p, ¬ v.MarkedOn p := by
  refine ⟨?_, withoutUndefined_of_unmarked hkeys⟩
  rintro hself p ⟨before, after, name, rfl, hentry⟩
  have hread : v.follow (before ++ [.name name]) = .text undefinedMarker := by
    rw [follow_append, follow_cons, step?, hentry]
    rfl
  have hnone := follow_withoutUndefined_of_marked hkeys ⟨before, [], name, rfl, hentry⟩
  rw [hself, hread] at hnone
  cases hnone

/-! ### The law -/

/-- **Taking out what is not there is reading it as absent.**  At every path nothing is read if nothing was written or a
marked entry is on the path, and otherwise what was written, less the marked entries in it.  The members of a list
keep their positions, and a marker among them is an ordinary text.  A second time nothing is taken out, and at first
nothing exactly where no entry is marked. -/
theorem reads_without_undefined (hkeys : v.keysOnce = true) :
    (∀ p, (v.follow p = .absent ∨ v.MarkedOn p → v.withoutUndefined.follow p = .absent) ∧
      (v.follow p ≠ .absent → ¬ v.MarkedOn p → v.withoutUndefined.follow p = (v.follow p).withoutUndefined)) ∧
    (∀ p items, v.follow p = .list items → ¬ v.MarkedOn p →
      v.withoutUndefined.follow p = .list (items.map withoutUndefined) ∧
      ∀ i : Nat, items[i]? = some (.text undefinedMarker) →
        v.withoutUndefined.follow (p ++ [.index i]) = .text undefinedMarker) ∧
    v.withoutUndefined.withoutUndefined = v.withoutUndefined ∧
    (v.withoutUndefined = v ↔ ∀ p, ¬ v.MarkedOn p) := by
  refine ⟨fun p => ⟨?absent, fun _ h => follow_withoutUndefined hkeys h⟩, fun p items hitems h => ?list,
    withoutUndefined_withoutUndefined v, withoutUndefined_eq_self_iff hkeys⟩
  case absent =>
    intro h
    by_cases hmarked : v.MarkedOn p
    · exact follow_withoutUndefined_of_marked hkeys hmarked
    · rw [follow_withoutUndefined hkeys hmarked, h.resolve_right hmarked]
      rfl
  case list =>
    have hread : v.withoutUndefined.follow p = .list (items.map withoutUndefined) := by
      rw [follow_withoutUndefined hkeys h, hitems, withoutUndefined_list]
    refine ⟨hread, fun i hi => ?_⟩
    rw [follow_append, hread, follow_cons, step?, if_pos (Int.natCast_nonneg i), Int.toNat_natCast, List.getElem?_map, hi]
    rfl

/-- An order without a note, for a text in place of a line and a line without a size. -/
def order : Value :=
  .object [("note", .text undefinedMarker), ("lines", .list [.text undefinedMarker,
    .object [("size", .text undefinedMarker), ("item", .text "cup")]])]

/-- In the order there is no note and no size; the first line is still the text, and the second one has its item. -/
theorem reads_without_undefined_of_order :
    order.withoutUndefined.follow [.name "note"] = .absent ∧
    order.withoutUndefined.follow [.name "lines", .index 0] = .text undefinedMarker ∧
    order.withoutUndefined.follow [.name "lines", .index 1, .name "size"] = .absent ∧
    order.withoutUndefined.follow [.name "lines", .index 1] = .object [("item", .text "cup")] ∧
    order.withoutUndefined ≠ order := by
  have hkeys : order.keysOnce = true := by decide
  obtain ⟨hread, hlist, _, hself⟩ := reads_without_undefined hkeys
  have hnote : order.MarkedOn [.name "note"] := ⟨[], [], "note", rfl, rfl⟩
  have hsize : order.MarkedOn [.name "lines", .index 1, .name "size"] :=
    ⟨[.name "lines", .index 1], [], "size", rfl, rfl⟩
  have hlines : ¬ order.MarkedOn [.name "lines"] := by
    rw [markedOn_cons_iff]
    rintro (⟨name, hname, hentry⟩ | ⟨w, _, hw⟩)
    · cases hname
      cases hentry
    · exact not_markedOn_nil w hw
  obtain ⟨hitems, hmembers⟩ := hlist [.name "lines"] _ rfl hlines
  refine ⟨(hread _).1 (.inr hnote), hmembers 0 rfl, (hread _).1 (.inr hsize), ?_, fun h => hself.mp h _ hnote⟩
  rw [show [.name "lines", .index 1] = [.name "lines"] ++ [Segment.index 1] from rfl, follow_append, hitems]
  rfl

end FormCheck.Value
