import FormCheck.Proofs.Form.RootGroup
import FormCheck.Proofs.Form.SpelledOut

/-!
# Which field a refused document is blamed on

A document is refused twice over: at a flaw, which has a location in the document, and at a field that is built or
linked, which has a place.  This says how the place that a location tells goes together with that of the field.

* `Site`, `Site.Leads` — a field that a document declares, with its place, and the locations that lead to it;
* `Site.build_cases` — **proved**: what building a field comes to, by the parts that it declares;
* `Site.refused_of_build`, `Site.parts_of_build` — **proved**: one step of building, with an error and with a result;
* `Site.exists_refusing`, `Site.exists_unlinked` — **proved**: a whole document is refused at one of its fields;
* `Site.Leads.leavesOut` — **proved**: the place that a location tells is that of the field less the open index of
  every repeated group on the way;
* `Form.flaw_tells_place_iff` — **proved**: a flaw is told with the place of its field exactly when no repeated group
  lies on the way to it;
* `Form.not_every_flaw_tells_place` — **proved**: in a repeated group it is not.
-/

namespace FormCheck

open Fallible

variable {registry : Registry}

/-! ### Fields that a document declares -/

/-- A field that a document declares, as building comes to it: the part of the document that declares it, its name,
and the place that it is built at. -/
structure Site where
  declared : Value
  name : String
  place : Path

namespace Site

/-- The field that a whole document declares. -/
def root (document : Value) : Site :=
  ⟨document, "", []⟩

/-- The entries that declare the field. -/
def entries (s : Site) : List (String × Value) :=
  s.declared.entriesOf

/-- What is built at the site. -/
def build (registry : Registry) (s : Site) : Building Field :=
  (Declaration.ofValue s.declared).build registry s.name s.place

/-- The field is a repeated group. -/
def isRepeatedGroup (s : Site) : Bool :=
  Value.areRepeatedGroup s.entries

/-- The place of the group that the field is: for a repeated group, that of the elements of its array. -/
def inner (s : Site) : Path :=
  if s.isRepeatedGroup then s.place ++ [.each] else s.place

/-- A field right below another one, with the keys that lead to it: a named field of a group, or the element of an
array.  Nothing is built below a field that declares other parts than its type allows. -/
inductive Part (s : Site) : Location → Site → Prop where
  | child {children : Value} {c : String × Value} (kind : Kind.ofKey? (typeIn s.entries) = some .group)
      (declared : entryOf? s.entries "properties" = some children) (single : entryOf? s.entries "items" = none)
      (mem : c ∈ children.entriesOf) : Part s ["properties", c.1] ⟨c.2, c.1, s.inner ++ [.name c.1]⟩
  | item {item : Value} (kind : Kind.ofKey? (typeIn s.entries) = some .array)
      (single : entryOf? s.entries "properties" = none) (declared : entryOf? s.entries "items" = some item) :
      Part s ["items"] ⟨item, s.name, s.place ++ [.each]⟩

/-- A location leads from one field to another one at or below it.  The way to it is the fields that lie above it, from
the first one on. -/
inductive Leads : Site → List Site → Location → Site → Prop where
  | self (s : Site) : Leads s [] [] s
  | part {s t u : Site} {way : List Site} {l m : Location} :
      s.Part l t → Leads t way m u → Leads s (s :: way) (l ++ m) u

end Site

/-! ### The own part of a field -/

namespace Details

/-- The elements of a repeated group have no rules and no condition, and are never refused for them. -/
theorem exists_build_forElements (registry : Registry) (details : Details) (name : String) (place : Path) :
    ∃ info, details.forElements.build registry .group name place = .ok info ∧ info.rules = [] ∧
      info.condition = none :=
  ⟨_, rfl, rfl, rfl⟩

end Details

namespace Declaration

variable {name : String} {place : Path} {repeated : Bool} {details : Details} {fields : List Field}

/-- A group of built fields is refused at its own place. -/
theorem place_of_closeGroup :
    RefusesOnly (·.place = place) (closeGroup registry name place repeated details fields) := by
  rw [closeGroup]
  split
  · obtain ⟨info, hinfo, _⟩ := Details.exists_build_forElements registry details name (place ++ [.each])
    rw [hinfo, ok_bind]
    exact .bind (Details.blamesField_build _ _ _ _).refusesAt fun _ => .ok _
  · exact .bind (Details.blamesField_build _ _ _ _).refusesAt fun _ => .ok _

/-- A group of built fields stands at its place, with these fields below it.  Besides them there is only the group
itself, and the group that stands for the elements where it is repeated; this has no rules and no condition. -/
theorem closeGroup_eq_ok {field : Field} (h : closeGroup registry name place repeated details fields = .ok field) :
    field.place = place ∧ (∀ f ∈ fields, f ∈ field.preorder) ∧ ∀ g ∈ field.preorder,
      g = field ∨ (g.info.rules = [] ∧ g.info.condition = none) ∨ ∃ f ∈ fields, g ∈ f.preorder := by
  rw [closeGroup] at h
  split at h
  · obtain ⟨info, hinfo, hempty⟩ := Details.exists_build_forElements registry details name (place ++ [.each])
    rw [hinfo, ok_bind] at h
    obtain ⟨arrayInfo, harray, h⟩ := bind_eq_ok_iff.mp h
    cases h
    refine ⟨(Details.build_name_place harray).2, fun f hf => ?_, fun g hg => ?_⟩
    · have hgroup : f ∈ (Field.group info fields).preorder :=
        Field.mem_preorder_iff.mpr (.inr ⟨f, hf, Field.self_mem_preorder f⟩)
      exact Field.mem_preorder_iff.mpr (.inr ⟨_, List.mem_singleton_self _, hgroup⟩)
    · rcases Field.mem_preorder_iff.mp hg with rfl | ⟨c, hc, hg⟩
      · exact .inl rfl
      · rw [List.mem_singleton.mp hc] at hg
        rcases Field.mem_preorder_iff.mp hg with rfl | hbelow
        · exact .inr (.inl hempty)
        · exact .inr (.inr hbelow)
  · obtain ⟨info, hinfo, h⟩ := bind_eq_ok_iff.mp h
    cases h
    refine ⟨(Details.build_name_place hinfo).2, fun f hf => ?_, fun g hg => ?_⟩
    · exact Field.mem_preorder_iff.mpr (.inr ⟨f, hf, Field.self_mem_preorder f⟩)
    · rcases Field.mem_preorder_iff.mp hg with rfl | hbelow
      · exact .inl rfl
      · exact .inr (.inr hbelow)

end Declaration

/-! ### Building a field -/

namespace Site

variable {s t : Site} {e : SpecError} {field : Field}

/-- What is built at a site, by the entries that declare it. -/
theorem build_eq (registry : Registry) (s : Site) :
    s.build registry = (Declaration.mk (typeIn s.entries) (isRepeatedIn s.entries) (.ofEntries s.entries)
      ((entryOf? s.entries "properties").map Declaration.childrenOf)
      ((entryOf? s.entries "items").map Declaration.ofValue)).build registry s.name s.place := by
  obtain ⟨declared, name, place⟩ := s
  cases declared with
  | object entries => rw [build, Declaration.ofValue_object]; rfl
  | _ => rfl

theorem isRepeatedGroup_of_kind {kind : Kind} (h : Kind.ofKey? (typeIn s.entries) = some kind) :
    s.isRepeatedGroup = (kind.key == Kind.group.key && isRepeatedIn s.entries) := by
  have hkey : (kind.key == typeIn s.entries) = true :=
    List.find?_some (p := fun k : Kind => k.key == typeIn s.entries) h
  rw [isRepeatedGroup, Value.areRepeatedGroup, ← beq_iff_eq.mp hkey]

theorem inner_of_group (h : Kind.ofKey? (typeIn s.entries) = some .group) :
    s.inner = if isRepeatedIn s.entries then s.place ++ [.each] else s.place := by
  rw [inner, isRepeatedGroup_of_kind h, beq_self_eq_true, Bool.true_and]

theorem Part.eq_of_group {l : Location} {children : Value} (h : s.Part l t)
    (hkind : Kind.ofKey? (typeIn s.entries) = some .group)
    (hdeclared : entryOf? s.entries "properties" = some children) :
    ∃ c ∈ children.entriesOf, t = ⟨c.2, c.1, s.inner ++ [.name c.1]⟩ := by
  cases h with
  | child _ hsame _ hc =>
    cases hdeclared.symm.trans hsame
    exact ⟨_, hc, rfl⟩
  | item harray => cases hkind.symm.trans harray

theorem Part.eq_of_array {l : Location} {item : Value} (h : s.Part l t)
    (hkind : Kind.ofKey? (typeIn s.entries) = some .array) (hdeclared : entryOf? s.entries "items" = some item) :
    t = ⟨item, s.name, s.place ++ [.each]⟩ := by
  cases h with
  | child hgroup => cases hkind.symm.trans hgroup
  | item _ _ hsame =>
    cases hdeclared.symm.trans hsame
    rfl

/-- A group is built from its named fields. -/
theorem build_group {children : Value} (hkind : Kind.ofKey? (typeIn s.entries) = some .group)
    (hdeclared : entryOf? s.entries "properties" = some children) (hsingle : entryOf? s.entries "items" = none) :
    s.build registry = children.entriesOf.mapM
      (fun c => (⟨c.2, c.1, s.inner ++ [.name c.1]⟩ : Site).build registry) >>= fun fields =>
        Declaration.closeGroup registry s.name s.place (isRepeatedIn s.entries) (.ofEntries s.entries) fields := by
  have hchildren : Declaration.childrenOf children =
      children.entriesOf.map fun c => (c.1, Declaration.ofValue c.2) := by
    cases children with
    | object entries => exact Declaration.childrenIn_eq_map entries
    | _ => rfl
  rw [build_eq, hdeclared, hsingle, Declaration.build.eq_def]
  simp only [Option.map_some, Option.map_none, hkind, ← inner_of_group hkind, hchildren, Declaration.buildAll_eq_mapM,
    List.mapM_map]
  rfl

theorem build_array {item : Value} (hkind : Kind.ofKey? (typeIn s.entries) = some .array)
    (hsingle : entryOf? s.entries "properties" = none) (hdeclared : entryOf? s.entries "items" = some item) :
    s.build registry = (⟨item, s.name, s.place ++ [.each]⟩ : Site).build registry >>= fun field =>
      (Details.ofEntries s.entries).build registry .array s.name s.place >>= fun info => .ok (.array info field) := by
  rw [build_eq, hsingle, hdeclared, Declaration.build.eq_def]
  simp only [Option.map_some, Option.map_none, hkind]
  rfl

/-- A field that building finds no parts below: it is refused at its own place, or built as a field without parts. -/
structure IsPartless (registry : Registry) (s : Site) : Prop where
  no_part : ∀ l t, ¬ s.Part l t
  refuses : RefusesOnly (fun e => e.place = s.place ∨ e.place = s.inner) (s.build registry)
  built : ∀ field, s.build registry = .ok field → field.place = s.place ∧ field.parts = []

/-- A field that is refused for its type, or for the parts that it declares. -/
theorem isPartless_of_refuse {place : Path} {problem : SpecProblem} (hpartless : ∀ l t, ¬ s.Part l t)
    (hbuild : s.build registry = .refuse place problem) (hplace : place = s.place ∨ place = s.inner) :
    IsPartless registry s where
  no_part := hpartless
  refuses := by
    rw [hbuild]
    exact .refuse hplace
  built field hfield := by
    rw [hbuild] at hfield
    cases hfield

/-- A group without named fields, or with a field for elements, has no parts. -/
theorem isPartless_of_group (hkind : Kind.ofKey? (typeIn s.entries) = some .group)
    (hwrong : entryOf? s.entries "properties" = none ∨ entryOf? s.entries "items" ≠ none) :
    IsPartless registry s := by
  have hpartless : ∀ l t, ¬ s.Part l t := by
    intro l t ht
    cases ht with
    | child _ hdeclared hsingle => exact hwrong.elim (fun h => by cases h.symm.trans hdeclared) (· hsingle)
    | item harray => cases hkind.symm.trans harray
  have hbuild := build_eq registry s
  rw [Declaration.build.eq_def] at hbuild
  simp only [hkind, ← inner_of_group hkind] at hbuild
  cases hchildren : entryOf? s.entries "properties" with
  | none =>
    cases hitem : entryOf? s.entries "items" with
    | none =>
      rw [hchildren, hitem] at hbuild
      exact isPartless_of_refuse hpartless hbuild (.inr rfl)
    | some item =>
      rw [hchildren, hitem] at hbuild
      exact isPartless_of_refuse hpartless hbuild (.inr rfl)
  | some children =>
    obtain ⟨item, hitem⟩ := Option.ne_none_iff_exists'.mp (hwrong.resolve_left (by simp [hchildren]))
    rw [hchildren, hitem] at hbuild
    exact isPartless_of_refuse hpartless hbuild (.inr rfl)

/-- An array with named fields, or without a field for elements, has no parts. -/
theorem isPartless_of_array (hkind : Kind.ofKey? (typeIn s.entries) = some .array)
    (hwrong : entryOf? s.entries "properties" ≠ none ∨ entryOf? s.entries "items" = none) :
    IsPartless registry s := by
  have hpartless : ∀ l t, ¬ s.Part l t := by
    intro l t ht
    cases ht with
    | child hgroup => cases hkind.symm.trans hgroup
    | item _ hsingle hdeclared => exact hwrong.elim (· hsingle) (fun h => by cases h.symm.trans hdeclared)
  have hbuild := build_eq registry s
  rw [Declaration.build.eq_def] at hbuild
  simp only [hkind] at hbuild
  cases hchildren : entryOf? s.entries "properties" with
  | some children =>
    rw [hchildren] at hbuild
    exact isPartless_of_refuse hpartless hbuild (.inl rfl)
  | none =>
    rw [hchildren, hwrong.resolve_left (· hchildren)] at hbuild
    exact isPartless_of_refuse hpartless hbuild (.inl rfl)

/-- A field for a single value has no parts, and neither has one of an unknown type. -/
theorem isPartless_of_type (hgroup : Kind.ofKey? (typeIn s.entries) ≠ some .group)
    (harray : Kind.ofKey? (typeIn s.entries) ≠ some .array) : IsPartless registry s := by
  have hpartless : ∀ l t, ¬ s.Part l t := by
    intro l t ht
    cases ht with
    | child hkind => exact hgroup hkind
    | item hkind => exact harray hkind
  have hbuild := build_eq registry s
  rw [Declaration.build.eq_def] at hbuild
  cases hkind : Kind.ofKey? (typeIn s.entries) with
  | none =>
    simp only [hkind] at hbuild
    exact isPartless_of_refuse hpartless hbuild (.inl rfl)
  | some kind =>
    cases kind with
    | group => exact absurd hkind hgroup
    | array => exact absurd hkind harray
    | leaf kind =>
      simp only [hkind] at hbuild
      split at hbuild
      · refine ⟨hpartless, ?_, fun field hfield => ?_⟩
        · rw [hbuild]
          intro e he
          exact .inl (RefusesOnly.bind (Details.blamesField_build _ _ _ _).refusesAt (fun _ => .ok _) e he)
        · rw [hbuild] at hfield
          obtain ⟨info, hinfo, hfield⟩ := bind_eq_ok_iff.mp hfield
          cases hfield
          exact ⟨(Details.build_name_place hinfo).2, rfl⟩
      · exact isPartless_of_refuse hpartless hbuild (.inl rfl)

/-- **What building a field comes to.**  A group is built from its named fields and an array from the field for its
elements; every other field has no parts, or is refused for those that it declares. -/
theorem build_cases (registry : Registry) (s : Site) :
    (∃ children, Kind.ofKey? (typeIn s.entries) = some .group ∧ entryOf? s.entries "properties" = some children ∧
      entryOf? s.entries "items" = none) ∨
    (∃ item, Kind.ofKey? (typeIn s.entries) = some .array ∧ entryOf? s.entries "properties" = none ∧
      entryOf? s.entries "items" = some item) ∨ IsPartless registry s := by
  by_cases hgroup : Kind.ofKey? (typeIn s.entries) = some .group
  · by_cases hwrong : entryOf? s.entries "properties" = none ∨ entryOf? s.entries "items" ≠ none
    · exact .inr (.inr (isPartless_of_group hgroup hwrong))
    · rw [not_or, not_not] at hwrong
      obtain ⟨children, hchildren⟩ := Option.ne_none_iff_exists'.mp hwrong.1
      exact .inl ⟨children, hgroup, hchildren, hwrong.2⟩
  · by_cases harray : Kind.ofKey? (typeIn s.entries) = some .array
    · by_cases hwrong : entryOf? s.entries "properties" ≠ none ∨ entryOf? s.entries "items" = none
      · exact .inr (.inr (isPartless_of_array harray hwrong))
      · rw [not_or, not_not] at hwrong
        obtain ⟨item, hitem⟩ := Option.ne_none_iff_exists'.mp hwrong.2
        exact .inr (.inl ⟨item, harray, hwrong.1, hitem⟩)
    · exact .inr (.inr (isPartless_of_type hgroup harray))

/-- **Where building a field is refused.**  It is refused at one of its parts, or all of them are built, and it is
refused at its own place. -/
theorem refused_of_build (h : s.build registry = .error (.refused e)) :
    (∃ l t, s.Part l t ∧ t.build registry = .error (.refused e)) ∨
      (∀ l t, s.Part l t → ∃ f, t.build registry = .ok f) ∧ (e.place = s.place ∨ e.place = s.inner) := by
  rcases build_cases registry s with ⟨children, hkind, hdeclared, hsingle⟩ | ⟨item, hkind, hsingle, hdeclared⟩ |
    hpartless
  · rw [build_group hkind hdeclared hsingle] at h
    rcases bind_eq_error_iff.mp h with hchildren | ⟨fields, hfields, hclose⟩
    · obtain ⟨c, hc, hbuild⟩ := exists_of_mapM_eq_error hchildren
      exact .inl ⟨_, _, .child hkind hdeclared hsingle hc, hbuild⟩
    · refine .inr ⟨fun l t ht => ?_, .inl (Declaration.place_of_closeGroup e hclose)⟩
      obtain ⟨c, hc, rfl⟩ := ht.eq_of_group hkind hdeclared
      obtain ⟨f, _, hf⟩ := exists_mem_of_mapM hfields hc
      exact ⟨f, hf⟩
  · rw [build_array hkind hsingle hdeclared] at h
    rcases bind_eq_error_iff.mp h with hitem | ⟨f, hf, hown⟩
    · exact .inl ⟨_, _, .item hkind hsingle hdeclared, hitem⟩
    · have hplace : RefusesOnly (·.place = s.place)
          ((Details.ofEntries s.entries).build registry .array s.name s.place >>= fun info =>
            .ok (Field.array info f)) :=
        .bind (Details.blamesField_build _ _ _ _).refusesAt fun _ => .ok _
      refine .inr ⟨fun l t ht => ?_, .inl (hplace e hown)⟩
      obtain rfl := ht.eq_of_array hkind hdeclared
      exact ⟨f, hf⟩
  · exact .inr ⟨fun l t ht => absurd ht (hpartless.no_part l t), hpartless.refuses e h⟩

/-- **What a built field consists of.**  It stands at its place, and what lies below it has been built from its parts,
but for the group that stands for the elements of a repeated group. -/
theorem parts_of_build (h : s.build registry = .ok field) :
    field.place = s.place ∧ (∀ l t, s.Part l t → ∃ f ∈ field.preorder, t.build registry = .ok f) ∧
      ∀ g ∈ field.preorder, g = field ∨ (g.info.rules = [] ∧ g.info.condition = none) ∨
        ∃ l t f, s.Part l t ∧ t.build registry = .ok f ∧ g ∈ f.preorder := by
  rcases build_cases registry s with ⟨children, hkind, hdeclared, hsingle⟩ | ⟨item, hkind, hsingle, hdeclared⟩ |
    hpartless
  · rw [build_group hkind hdeclared hsingle] at h
    obtain ⟨fields, hfields, hclose⟩ := bind_eq_ok_iff.mp h
    obtain ⟨hplace, hbelow, hall⟩ := Declaration.closeGroup_eq_ok hclose
    refine ⟨hplace, fun l t ht => ?_, fun g hg => ?_⟩
    · obtain ⟨c, hc, rfl⟩ := ht.eq_of_group hkind hdeclared
      obtain ⟨f, hmem, hf⟩ := exists_mem_of_mapM hfields hc
      exact ⟨f, hbelow f hmem, hf⟩
    · refine (hall g hg).imp_right (Or.imp_right fun hpart => ?_)
      obtain ⟨f, hf, hgf⟩ := hpart
      obtain ⟨c, hc, hbuild⟩ := exists_of_mem_mapM hfields hf
      exact ⟨_, _, f, .child hkind hdeclared hsingle hc, hbuild, hgf⟩
  · rw [build_array hkind hsingle hdeclared] at h
    obtain ⟨f, hf, h⟩ := bind_eq_ok_iff.mp h
    obtain ⟨info, hinfo, h⟩ := bind_eq_ok_iff.mp h
    cases h
    refine ⟨(Details.build_name_place hinfo).2, fun l t ht => ?_, fun g hg => ?_⟩
    · obtain rfl := ht.eq_of_array hkind hdeclared
      exact ⟨f, Field.mem_preorder_iff.mpr (.inr ⟨f, List.mem_singleton_self f, Field.self_mem_preorder f⟩), hf⟩
    · rcases Field.mem_preorder_iff.mp hg with rfl | ⟨c, hc, hg⟩
      · exact .inl rfl
      · rw [List.mem_singleton.mp hc] at hg
        exact .inr (.inr ⟨_, _, f, .item hkind hsingle hdeclared, hf, hg⟩)
  · obtain ⟨hplace, hparts⟩ := hpartless.built field h
    refine ⟨hplace, fun l t ht => absurd ht (hpartless.no_part l t), fun g hg => ?_⟩
    rcases Field.mem_preorder_iff.mp hg with rfl | ⟨c, hc, _⟩
    · exact .inl rfl
    · rw [hparts] at hc
      cases hc

/-! ### The fields below a site -/

/-- A part of a field is declared in a part of the document. -/
theorem Part.sizeOf_lt {l : Location} (h : s.Part l t) : sizeOf t.declared < sizeOf s.declared := by
  cases h with
  | child _ hdeclared _ hc =>
    exact lt_trans (Value.sizeOf_lt_of_mem_entriesOf hc) (Value.sizeOf_lt_of_mem_entriesOf (mem_of_entryOf? hdeclared))
  | item _ _ hdeclared => exact Value.sizeOf_lt_of_mem_entriesOf (mem_of_entryOf? hdeclared)

/-- Induction over sites: what holds of a field when it holds of the fields right below it. -/
theorem induction_parts {motive : Site → Prop} (step : ∀ s, (∀ l t, s.Part l t → motive t) → motive s) (s : Site) :
    motive s :=
  step s fun _ t _ => induction_parts step t
termination_by sizeOf s.declared
decreasing_by exact Part.sizeOf_lt ‹_›

/-- **Where building ends with an error.**  It does at one field, at the place of this field or of the group that it
is, and everything right below this field has been built. -/
theorem exists_refusing (h : s.build registry = .error (.refused e)) :
    ∃ way l t, Leads s way l t ∧ t.build registry = .error (.refused e) ∧
      (∀ m u, t.Part m u → ∃ f, u.build registry = .ok f) ∧ (e.place = t.place ∨ e.place = t.inner) := by
  induction s using induction_parts with
  | step s ih =>
    rcases refused_of_build h with ⟨l, t, ht, hpart⟩ | ⟨hbuilt, hplace⟩
    · obtain ⟨way, m, u, hleads, hu⟩ := ih l t ht hpart
      exact ⟨s :: way, l ++ m, u, .part ht hleads, hu⟩
    · exact ⟨[], [], s, .self s, h, hbuilt, hplace⟩

/-- Where a field is built, so is every field below it, at its place. -/
theorem Leads.exists_built {way : List Site} {l : Location} (h : Leads s way l t)
    (hbuild : s.build registry = .ok field) :
    ∃ f ∈ field.preorder, t.build registry = .ok f ∧ f.place = t.place := by
  induction h generalizing field with
  | self s => exact ⟨field, Field.self_mem_preorder field, hbuild, (parts_of_build hbuild).1⟩
  | part ht _ ih =>
    obtain ⟨c, hc, hpart⟩ := (parts_of_build hbuild).2.1 _ _ ht
    obtain ⟨f, hf, hbuilt⟩ := ih hpart
    exact ⟨f, Field.mem_preorder_trans hc hf, hbuilt⟩

/-- Every field at and below one that has been built is built at some site, but for those that stand for the elements
of repeated groups; these have no rules and no condition. -/
theorem exists_site {g : Field} (hbuild : s.build registry = .ok field) (hg : g ∈ field.preorder) :
    (g.info.rules = [] ∧ g.info.condition = none) ∨ ∃ way l t, Leads s way l t ∧ t.build registry = .ok g := by
  induction s using induction_parts generalizing field with
  | step s ih =>
    rcases (parts_of_build hbuild).2.2 g hg with rfl | hempty | ⟨l, t, f, ht, hpart, hgf⟩
    · exact .inr ⟨[], [], s, .self s, hbuild⟩
    · exact .inl hempty
    · refine (ih l t ht hpart hgf).imp_right fun hbelow => ?_
      obtain ⟨way, m, u, hleads, hu⟩ := hbelow
      exact ⟨s :: way, l ++ m, u, .part ht hleads, hu⟩

/-- A document is refused at a field: when it is built, and everything right below it has been, or when the references
in what it has are looked up from the root. -/
inductive Refuses (registry : Registry) (document : Value) (s : Site) (e : SpecError) : Prop where
  | building (refused : s.build registry = .error (.refused e))
      (built : ∀ l t, s.Part l t → ∃ f, t.build registry = .ok f)
  | linking {draft field : Field} (drafted : (root document).build registry = .ok draft)
      (built : s.build registry = .ok field) (refused : field.info.link registry draft = .error (.refused e))

/-- **Where linking ends with an error.**  It does at a field of the document, at its place. -/
theorem exists_unlinked {document : Value} {draft : Field} (hdraft : (root document).build registry = .ok draft)
    (hlink : Field.link registry draft draft = .error (.refused e)) :
    ∃ way l site, (root document).Leads way l site ∧ site.Refuses registry document e ∧ e.place = site.place := by
  obtain ⟨g, hg, hrefused⟩ := Field.exists_of_link_error hlink
  rcases exists_site hdraft hg with ⟨hrules, hcondition⟩ | ⟨way, l, site, hleads, hbuilt⟩
  · rw [FieldInfo.link, hrules, hcondition] at hrefused
    cases hrefused
  · refine ⟨way, l, site, hleads, .linking hdraft hbuilt hrefused, ?_⟩
    rw [(g.info.blamesField_link draft).refusesAt e hrefused]
    exact (parts_of_build hbuilt).1

end Site

/-! ### Places that leave out open indices -/

/-- A path that is another one less some number of its open indices. -/
inductive Path.LeavesOut : Nat → Path → Path → Prop where
  | nil : LeavesOut 0 [] []
  | keep (s : Segment) {n : Nat} {p q : Path} : LeavesOut n p q → LeavesOut n (s :: p) (s :: q)
  | drop {n : Nat} {p q : Path} : LeavesOut n p q → LeavesOut (n + 1) p (.each :: q)

namespace Path

/-- The number of characters that the steps of a path take after another one. -/
def width (p : Path) : Nat :=
  (p.flatMap (Segment.chars false)).length

theorem width_cons (s : Segment) (p : Path) : width (s :: p) = (s.chars false).length + width p := by
  rw [width, List.flatMap_cons, List.length_append, width]

/-- The written form is as long, or one shorter: the first name has no point before it. -/
theorem width_of_chars (p : Path) : p.chars.length ≤ p.width ∧ p.width ≤ p.chars.length + 1 := by
  cases p with
  | nil => exact ⟨Nat.le_refl 0, Nat.zero_le 1⟩
  | cons s rest =>
    rw [chars, List.length_append, width_cons, width]
    cases s <;> simp only [Segment.chars, if_true, Bool.false_eq_true, if_false, List.length_cons] <;> omega

namespace LeavesOut

variable {n : Nat} {p q : Path}

/-- Every open index that is left out leaves out three characters. -/
theorem width_eq (h : LeavesOut n p q) : q.width = p.width + 3 * n := by
  induction h with
  | nil => rfl
  | keep s _ ih =>
    rw [width_cons, width_cons, ih]
    omega
  | drop _ ih =>
    rw [width_cons, ih]
    change 3 + _ = _
    omega

theorem eq_of_zero (h : LeavesOut 0 p q) : p = q := by
  generalize hn : 0 = n at h
  induction h with
  | nil => rfl
  | keep s _ ih => rw [ih hn]
  | drop => cases hn

/-- **A path that leaves out open indices is written otherwise.** -/
theorem text_eq_iff (h : LeavesOut n p q) : p.text = q.text ↔ n = 0 := by
  constructor
  · intro htext
    have hlength := congrArg List.length (String.ofList_injective htext)
    have hwidth := h.width_eq
    have hp := p.width_of_chars
    have hq := q.width_of_chars
    omega
  · rintro rfl
    rw [h.eq_of_zero]

end LeavesOut

end Path

/-- A location that points at a field right below the one that it starts from, or into it. -/
def EntersField (l : Location) : Prop :=
  ["items"] <+: l ∨ ∃ name, ["properties", name] <+: l

theorem placeOf_eq_nil {l : Location} (h : ¬ EntersField l) : placeOf l = [] := by
  rw [placeOf.eq_def]
  split
  · next name rest => exact absurd (.inr ⟨name, rest, rfl⟩) h
  · next rest => exact absurd (.inl ⟨rest, rfl⟩) h
  · rfl

namespace Site

variable {s t : Site} {l : Location}

/-- The location of a part leaves out the open index that stands for the elements of a repeated group. -/
theorem Part.leavesOut (h : s.Part l t) : ∃ p, t.place = s.place ++ p ∧ ∀ {n : Nat} {m : Location} {q : Path},
    Path.LeavesOut n (placeOf m) q →
      Path.LeavesOut (n + if s.isRepeatedGroup then 1 else 0) (placeOf (l ++ m)) (p ++ q) := by
  cases h with
  | @child _ c =>
    rw [inner]
    cases s.isRepeatedGroup with
    | false => exact ⟨[.name c.1], rfl, fun h => .keep _ h⟩
    | true => exact ⟨[.each, .name c.1], List.append_assoc _ _ _, fun h => .drop (.keep _ h)⟩
  | item hkind =>
    rw [isRepeatedGroup_of_kind hkind]
    exact ⟨[.each], rfl, fun h => .keep _ h⟩

/-- **What a location tells of the place of a field**: the place less one open index for each repeated group on the
way, as long as the location does not go on into another field. -/
theorem Leads.leavesOut {way : List Site} (h : Leads s way l t) {rest : Location} (hrest : ¬ EntersField rest) :
    ∃ p, t.place = s.place ++ p ∧ Path.LeavesOut (way.countP Site.isRepeatedGroup) (placeOf (l ++ rest)) p := by
  induction h with
  | self s =>
    refine ⟨[], (List.append_nil _).symm, ?_⟩
    rw [List.nil_append, placeOf_eq_nil hrest]
    exact .nil
  | part ht _ ih =>
    obtain ⟨p, hp, hpart⟩ := ht.leavesOut
    obtain ⟨q, hq, hbelow⟩ := ih
    refine ⟨p ++ q, by rw [hq, hp, List.append_assoc], ?_⟩
    rw [List.countP_cons, List.append_assoc]
    exact hpart hbelow

end Site

/-! ### Documents -/

namespace Form

variable {registry : Registry} {document : Value}

/-- A document with flaws is refused at the place that the location of the gravest one tells. -/
theorem ofDocument_of_flaw {flaw : Flaw} (hobject : document.isObject = true)
    (hworded : ∀ other ∈ Flaw.all document, ¬ other.problem.HasLongNumber)
    (hflaw : Flaw.gravest? (Flaw.all document) = some flaw) :
    ofDocument registry document = .error (.refused ⟨placeOf flaw.location, .malformed flaw.problem⟩) := by
  have hread : readDocument document = .error (.refused ⟨placeOf flaw.location, .malformed flaw.problem⟩) :=
    readDocument_eq_error_iff.mpr (.inr (.inr ⟨hobject, fun ⟨other, hother, hlong⟩ => hworded other hother hlong,
      flaw, hflaw, rfl⟩))
  rw [ofDocument, hread]
  rfl

/-- A document without flaws is refused for its root, or at one of the fields that it declares. -/
theorem refused_at_site {e : SpecError} (hflaws : Flaw.all document = [])
    (h : ofDocument registry document = .error (.refused e)) :
    e = ⟨[], .rootNoGroup⟩ ∨ ∃ way l site, (Site.root document).Leads way l site ∧
      site.Refuses registry document e ∧ (e.place = site.place ∨ e.place = site.inner) := by
  rw [ofDocument, readDocument_of_flawless hflaws, ok_bind] at h
  split at h
  · cases h
    exact .inl rfl
  · rcases bind_eq_error_iff.mp h with hbuild | ⟨draft, hdraft, h⟩
    · obtain ⟨way, l, site, hleads, hrefused, hbuilt, hplace⟩ := Site.exists_refusing (s := .root document) hbuild
      exact .inr ⟨way, l, site, hleads, .building hrefused hbuilt, hplace⟩
    · rcases bind_eq_error_iff.mp h with hlink | ⟨_, _, h⟩
      · obtain ⟨way, l, site, hleads, hrefuses, hplace⟩ := Site.exists_unlinked hdraft hlink
        exact .inr ⟨way, l, site, hleads, hrefuses, .inl hplace⟩
      · cases h

/-- **A flaw in a field is told with the place of the field exactly when the field lies in no repeated group.** A
document with flaws is refused at the place that the location of the gravest one tells; a document without flaws is
refused at the place that a field is built at.  For one and the same field the former leaves out the open index of every
repeated group on the way to it, and is written otherwise as soon as there is one. -/
theorem flaw_tells_place_iff (registry : Registry) (document : Value) :
    (document.isObject = true → (∀ other ∈ Flaw.all document, ¬ other.problem.HasLongNumber) →
      ∀ flaw, Flaw.gravest? (Flaw.all document) = some flaw →
      ofDocument registry document = .error (.refused ⟨placeOf flaw.location, .malformed flaw.problem⟩)) ∧
    (Flaw.all document = [] → ∀ e, ofDocument registry document = .error (.refused e) →
      e = ⟨[], .rootNoGroup⟩ ∨ ∃ way l site, (Site.root document).Leads way l site ∧
        site.Refuses registry document e ∧ (e.place = site.place ∨ e.place = site.inner)) ∧
    ∀ way l site, (Site.root document).Leads way l site →
      (∀ draft, (Site.root document).build registry = .ok draft →
        ∃ field ∈ draft.preorder, site.build registry = .ok field ∧ field.place = site.place) ∧
      ∀ rest, ¬ EntersField rest →
        Path.LeavesOut (way.countP Site.isRepeatedGroup) (placeOf (l ++ rest)) site.place ∧
        ((placeOf (l ++ rest)).text = site.place.text ↔ ∀ above ∈ way, above.isRepeatedGroup = false) := by
  refine ⟨fun hobject hworded _ => ofDocument_of_flaw hobject hworded, fun hflaws _ => refused_at_site hflaws,
    fun way l site hleads => ⟨fun draft hdraft => hleads.exists_built hdraft, fun rest hrest => ?_⟩⟩
  obtain ⟨p, hplace, hout⟩ := hleads.leavesOut hrest
  have hsame : site.place = p := hplace
  rw [hsame]
  refine ⟨hout, hout.text_eq_iff.trans ?_⟩
  simp only [List.countP_eq_zero, Bool.not_eq_true]

/-- Guests, with a field for the name of each. -/
def guestsWith (name : Value) : Value :=
  .object [("type", .text "group"), ("properties", .object [
    ("guests", .object [("type", .text "group"), ("multiple", .bool true), ("properties", .object [("name", name)])])])]

/-- A field that is declared without a type. -/
def untyped : Value :=
  .object [("label", .text "Name")]

/-- A field that is declared with a type. -/
def typed : Value :=
  .object [("type", .text "text")]

/-- A field that is declared with a type that there is not. -/
def mistyped : Value :=
  .object [("type", .text "color")]

/-- Where the guests' name is declared. -/
def guestNameLocation : Location :=
  ["properties", "guests", "properties", "name"]

/-- The guests' name as it is built. -/
def guestNameSite (name : Value) : Site :=
  ⟨name, "name", [.name "guests", .each, .name "name"]⟩

theorem leads_to_guestName (name : Value) : ∃ way,
    (Site.root (guestsWith name)).Leads way guestNameLocation (guestNameSite name) ∧
      way.countP Site.isRepeatedGroup = 1 :=
  ⟨_, .part (.child (c := ("guests", _)) rfl rfl rfl (List.mem_singleton_self _))
    (.part (.child (c := ("name", name)) rfl rfl rfl (List.mem_singleton_self _)) (.self _)), rfl⟩

theorem not_entersField_nil : ¬ EntersField [] := by
  rintro (h | ⟨_, h⟩) <;> cases List.prefix_nil.mp h

/-- A name without a type is told to be wrong at a place that leaves out the guest; one of an unknown type is refused at
a field, and one of a known type is built. -/
theorem flaw_tells_place_iff_of_guests :
    (ofDocument Registry.standard (guestsWith untyped)
        = .error (.refused ⟨placeOf guestNameLocation, .malformed .noType⟩) ∧
      Path.LeavesOut 1 (placeOf guestNameLocation) (guestNameSite untyped).place ∧
      (placeOf guestNameLocation).text = "guests.name" ∧ (guestNameSite untyped).place.text = "guests[*].name") ∧
    (∃ way l site, (Site.root (guestsWith mistyped)).Leads way l site ∧
      site.Refuses Registry.standard (guestsWith mistyped) ⟨(guestNameSite mistyped).place, .unknownType "color"⟩) ∧
    ∃ draft, (Site.root (guestsWith typed)).build Registry.standard = .ok draft ∧
      ∃ field ∈ draft.preorder, field.place = (guestNameSite typed).place := by
  obtain ⟨hflaw, _, hplaces⟩ := flaw_tells_place_iff Registry.standard (guestsWith untyped)
  obtain ⟨way, hleads, hcount⟩ := leads_to_guestName untyped
  have hout := ((hplaces way guestNameLocation (guestNameSite untyped) hleads).2 [] not_entersField_nil).1
  rw [hcount] at hout
  refine ⟨⟨hflaw rfl (by decide) ⟨guestNameLocation, .noType⟩ rfl, hout, by decide, by decide⟩, ?_, ?_⟩
  · obtain ⟨_, hrefused, _⟩ := flaw_tells_place_iff Registry.standard (guestsWith mistyped)
    rcases hrefused rfl ⟨(guestNameSite mistyped).place, .unknownType "color"⟩ rfl with hroot | hsite
    · cases hroot
    · obtain ⟨way, l, site, hleads, hrefuses, _⟩ := hsite
      exact ⟨way, l, site, hleads, hrefuses⟩
  · obtain ⟨_, _, hbuilds⟩ := flaw_tells_place_iff Registry.standard (guestsWith typed)
    obtain ⟨way, hleads, _⟩ := leads_to_guestName typed
    obtain ⟨field, hfield, _, hplace⟩ := (hbuilds way guestNameLocation (guestNameSite typed) hleads).1 _ rfl
    exact ⟨_, rfl, field, hfield, hplace⟩

/-- **Not every flaw is told with the place of the field that it lies in**: a guest's name without a type is told to be
wrong at one place, and with an unknown type at another one. -/
theorem not_every_flaw_tells_place :
    (¬ ∀ (document : Value) (way : List Site) (l : Location) (site : Site), (Site.root document).Leads way l site →
      ∀ rest, ¬ EntersField rest → (placeOf (l ++ rest)).text = site.place.text) ∧
    ofDocument Registry.standard (guestsWith untyped)
      = .error (.refused ⟨[.name "guests", .name "name"], .malformed .noType⟩) ∧
    ofDocument Registry.standard (guestsWith mistyped)
      = .error (.refused ⟨[.name "guests", .each, .name "name"], .unknownType "color"⟩) := by
  refine ⟨fun h => ?_, rfl, rfl⟩
  obtain ⟨way, hleads, _⟩ := leads_to_guestName untyped
  have htext := h (guestsWith untyped) way guestNameLocation (guestNameSite untyped) hleads [] not_entersField_nil
  revert htext
  decide

end Form

end FormCheck
