import FormCheck.Proofs.Form.Stripped
import FormCheck.Rule.Standard

/-!
# Repeated groups spelled out

A group that is declared to be repeated is short for an array of groups.  Building takes it for one when it comes to it,
whatever it stands in.  A document can also be rewritten as a whole, so that the arrays are there from the beginning.

* `Value.arrayEntries` — the entries of an array, from those of a repeated group: its own details stay with it, and all
  the others go to the group that stands for its elements;
* `Value.spelledOut` — a document with an array for each repeated group in it, at any depth;
* `Declaration.not_repeated_of_holds` — **proved**: no group in it is repeated any more;
* `Declaration.build_spelledOut` — **proved**: a field and its spelled out form are built alike, or refused alike;
* `Flaw.nil_of_spelledOut` — **proved**: a document without flaws has none when it is spelled out;
* `Form.ofDocument_spelledOut` — **proved**: both describe the same form, or are refused for the same reason.
-/

namespace FormCheck

open Fallible

/-! ### Documents -/

namespace Value

/-- The keys of a repeated group under which the array has its details. -/
def staysWithArray (key : String) : Bool :=
  ["rules", "condition", "display_switch", "messages", "label"].contains key

/-- The keys of a repeated group under which the group that stands for the elements has its entries. -/
def goesToElements (key : String) : Bool :=
  !(["rules", "condition", "display_switch", "messages", "multiple"].contains key)

/-- Entries that declare a repeated group. -/
def areRepeatedGroup (entries : List (String × Value)) : Bool :=
  typeIn entries == Kind.group.key && isRepeatedIn entries

/-- The entries of the array of a group, from those of the repeated group. -/
def arrayEntries (entries : List (String × Value)) : List (String × Value) :=
  ("type", .text Kind.array.key) :: ("items", .object (entries.filter (goesToElements ·.1)))
    :: entries.filter (staysWithArray ·.1)

mutual

/-- A field's document with an array for each repeated group in it. -/
def spelledOut : Value → Value
  | .object entries =>
    .object (if areRepeatedGroup entries then arrayEntries (spelledEntries entries) else spelledEntries entries)
  | v => v

/-- The entries of a field's document with the fields below it spelled out. -/
def spelledEntries : List (String × Value) → List (String × Value)
  | [] => []
  | (key, v) :: rest =>
    (key, if key = "properties" then spelledChildren v else if key = "items" then spelledOut v else v)
      :: spelledEntries rest

/-- An object of named fields, each of them spelled out. -/
def spelledChildren : Value → Value
  | .object entries => .object (spelledChildEntries entries)
  | v => v

/-- The named fields of an object, each of them spelled out. -/
def spelledChildEntries : List (String × Value) → List (String × Value)
  | [] => []
  | (name, v) :: rest => (name, spelledOut v) :: spelledChildEntries rest

end

/-- What stands under a key of a field's document, with the fields in it spelled out. -/
def spelledPart (key : String) (v : Value) : Value :=
  if key = "properties" then spelledChildren v else if key = "items" then spelledOut v else v

theorem spelledEntries_eq_map (entries : List (String × Value)) :
    spelledEntries entries = entries.map fun e => (e.1, spelledPart e.1 e.2) := by
  induction entries with
  | nil => rfl
  | cons e entries ih =>
    rw [spelledEntries, ih]
    rfl

theorem spelledChildEntries_eq_map (entries : List (String × Value)) :
    spelledChildEntries entries = entries.map fun e => (e.1, e.2.spelledOut) := by
  induction entries with
  | nil => rfl
  | cons e entries ih => rw [spelledChildEntries, ih, List.map_cons]

/-! ### Entries of what is spelled out -/

/-- The entries under some keys. -/
theorem entryOf?_filter (keeps : String → Bool) (entries : List (String × Value)) (key : String) :
    entryOf? (entries.filter (keeps ·.1)) key = if keeps key then entryOf? entries key else none := by
  induction entries with
  | nil => simp [entryOf?]
  | cons e entries ih =>
    rw [List.filter_cons, entryOf?_cons]
    by_cases hkeeps : keeps e.1 = true
    · rw [if_pos hkeeps, entryOf?_cons, ih]
      by_cases he : e.1 = key
      · rw [if_pos he, if_pos he, if_pos (he ▸ hkeeps)]
      · rw [if_neg he, if_neg he]
    · rw [if_neg hkeeps, ih]
      by_cases he : e.1 = key
      · rw [if_neg (he ▸ hkeeps), if_neg (he ▸ hkeeps)]
      · rw [if_neg he]

theorem entryOf?_spelledEntries (entries : List (String × Value)) (key : String) :
    entryOf? (spelledEntries entries) key = (entryOf? entries key).map (spelledPart key) := by
  rw [spelledEntries_eq_map]
  induction entries with
  | nil => rfl
  | cons e entries ih =>
    rw [List.map_cons, entryOf?_cons, entryOf?_cons, ih]
    by_cases he : e.1 = key
    · rw [if_pos he, if_pos he, he, Option.map_some]
    · rw [if_neg he, if_neg he]

/-- The entries for details are left as they are. -/
theorem entryOf?_spelledEntries_detail (entries : List (String × Value)) {key : String}
    (hproperties : key ≠ "properties") (hitems : key ≠ "items") :
    entryOf? (spelledEntries entries) key = entryOf? entries key := by
  have hpart : spelledPart key = id := by
    funext v
    rw [spelledPart, if_neg hproperties, if_neg hitems]
    rfl
  rw [entryOf?_spelledEntries, hpart, Option.map_id_fun, id_eq]

theorem entryOf?_arrayEntries (entries : List (String × Value)) {key : String} (hkey : staysWithArray key = true) :
    entryOf? (arrayEntries entries) key = entryOf? entries key := by
  have htype : "type" ≠ key := by
    rintro rfl
    revert hkey
    decide
  have hitems : "items" ≠ key := by
    rintro rfl
    revert hkey
    decide
  rw [arrayEntries, entryOf?_cons, if_neg htype, entryOf?_cons, if_neg hitems, entryOf?_filter, if_pos hkey]

theorem entryOf?_arrayEntries_items (entries : List (String × Value)) :
    entryOf? (arrayEntries entries) "items" = some (.object (entries.filter (goesToElements ·.1))) := by
  rw [arrayEntries, entryOf?_cons, if_neg (by decide), entryOf?_cons, if_pos rfl]

/-- No other part of the repeated group is one of the array. -/
theorem entryOf?_arrayEntries_none (entries : List (String × Value)) {key : String}
    (hkey : key ∈ ["properties", "multiple"]) : entryOf? (arrayEntries entries) key = none := by
  have hstays : staysWithArray key = false := by
    revert key
    decide
  have htype : "type" ≠ key := by
    rintro rfl
    revert hkey
    decide
  have hitems : "items" ≠ key := by
    rintro rfl
    revert hkey
    decide
  rw [arrayEntries, entryOf?_cons, if_neg htype, entryOf?_cons, if_neg hitems, entryOf?_filter, hstays]
  rfl

end Value

/-! ### Declarations -/

namespace Declaration

variable {registry : Registry}

/-- A declaration is, or holds at any depth, another one. -/
inductive Holds : Declaration → Declaration → Prop where
  | self (declaration : Declaration) : Holds declaration declaration
  | child {type : String} {repeated : Bool} {details : Details} {children : List (String × Declaration)}
      {item : Option Declaration} {c : String × Declaration} {d : Declaration} :
      c ∈ children → c.2.Holds d → Holds (.mk type repeated details (some children) item) d
  | item {type : String} {repeated : Bool} {details : Details} {children : Option (List (String × Declaration))}
      {item d : Declaration} : item.Holds d → Holds (.mk type repeated details children (some item)) d

/-- A declaration of a group that is repeated. -/
def IsRepeatedGroup (declaration : Declaration) : Prop :=
  declaration.type = Kind.group.key ∧ declaration.isRepeated = true


/-- A declaration of other parts is built alike if the parts are. -/
theorem build_congr_parts {type : String} {repeated : Bool} {details : Details} {properties items : Option Value}
    {children others : Value → List (String × Declaration)} {item other : Value → Declaration}
    (hchildren : ∀ v, properties = some v → ∀ place,
      buildAll registry place (children v) = buildAll registry place (others v))
    (hitem : ∀ v, items = some v → ∀ name place,
      (item v).build registry name place = (other v).build registry name place) (name : String) (place : Path) :
    (Declaration.mk type repeated details (properties.map children) (items.map item)).build registry name place
      = (Declaration.mk type repeated details (properties.map others) (items.map other)).build registry name place := by
  rw [build.eq_def, build.eq_def registry name place (.mk type repeated details (properties.map others) _)]
  cases properties with
  | none =>
    cases items with
    | none => rfl
    | some v => simp only [Option.map_some, Option.map_none, hitem v rfl]
  | some v =>
    cases items with
    | none => simp only [Option.map_some, Option.map_none, hchildren v rfl]
    | some w => rfl

/-- **A repeated group is built as the array of the group is.** -/
theorem build_array_of_group {type : String} (htype : Kind.ofKey? type = some .group) (details : Details)
    (children : Option (List (String × Declaration))) (item : Option Declaration) (name : String) (place : Path) :
    (Declaration.mk Kind.array.key false details none
        (some (.mk type false details.forElements children item))).build registry name place
      = (Declaration.mk type true details children item).build registry name place := by
  have harray : Kind.ofKey? Kind.array.key = some .array := Kind.ofKey?_key .array
  rw [build.eq_def]
  dsimp only
  rw [harray]
  dsimp only
  rw [build.eq_def, build.eq_def registry name place (.mk type true details children item)]
  dsimp only
  rw [htype]
  dsimp only
  cases children with
  | none => cases item <;> rfl
  | some cs =>
    cases item with
    | some d => rfl
    | none =>
      show ((buildAll registry (place ++ [.each]) cs >>= fun fields =>
        closeGroup registry name (place ++ [.each]) false details.forElements fields) >>= _)
          = buildAll registry (place ++ [.each]) cs >>= fun fields => closeGroup registry name place true details fields
      cases buildAll registry (place ++ [.each]) cs with
      | error e => rfl
      | ok fields =>
        show (closeGroup registry name (place ++ [.each]) false details.forElements fields >>= _)
          = closeGroup registry name place true details fields
        rw [closeGroup, closeGroup]
        cases details.forElements.build registry .group name (place ++ [.each]) <;> rfl

/-- What stands in a document with an array for a repeated group: the array of the group. -/
theorem ofValue_arrayEntries (entries : List (String × Value)) :
    ofValue (.object (Value.arrayEntries entries)) =
      .mk Kind.array.key false (.ofEntries entries) none
        (some (.mk (typeIn entries) false (Details.ofEntries entries).forElements
          ((entryOf? entries "properties").map childrenOf) ((entryOf? entries "items").map ofValue))) := by
  have hdetail : ∀ key, Value.staysWithArray key = true →
      entryOf? (Value.arrayEntries entries) key = entryOf? entries key := fun _ => Value.entryOf?_arrayEntries entries
  have hnone : ∀ key, key ∈ ["properties", "multiple"] → entryOf? (Value.arrayEntries entries) key = none :=
    fun _ => Value.entryOf?_arrayEntries_none entries
  have htype : typeIn (Value.arrayEntries entries) = Kind.array.key := rfl
  have hdetails : Details.ofEntries (Value.arrayEntries entries) = .ofEntries entries := by
    rw [Details.ofEntries, hdetail "rules" rfl, hdetail "condition" rfl, hdetail "display_switch" rfl,
      hdetail "label" rfl, hdetail "messages" rfl]
    rfl
  rw [ofValue_object, htype, isRepeatedIn, hnone "multiple" (by decide), hdetails, hnone "properties" (by decide),
    Value.entryOf?_arrayEntries_items, Option.map_some, ofValue_object]
  simp only [typeIn, isRepeatedIn, Details.ofEntries, Value.entryOf?_filter]
  rfl

/-- The declaration of an object with the fields in it spelled out: the same, but for the parts. -/
theorem ofValue_spelledEntries (entries : List (String × Value)) :
    ofValue (.object (Value.spelledEntries entries)) =
      .mk (typeIn entries) (isRepeatedIn entries) (.ofEntries entries)
        ((entryOf? entries "properties").map fun v => childrenOf v.spelledChildren)
        ((entryOf? entries "items").map fun v => ofValue v.spelledOut) := by
  have hdetail : ∀ key, key ≠ "properties" → key ≠ "items" →
      entryOf? (Value.spelledEntries entries) key = entryOf? entries key :=
    fun _ => Value.entryOf?_spelledEntries_detail entries
  have hdetails : Details.ofEntries (Value.spelledEntries entries) = .ofEntries entries := by
    rw [Details.ofEntries, hdetail "rules" (by decide) (by decide), hdetail "condition" (by decide) (by decide),
      hdetail "display_switch" (by decide) (by decide), hdetail "label" (by decide) (by decide),
      hdetail "messages" (by decide) (by decide)]
    rfl
  rw [ofValue_object, hdetails, typeIn, hdetail "type" (by decide) (by decide), isRepeatedIn,
    hdetail "multiple" (by decide) (by decide), Value.entryOf?_spelledEntries, Value.entryOf?_spelledEntries,
    Option.map_map, Option.map_map]
  rfl

/-- An array that stands for a repeated group is built as the group is. -/
theorem build_arrayEntries {entries : List (String × Value)} (h : Value.areRepeatedGroup entries = true)
    (name : String) (place : Path) :
    (ofValue (.object (Value.arrayEntries entries))).build registry name place
      = (ofValue (.object entries)).build registry name place := by
  rw [Value.areRepeatedGroup, Bool.and_eq_true, beq_iff_eq] at h
  have htype : Kind.ofKey? (typeIn entries) = some .group := by
    rw [h.1]
    exact Kind.ofKey?_key .group
  rw [ofValue_arrayEntries, ofValue_object, h.2]
  exact build_array_of_group htype (.ofEntries entries) _ _ name place

/-- The fields in a repeated group can be spelled out before the group. -/
theorem areRepeatedGroup_spelledEntries (entries : List (String × Value)) :
    Value.areRepeatedGroup (Value.spelledEntries entries) = Value.areRepeatedGroup entries := by
  have hsame := (ofValue_object (Value.spelledEntries entries)).symm.trans (ofValue_spelledEntries entries)
  obtain ⟨htype, hrepeated, _⟩ := Declaration.mk.inj hsame
  rw [Value.areRepeatedGroup, htype, hrepeated]
  rfl

/-- **No group is repeated in what is spelled out.** -/
theorem not_repeated_of_holds {v : Value} :
    (∀ d, (ofValue v.spelledOut).Holds d → ¬ d.IsRepeatedGroup) ∧
      ∀ c ∈ childrenOf v.spelledChildren, ∀ d, c.2.Holds d → ¬ d.IsRepeatedGroup := by
  induction v using Value.induction_parts with
  | plain v hlist hobject =>
    have hsame : v.spelledOut = v ∧ v.spelledChildren = v := by
      cases v <;> first | exact ⟨rfl, rfl⟩ | cases hobject
    rw [hsame.1, hsame.2, (ofValue_of_not_object hobject).1, (ofValue_of_not_object hobject).2]
    refine ⟨fun d hd hgroup => ?_, List.forall_mem_nil _⟩
    cases hd
    cases hgroup.2
  | list items _ =>
    refine ⟨fun d hd hgroup => ?_, List.forall_mem_nil _⟩
    cases hd
    cases hgroup.2
  | object entries ih =>
    constructor
    · intro d hd
      -- The parts are the same in a group that stays and in the one that stands for the elements of an array.
      have hbelow : ∀ {repeated : Bool} {details : Details},
          (Declaration.mk (typeIn entries) repeated details
            ((entryOf? entries "properties").map fun v => childrenOf v.spelledChildren)
            ((entryOf? entries "items").map fun v => ofValue v.spelledOut)).Holds d →
          (typeIn entries = Kind.group.key → repeated = false) → ¬ d.IsRepeatedGroup := by
        intro repeated details hd honce
        generalize hchildren : (entryOf? entries "properties").map _ = children at hd
        generalize hitem : (entryOf? entries "items").map _ = item at hd
        cases hd with
        | self => exact fun hgroup => Bool.false_ne_true ((honce hgroup.1).symm.trans hgroup.2)
        | child hc hd =>
          obtain ⟨v, hv, rfl⟩ := Option.map_eq_some_iff.mp hchildren
          exact (ih _ (mem_of_entryOf? hv)).2 _ hc d hd
        | item hd =>
          obtain ⟨v, hv, rfl⟩ := Option.map_eq_some_iff.mp hitem
          exact (ih _ (mem_of_entryOf? hv)).1 d hd
      rw [Value.spelledOut] at hd
      by_cases hgroup : Value.areRepeatedGroup entries = true
      · rw [if_pos hgroup, ofValue_arrayEntries] at hd
        cases hd with
        | self => exact fun hgroup => Bool.false_ne_true hgroup.2
        | item hd =>
          have hparts := (ofValue_object (Value.spelledEntries entries)).symm.trans (ofValue_spelledEntries entries)
          obtain ⟨htype, _, _, hchildren, hitem⟩ := Declaration.mk.inj hparts
          rw [htype, hchildren, hitem] at hd
          exact hbelow hd fun _ => rfl
      · rw [if_neg hgroup, ofValue_spelledEntries] at hd
        refine hbelow hd fun htype => ?_
        rw [Value.areRepeatedGroup, htype, beq_self_eq_true, Bool.true_and, Bool.not_eq_true] at hgroup
        exact hgroup
    · intro c hc
      rw [Value.spelledChildren, childrenOf, childrenIn_eq_map, Value.spelledChildEntries_eq_map, List.map_map] at hc
      obtain ⟨e, he, rfl⟩ := List.mem_map.mp hc
      exact (ih e he).1

theorem build_spelledOut_parts {v : Value} :
    (∀ name place,
      (ofValue v.spelledOut).build registry name place = (ofValue v).build registry name place) ∧
    ∀ place, buildAll registry place (childrenOf v.spelledChildren) = buildAll registry place (childrenOf v) := by
  induction v using Value.induction_parts with
  | plain v hlist hobject =>
    have hsame : v.spelledOut = v ∧ v.spelledChildren = v := by
      cases v <;> first | exact ⟨rfl, rfl⟩ | cases hobject
    rw [hsame.1, hsame.2]
    exact ⟨fun _ _ => rfl, fun _ => rfl⟩
  | list items _ => exact ⟨fun _ _ => rfl, fun _ => rfl⟩
  | object entries ih =>
    constructor
    · intro name place
      have hparts : (ofValue (.object (Value.spelledEntries entries))).build registry name place
          = (ofValue (.object entries)).build registry name place := by
        rw [ofValue_spelledEntries, ofValue_object]
        refine build_congr_parts (fun v hv => ?_) (fun v hv => ?_) name place
        · exact (ih _ (mem_of_entryOf? hv)).2
        · exact (ih _ (mem_of_entryOf? hv)).1
      rw [Value.spelledOut]
      by_cases hgroup : Value.areRepeatedGroup entries = true
      · rw [if_pos hgroup, build_arrayEntries (by rw [areRepeatedGroup_spelledEntries, hgroup])]
        exact hparts
      · rw [if_neg hgroup]
        exact hparts
    · intro place
      rw [Value.spelledChildren, childrenOf, childrenOf, childrenIn_eq_map, childrenIn_eq_map, buildAll_eq_mapM,
        buildAll_eq_mapM, Value.spelledChildEntries_eq_map, List.map_map, List.mapM_map, List.mapM_map]
      exact mapM_congr fun e he => (ih e he).1 _ _

/-- **A field and its spelled out form are built alike**, or refused alike. -/
theorem build_spelledOut (v : Value) (name : String) (place : Path) :
    (ofValue v.spelledOut).build registry name place = (ofValue v).build registry name place :=
  build_spelledOut_parts.1 name place

end Declaration

/-! ### Flaws -/

namespace Flaw

/-- Whether a detail has a flaw does not depend on where it stands. -/
theorem ofDetail_eq_nil {location other : Location} {key : String} {v : Value} (h : ofDetail location key v = []) :
    ofDetail other key v = [] := by
  have htexts : ∀ {location other : Location} {v : Value}, unlessTexts location v = [] → unlessTexts other v = [] := by
    intro location other v h
    rw [unlessTexts] at h ⊢
    split at h
    · next htexts => rw [if_pos htexts]
    · cases h
  unfold ofDetail at h ⊢
  split at h
  · split at h
    · next htext => rw [if_pos htext]
    · cases h
  · cases v <;> first | rfl | cases h
  · cases v <;> first | rfl | cases h
  · cases v <;> first | rfl | cases h
  · exact htexts h
  · cases v with
    | object entries =>
      rw [unlessMessages, List.flatMap_eq_nil_iff] at h ⊢
      exact fun e he => htexts (h e he)
    | _ => cases h
  · cases v <;> first | rfl | cases h
  · rfl

/-- An entry has no flaws if none go over from another one of its key. -/
theorem ofEntry_eq_nil {location other : Location} {key : String} {v w : Value}
    (hchildren : key = "properties" → ofChildren (location ++ [key]) v = [] → ofChildren (other ++ [key]) w = [])
    (hitem : key = "items" → ofField (location ++ [key]) v = [] → ofField (other ++ [key]) w = [])
    (hdetail : key ≠ "properties" → key ≠ "items" →
      ofDetail (location ++ [key]) key v = [] → ofDetail (other ++ [key]) key w = [])
    (h : ofEntry location (key, v) = []) : ofEntry other (key, w) = [] := by
  rw [ofEntry] at h ⊢
  by_cases hp : key = "properties"
  · rw [if_pos hp] at h ⊢
    exact hchildren hp h
  · rw [if_neg hp] at h ⊢
    by_cases hi : key = "items"
    · rw [if_pos hi] at h ⊢
      exact hitem hi h
    · rw [if_neg hi] at h ⊢
      exact hdetail hp hi h

/-- An object is a field's document without flaws if it has a type and its entries have none. -/
theorem ofField_object_eq_nil_iff {location : Location} {entries : List (String × Value)} :
    ofField location (.object entries) = [] ↔
      (entryOf? entries "type").isSome = true ∧ ∀ e ∈ entries, ofEntry location e = [] := by
  rw [ofField, ofEntries_eq_flatMap, List.append_eq_nil_iff, List.flatMap_eq_nil_iff, hasEntry_eq_isSome]
  refine and_congr_left fun _ => ?_
  split
  · next h => exact iff_of_true rfl h
  · next h => exact iff_of_false (List.cons_ne_nil _ _) h

theorem ofChildren_object_eq_nil_iff {location : Location} {entries : List (String × Value)} :
    ofChildren location (.object entries) = [] ↔ ∀ e ∈ entries, ofField (location ++ [e.1]) e.2 = [] := by
  rw [ofChildren, ofChildEntries_eq_flatMap, List.flatMap_eq_nil_iff]

/-- Whether a field has flaws does not depend on where it stands. -/
theorem nil_of_location {v : Value} :
    (∀ location other, ofField location v = [] → ofField other v = []) ∧
      ∀ location other, ofChildren location v = [] → ofChildren other v = [] := by
  induction v using Value.induction_parts with
  | plain v hlist hobject =>
    cases v <;> first | exact ⟨fun _ _ h => (by cases h), fun _ _ h => (by cases h)⟩ | cases hobject
  | list items _ => exact ⟨fun _ _ h => (by cases h), fun _ _ h => (by cases h)⟩
  | object entries ih =>
    constructor
    · intro location other h
      rw [ofField_object_eq_nil_iff] at h ⊢
      refine ⟨h.1, fun e he => ofEntry_eq_nil ?_ ?_ ?_ (h.2 e he)⟩
      · exact fun _ => (ih e he).2 _ _
      · exact fun _ => (ih e he).1 _ _
      · exact fun _ _ => ofDetail_eq_nil
    · intro location other h
      rw [ofChildren_object_eq_nil_iff] at h ⊢
      exact fun e he => (ih e he).1 _ _ (h e he)

/-- The array of a group without flaws has none. -/
theorem nil_of_arrayEntries {location : Location} {entries : List (String × Value)}
    (h : ofField location (.object entries) = []) :
    ofField location (.object (Value.arrayEntries entries)) = [] := by
  rw [ofField_object_eq_nil_iff] at h ⊢
  refine ⟨rfl, fun e he => ?_⟩
  rw [Value.arrayEntries] at he
  rcases List.mem_cons.mp he with rfl | he
  · rfl
  rcases List.mem_cons.mp he with rfl | he
  · -- The group for the elements has a type, and it has no entries but those of the repeated group.
    refine nil_of_location.1 location _ (ofField_object_eq_nil_iff.mpr ⟨?_, fun e he => ?_⟩)
    · rw [Value.entryOf?_filter]
      exact h.1
    · exact h.2 e (List.mem_of_mem_filter he)
  · exact h.2 e (List.mem_of_mem_filter he)

/-- What has no flaws has none when it is spelled out. -/
theorem nil_of_spelledOut {v : Value} :
    (∀ location, ofField location v = [] → ofField location v.spelledOut = []) ∧
      ∀ location, ofChildren location v = [] → ofChildren location v.spelledChildren = [] := by
  induction v using Value.induction_parts with
  | plain v hlist hobject =>
    cases v <;> first | exact ⟨fun _ h => h, fun _ h => h⟩ | cases hobject
  | list items _ => exact ⟨fun _ h => h, fun _ h => h⟩
  | object entries ih =>
    constructor
    · intro location h
      have hparts : ofField location (.object (Value.spelledEntries entries)) = [] := by
        rw [ofField_object_eq_nil_iff] at h ⊢
        refine ⟨?_, fun e he => ?_⟩
        · rw [Value.entryOf?_spelledEntries, Option.isSome_map]
          exact h.1
        · rw [Value.spelledEntries_eq_map] at he
          obtain ⟨d, hd, rfl⟩ := List.mem_map.mp he
          refine ofEntry_eq_nil (fun hkey => ?_) (fun hkey => ?_) (fun hproperties hitems => ?_) (h.2 d hd)
          · rw [Value.spelledPart, if_pos hkey]
            exact (ih d hd).2 _
          · have hproperties : d.1 ≠ "properties" := by
              rw [hkey]
              decide
            rw [Value.spelledPart, if_neg hproperties, if_pos hkey]
            exact (ih d hd).1 _
          · rw [Value.spelledPart, if_neg hproperties, if_neg hitems]
            exact id
      rw [Value.spelledOut]
      by_cases hgroup : Value.areRepeatedGroup entries = true
      · rw [if_pos hgroup]
        exact nil_of_arrayEntries hparts
      · rw [if_neg hgroup]
        exact hparts
    · intro location h
      rw [ofChildren_object_eq_nil_iff] at h
      rw [Value.spelledChildren, ofChildren_object_eq_nil_iff, Value.spelledChildEntries_eq_map]
      intro e he
      obtain ⟨d, hd, rfl⟩ := List.mem_map.mp he
      exact (ih d hd).1 _ (h d hd)

end Flaw

/-! ### Forms -/

namespace Form

variable {registry : Registry} {document : Value}

/-- **A document with repeated groups describes the same form as the document that has an array for each of them**, or
both are refused for the same reason at the same place. -/
theorem ofDocument_spelledOut (h : Flaw.all document = []) :
    (∀ d, (Declaration.ofValue document.spelledOut).Holds d → ¬ d.IsRepeatedGroup) ∧
      ofDocument registry document.spelledOut = ofDocument registry document := by
  refine ⟨Declaration.not_repeated_of_holds.1, ?_⟩
  have hspelled : Flaw.all document.spelledOut = [] := Flaw.nil_of_spelledOut.1 [] h
  have hread : readDocument document = .ok (.ofValue document) :=
    readDocument_eq_ok_iff.mpr ⟨isObject_of_flawless h, h, rfl⟩
  have hreadSpelled : readDocument document.spelledOut = .ok (.ofValue document.spelledOut) :=
    readDocument_eq_ok_iff.mpr ⟨isObject_of_flawless hspelled, hspelled, rfl⟩
  obtain ⟨entries, rfl⟩ : ∃ entries, document = .object entries := by
    have hobject := isObject_of_flawless h
    cases document <;> first | exact ⟨_, rfl⟩ | cases hobject
  rw [ofDocument, ofDocument, hread, hreadSpelled, ok_bind, ok_bind, Declaration.build_spelledOut]
  have hroot : ((Declaration.ofValue (Value.object entries).spelledOut).type != Kind.group.key
        || (Declaration.ofValue (Value.object entries).spelledOut).isRepeated)
      = ((Declaration.ofValue (.object entries)).type != Kind.group.key
        || (Declaration.ofValue (.object entries)).isRepeated) := by
    rw [Value.spelledOut]
    by_cases hgroup : Value.areRepeatedGroup entries = true
    · -- A repeated group is as little the root of a form as an array is.
      rw [if_pos hgroup, Declaration.ofValue_arrayEntries, Declaration.ofValue_object]
      rw [Value.areRepeatedGroup, Bool.and_eq_true] at hgroup
      show (Kind.array.key != Kind.group.key || false) = (typeIn entries != Kind.group.key || isRepeatedIn entries)
      rw [hgroup.2, Bool.or_true]
      rfl
    · rw [if_neg hgroup, Declaration.ofValue_spelledEntries, Declaration.ofValue_object]
      rfl
  rw [hroot]

/-- The topics of a lesson have questions, which are asked only of the topics that count. -/
def lessons : Value :=
  .object [("type", .text "group"), ("properties", .object [
    ("topics", .object [("type", .text "group"), ("multiple", .bool true), ("label", .text "Topics"),
      ("rules", .object [("required", .bool true)]), ("properties", .object [
        ("counts", .object [("type", .text "boolean")]),
        ("questions", .object [("condition", .text ".counts == true"), ("type", .text "group"),
          ("multiple", .bool true), ("properties", .object [("answer", .object [("type", .text "text")])])])])])])]

/-- The lessons with arrays of topics and of questions. -/
def lessonsInArrays : Value :=
  .object [("type", .text "group"), ("properties", .object [
    ("topics", .object [("type", .text "array"),
      ("items", .object [("type", .text "group"), ("label", .text "Topics"), ("properties", .object [
        ("counts", .object [("type", .text "boolean")]),
        ("questions", .object [("type", .text "array"),
          ("items", .object [("type", .text "group"),
            ("properties", .object [("answer", .object [("type", .text "text")])])]),
          ("condition", .text ".counts == true")])])]),
      ("label", .text "Topics"), ("rules", .object [("required", .bool true)])])])]

/-- Lessons are the same form, whether their topics and questions are repeated or stand in arrays. -/
theorem ofDocument_spelledOut_of_lessons : ∃ form, Flaw.all lessons = [] ∧ lessons.spelledOut = lessonsInArrays ∧
    ofDocument Registry.standard lessons = .ok form ∧ ofDocument Registry.standard lessonsInArrays = .ok form ∧
    form.size = 7 := by
  have hflaws : Flaw.all lessons = [] := by decide +kernel
  have hspelled : lessons.spelledOut = lessonsInArrays := rfl
  have hsize : ((ofDocument Registry.standard lessons).toOption.bind fun form => some form.size) = some 7 := by
    decide +kernel
  obtain ⟨form, hform, hsize⟩ := exists_eq_ok_of_bind hsize
  refine ⟨form, hflaws, hspelled, hform, ?_, Option.some.inj hsize⟩
  rw [← hspelled, (ofDocument_spelledOut hflaws).2]
  exact hform

end Form

end FormCheck
