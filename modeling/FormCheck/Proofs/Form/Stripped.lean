import FormCheck.Proofs.Form.Lessening

/-!
# Documents without some of their keys

A document can be stripped of all entries under some keys, in the document of each field.  Where the keys are those of
details, what is left describes the same fields, each of them with less.

* `Value.stripped` — a field's document without the entries under some keys, at the field and at all below it; a field
  that happens to be named like such a key stays;
* `Strips` — the keys, what the details of a declaration are without them, and what a field has then;
* `Declaration.ofValue_stripped` — **proved**: a stripped document declares the same fields, with less in the details;
* `Form.ofDocument_stripped` — **proved**: if a document describes a form, then the stripped one describes the form of
  the fields that have less.
-/

namespace FormCheck

open Fallible

/-! ### Documents -/

namespace Value

mutual

/-- A field's document without the entries under some keys, at the field and at all below it. -/
def stripped (drops : String → Bool) : Value → Value
  | .object entries => .object (strippedEntries drops entries)
  | v => v

/-- The entries of a field's document that are left. -/
def strippedEntries (drops : String → Bool) : List (String × Value) → List (String × Value)
  | [] => []
  | (key, v) :: rest =>
    if drops key then strippedEntries drops rest
    else if key = "properties" then (key, strippedChildren drops v) :: strippedEntries drops rest
    else if key = "items" then (key, stripped drops v) :: strippedEntries drops rest
    else (key, v) :: strippedEntries drops rest

/-- An object of named fields, each of them stripped. -/
def strippedChildren (drops : String → Bool) : Value → Value
  | .object entries => .object (strippedChildEntries drops entries)
  | v => v

/-- The named fields of an object, each of them stripped. -/
def strippedChildEntries (drops : String → Bool) : List (String × Value) → List (String × Value)
  | [] => []
  | (name, v) :: rest => (name, stripped drops v) :: strippedChildEntries drops rest

end

variable {drops : String → Bool}

/-- What is left of the value under a key that stays. -/
def strippedPart (drops : String → Bool) (key : String) (v : Value) : Value :=
  if key = "properties" then strippedChildren drops v else if key = "items" then stripped drops v else v

theorem strippedEntries_cons (e : String × Value) (entries : List (String × Value)) :
    strippedEntries drops (e :: entries) =
      if drops e.1 then strippedEntries drops entries
      else (e.1, strippedPart drops e.1 e.2) :: strippedEntries drops entries := by
  obtain ⟨key, v⟩ := e
  rw [strippedEntries, strippedPart]
  split
  · rfl
  · split
    · rfl
    · split <;> rfl

theorem strippedChildEntries_eq_map (entries : List (String × Value)) :
    strippedChildEntries drops entries = entries.map fun e => (e.1, e.2.stripped drops) := by
  induction entries with
  | nil => rfl
  | cons e entries ih => rw [strippedChildEntries, ih, List.map_cons]

/-- The entry under a key that stays is left where it is. -/
theorem entryOf?_stripped (entries : List (String × Value)) {key : String} (hkey : drops key = false) :
    entryOf? (strippedEntries drops entries) key = (entryOf? entries key).map (strippedPart drops key) := by
  induction entries with
  | nil => rfl
  | cons e entries ih =>
    rw [strippedEntries_cons, entryOf?_cons]
    by_cases hdrop : drops e.1 = true
    · have hne : e.1 ≠ key := fun h => by rw [h, hkey] at hdrop; cases hdrop
      rw [if_pos hdrop, if_neg hne, ih]
    · rw [if_neg hdrop, entryOf?_cons]
      by_cases he : e.1 = key
      · rw [if_pos he, if_pos he, he, Option.map_some]
      · rw [if_neg he, if_neg he, ih]

/-- There is no entry left under a dropped key. -/
theorem entryOf?_stripped_of_drops (entries : List (String × Value)) {key : String} (hkey : drops key = true) :
    entryOf? (strippedEntries drops entries) key = none := by
  induction entries with
  | nil => rfl
  | cons e entries ih =>
    rw [strippedEntries_cons]
    split
    · exact ih
    · next hdrop =>
      have hne : e.1 ≠ key := fun h => hdrop (h ▸ hkey)
      rw [entryOf?_cons, if_neg hne, ih]

/-- The entries for details that stay are left as they are. -/
theorem entryOf?_stripped_detail (entries : List (String × Value)) {key : String} (hkey : drops key = false)
    (hproperties : key ≠ "properties") (hitems : key ≠ "items") :
    entryOf? (strippedEntries drops entries) key = entryOf? entries key := by
  have hpart : strippedPart drops key = id := by
    funext v
    rw [strippedPart, if_neg hproperties, if_neg hitems]
    rfl
  rw [entryOf?_stripped entries hkey, hpart, Option.map_id_fun, id_eq]

theorem exists_of_mem_strippedEntries {entries : List (String × Value)} {e : String × Value}
    (h : e ∈ strippedEntries drops entries) : ∃ v, (e.1, v) ∈ entries ∧ e.2 = strippedPart drops e.1 v := by
  induction entries with
  | nil => cases h
  | cons d entries ih =>
    rw [strippedEntries_cons] at h
    split at h
    · obtain ⟨v, hv, he⟩ := ih h
      exact ⟨v, List.mem_cons_of_mem d hv, he⟩
    · rcases List.mem_cons.mp h with rfl | h
      · exact ⟨d.2, List.mem_cons_self, rfl⟩
      · obtain ⟨v, hv, he⟩ := ih h
        exact ⟨v, List.mem_cons_of_mem d hv, he⟩

end Value

/-! ### Flaws -/

namespace Flaw

/-- The flaws of an entry of a field's document. -/
def ofEntry (location : Location) (e : String × Value) : List Flaw :=
  if e.1 = "properties" then ofChildren (location ++ [e.1]) e.2
  else if e.1 = "items" then ofField (location ++ [e.1]) e.2
  else ofDetail (location ++ [e.1]) e.1 e.2

theorem ofEntries_eq_flatMap (location : Location) (entries : List (String × Value)) :
    ofEntries location entries = entries.flatMap (ofEntry location) := by
  induction entries with
  | nil => rfl
  | cons e entries ih =>
    rw [ofEntries, ih, List.flatMap_cons]
    rfl

theorem ofChildEntries_eq_flatMap (location : Location) (entries : List (String × Value)) :
    ofChildEntries location entries = entries.flatMap fun e => ofField (location ++ [e.1]) e.2 := by
  induction entries with
  | nil => rfl
  | cons e entries ih => rw [ofChildEntries, ih, List.flatMap_cons]

theorem hasEntry_eq_isSome {α : Type} (entries : List (String × α)) (key : String) :
    hasEntry entries key = (entryOf? entries key).isSome := by
  induction entries with
  | nil => rfl
  | cons e entries ih =>
    rw [entryOf?_cons]
    by_cases h : e.1 = key
    · simp [hasEntry, h]
    · rw [if_neg h, ← ih]
      simp [hasEntry, h]

/-- What has no flaws has none either without some entries, as long as the types stay. -/
theorem nil_of_stripped {drops : String → Bool} (htype : drops "type" = false) {v : Value} :
    (∀ location, ofField location v = [] → ofField location (v.stripped drops) = []) ∧
      ∀ location, ofChildren location v = [] → ofChildren location (v.strippedChildren drops) = [] := by
  induction v using Value.induction_parts with
  | plain v hlist hobject =>
    cases v <;> first | exact ⟨fun _ h => h, fun _ h => h⟩ | cases hobject
  | list items _ => exact ⟨fun _ h => h, fun _ h => h⟩
  | object entries ih =>
    constructor
    · intro location h
      rw [ofField, ofEntries_eq_flatMap, List.append_eq_nil_iff, List.flatMap_eq_nil_iff] at h
      rw [Value.stripped, ofField, ofEntries_eq_flatMap, List.append_eq_nil_iff, List.flatMap_eq_nil_iff]
      refine ⟨?_, fun e he => ?_⟩
      · rw [hasEntry_eq_isSome, Value.entryOf?_stripped_detail entries htype (by decide) (by decide),
          ← hasEntry_eq_isSome]
        exact h.1
      · obtain ⟨v, hv, hpart⟩ := Value.exists_of_mem_strippedEntries he
        have hflaw := h.2 _ hv
        rw [ofEntry] at hflaw ⊢
        rw [hpart, Value.strippedPart]
        split
        · next hkey =>
          rw [if_pos hkey] at hflaw
          exact (ih _ hv).2 _ hflaw
        · next hkey =>
          rw [if_neg hkey] at hflaw
          split
          · next hitems =>
            rw [if_pos hitems] at hflaw
            exact (ih _ hv).1 _ hflaw
          · next hitems =>
            rw [if_neg hitems] at hflaw
            exact hflaw
    · intro location h
      rw [ofChildren, ofChildEntries_eq_flatMap, List.flatMap_eq_nil_iff] at h
      rw [Value.strippedChildren, ofChildren, ofChildEntries_eq_flatMap, Value.strippedChildEntries_eq_map,
        List.flatMap_eq_nil_iff]
      intro e he
      obtain ⟨d, hd, rfl⟩ := List.mem_map.mp he
      exact (ih d hd).1 _ (h d hd)

end Flaw

/-! ### Declarations -/

/-- Where the keys are dropped, declarations are left with less in their details, and fields have less. -/
structure Strips (drops : String → Bool) (less : Details → Details) (bare : FieldInfo → FieldInfo) : Prop
    extends Lessens less bare where
  /-- A field keeps its type and all below it. -/
  keeps : ∀ key ∈ ["type", "multiple", "properties", "items"], drops key = false
  ofEntries : ∀ entries, Details.ofEntries (Value.strippedEntries drops entries) = less (.ofEntries entries)

variable {drops : String → Bool} {less : Details → Details} {bare : FieldInfo → FieldInfo} {registry : Registry}

namespace Declaration

theorem ofValue_stripped_parts (h : Strips drops less bare) {v : Value} :
    ofValue (v.stripped drops) = (ofValue v).mapDetails less ∧
      childrenOf (v.strippedChildren drops) = (childrenOf v).map (mapNamed less) := by
  -- What is no object declares nothing, and nothing can be dropped from that.
  have hempty : ofValue .null = (ofValue .null).mapDetails less :=
    congrArg (Declaration.mk "" false · none none) (h.ofEntries [])
  induction v using Value.induction_parts with
  | plain v hlist hobject =>
    cases v <;> first | exact ⟨hempty, rfl⟩ | cases hobject
  | list items _ => exact ⟨hempty, rfl⟩
  | object entries ih =>
    constructor
    · rw [mapDetails_ofValue_object, Value.stripped, ofValue_object, typeIn, isRepeatedIn, h.ofEntries,
        Value.entryOf?_stripped_detail entries (h.keeps "type" (by decide)) (by decide) (by decide),
        Value.entryOf?_stripped_detail entries (h.keeps "multiple" (by decide)) (by decide) (by decide),
        Value.entryOf?_stripped entries (h.keeps "properties" (by decide)),
        Value.entryOf?_stripped entries (h.keeps "items" (by decide)), Option.map_map, Option.map_map]
      congr 1
      · exact Option.map_congr fun v hv => (ih _ (mem_of_entryOf? hv)).2
      · exact Option.map_congr fun v hv => (ih _ (mem_of_entryOf? hv)).1
    · rw [Value.strippedChildren, childrenOf, childrenOf, childrenIn_eq_map, childrenIn_eq_map,
        Value.strippedChildEntries_eq_map, List.map_map, List.map_map]
      exact List.map_congr_left fun e he => congrArg (Prod.mk e.1) (ih e he).1

/-- **A stripped document declares what the document does, with less in the details.** -/
theorem ofValue_stripped (h : Strips drops less bare) (v : Value) :
    ofValue (v.stripped drops) = (ofValue v).mapDetails less :=
  (ofValue_stripped_parts h).1

end Declaration

/-! ### Forms -/

/-- **A stripped document describes the form of the fields that have less.** -/
theorem Form.ofDocument_stripped (h : Strips drops less bare) {document : Value} {form : Form}
    (hform : Form.ofDocument registry document = .ok form) :
    Form.ofDocument registry (document.stripped drops) = .ok ⟨form.root.mapInfo bare⟩ := by
  obtain ⟨draft, hobject, hflaws, htype, hrepeated, hdraft, hroot⟩ := Form.ofDocument_eq_ok_iff.mp hform
  have hstripped : (document.stripped drops).isObject = true := by
    cases document <;> first | rfl | cases hobject
  refine Form.ofDocument_eq_ok_iff.mpr ⟨draft.mapInfo bare, hstripped,
    (Flaw.nil_of_stripped (h.keeps "type" (by decide))).1 [] hflaws, ?_, ?_, ?_,
    Field.link_mapInfo h.toLessens hroot⟩
  · rw [Declaration.ofValue_stripped h, Declaration.type_mapDetails]
    exact htype
  · rw [Declaration.ofValue_stripped h, Declaration.isRepeated_mapDetails]
    exact hrepeated
  · rw [Declaration.ofValue_stripped h]
    exact Declaration.build_mapDetails h.toLessens hdraft

end FormCheck
