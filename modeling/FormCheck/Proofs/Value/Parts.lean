import FormCheck.Path.Binding
import Mathlib.Tactic.Common

/-!
# Members and entries

* `Value.induction_parts` — induction over values, with the hypothesis for every member and every entry;
* `entryOf?_append`, `entryOf?_middle`, `entryOf?_eq_some_of_mem` — which entry is found under a key;
* `Value.keysOnce` — no object in a value has two entries under one key;
* `Value.sizeOf_lt_of_mem_entriesOf` — what an object holds is smaller than the object.
-/

namespace FormCheck

/-! ### Tables -/

theorem entryOf?_cons {α : Type} (e : String × α) (entries : List (String × α)) (key : String) :
    entryOf? (e :: entries) key = if e.1 = key then some e.2 else entryOf? entries key := by
  by_cases h : e.1 = key
  · simp [entryOf?, h]
  · simp [entryOf?, h]

theorem mem_of_entryOf? {α : Type} {entries : List (String × α)} {key : String} {v : α}
    (h : entryOf? entries key = some v) : (key, v) ∈ entries := by
  induction entries with
  | nil => cases h
  | cons e entries ih =>
    rw [entryOf?_cons] at h
    by_cases he : e.1 = key
    · rw [if_pos he, Option.some.injEq] at h
      rw [← he, ← h]
      exact List.mem_cons_self
    · rw [if_neg he] at h
      exact List.mem_cons_of_mem e (ih h)

theorem entryOf?_append {α : Type} (xs ys : List (String × α)) (key : String) :
    entryOf? (xs ++ ys) key = (entryOf? xs key).or (entryOf? ys key) := by
  rw [entryOf?, List.find?_append, entryOf?, entryOf?]
  cases xs.find? (·.1 == key) <;> rfl

theorem entryOf?_eq_none {α : Type} {xs : List (String × α)} {key : String} (h : ∀ e ∈ xs, e.1 ≠ key) :
    entryOf? xs key = none := by
  rw [entryOf?, Option.map_eq_none_iff, List.find?_eq_none]
  exact fun e he => by simpa using h e he

/-- The entry under a key, where there is none before. -/
theorem entryOf?_middle {α : Type} {before after : List (String × α)} {key : String} {a : α}
    (h : ∀ e ∈ before, e.1 ≠ key) : entryOf? (before ++ (key, a) :: after) key = some a := by
  rw [entryOf?_append, entryOf?_eq_none h, Option.none_or]
  simp [entryOf?]

/-- An entry under another key does not matter. -/
theorem entryOf?_middle_of_ne {α : Type} {before after : List (String × α)} {name key : String} {a : α}
    (h : name ≠ key) : entryOf? (before ++ (name, a) :: after) key = entryOf? (before ++ after) key := by
  rw [entryOf?_append, entryOf?_append]
  congr 1
  simp [entryOf?, h]

/-- With every key there once, each entry is the one that is found. -/
theorem entryOf?_eq_some_of_mem {α : Type} {entries : List (String × α)} (h : (entries.map (·.1)).Nodup)
    {e : String × α} (he : e ∈ entries) : entryOf? entries e.1 = some e.2 := by
  obtain ⟨before, after, rfl⟩ := List.append_of_mem he
  rw [List.map_append, List.nodup_append] at h
  exact entryOf?_middle fun d hd => h.2.2 d.1 (List.mem_map_of_mem hd) e.1 List.mem_cons_self

namespace Value

/-- Induction over values: a list by its members, an object by the values of its entries; nothing lies
inside any other value. -/
@[elab_as_elim]
theorem induction_parts {motive : Value → Prop}
    (plain : ∀ v : Value, v.isList = false → v.isObject = false → motive v)
    (list : ∀ items, (∀ v ∈ items, motive v) → motive (.list items))
    (object : ∀ entries, (∀ e ∈ entries, motive e.2) → motive (.object entries)) (v : Value) :
    motive v := by
  refine @Value.rec motive (fun items => ∀ v ∈ items, motive v) (fun entries => ∀ e ∈ entries, motive e.2)
    (fun e => motive e.2) (plain _ rfl rfl) (plain _ rfl rfl) (fun b => plain _ rfl rfl)
    (fun n => plain _ rfl rfl) (fun x => plain _ rfl rfl) (fun s => plain _ rfl rfl) list object
    (fun v hv => by cases hv) (fun head tail ihHead ihTail v hv => ?_)
    (fun e he => by cases he) (fun head tail ihHead ihTail e he => ?_) (fun _ _ ih => ih) v
  · rcases List.mem_cons.mp hv with rfl | hv
    · exact ihHead
    · exact ihTail v hv
  · rcases List.mem_cons.mp he with rfl | he
    · exact ihHead
    · exact ihTail e he

/-! ### Keys -/

mutual

/-- No object in a value has two entries under one key. -/
def keysOnce : Value → Bool
  | .list items => keysOnceAll items
  | .object entries => decide (entries.map (·.1)).Nodup && keysOnceIn entries
  | _ => true

/-- The same of the members of a list. -/
def keysOnceAll : List Value → Bool
  | [] => true
  | v :: rest => v.keysOnce && keysOnceAll rest

/-- The same of the values of an object. -/
def keysOnceIn : List (String × Value) → Bool
  | [] => true
  | (_, v) :: rest => v.keysOnce && keysOnceIn rest

end

theorem keysOnceIn_iff {entries : List (String × Value)} :
    keysOnceIn entries = true ↔ ∀ e ∈ entries, e.2.keysOnce = true := by
  induction entries with
  | nil => simp [keysOnceIn]
  | cons e entries ih =>
    obtain ⟨key, v⟩ := e
    simp [keysOnceIn, ih]

theorem keysOnce_object_iff {entries : List (String × Value)} :
    (Value.object entries).keysOnce = true ↔
      (entries.map (·.1)).Nodup ∧ ∀ e ∈ entries, e.2.keysOnce = true := by
  rw [keysOnce, Bool.and_eq_true, decide_eq_true_iff, keysOnceIn_iff]

theorem keysOnce_list_iff {items : List Value} :
    (Value.list items).keysOnce = true ↔ ∀ v ∈ items, v.keysOnce = true := by
  rw [keysOnce]
  induction items with
  | nil => simp [keysOnceAll]
  | cons v items ih => rw [keysOnceAll, Bool.and_eq_true, ih, List.forall_mem_cons]

/-- One step further no object has two entries under one key either. -/
theorem keysOnce_of_step? {v w : Value} {s : Segment} (hkeys : v.keysOnce = true) (h : v.step? s = some w) :
    w.keysOnce = true := by
  cases s with
  | name n =>
    cases v with
    | object entries => exact (keysOnce_object_iff.mp hkeys).2 _ (mem_of_entryOf? h)
    | _ => cases h
  | index k =>
    cases v with
    | list items =>
      rw [step?] at h
      split_ifs at h
      exact keysOnce_list_iff.mp hkeys w (List.mem_of_getElem? h)
    | _ => cases h
  | each => cases v <;> cases h

/-! ### Entries -/

/-- What an object holds is smaller than the object. -/
theorem sizeOf_lt_of_mem_entriesOf {v : Value} {entry : String × Value} (h : entry ∈ v.entriesOf) :
    sizeOf entry.2 < sizeOf v := by
  obtain ⟨key, w⟩ := entry
  cases v with
  | object entries =>
    have hmem : sizeOf (key, w) < sizeOf entries := List.sizeOf_lt_of_mem h
    simp only [Value.object.sizeOf_spec, Prod.mk.sizeOf_spec] at hmem ⊢
    omega
  | _ => cases h

end Value

end FormCheck
