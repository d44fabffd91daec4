import FormCheck.Rule.Basic

/-!
# Registries

* `Registry` — a table of rules by name;
* `Registry.get?`, `Registry.insert`, `Registry.erase` — looking a rule up, adding or replacing it, and taking
  it out, with what each does to later look-ups;
* `Registry.evaluate` — what the rule of a name finds about a value.
-/

namespace FormCheck

/-- A table of rules by name. -/
structure Registry where
  rules : List Rule

namespace Registry

/-- The registry without rules. -/
def empty : Registry := ⟨[]⟩

/-- The rule of a name. -/
def get? (registry : Registry) (name : String) : Option Rule :=
  registry.rules.find? (·.name == name)

/-- Whether there is a rule of a name. -/
def contains (registry : Registry) (name : String) : Bool :=
  (registry.get? name).isSome

/-- The registry with a rule added; it takes the place of an older one of its name. -/
def insert (registry : Registry) (rule : Rule) : Registry :=
  if registry.contains rule.name then
    ⟨registry.rules.map fun r => if r.name == rule.name then rule else r⟩
  else ⟨registry.rules ++ [rule]⟩

/-- The registry without the rule of a name. -/
def erase (registry : Registry) (name : String) : Registry :=
  ⟨registry.rules.filter (·.name != name)⟩

/-- The registry of several rules, a later one taking the place of an earlier one of its name. -/
def ofList (rules : List Rule) : Registry :=
  rules.foldl insert empty

/-- The number of rules. -/
def size (registry : Registry) : Nat :=
  registry.rules.length

/-- The names of the rules in ascending order. -/
def names (registry : Registry) : List String :=
  Text.sortNames (registry.rules.map (·.name))

/-- What the rule of a name finds about a value. -/
def evaluate (registry : Registry) (name : String) (v : Value) (argument : Argument)
    (context : Context) : Except Fault Verdict :=
  match registry.get? name with
  | some rule => rule.evaluate v argument context
  | none => .error (.unknownRule name)

/-! ### What the operations do to look-ups -/

@[simp] theorem get?_empty (name : String) : empty.get? name = none := rfl

theorem name_of_get? {registry : Registry} {name : String} {rule : Rule}
    (h : registry.get? name = some rule) : rule.name = name := by
  have := List.find?_some h
  simpa using this

/-- An added rule is found under its name, and every other one under its own. -/
theorem get?_insert (registry : Registry) (rule : Rule) (name : String) :
    (registry.insert rule).get? name = if rule.name = name then some rule else registry.get? name := by
  by_cases hcontains : registry.contains rule.name = true
  · have hname : ((·.name == name) ∘ fun r => if r.name == rule.name then rule else r)
        = fun r : Rule => r.name == name := by
      funext r
      by_cases hr : r.name = rule.name <;> simp [hr]
    rw [insert, if_pos hcontains, get?, List.find?_map, hname]
    show (registry.get? name).map _ = _
    by_cases hrule : rule.name = name
    · obtain ⟨old, hold⟩ := Option.isSome_iff_exists.mp hcontains
      rw [if_pos hrule, ← hrule, hold, Option.map_some, name_of_get? hold, beq_self_eq_true, if_pos rfl]
    · rw [if_neg hrule]
      cases hold : registry.get? name with
      | none => rfl
      | some old =>
        have hne : ¬ old.name = rule.name := fun h => hrule (h.symm.trans (name_of_get? hold))
        rw [Option.map_some, beq_eq_false_iff_ne.mpr hne, if_neg Bool.false_ne_true]
  · rw [insert, if_neg hcontains, get?, List.find?_append]
    show (registry.get? name).or _ = _
    by_cases hrule : rule.name = name
    · have hnone : registry.get? name = none := by
        rw [← hrule, ← Option.not_isSome_iff_eq_none]
        exact hcontains
      simp [hnone, hrule]
    · simp [hrule]

theorem get?_erase_self (registry : Registry) (name : String) :
    (registry.erase name).get? name = none := by
  simp [get?, erase]

theorem get?_erase_of_ne (registry : Registry) {name other : String} (h : other ≠ name) :
    (registry.erase name).get? other = registry.get? other := by
  simp only [get?, erase]
  induction registry.rules with
  | nil => rfl
  | cons r rest ih =>
    by_cases hr : r.name = name
    · have : ¬ r.name = other := fun e => h (e.symm.trans hr)
      simp_all
    · by_cases ho : r.name = other <;> simp_all

end Registry

end FormCheck
