import FormCheck.Proofs.Fallible
import FormCheck.Proofs.Number.Written
import FormCheck.Proofs.Value.Parts

/-!
# Values without a text

A whole number of too many digits is not written, and no value that holds one is.  Everything else has a text.

* `Value.HasLongNumber` — a value is such a number or holds one, however deep;
* `Value.literal_fails`, `Value.toText_fails` — **proved**: these values, and no others, are not written.
-/

namespace FormCheck.Value

open Fallible Number

/-- A whole number of more digits than are written, or a value that holds one. -/
inductive HasLongNumber : Value → Prop where
  | here {n : Int} : 10 ^ readLimit ≤ n.natAbs → HasLongNumber (.int n)
  | member {items : List Value} {v : Value} : v ∈ items → v.HasLongNumber → HasLongNumber (.list items)
  | entry {entries : List (String × Value)} {e : String × Value} : e ∈ entries → e.2.HasLongNumber →
      HasLongNumber (.object entries)

theorem hasLongNumber_int_iff {n : Int} : (Value.int n).HasLongNumber ↔ 10 ^ readLimit ≤ n.natAbs :=
  ⟨fun h => by cases h; assumption, .here⟩

theorem hasLongNumber_list_iff {items : List Value} :
    (Value.list items).HasLongNumber ↔ ∃ v ∈ items, v.HasLongNumber :=
  ⟨fun h => by cases h with | member hv h => exact ⟨_, hv, h⟩, fun ⟨_, hv, h⟩ => .member hv h⟩

theorem hasLongNumber_object_iff {entries : List (String × Value)} :
    (Value.object entries).HasLongNumber ↔ ∃ e ∈ entries, e.2.HasLongNumber :=
  ⟨fun h => by cases h with | entry he h => exact ⟨_, he, h⟩, fun ⟨_, he, h⟩ => .entry he h⟩

@[simp] theorem not_hasLongNumber_text (s : String) : ¬ (Value.text s).HasLongNumber := by
  rintro ⟨⟩

@[simp] theorem not_hasLongNumber_number (x : Binary64) : ¬ (Value.number x).HasLongNumber := by
  rintro ⟨⟩

/-! ### Members and entries -/

theorem joinLiterals_fails {items : List Value}
    (h : ∀ v ∈ items, FailsIff v.literal .longNumber v.HasLongNumber) :
    FailsIff (joinLiterals items) .longNumber (∃ v ∈ items, v.HasLongNumber) := by
  induction items with
  | nil => exact (FailsIff.ok _).congr (by simp)
  | cons v rest ih =>
    have hfirst := h v List.mem_cons_self
    have hrest := ih fun w hw => h w (List.mem_cons_of_mem v hw)
    rw [List.exists_mem_cons_iff]
    cases rest with
    | nil =>
      rw [joinLiterals]
      exact hfirst.congr (by simp)
    | cons w rest =>
      rw [joinLiterals]
      · exact hfirst.bind fun _ _ => hrest.bind_ok fun _ => rfl
      · exact List.cons_ne_nil w rest

theorem joinEntryLiterals_fails {entries : List (String × Value)}
    (h : ∀ e ∈ entries, FailsIff e.2.literal .longNumber e.2.HasLongNumber) :
    FailsIff (joinEntryLiterals entries) .longNumber (∃ e ∈ entries, e.2.HasLongNumber) := by
  induction entries with
  | nil => exact (FailsIff.ok _).congr (by simp)
  | cons e rest ih =>
    obtain ⟨key, v⟩ := e
    have hfirst := h (key, v) List.mem_cons_self
    have hrest := ih fun d hd => h d (List.mem_cons_of_mem (key, v) hd)
    rw [List.exists_mem_cons_iff]
    cases rest with
    | nil =>
      rw [joinEntryLiterals]
      exact (hfirst.bind_ok fun _ => rfl).congr (by simp)
    | cons d rest =>
      rw [joinEntryLiterals]
      · exact hfirst.bind fun _ _ => hrest.bind_ok fun _ => rfl
      · exact List.cons_ne_nil d rest

/-! ### Values -/

theorem intText_fails (n : Int) : FailsIff (intText n) .longNumber (Value.int n).HasLongNumber := by
  intro f
  rw [intText_eq_error_iff, hasLongNumber_int_iff]

/-- **The values that are not shown** are those that hold a whole number of too many digits. -/
theorem literal_fails (v : Value) : FailsIff v.literal .longNumber v.HasLongNumber := by
  induction v using induction_parts with
  | plain v hlist hobject =>
    have hother : ∀ {w : Value} {s : String}, (∀ n, w ≠ .int n) → w.isList = false → w.isObject = false →
        FailsIff (.ok s : Except Fault String) .longNumber w.HasLongNumber := by
      intro w s hint hlist hobject
      refine (FailsIff.ok s).congr ⟨False.elim, ?_⟩
      rintro (_ | _ | _)
      · exact hint _ rfl
      · cases hlist
      · cases hobject
    cases v with
    | int n => exact intText_fails n
    | list items => cases hlist
    | object entries => cases hobject
    | bool b => cases b <;> exact hother (by simp) rfl rfl
    | _ => exact hother (by simp) rfl rfl
  | list items ih =>
    rw [literal]
    exact ((joinLiterals_fails ih).bind_ok fun _ => rfl).congr hasLongNumber_list_iff.symm
  | object entries ih =>
    rw [literal]
    exact ((joinEntryLiterals_fails ih).bind_ok fun _ => rfl).congr hasLongNumber_object_iff.symm

/-- **The values without a text** are those that hold a whole number of too many digits. -/
theorem toText_fails (v : Value) : FailsIff v.toText .longNumber v.HasLongNumber := by
  have hplain : ∀ {s : String}, ¬ v.HasLongNumber →
      FailsIff (.ok s : Except Fault String) .longNumber v.HasLongNumber :=
    fun h => (FailsIff.ok _).congr (iff_of_false id h)
  cases v with
  | int n => exact intText_fails n
  | number x => exact fun f => iff_of_false (x.toText_ne_error f) fun h => not_hasLongNumber_number x h.1
  | list items => exact literal_fails (.list items)
  | object entries => exact literal_fails (.object entries)
  | bool b => cases b <;> exact hplain (by rintro ⟨⟩)
  | _ => exact hplain (by rintro ⟨⟩)

instance (v : Value) : Decidable v.HasLongNumber :=
  decidable_of_iff (v.literal.toOption.isNone = true) <| by
    rw [← and_iff_left (a := v.HasLongNumber) rfl, ← v.literal_fails .longNumber]
    cases hliteral : v.literal with
    | ok s => simp [Except.toOption]
    | error f =>
      obtain ⟨_, rfl⟩ := (v.literal_fails f).mp hliteral
      simp [Except.toOption]

end FormCheck.Value
