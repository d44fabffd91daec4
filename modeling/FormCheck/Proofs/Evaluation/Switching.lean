import FormCheck.Proofs.Evaluation.Reach
import Mathlib.Data.List.Infix

/-!
# Places that are switched off

A condition is asked at the place of its field and tells about all places below.  An evaluation hands the
answer down; here it is asked at the places themselves:

* `Comparison.valueAt` — the value that a comparison on the field at a place stands for;
* `Form.SwitchesOff` — the field that governs a place has a condition, and it does not hold there;
* `Form.isGated` — the form switches off the place, or one on the way to it;
* `Setting.isOff_eq_ok_iff` — **proved**: what an evaluation hands down tells whether some place on the way is
  switched off.
-/

namespace FormCheck

open Fallible

/-- The value that a comparison on the field at a place stands for: the one at its target, with the open
indices of the place.  Where this leads nowhere it is `absent`. -/
def Comparison.valueAt (data : Value) (place : Path) (comparison : Comparison) : Value :=
  match comparison.target.bind (·.fill place) with
  | some found => data.follow found
  | none => .absent

namespace Form

/-- The field that governs a place has a condition which does not hold there. -/
def SwitchesOff (form : Form) (data : Value) (place : Path) : Prop :=
  ∃ field condition, form.fieldAt? place = some field ∧ field.info.condition = some condition ∧
    condition.holds (Comparison.valueAt data place) = .ok false

/-- Whether the field that governs a place has a condition which does not hold there. -/
def isSwitchedOff (form : Form) (data : Value) (place : Path) : Bool :=
  match (form.fieldAt? place).bind (·.info.condition) with
  | none => false
  | some condition =>
    match condition.holds (Comparison.valueAt data place) with
    | .ok holds => !holds
    | .error _ => false

/-- Whether the place, or one on the way to it, is switched off. -/
def isGated (form : Form) (data : Value) (place : Path) : Bool :=
  place.inits.any (form.isSwitchedOff data)

theorem isSwitchedOff_iff {form : Form} {data : Value} {place : Path} :
    form.isSwitchedOff data place = true ↔ form.SwitchesOff data place := by
  rw [isSwitchedOff]
  constructor
  · intro h
    cases hfield : form.fieldAt? place with
    | none => rw [hfield] at h; cases h
    | some field =>
      rw [hfield, Option.bind_some] at h
      cases hcondition : field.info.condition with
      | none => rw [hcondition] at h; cases h
      | some condition =>
        rw [hcondition] at h
        refine ⟨field, condition, hfield, hcondition, ?_⟩
        cases hholds : condition.holds (Comparison.valueAt data place) with
        | error e => simp [hholds] at h
        | ok b => simpa [hholds] using h
  · rintro ⟨field, condition, hfield, hcondition, hholds⟩
    simp only [hfield, Option.bind_some, hcondition, hholds]
    rfl

theorem isGated_iff {form : Form} {data : Value} {place : Path} :
    form.isGated data place = true ↔ ∃ q, q <+: place ∧ form.SwitchesOff data q := by
  rw [isGated, List.any_eq_true]
  exact exists_congr fun q => and_congr (List.mem_inits q place) isSwitchedOff_iff

end Form

namespace Setting

variable (s : Setting)

theorem read_eq_valueAt (place : Path) : s.read place = Comparison.valueAt s.data place :=
  rfl

theorem takesPart_eq_ok_iff {place : Path} {condition : Option Condition} {b : Bool} :
    s.takesPart place condition = .ok b ↔ (condition = none ∧ b = true) ∨
      ∃ c, condition = some c ∧ c.holds (Comparison.valueAt s.data place) = .ok b := by
  cases condition with
  | none =>
    rw [takesPart, Except.ok.injEq]
    simp [eq_comm]
  | some c =>
    rw [takesPart, read_eq_valueAt]
    simp

/-- **What is handed down tells whether some place on the way is switched off.** -/
theorem isOff_eq_ok_iff {field : Field} {path rest : Path} {off : Bool}
    (h : s.isOff field path rest = .ok off) :
    off = true ↔ ∃ q, q <+: rest ∧ ∃ f, field.at? q = some f ∧
      s.takesPart (path ++ q) f.info.condition = .ok false := by
  induction rest generalizing field path with
  | nil =>
    obtain ⟨b, hb, rfl⟩ := map_eq_ok_iff.mp h
    simp [hb]
  | cons step rest ih =>
    obtain ⟨b, hb, h⟩ := bind_eq_ok_iff.mp h
    cases b with
    | false =>
      cases h
      refine iff_of_true rfl ⟨[], List.nil_prefix, field, rfl, ?_⟩
      rwa [List.append_nil]
    | true =>
      rw [if_pos rfl] at h
      have hhere : s.takesPart (path ++ []) field.info.condition ≠ .ok false := by
        rw [List.append_nil, hb]
        exact fun h => by cases h
      cases hstep : field.step? step with
      | none =>
        rw [hstep] at h
        cases h
        refine iff_of_false Bool.false_ne_true ?_
        rintro ⟨q, hq, f, hf, hoff⟩
        rcases List.prefix_cons_iff.mp hq with rfl | ⟨q, rfl, _⟩
        · cases hf
          exact hhere hoff
        · rw [Field.at?_cons, hstep] at hf
          cases hf
      | some next =>
        rw [hstep] at h
        rw [ih h]
        constructor
        · rintro ⟨q, hq, f, hf, hoff⟩
          refine ⟨step :: q, (List.prefix_cons_inj step).mpr hq, f, ?_, ?_⟩
          · rw [Field.at?_cons, hstep, Option.bind_some, hf]
          · rwa [List.append_cons]
        · rintro ⟨q, hq, f, hf, hoff⟩
          rcases List.prefix_cons_iff.mp hq with rfl | ⟨q, rfl, hrest⟩
          · cases hf
            exact absurd hoff hhere
          · rw [Field.at?_cons, hstep, Option.bind_some] at hf
            exact ⟨q, hrest, f, hf, by rwa [List.append_cons] at hoff⟩

/-- There is something to hand down if each condition on the way has an answer, as far as none before it has
switched the place off. -/
theorem exists_isOff {field : Field} {path rest : Path}
    (h : ∀ q, q <+: rest →
      (∀ r, r <+: q → r ≠ q → ∀ f, field.at? r = some f →
        s.takesPart (path ++ r) f.info.condition ≠ .ok false) →
      ∀ f, field.at? q = some f → ∃ b, s.takesPart (path ++ q) f.info.condition = .ok b) :
    ∃ off, s.isOff field path rest = .ok off := by
  have hhere : ∃ b, s.takesPart path field.info.condition = .ok b := by
    have := h [] List.nil_prefix (fun r hr hne => absurd (List.prefix_nil.mp hr) hne) field rfl
    rwa [List.append_nil] at this
  obtain ⟨b, hb⟩ := hhere
  induction rest generalizing field path b with
  | nil => exact ⟨!b, by rw [isOff, hb]; rfl⟩
  | cons step rest ih =>
    rw [isOff, hb, ok_bind]
    cases b with
    | false => exact ⟨true, rfl⟩
    | true =>
      rw [if_pos rfl]
      cases hstep : field.step? step with
      | none => exact ⟨false, rfl⟩
      | some next =>
        -- What holds below the next field holds below this one, which has not switched anything off.
        have hnext : ∀ q, q <+: rest →
            (∀ r, r <+: q → r ≠ q → ∀ f, next.at? r = some f →
              s.takesPart (path ++ [step] ++ r) f.info.condition ≠ .ok false) →
            ∀ f, next.at? q = some f → ∃ b, s.takesPart (path ++ [step] ++ q) f.info.condition = .ok b := by
          intro q hq hbefore f hf
          rw [List.append_assoc]
          refine h (step :: q) ((List.prefix_cons_inj step).mpr hq) ?_ f
            (by rw [Field.at?_cons, hstep, Option.bind_some, hf])
          intro r hr hne g hg
          rcases List.prefix_cons_iff.mp hr with rfl | ⟨r, rfl, hrest⟩
          · cases hg
            rw [List.append_nil, hb]
            exact fun h => by cases h
          · rw [Field.at?_cons, hstep, Option.bind_some] at hg
            have := hbefore r hrest (fun heq => hne (by rw [heq])) g hg
            rwa [List.append_assoc] at this
        obtain ⟨b, hb⟩ := hnext [] List.nil_prefix
          (fun r hr hne => absurd (List.prefix_nil.mp hr) hne) next rfl
        rw [List.append_nil] at hb
        exact ih hnext b hb

end Setting

/-! ### Asked at the root -/

namespace Form

variable {form : Form} {s : Setting}

/-- What is handed down from the root tells whether the place is gated. -/
theorem isOff_root {place : Path} {off : Bool} (h : s.isOff form.root [] place = .ok off) :
    off = form.isGated s.data place := by
  rw [Bool.eq_iff_iff, s.isOff_eq_ok_iff h, isGated_iff]
  refine exists_congr fun q => and_congr_right fun _ => ?_
  rw [SwitchesOff, fieldAt?_eq_at?]
  refine exists_congr fun f => ?_
  rw [List.nil_append, Setting.takesPart_eq_ok_iff]
  simp

/-- There is something to hand down to a visited place, if those conditions on the way have an answer which
none before them has switched off. -/
theorem exists_isOff_root (hplaced : form.root.Placed [])
    (h : ∀ p field c, form.Reaches s.data p →
      (∀ q, q <+: p → q ≠ p → ¬ form.SwitchesOff s.data q) → form.fieldAt? p = some field →
      field.info.condition = some c → ∃ b, c.holds (Comparison.valueAt s.data p) = .ok b)
    {v : Visit} (hv : v ∈ form.root.visits s.data) : ∃ off, s.isOff form.root [] v.path = .ok off := by
  have hreached : form.Reaches s.data v.path := (mem_visits_iff_reaches hplaced).mp ⟨v, hv, rfl⟩
  refine s.exists_isOff fun q hq hbefore field hfield => ?_
  rw [List.nil_append]
  rw [← fieldAt?_eq_at?] at hfield
  cases hcondition : field.info.condition with
  | none => exact ⟨true, rfl⟩
  | some c =>
    have hon : ∀ r, r <+: q → r ≠ q → ¬ form.SwitchesOff s.data r := by
      rintro r hr hne ⟨f, d, hf, hd, hoff⟩
      rw [fieldAt?_eq_at?] at hf
      exact hbefore r hr hne f hf (s.takesPart_eq_ok_iff.mpr (.inr ⟨d, hd, hoff⟩))
    obtain ⟨b, hb⟩ := h q field c (hreached.of_prefix hq) hon hfield hcondition
    exact ⟨b, s.takesPart_eq_ok_iff.mpr (.inr ⟨c, rfl, hb⟩)⟩

end Form

end FormCheck
