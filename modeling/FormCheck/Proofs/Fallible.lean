import Mathlib.Data.List.Forall2
import Mathlib.Data.List.Perm.Basic

/-!
# Computations that may end without a result

Building, linking and evaluating all run in `Except`.  This file says once what it means that such a
computation has a result, so that later proofs take a run apart into its steps:

* `bind_eq_ok_iff`, `map_eq_ok_iff`, `mapError_eq_ok_iff` — a composed computation has a result exactly
  when its parts have;
* `mapM_eq_ok_iff` — a computation over a list has a result exactly when it has one at each member, and
  the results stand in the order of the members;
* `mapM_congr`, `flatten_mapM` — equal computations at the members, and computations over parts;
* `bind_eq_error_iff`, `map_eq_error_iff`, `mapError_eq_error_iff`, `exists_of_mapM_eq_error`, `mapM_eq_error_iff` —
  where an error comes from.
-/

namespace FormCheck.Fallible

variable {ε δ α β : Type}

@[simp] theorem pure_eq_ok (a : α) : (pure a : Except ε α) = .ok a := rfl

@[simp] theorem ok_bind (a : α) (f : α → Except ε β) : (Except.ok a >>= f) = f a := rfl

@[simp] theorem error_bind (e : ε) (f : α → Except ε β) : (Except.error e >>= f) = .error e := rfl

/-- A sequence of two steps has a result exactly when the first one has, and the second one after it. -/
theorem bind_eq_ok_iff {x : Except ε α} {f : α → Except ε β} {b : β} :
    (x >>= f) = .ok b ↔ ∃ a, x = .ok a ∧ f a = .ok b := by
  cases x with
  | error e => simp
  | ok a => simp

theorem map_eq_ok_iff {x : Except ε α} {f : α → β} {b : β} :
    x.map f = .ok b ↔ ∃ a, x = .ok a ∧ f a = b := by
  cases x with
  | error e => simp [Except.map]
  | ok a => simp [Except.map]

theorem mapError_eq_ok_iff {x : Except ε α} {f : ε → δ} {a : α} :
    x.mapError f = .ok a ↔ x = .ok a := by
  cases x with
  | error e => simp [Except.mapError]
  | ok b => simp [Except.mapError]

/-- Two ways to go on agree if they do after each result. -/
theorem bind_congr_of_ok {x : Except ε α} {f g : α → Except ε β} (h : ∀ a, x = .ok a → f a = g a) :
    (x >>= f) = (x >>= g) := by
  cases x with
  | error e => rfl
  | ok a => exact h a rfl

/-- Where each step goes over into another one, so does the sequence of the two steps. -/
theorem map_bind_eq {γ ζ : Type} {x : Except ε α} {f : α → Except ε β} {g : γ → Except ε ζ} {a : α → γ} {b : β → ζ}
    (h : ∀ y, g (a y) = (f y).map b) : (x.map a >>= g) = (x >>= f).map b := by
  cases x with
  | error e => rfl
  | ok y => exact h y

theorem eq_ok_of_toOption {x : Except ε α} {a : α} (h : x.toOption = some a) : x = .ok a := by
  cases x <;> cases h
  rfl

/-- What can be told of a result tells that there is one. -/
theorem exists_eq_ok_of_bind {x : Except ε α} {f : α → Option β} {b : β}
    (h : x.toOption.bind f = some b) : ∃ a, x = .ok a ∧ f a = some b := by
  cases x with
  | error e => cases h
  | ok a => exact ⟨a, rfl, h⟩

/-! ### Computations over lists -/

theorem mapM_congr {m : Type → Type} [Monad m] [LawfulMonad m] {f g : α → m β} {xs : List α}
    (h : ∀ x ∈ xs, f x = g x) : xs.mapM f = xs.mapM g := by
  induction xs with
  | nil => rfl
  | cons x xs ih =>
    rw [List.mapM_cons, List.mapM_cons, h x List.mem_cons_self,
      ih fun y hy => h y (List.mem_cons_of_mem x hy)]

/-- A computation over a list has a result exactly when it has one at each member; the results stand in
the order of the members. -/
theorem mapM_eq_ok_iff {f : α → Except ε β} {xs : List α} {ys : List β} :
    xs.mapM f = .ok ys ↔ List.Forall₂ (fun x y => f x = .ok y) xs ys := by
  induction xs generalizing ys with
  | nil =>
    rw [List.mapM_nil, List.forall₂_nil_left_iff, pure_eq_ok, Except.ok.injEq]
    exact eq_comm
  | cons x xs ih =>
    rw [List.mapM_cons, bind_eq_ok_iff, List.forall₂_cons_left_iff]
    constructor
    · rintro ⟨y, hy, hrest⟩
      obtain ⟨zs, hzs, hout⟩ := bind_eq_ok_iff.mp hrest
      rw [pure_eq_ok, Except.ok.injEq] at hout
      exact ⟨y, zs, hy, ih.mp hzs, hout.symm⟩
    · rintro ⟨y, zs, hy, hzs, rfl⟩
      exact ⟨y, hy, bind_eq_ok_iff.mpr ⟨zs, ih.mpr hzs, rfl⟩⟩

/-- A computation that has a result at each member of a list has one over the list. -/
theorem exists_mapM_eq_ok {f : α → Except ε β} {xs : List α} (h : ∀ x ∈ xs, ∃ y, f x = .ok y) :
    ∃ ys, xs.mapM f = .ok ys := by
  induction xs with
  | nil => exact ⟨[], rfl⟩
  | cons x xs ih =>
    obtain ⟨y, hy⟩ := h x List.mem_cons_self
    obtain ⟨ys, hys⟩ := ih fun z hz => h z (List.mem_cons_of_mem x hz)
    exact ⟨y :: ys, by rw [List.mapM_cons, hy, hys]; rfl⟩

/-- Results that each stand in a relation to a member of another list. -/
theorem exists_mapM_of_forall₂ {γ : Type} {f : α → Except ε β} {R : γ → β → Prop} {xs : List α} {zs : List γ}
    (h : List.Forall₂ (fun x z => ∃ y, f x = .ok y ∧ R z y) xs zs) :
    ∃ ys, xs.mapM f = .ok ys ∧ List.Forall₂ R zs ys := by
  induction h with
  | nil => exact ⟨[], rfl, .nil⟩
  | cons hxz _ ih =>
    obtain ⟨y, hy, hR⟩ := hxz
    obtain ⟨ys, hys, hall⟩ := ih
    exact ⟨y :: ys, by rw [List.mapM_cons, hy, hys]; rfl, .cons hR hall⟩

/-- The results over two lists stand in a relation where those at matching members do. -/
theorem forall₂_of_mapM {γ δ ζ : Type} {f : α → Except ε β} {g : γ → Except δ ζ} {R : α → γ → Prop}
    {S : β → ζ → Prop} {xs : List α} {zs : List γ} {ys : List β} {ws : List ζ} (h : List.Forall₂ R xs zs)
    (hf : xs.mapM f = .ok ys) (hg : zs.mapM g = .ok ws)
    (hstep : ∀ x z y w, R x z → f x = .ok y → g z = .ok w → S y w) : List.Forall₂ S ys ws := by
  induction h generalizing ys ws with
  | nil =>
    cases hf
    cases hg
    exact .nil
  | cons hxz _ ih =>
    rw [mapM_eq_ok_iff, List.forall₂_cons_left_iff] at hf hg
    obtain ⟨y, ys, hy, hys, rfl⟩ := hf
    obtain ⟨w, ws, hw, hws, rfl⟩ := hg
    exact .cons (hstep _ _ _ _ hxz hy hw) (ih (mapM_eq_ok_iff.mpr hys) (mapM_eq_ok_iff.mpr hws))

/-- Over a list in another order the results stand in this order. -/
theorem exists_mapM_of_perm {f : α → Except ε β} {xs zs : List α} {ys : List β} (h : xs.mapM f = .ok ys)
    (hperm : xs.Perm zs) : ∃ ws, zs.mapM f = .ok ws ∧ ys.Perm ws := by
  obtain ⟨ws, hws, hsame⟩ := List.perm_comp_forall₂ hperm.symm (mapM_eq_ok_iff.mp h)
  exact ⟨ws, mapM_eq_ok_iff.mpr hws, hsame.symm⟩

/-- Each member of the results comes from a member of the list. -/
theorem exists_of_mem_mapM {f : α → Except ε β} {xs : List α} {ys : List β} (h : xs.mapM f = .ok ys)
    {y : β} (hy : y ∈ ys) : ∃ x ∈ xs, f x = .ok y := by
  have hall := mapM_eq_ok_iff.mp h
  clear h
  induction hall with
  | nil => cases hy
  | @cons x z xs zs hxz _ ih =>
    rcases List.mem_cons.mp hy with rfl | hy
    · exact ⟨x, List.mem_cons_self, hxz⟩
    · obtain ⟨w, hw, hfw⟩ := ih hy
      exact ⟨w, List.mem_cons_of_mem x hw, hfw⟩

/-- Each member of the list has its result among the results. -/
theorem exists_mem_of_mapM {f : α → Except ε β} {xs : List α} {ys : List β} (h : xs.mapM f = .ok ys)
    {x : α} (hx : x ∈ xs) : ∃ y ∈ ys, f x = .ok y := by
  have hall := mapM_eq_ok_iff.mp h
  clear h
  induction hall with
  | nil => cases hx
  | @cons z y xs ys hzy _ ih =>
    rcases List.mem_cons.mp hx with rfl | hx
    · exact ⟨y, List.mem_cons_self, hzy⟩
    · obtain ⟨w, hw, hfw⟩ := ih hx
      exact ⟨w, List.mem_cons_of_mem y hw, hfw⟩

/-- What is found among the results is the result for what is found among the arguments, if a step keeps what is
looked for. -/
theorem exists_find?_of_mapM {f : α → Except ε β} {xs : List α} {ys : List β} (h : xs.mapM f = .ok ys)
    {p : α → Bool} {q : β → Bool} (hpq : ∀ x y, f x = .ok y → q y = p x) {y : β} (hy : ys.find? q = some y) :
    ∃ x, xs.find? p = some x ∧ f x = .ok y := by
  have hall := mapM_eq_ok_iff.mp h
  clear h
  induction hall with
  | nil => cases hy
  | @cons a b _ _ hab _ ih =>
    rw [List.find?_cons, hpq a b hab] at hy
    rw [List.find?_cons]
    cases hp : p a with
    | true =>
      rw [hp] at hy
      cases hy
      exact ⟨a, rfl, hab⟩
    | false =>
      rw [hp] at hy
      exact ih hy

/-- What a function tells of the results, when it can be told of the members before. -/
theorem map_eq_of_mapM {γ : Type} {f : α → Except ε β} {xs : List α} {ys : List β} {g : β → γ} {k : α → γ}
    (h : xs.mapM f = .ok ys) (hk : ∀ x y, f x = .ok y → g y = k x) : ys.map g = xs.map k := by
  have hall := mapM_eq_ok_iff.mp h
  clear h
  induction hall with
  | nil => rfl
  | cons hxy _ ih => rw [List.map_cons, List.map_cons, hk _ _ hxy, ih]

/-- Where one computation has a result at a member, another one has the matching result at the image of the
member: so it is over the list. -/
theorem mapM_map_eq_ok {γ ζ : Type} {f : α → Except ε β} {g : γ → Except δ ζ} {a : α → γ} {b : β → ζ}
    {xs : List α} {ys : List β} (h : xs.mapM f = .ok ys)
    (hstep : ∀ x ∈ xs, ∀ y, f x = .ok y → g (a x) = .ok (b y)) : (xs.map a).mapM g = .ok (ys.map b) := by
  induction xs generalizing ys with
  | nil =>
    cases h
    rfl
  | cons x xs ih =>
    rw [List.mapM_cons] at h
    obtain ⟨y, hy, h⟩ := bind_eq_ok_iff.mp h
    obtain ⟨zs, hzs, h⟩ := bind_eq_ok_iff.mp h
    cases h
    rw [List.forall_mem_cons] at hstep
    rw [List.map_cons, List.mapM_cons, hstep.1 y hy, ih hzs hstep.2]
    rfl

/-- Where one computation has a result at a member, another one has the same: so it is over the list. -/
theorem mapM_eq_ok_of_forall {f g : α → Except ε β} {xs : List α} {ys : List β} (h : xs.mapM f = .ok ys)
    (hstep : ∀ x ∈ xs, ∀ y, f x = .ok y → g x = .ok y) : xs.mapM g = .ok ys := by
  have hsame := mapM_map_eq_ok (a := id) (b := id) h hstep
  rwa [List.map_id, List.map_id] at hsame

/-- A computation that has a known result at the image of each member of a list. -/
theorem mapM_map_of_forall {γ : Type} {f : γ → Except ε β} {a : α → γ} {b : α → β} {xs : List α}
    (h : ∀ x ∈ xs, f (a x) = .ok (b x)) : (xs.map a).mapM f = .ok (xs.map b) := by
  rw [mapM_eq_ok_iff, List.forall₂_map_left_iff, List.forall₂_map_right_iff, List.forall₂_same]
  exact h

/-- A computation over some members of a list has their results, if a step keeps what they are chosen by. -/
theorem mapM_filter_eq_ok {f : α → Except ε β} {xs : List α} {ys : List β} {p : α → Bool} {q : β → Bool}
    (h : xs.mapM f = .ok ys) (hpq : ∀ x y, f x = .ok y → q y = p x) : (xs.filter p).mapM f = .ok (ys.filter q) := by
  rw [mapM_eq_ok_iff] at h ⊢
  induction h with
  | nil => exact .nil
  | @cons x y xs ys hxy _ ih =>
    have hkept := hpq x y hxy
    cases hp : p x with
    | true =>
      rw [List.filter_cons_of_pos hp, List.filter_cons_of_pos (hkept.trans hp)]
      exact .cons hxy ih
    | false =>
      rw [List.filter_cons_of_neg (ne_true_of_eq_false hp),
        List.filter_cons_of_neg (ne_true_of_eq_false (hkept.trans hp))]
      exact ih

/-- What is made of each result can be made of it right away. -/
theorem map_mapM {γ : Type} (f : α → Except ε β) (g : β → γ) (xs : List α) :
    (xs.mapM f).map (List.map g) = xs.mapM fun x => (f x).map g := by
  induction xs with
  | nil => rfl
  | cons x xs ih =>
    rw [List.mapM_cons, List.mapM_cons, ← ih]
    cases f x with
    | error e => rfl
    | ok y => cases xs.mapM f <;> rfl

/-- A computation over the parts of a list, one part after the other, is the computation over the whole. -/
theorem flatten_mapM (f : α → Except ε β) (parts : List (List α)) :
    (parts.mapM (List.mapM f)).map List.flatten = parts.flatten.mapM f := by
  induction parts with
  | nil => rfl
  | cons part parts ih =>
    rw [List.mapM_cons, List.flatten_cons, List.mapM_append, ← ih]
    cases part.mapM f with
    | error e => rfl
    | ok ys => cases parts.mapM (List.mapM f) <;> rfl

/-! ### Where an error comes from -/

/-- A sequence of two steps ends in an error exactly when the first one does, or the second one after it. -/
theorem bind_eq_error_iff {x : Except ε α} {f : α → Except ε β} {e : ε} :
    (x >>= f) = .error e ↔ x = .error e ∨ ∃ a, x = .ok a ∧ f a = .error e := by
  cases x with
  | error e => simp
  | ok a => simp

theorem map_eq_error_iff {x : Except ε α} {f : α → β} {e : ε} : x.map f = .error e ↔ x = .error e := by
  cases x with
  | error e => simp [Except.map]
  | ok a => simp [Except.map]

theorem mapError_eq_error_iff {x : Except ε α} {f : ε → δ} {d : δ} :
    x.mapError f = .error d ↔ ∃ e, x = .error e ∧ f e = d := by
  cases x with
  | error e => simp [Except.mapError]
  | ok a => simp [Except.mapError]

/-- An error of a computation over a list is one at a member. -/
theorem exists_of_mapM_eq_error {f : α → Except ε β} {xs : List α} {e : ε} (h : xs.mapM f = .error e) :
    ∃ x ∈ xs, f x = .error e := by
  induction xs with
  | nil => cases h
  | cons x xs ih =>
    rw [List.mapM_cons, bind_eq_error_iff] at h
    rcases h with hx | ⟨y, _, h⟩
    · exact ⟨x, List.mem_cons_self, hx⟩
    · rcases bind_eq_error_iff.mp h with hxs | ⟨_, _, h⟩
      · obtain ⟨z, hz, hfz⟩ := ih hxs
        exact ⟨z, List.mem_cons_of_mem x hz, hfz⟩
      · cases h

/-- The error of a computation over a list is that at the first member where there is one. -/
theorem mapM_eq_error_iff {f : α → Except ε β} {xs : List α} {e : ε} :
    xs.mapM f = .error e ↔
      ∃ before x after, xs = before ++ x :: after ∧ (∀ b ∈ before, ∃ y, f b = .ok y) ∧ f x = .error e := by
  constructor
  · intro h
    induction xs with
    | nil => cases h
    | cons x xs ih =>
      rw [List.mapM_cons, bind_eq_error_iff] at h
      rcases h with hx | ⟨y, hy, h⟩
      · exact ⟨[], x, xs, rfl, List.forall_mem_nil _, hx⟩
      · rcases bind_eq_error_iff.mp h with hxs | ⟨_, _, h⟩
        · obtain ⟨before, z, after, rfl, hbefore, hz⟩ := ih hxs
          exact ⟨x :: before, z, after, rfl, List.forall_mem_cons.mpr ⟨⟨y, hy⟩, hbefore⟩, hz⟩
        · cases h
  · rintro ⟨before, x, after, rfl, hbefore, hx⟩
    obtain ⟨ys, hys⟩ := exists_mapM_eq_ok hbefore
    rw [List.mapM_append, hys, List.mapM_cons, hx]
    rfl

theorem exists_of_anyM_eq_error {f : α → Except ε Bool} {xs : List α} {e : ε} (h : xs.anyM f = .error e) :
    ∃ x ∈ xs, f x = .error e := by
  induction xs with
  | nil => cases h
  | cons x xs ih =>
    rw [List.anyM] at h
    rcases bind_eq_error_iff.mp h with hx | ⟨b, _, h⟩
    · exact ⟨x, List.mem_cons_self, hx⟩
    · cases b with
      | true => cases h
      | false =>
        obtain ⟨y, hy, hfy⟩ := ih h
        exact ⟨y, List.mem_cons_of_mem x hy, hfy⟩

theorem exists_of_allM_eq_error {f : α → Except ε Bool} {xs : List α} {e : ε} (h : xs.allM f = .error e) :
    ∃ x ∈ xs, f x = .error e := by
  induction xs with
  | nil => cases h
  | cons x xs ih =>
    rw [List.allM] at h
    rcases bind_eq_error_iff.mp h with hx | ⟨b, _, h⟩
    · exact ⟨x, List.mem_cons_self, hx⟩
    · cases b with
      | false => cases h
      | true =>
        obtain ⟨y, hy, hfy⟩ := ih h
        exact ⟨y, List.mem_cons_of_mem x hy, hfy⟩

/-! ### One error under a condition -/

/-- A computation ends with one error, exactly under a condition, and with no other error. -/
def FailsIff (x : Except ε α) (e : ε) (P : Prop) : Prop :=
  ∀ e', x = .error e' ↔ P ∧ e' = e

namespace FailsIff

variable {x : Except ε α} {e : ε} {P Q : Prop}

theorem ok (a : α) : FailsIff (.ok a) e False :=
  fun e' => by simp

theorem congr (h : FailsIff x e P) (hPQ : P ↔ Q) : FailsIff x e Q := by
  intro e'
  rw [h e', hPQ]

theorem exists_ok (h : FailsIff x e P) (hP : ¬ P) : ∃ a, x = .ok a := by
  cases hx : x with
  | ok a => exact ⟨a, rfl⟩
  | error e' => exact absurd ((h e').mp hx).1 hP

theorem not_of_ok (h : FailsIff x e P) {a : α} (hx : x = .ok a) : ¬ P := by
  intro hP
  rw [(h e).mpr ⟨hP, rfl⟩] at hx
  cases hx

theorem map (h : FailsIff x e P) (f : α → β) : FailsIff (x.map f) e P := by
  intro e'
  rw [map_eq_error_iff, h e']

/-- The second step may fail whatever the first one has returned. -/
theorem bind {f : α → Except ε β} (h : FailsIff x e P) (hf : ∀ a, x = .ok a → FailsIff (f a) e Q) :
    FailsIff (x >>= f) e (P ∨ Q) := by
  intro e'
  cases hx : x with
  | ok a =>
    rw [ok_bind, hf a hx e', or_iff_right (h.not_of_ok hx)]
  | error e'' =>
    obtain ⟨hP, rfl⟩ := (h e'').mp hx
    rw [error_bind, Except.error.injEq, eq_comm, iff_true_intro hP, true_or, true_and]

theorem bind_ok {f : α → Except ε β} {g : α → β} (h : FailsIff x e P) (hf : ∀ a, f a = .ok (g a)) :
    FailsIff (x >>= f) e P :=
  (h.bind fun a _ => (hf a).symm ▸ ok (g a)).congr (or_iff_left id)

theorem mapM {f : α → Except ε β} {P : α → Prop} {xs : List α} (h : ∀ a ∈ xs, FailsIff (f a) e (P a)) :
    FailsIff (xs.mapM f) e (∃ a ∈ xs, P a) := by
  induction xs with
  | nil => exact (ok []).congr (by simp)
  | cons a xs ih =>
    rw [List.mapM_cons]
    have hrest := ih fun b hb => h b (List.mem_cons_of_mem a hb)
    refine ((h a List.mem_cons_self).bind fun b _ => hrest.bind_ok fun bs => rfl).congr ?_
    rw [List.exists_mem_cons_iff]

end FailsIff

end FormCheck.Fallible
