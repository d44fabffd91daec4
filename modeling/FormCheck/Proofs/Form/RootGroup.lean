import FormCheck.Proofs.Form.Linking

/-!
# Documents that are refused for their root

The root of a form is a group.  A document with another root is refused, and this says that no other document is refused
for that reason: what is built and linked below a group spares the root.

* `RefusesOnly` — a construction that is refused only with errors of some kind;
* `SparesRoot` — a construction that is not refused for the root of a document;
* `BlamesField` — one that is refused at a place, and not for the root: what a field has is built and linked so
  (`Details.blamesField_build`, `FieldInfo.blamesField_link`);
* `Declaration.sparesRoot_build`, `Field.sparesRoot_link` — **proved**: building and linking are such;
* `Form.ofDocument_eq_rootNoGroup_iff` — **proved**: a document is refused for its root exactly when it has no flaws and
  declares something else than a group, or a repeated one.
-/

namespace FormCheck

open Fallible

/-! ### Reasons for refusing -/

/-- A construction that is refused, if at all, with an error of some kind. -/
def RefusesOnly {α : Type} (P : SpecError → Prop) (x : Building α) : Prop :=
  ∀ e, x = .error (.refused e) → P e

namespace RefusesOnly

variable {α β : Type} {P : SpecError → Prop}

theorem mono {Q : SpecError → Prop} {x : Building α} (hx : RefusesOnly P x) (h : ∀ e, P e → Q e) :
    RefusesOnly Q x :=
  fun e he => h e (hx e he)

theorem ok (a : α) : RefusesOnly P (.ok a) := by
  intro e he
  cases he

theorem refuse {place : Path} {problem : SpecProblem} (h : P ⟨place, problem⟩) :
    RefusesOnly P (Building.refuse place problem : Building α) := by
  intro e he
  cases he
  exact h

theorem bind {x : Building α} {f : α → Building β} (hx : RefusesOnly P x) (hf : ∀ a, RefusesOnly P (f a)) :
    RefusesOnly P (x >>= f) := by
  intro e he
  rcases bind_eq_error_iff.mp he with hfirst | ⟨a, _, hsecond⟩
  · exact hx e hfirst
  · exact hf a e hsecond

theorem mapM {f : α → Building β} {xs : List α} (h : ∀ x ∈ xs, RefusesOnly P (f x)) :
    RefusesOnly P (xs.mapM f) := by
  intro e he
  obtain ⟨x, hx, hfx⟩ := exists_of_mapM_eq_error he
  exact h x hx e hfx

/-- A failure that is restated as another problem. -/
theorem restate {ε : Type} {x : Except (Failure ε) α} {f : ε → SpecError} (h : ∀ e, P (f e)) :
    RefusesOnly P (x.mapError (Failure.restate f)) := by
  intro e he
  obtain ⟨failure, _, hsame⟩ := mapError_eq_error_iff.mp he
  cases failure with
  | refused reason =>
    cases hsame
    exact h reason
  | fault g => cases hsame

theorem fault (x : Except Fault α) : RefusesOnly P (x.mapError Failure.fault) := by
  intro e he
  obtain ⟨_, _, hsame⟩ := mapError_eq_error_iff.mp he
  cases hsame

end RefusesOnly

/-- The problem is that the root of a document is no group. -/
def SpecProblem.blamesRoot : SpecProblem → Bool
  | .rootNoGroup => true
  | _ => false

theorem SpecError.eq_of_blamesRoot {e : SpecError} (h : e.problem.blamesRoot = true) : e = ⟨e.place, .rootNoGroup⟩ := by
  obtain ⟨place, problem⟩ := e
  cases problem with
  | rootNoGroup => rfl
  | _ => cases h

/-- A construction that is not refused for the root of a document. -/
def SparesRoot {α : Type} (x : Building α) : Prop :=
  ∀ e, x = .error (.refused e) → e.problem.blamesRoot = false

/-- A construction of what a field has: it is refused, if at all, at the place of the field, and not for the root of a
document. -/
def BlamesField {α : Type} (place : Path) (x : Building α) : Prop :=
  RefusesOnly (fun e => e.place = place ∧ e.problem.blamesRoot = false) x

namespace BlamesField

variable {α : Type} {place : Path} {x : Building α}

theorem sparesRoot (h : BlamesField place x) : SparesRoot x :=
  RefusesOnly.mono h fun _ he => he.2

theorem refusesAt (h : BlamesField place x) : RefusesOnly (·.place = place) x :=
  RefusesOnly.mono h fun _ he => he.1

end BlamesField

variable {registry : Registry}

/-! ### Building -/

namespace Details

theorem blamesField_buildRule (kind : Kind) (place : Path) (name : String) (declared : Value) :
    BlamesField place (buildRule registry kind place name declared) := by
  rw [buildRule]
  split
  · exact RefusesOnly.refuse ⟨rfl, rfl⟩
  · split
    · exact RefusesOnly.refuse ⟨rfl, rfl⟩
    · exact RefusesOnly.bind (.restate fun _ => ⟨rfl, rfl⟩) fun _ => .ok _

theorem blamesField_buildCondition (place : Path) (declared : Option Value) :
    BlamesField place (buildCondition place declared) := by
  intro e he
  rw [buildCondition.eq_def] at he
  split at he
  · cases he
  · obtain ⟨_, _, hsame⟩ := mapError_eq_error_iff.mp (map_eq_error_iff.mp he)
    cases hsame
    exact ⟨rfl, rfl⟩

/-- What a field has is refused at its place. -/
theorem blamesField_build (kind : Kind) (name : String) (place : Path) (details : Details) :
    BlamesField place (details.build registry kind name place) := by
  refine RefusesOnly.bind (.mapM fun r _ => blamesField_buildRule kind place r.1 r.2) fun _ => ?_
  exact RefusesOnly.bind (blamesField_buildCondition place details.condition) fun _ => .ok _

theorem sparesRoot_build (kind : Kind) (name : String) (place : Path) (details : Details) :
    SparesRoot (details.build registry kind name place) :=
  (blamesField_build kind name place details).sparesRoot

end Details

namespace Declaration

theorem sparesRoot_closeGroup (name : String) (place : Path) (repeated : Bool) (details : Details)
    (children : List Field) : SparesRoot (closeGroup registry name place repeated details children) := by
  rw [closeGroup]
  split
  · refine RefusesOnly.bind (Details.sparesRoot_build _ _ _ _) fun _ => ?_
    exact RefusesOnly.bind (Details.sparesRoot_build _ _ _ _) fun _ => .ok _
  · exact RefusesOnly.bind (Details.sparesRoot_build _ _ _ _) fun _ => .ok _

/-- No declaration is refused for the root, wherever it stands. -/
theorem sparesRoot_build (declaration : Declaration) (name : String) (place : Path) :
    SparesRoot (declaration.build registry name place) := by
  induction declaration using induction_parts generalizing name place with
  | mk type repeated details children item ihChildren ihItem =>
    rw [build.eq_def]
    dsimp only
    split
    · exact RefusesOnly.refuse rfl
    · split
      · exact RefusesOnly.refuse rfl
      · exact RefusesOnly.refuse rfl
      · exact RefusesOnly.refuse rfl
      · next cs =>
        rw [buildAll_eq_mapM]
        exact RefusesOnly.bind (.mapM fun c hc => ihChildren cs rfl c hc _ _) fun _ => sparesRoot_closeGroup _ _ _ _ _
    · split
      · exact RefusesOnly.refuse rfl
      · exact RefusesOnly.refuse rfl
      · next d =>
        refine RefusesOnly.bind (ihItem d rfl _ _) fun _ => ?_
        exact RefusesOnly.bind (Details.sparesRoot_build _ _ _ _) fun _ => .ok _
    · split
      · exact RefusesOnly.bind (Details.sparesRoot_build _ _ _ _) fun _ => .ok _
      · exact RefusesOnly.refuse rfl

end Declaration

/-! ### Linking -/

theorem DeclaredRule.blamesField_link (rule : DeclaredRule) (root : Field) (place : Path) :
    BlamesField place (rule.link registry root place) := by
  rw [link]
  split
  · exact RefusesOnly.refuse ⟨rfl, rfl⟩
  · refine RefusesOnly.bind (.fault _) fun _ => .bind (.mapM fun _ _ => ?_) fun _ => .ok _
    exact RefusesOnly.restate fun _ => ⟨rfl, rfl⟩

/-- What a field has is linked or refused at its place. -/
theorem FieldInfo.blamesField_link (info : FieldInfo) (root : Field) :
    BlamesField info.place (info.link registry root) := by
  refine RefusesOnly.bind ?_ fun _ =>
    .bind (.mapM fun rule _ => rule.blamesField_link root info.place) fun _ => .ok _
  intro e he
  cases hcondition : info.condition with
  | none =>
    rw [hcondition] at he
    cases he
  | some condition =>
    rw [hcondition] at he
    obtain ⟨expression, hplace⟩ := Condition.exists_of_resolve_error (map_eq_error_iff.mp he)
    have hblames : BlamesField info.place ((root.conditionPlace info.place expression).mapError
        (referenceFailure info.place expression)) := RefusesOnly.restate fun _ => ⟨rfl, rfl⟩
    exact hblames e hplace

theorem Field.sparesRoot_link (root field : Field) : SparesRoot (Field.link registry root field) := by
  intro e he
  obtain ⟨g, _, hlink⟩ := exists_of_link_error he
  exact (g.info.blamesField_link root).sparesRoot e hlink

/-! ### Documents -/

namespace Form

theorem sparesRoot_readDocument (document : Value) : SparesRoot (readDocument document) := by
  intro e he
  rcases readDocument_eq_error_iff.mp he with ⟨_, he⟩ | ⟨_, _, he⟩ | ⟨_, _, flaw, _, he⟩
  · cases he
    rfl
  · cases he
  · cases he
    rfl

/-- **A document is refused for its root exactly when its root is no group**: it has no flaws, and it declares something
else than a group, or a group that is repeated. -/
theorem ofDocument_eq_rootNoGroup_iff {document : Value} {place : Path} :
    ofDocument registry document = .error (.refused ⟨place, .rootNoGroup⟩) ↔ place = [] ∧ Flaw.all document = [] ∧
      ((Declaration.ofValue document).type ≠ Kind.group.key ∨ (Declaration.ofValue document).isRepeated = true) := by
  constructor
  · intro h
    rcases bind_eq_error_iff.mp h with hread | ⟨declaration, hread, h⟩
    · cases sparesRoot_readDocument document _ hread
    · obtain ⟨_, hflaws, rfl⟩ := readDocument_eq_ok_iff.mp hread
      split at h
      · next hroot =>
        cases h
        rw [Bool.or_eq_true, bne_iff_ne] at hroot
        exact ⟨rfl, hflaws, hroot⟩
      · have hspares : SparesRoot ((Declaration.ofValue document).build registry "" [] >>= fun draft =>
            (Field.link registry draft draft >>= fun root => .ok (⟨root⟩ : Form))) :=
          RefusesOnly.bind (Declaration.sparesRoot_build _ _ _) fun draft =>
            .bind (Field.sparesRoot_link draft draft) fun _ => .ok _
        cases hspares _ h
  · intro h
    obtain ⟨rfl, hflaws, hroot⟩ := h
    rw [ofDocument, readDocument_of_flawless hflaws, ok_bind, if_pos]
    · rfl
    · rw [Bool.or_eq_true, bne_iff_ne]
      exact hroot

end Form

end FormCheck
