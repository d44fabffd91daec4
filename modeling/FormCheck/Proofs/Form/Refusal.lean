import FormCheck.Proofs.Form.Linking
import Mathlib.Algebra.Group.Int.Defs

/-!
# A document describes a form or is refused

Whatever is wrong with a document is told as an error of the specification, with two exceptions: the argument of
a rule may be such that its preparation breaks off, and a value of a wrong sort may be such that it cannot be shown.

* `Declaration.fault_of_build` — **proved**: building ends with a fault only where the preparation of a declared
  argument does;
* `Form.accepts_or_refuses` — **proved**: a document describes a form or is refused with an error, unless it
  declares an argument that cannot be prepared, or has a flaw that cannot be worded;
* `Form.not_every_document_is_accepted_or_refused` — **proved**: there are documents that do.
-/

namespace FormCheck

open Fallible

variable {registry : Registry}

/-! ### Building -/

namespace Details

theorem prepare_fault_of_buildRule {kind : Kind} {place : Path} {name : String} {declared : Value} {f : Fault}
    (h : buildRule registry kind place name declared = .error (.fault f)) :
    ∃ definition, registry.get? name = some definition ∧ definition.prepare declared = .error (.fault f) := by
  rw [buildRule] at h
  split at h
  · cases h
  · next definition hdefinition =>
    split at h
    · cases h
    · rcases bind_eq_error_iff.mp h with hprepare | ⟨_, _, h⟩
      · obtain ⟨failure, hfailure, hsame⟩ := mapError_eq_error_iff.mp hprepare
        cases failure with
        | refused e => cases hsame
        | fault g => cases hsame; exact ⟨definition, hdefinition, hfailure⟩
      · cases h

theorem buildCondition_ne_fault (place : Path) (declared : Option Value) (f : Fault) :
    buildCondition place declared ≠ .error (.fault f) := by
  intro h
  rw [buildCondition.eq_def] at h
  split at h
  · cases h
  · obtain ⟨e, _, hsame⟩ := mapError_eq_error_iff.mp (map_eq_error_iff.mp h)
    cases hsame

/-- The details of a field end with a fault only at the preparation of one of their arguments. -/
theorem fault_of_build {kind : Kind} {name : String} {place : Path} {details : Details} {f : Fault}
    (h : details.build registry kind name place = .error (.fault f)) :
    ∃ r ∈ details.rules, ∃ definition, registry.get? r.1 = some definition ∧
      definition.prepare r.2 = .error (.fault f) := by
  rcases bind_eq_error_iff.mp h with hrules | ⟨rules, _, h⟩
  · obtain ⟨r, hr, hbuild⟩ := exists_of_mapM_eq_error hrules
    exact ⟨r, hr, prepare_fault_of_buildRule hbuild⟩
  · rcases bind_eq_error_iff.mp h with hcondition | ⟨_, _, h⟩
    · exact absurd hcondition (buildCondition_ne_fault _ _ _)
    · cases h

end Details

/-- **Building ends with a fault only where the preparation of a declared argument does.** -/
theorem Declaration.fault_of_build {declaration : Declaration} {name : String} {place : Path} {f : Fault}
    (h : declaration.build registry name place = .error (.fault f)) :
    ∃ rule argument, declaration.Declares rule argument ∧ ∃ definition,
      registry.get? rule = some definition ∧ definition.prepare argument = .error (.fault f) := by
  induction declaration using Declaration.induction_parts generalizing name place with
  | mk type repeated details children item ihChildren ihItem =>
    have hown : ∀ {kind : Kind} {at' : Path}, details.build registry kind name at' = .error (.fault f) →
        ∃ rule argument, (Declaration.mk type repeated details children item).Declares rule argument ∧
          ∃ definition, registry.get? rule = some definition ∧
            definition.prepare argument = .error (.fault f) := by
      intro kind at' h
      obtain ⟨r, hr, hprepare⟩ := Details.fault_of_build h
      exact ⟨r.1, r.2, .own hr, hprepare⟩
    rw [build.eq_def] at h
    dsimp only at h
    split at h
    · cases h
    · split at h
      · cases h
      · cases h
      · cases h
      · next cs =>
        rcases bind_eq_error_iff.mp h with hfields | ⟨fields, _, h⟩
        · rw [buildAll_eq_mapM] at hfields
          obtain ⟨c, hc, hbuild⟩ := exists_of_mapM_eq_error hfields
          obtain ⟨rule, argument, hdeclares, hprepare⟩ := ihChildren cs rfl c hc hbuild
          exact ⟨rule, argument, .child hc hdeclares, hprepare⟩
        · rw [closeGroup] at h
          split at h
          · rcases bind_eq_error_iff.mp h with helements | ⟨info, _, h⟩
            -- The elements of a repeated group declare no rules of their own.
            · obtain ⟨r, hr, _⟩ := Details.fault_of_build helements
              cases hr
            · rcases bind_eq_error_iff.mp h with hinfo | ⟨_, _, h⟩
              · exact hown hinfo
              · cases h
          · rcases bind_eq_error_iff.mp h with hinfo | ⟨_, _, h⟩
            · exact hown hinfo
            · cases h
    · split at h
      · cases h
      · cases h
      · next d =>
        rcases bind_eq_error_iff.mp h with hitem | ⟨field, _, h⟩
        · obtain ⟨rule, argument, hdeclares, hprepare⟩ := ihItem d rfl hitem
          exact ⟨rule, argument, .item hdeclares, hprepare⟩
        · rcases bind_eq_error_iff.mp h with hinfo | ⟨_, _, h⟩
          · exact hown hinfo
          · cases h
    · split at h
      · rcases bind_eq_error_iff.mp h with hinfo | ⟨_, _, h⟩
        · exact hown hinfo
        · cases h
      · cases h

/-! ### Documents -/

namespace Form

/-- A document ends with a fault only at an argument that the preparation of its rule cannot handle, or at a flaw that
cannot be worded. -/
theorem cause_of_fault {document : Value} {f : Fault} (hkeys : document.keysOnce = true)
    (h : ofDocument Registry.standard document = .error (.fault f)) :
    (∃ rule argument, (Declaration.ofValue document).Declares rule argument ∧
      Rule.Unpreparable rule argument f) ∨
    f = .longNumber ∧ ∃ flaw ∈ Flaw.all document, flaw.problem.HasLongNumber := by
  rcases bind_eq_error_iff.mp h with hread | ⟨declaration, hread, h⟩
  · rcases readDocument_eq_error_iff.mp hread with ⟨_, he⟩ | ⟨_, hlong, he⟩ | ⟨_, _, _, _, he⟩
    · cases he
    · cases he
      exact .inr ⟨rfl, hlong⟩
    · cases he
  refine .inl ?_
  obtain ⟨_, _, rfl⟩ := readDocument_eq_ok_iff.mp hread
  split at h
  · cases h
  · rcases bind_eq_error_iff.mp h with hbuild | ⟨draft, hdraft, h⟩
    · obtain ⟨rule, argument, hdeclares, definition, hdefinition, hprepare⟩ :=
        Declaration.fault_of_build hbuild
      have hcause := Rule.unpreparable_of_standard (Registry.mem_of_standard hdefinition) hprepare
      rw [Registry.name_of_get? hdefinition] at hcause
      exact ⟨rule, argument, hdeclares, hcause⟩
    · have hplaced := (Declaration.build_placed (Declaration.namesOnce_ofValue hkeys) hdraft).2
      have hdeclared := fun g => Declaration.isDeclared_of_build (f := g) hdraft
      rcases bind_eq_error_iff.mp h with hlink | ⟨_, _, h⟩
      · exact absurd hlink (Field.link_ne_fault hplaced hdeclared)
      · cases h

/-- **A document describes a form or is refused with an error of the specification**, unless it declares a rule
with an argument that can neither be prepared nor be refused, or a value that is of a wrong sort cannot be written. -/
theorem accepts_or_refuses {document : Value} (hkeys : document.keysOnce = true) :
    (∃ form, ofDocument Registry.standard document = .ok form) ∨
      (∃ e, ofDocument Registry.standard document = .error (.refused e)) ∨
      ∃ f, ofDocument Registry.standard document = .error (.fault f) ∧
        ((∃ rule argument, (Declaration.ofValue document).Declares rule argument ∧
          Rule.Unpreparable rule argument f) ∨
        f = .longNumber ∧ ∃ flaw ∈ Flaw.all document, flaw.problem.HasLongNumber) := by
  cases h : ofDocument Registry.standard document with
  | ok form => exact .inl ⟨form, rfl⟩
  | error failure =>
    cases failure with
    | refused e => exact .inr (.inl ⟨e, rfl⟩)
    | fault f => exact .inr (.inr ⟨f, rfl, cause_of_fault hkeys h⟩)

/-- The fault that a construction ends with, if it does. -/
def faultOf? {α : Type} : Building α → Option Fault
  | .error (.fault f) => some f
  | _ => none

theorem eq_fault_of_faultOf {α : Type} {x : Building α} {f : Fault} (h : faultOf? x = some f) :
    x = .error (.fault f) := by
  rw [faultOf?.eq_def] at h
  split at h <;> cases h
  rfl

/-- A form with one field, which declares one rule. -/
def oneRule (type rule : String) (argument : Value) : Value :=
  .object [("type", .text "group"), ("properties", .object [
    ("f", .object [("type", .text type), ("rules", .object [(rule, argument)])])])]

theorem oneRule_accept :
    ofDocument Registry.standard (oneRule "file" "accept" (.list [.int 1])) = .error (.fault .missingPart) :=
  eq_fault_of_faultOf (by decide +kernel)

/-- A list of accepted files with a number in it: the construction breaks off, and the argument of the rule is
the cause. -/
theorem accepts_or_refuses_of_accept : ∃ rule argument,
    (Declaration.ofValue (oneRule "file" "accept" (.list [.int 1]))).Declares rule argument ∧
      Rule.Unpreparable rule argument .missingPart := by
  have hkeys : (oneRule "file" "accept" (.list [.int 1])).keysOnce = true := by decide +kernel
  rcases accepts_or_refuses hkeys with ⟨form, hform⟩ | ⟨e, hrefused⟩ | ⟨f, hfault, hcause⟩
  · rw [oneRule_accept] at hform
    cases hform
  · rw [oneRule_accept] at hrefused
    cases hrefused
  · rw [oneRule_accept] at hfault
    cases hfault
    rcases hcause with hcause | ⟨hlong, _⟩
    · exact hcause
    · cases hlong

/-- **Not every document is accepted or refused.**  A member that is no text, a number beyond the binary ones
and too many repetitions break the construction off. -/
theorem not_every_document_is_accepted_or_refused :
    ofDocument Registry.standard (oneRule "file" "accept" (.list [.int 1])) = .error (.fault .missingPart) ∧
    ofDocument Registry.standard (oneRule "number" "min" (.int (10 ^ 400))) = .error (.fault .overflow) ∧
    ofDocument Registry.standard (oneRule "text" "pattern" (.text "a\x7b99999999999\x7d"))
      = .error (.fault .overflow) ∧
    ¬ ∀ document : Value, document.keysOnce = true →
      (∃ form, ofDocument Registry.standard document = .ok form) ∨
        ∃ e, ofDocument Registry.standard document = .error (.refused e) := by
  refine ⟨oneRule_accept, eq_fault_of_faultOf (by decide +kernel), eq_fault_of_faultOf (by decide +kernel), ?_⟩
  intro hall
  rcases hall (oneRule "file" "accept" (.list [.int 1])) (by decide +kernel) with ⟨form, hform⟩ | ⟨e, he⟩
  · rw [oneRule_accept] at hform
    cases hform
  · rw [oneRule_accept] at he
    cases he

end Form

end FormCheck
