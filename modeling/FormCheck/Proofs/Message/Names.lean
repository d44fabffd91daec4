import FormCheck.Proofs.Value.LongNumbers
import FormCheck.Result.Wording

/-!
# The names that a message may use

The texts of all names are written before the template is filled.  So there is no message about a failure where one of
the values behind the names is not written.

* `Finding.HasLongNumber` — the value of a failure, the argument of its rule or one of its parameters is not written;
* `Finding.names_fails` — **proved**: for such failures, and for no others, there are no names;
* `Wording.message_fails`, `Wording.errorOf_fails` — **proved**: for such failures, and for no others, there is no
  message.
-/

namespace FormCheck

open Fallible Message

theorem Value.shown_of_plain {v : Value} (hlist : v.isList = false) (hobject : v.isObject = false) :
    v.shown = v.toText := by
  cases v with
  | list items => cases hlist
  | object entries => cases hobject
  | _ => rfl

/-- **The values that no message shows** are those without a text. -/
theorem Value.shown_fails (v : Value) : FailsIff v.shown .longNumber v.HasLongNumber := by
  cases v with
  | list items =>
    have hitems := FailsIff.mapM fun v (_ : v ∈ items) => v.toText_fails
    exact (hitems.bind_ok fun _ => rfl).congr hasLongNumber_list_iff.symm
  | object entries =>
    have hentries : FailsIff (entries.mapM fun e => do return e.1 ++ "=" ++ (← e.2.toText)) .longNumber
        (∃ e ∈ entries, e.2.HasLongNumber) :=
      FailsIff.mapM fun e _ => e.2.toText_fails.bind_ok fun _ => rfl
    exact (hentries.bind_ok fun _ => rfl).congr hasLongNumber_object_iff.symm
  | _ =>
    rw [shown_of_plain rfl rfl]
    exact toText_fails _

theorem namesOf_fails (entries : List (String × Value)) :
    FailsIff (namesOf entries) .longNumber (∃ e ∈ entries, e.2.HasLongNumber) :=
  FailsIff.mapM fun e _ => e.2.shown_fails.bind_ok fun _ => rfl

theorem Value.hasLongNumber_of_mem_entriesOf {v : Value} {e : String × Value} (he : e ∈ v.entriesOf)
    (h : e.2.HasLongNumber) : v.HasLongNumber := by
  cases v with
  | object entries => exact .entry he h
  | _ => cases he

namespace Finding

/-- The value of a failure, the argument of its rule or one of its parameters holds a whole number of too many
digits. -/
def HasLongNumber (finding : Finding) : Prop :=
  finding.value.HasLongNumber ∨ finding.declared.HasLongNumber ∨ ∃ e ∈ finding.params, e.2.HasLongNumber

instance (finding : Finding) : Decidable finding.HasLongNumber :=
  inferInstanceAs (Decidable (_ ∨ _ ∨ _))

/-- **There are no names for the message about a failure** exactly if one of its values is not written. -/
theorem names_fails (finding : Finding) (label : String) :
    FailsIff (finding.names label) .longNumber finding.HasLongNumber := by
  rw [names]
  refine FailsIff.congr ((namesOf_fails finding.declared.entriesOf).bind fun entries _ =>
    (namesOf_fails finding.params).bind fun params _ => finding.value.shown_fails.bind fun value _ =>
      finding.declared.shown_fails.bind_ok fun param => rfl) ⟨?_, ?_⟩
  · rintro (⟨e, he, hlong⟩ | hparams | hvalue | hdeclared)
    · exact .inr (.inl (Value.hasLongNumber_of_mem_entriesOf he hlong))
    · exact .inr (.inr hparams)
    · exact .inl hvalue
    · exact .inr (.inl hdeclared)
  · rintro (hvalue | hdeclared | hparams)
    · exact .inr (.inr (.inl hvalue))
    · exact .inr (.inr (.inr hdeclared))
    · exact .inr (.inl hparams)

end Finding

namespace Wording

variable (w : Wording) (language : String) (info : FieldInfo) (finding : Finding)

/-- **There is no message about a failure** exactly if one of its values is not written. -/
theorem message_fails : FailsIff (w.message finding info language).1 .longNumber finding.HasLongNumber :=
  (finding.names_fails _).map _

theorem errorOf_fails : FailsIff (w.errorOf language info finding).1 .longNumber finding.HasLongNumber :=
  (w.message_fails language info finding).map _

end Wording

end FormCheck
