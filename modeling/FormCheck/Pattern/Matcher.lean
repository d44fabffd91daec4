import FormCheck.Fault
import FormCheck.Pattern.Search

/-!
# Matching patterns

* `Pattern.matchesWhole` — whether a pattern matches a text from end to end.
-/

namespace FormCheck.Pattern

/-- The pattern matches the text from end to end. A match in which a group ends before it starts is a
fault. -/
def matchesWhole (pattern : FormCheck.Pattern) (text : String) : Except Fault Bool :=
  let chars := text.toList.toArray
  let widths := pattern.groupWidths
  if chars.size < (widthOf widths pattern.body).1 then .ok false
  else
    let start : Task := ⟨stepsOf widths pattern.body, 0, [], true⟩
    let bare : Trail := ⟨0, Array.replicate (2 * widths.size) none, 0⟩
    match search chars moveLimit ⟨.go start, bare, []⟩ with
    | none => .ok false
    | some trail => if trail.isTurned widths.size then .error .turnedGroup else .ok true

end FormCheck.Pattern
