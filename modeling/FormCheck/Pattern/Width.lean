import FormCheck.Pattern.Syntax

/-!
# The width of a pattern

* `Pattern.widthOf` — the least and the greatest number of characters that parts can match, both capped;
* `Pattern.checkLookbehinds` — parts that look behind have to have a single width;
* `Pattern.looksTooFar` — some part looks behind by more than `longestLook` characters.
-/

namespace FormCheck.Pattern

/-- A number of repetitions, or a greatest width, from here on counts as unlimited. -/
def unlimited : Nat := 0xffffffff

/-- The caps on the two ends of a width: the least width stays below what counts as unlimited. -/
def capWidth (w : Nat × Nat) : Nat × Nat :=
  (min w.1 (unlimited - 1), min w.2 unlimited)

/-- The width of a group by its number, from those of the groups that are complete. -/
def groupWidth (widths : Array (Option (Nat × Nat))) (number : Nat) : Nat × Nat :=
  (widths[number - 1]?.join).getD (0, 0)

mutual

/-- The least and greatest width of a part. -/
def nodeWidth (widths : Array (Option (Nat × Nat))) : Node → Nat × Nat
  | .literal .. | .otherThan .. | .dot _ | .set .. => (1, 1)
  | .anchor _ | .look .. => (0, 0)
  | .branch alternatives => branchWidth widths alternatives
  | .group _ body => widthOf widths body
  | .parenthesis body => widthOf widths body
  | .flagged body => widthOf widths body
  | .atomic body => widthOf widths body
  | .repetition _ least most body =>
    let (low, high) := widthOf widths body
    (low * least, high * most.getD unlimited)
  | .again number _ => groupWidth widths number
  | .choice _ yes no =>
    let (low, high) := widthOf widths yes
    let (low', high') := widthOf widths no
    (min low low', max high high')

/-- The width of parts one after the other. -/
def widthOf (widths : Array (Option (Nat × Nat))) : List Node → Nat × Nat
  | [] => (0, 0)
  | n :: rest =>
    let (low, high) := nodeWidth widths n
    let (low', high') := widthOf widths rest
    capWidth (low + low', high + high')

/-- The width of alternatives. -/
def branchWidth (widths : Array (Option (Nat × Nat))) : List (List Node) → Nat × Nat
  | [] => (unlimited - 1, 0)
  | body :: rest =>
    let (low, high) := widthOf widths body
    let (low', high') := branchWidth widths rest
    (min low low', max high high')

end

mutual

/-- The first part, in order, that has no single width and looks behind, or that repeats where nothing
may be repeated. -/
def nodeProblem? (template : Bool) (widths : Array (Option (Nat × Nat))) : Node → Option Problem
  | .look ahead _ body =>
    let here :=
      if ahead then none
      else
        let (low, high) := widthOf widths body
        if low ≠ high then some .variableLookbehind else none
    here <|> checkLookbehinds template widths body
  | .branch alternatives => branchProblem? template widths alternatives
  | .group _ body => checkLookbehinds template widths body
  | .parenthesis body => checkLookbehinds template widths body
  | .flagged body => checkLookbehinds template widths body
  | .atomic body => checkLookbehinds template widths body
  | .repetition greed _ _ body =>
    if template then some (.templateRepeat greed) else checkLookbehinds template widths body
  | .choice _ yes no => checkLookbehinds template widths yes <|> checkLookbehinds template widths no
  | _ => none

/-- The first problem of parts one after the other. -/
def checkLookbehinds (template : Bool) (widths : Array (Option (Nat × Nat))) :
    List Node → Option Problem
  | [] => none
  | n :: rest => nodeProblem? template widths n <|> checkLookbehinds template widths rest

/-- The first problem of alternatives. -/
def branchProblem? (template : Bool) (widths : Array (Option (Nat × Nat))) :
    List (List Node) → Option Problem
  | [] => none
  | body :: rest => checkLookbehinds template widths body <|> branchProblem? template widths rest

end

/-- The greatest width that can be looked behind by. -/
def longestLook : Nat := 0x7fffffff

mutual

/-- The part, or a part of it, looks behind too far. -/
def nodeLooksTooFar (widths : Array (Option (Nat × Nat))) : Node → Bool
  | .look ahead _ body =>
    (!ahead && decide (longestLook < (widthOf widths body).1)) || looksTooFar widths body
  | .branch alternatives => branchLooksTooFar widths alternatives
  | .group _ body => looksTooFar widths body
  | .parenthesis body => looksTooFar widths body
  | .flagged body => looksTooFar widths body
  | .atomic body => looksTooFar widths body
  | .repetition _ _ _ body => looksTooFar widths body
  | .choice _ yes no => looksTooFar widths yes || looksTooFar widths no
  | _ => false

/-- Some part looks behind too far. -/
def looksTooFar (widths : Array (Option (Nat × Nat))) : List Node → Bool
  | [] => false
  | n :: rest => nodeLooksTooFar widths n || looksTooFar widths rest

/-- Some part of an alternative looks behind too far. -/
def branchLooksTooFar (widths : Array (Option (Nat × Nat))) : List (List Node) → Bool
  | [] => false
  | body :: rest => looksTooFar widths body || branchLooksTooFar widths rest

end

end FormCheck.Pattern
