import FormCheck.Pattern.Character

/-!
# Steps of a search

* `Pattern.Step` — what a search for a match does next at a place of the text;
* `Pattern.stepsOf` — the steps that parts of a pattern make, one after the other.

A part that repeats a single character is a step of its own, a run of characters. Any other repetition
holds the steps of one round, which end in a turn: there it is decided whether another round follows.
-/

namespace FormCheck.Pattern

/-- A step of a search. -/
inductive Step where
  /-- One character that passes a test. -/
  | unit (test : CharTest)
  | place (a : Anchor)
  /-- Notes the place as a bound of a group. -/
  | mark (key : Nat)
  /-- The end of an alternative, where the steps after the branch follow. -/
  | join
  | branch (alternatives : List (List Step))
  | run (greed : Greed) (least : Nat) (most : Option Nat) (test : CharTest)
  /-- Rounds that end in a turn. -/
  | rounds (greedy : Bool) (least : Nat) (most : Option Nat) (body : List Step)
  /-- The end of a round. -/
  | turn
  /-- As many rounds as there are, of which none is given back. -/
  | onlyRounds (least : Nat) (most : Option Nat) (body : List Step)
  | atomic (body : List Step)
  /-- Steps that are taken `back` characters before the place and lead back to it. -/
  | look (back : Nat) (negated : Bool) (body : List Step)
  | again (number : Nat) (fold : Fold)
  | choice (number : Nat) (yes no : List Step)

/-- The key under which the start of a group is noted; its end is noted under the next one. -/
def startKey (number : Nat) : Nat :=
  2 * (number - 1)

/-- The steps of a repetition, where the steps of its body are given. -/
def repetitionSteps (greed : Greed) (least : Nat) (most : Option Nat) (single : Option CharTest)
    (body : List Step) : Step :=
  match single, greed with
  | some test, _ => .run greed least most test
  | none, .most => .rounds true least most (body ++ [.turn])
  | none, .least => .rounds false least most (body ++ [.turn])
  | none, .onlyMost => .onlyRounds least most body

mutual

/-- The steps of a part. -/
def nodeSteps (widths : Array (Option (Nat × Nat))) : Node → List Step
  | .anchor a => [.place a]
  | .branch alternatives => [.branch (branchSteps widths alternatives)]
  | .group number body =>
    .mark (startKey number) :: stepsOf widths body ++ [.mark (startKey number + 1)]
  | .parenthesis body => stepsOf widths body
  | .flagged body => stepsOf widths body
  | .repetition greed least most body =>
    [repetitionSteps greed least most (charTestOf? body) (stepsOf widths body)]
  | .atomic body => [.atomic (stepsOf widths body)]
  | .look ahead negated body =>
    [.look (if ahead then 0 else (widthOf widths body).1) negated (stepsOf widths body)]
  | .again number fold => [.again number fold]
  | .choice number yes no =>
    let joined := if no.isEmpty then [] else [Step.join]
    [.choice number (stepsOf widths yes ++ joined) (stepsOf widths no)]
  | n => (charTest? n).toList.map .unit

/-- The steps of parts one after the other. -/
def stepsOf (widths : Array (Option (Nat × Nat))) : List Node → List Step
  | [] => []
  | n :: rest => nodeSteps widths n ++ stepsOf widths rest

/-- The steps of alternatives. -/
def branchSteps (widths : Array (Option (Nat × Nat))) : List (List Node) → List (List Step)
  | [] => []
  | body :: rest => (stepsOf widths body ++ [.join]) :: branchSteps widths rest

end

end FormCheck.Pattern
