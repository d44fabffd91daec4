import FormCheck.Pattern.Step

/-!
# Searching for a match

* `Pattern.Trail` — what a search leaves behind: the place it has come to, and the bounds of groups;
* `Pattern.Task` — the steps to take from a place, and the repetitions under way there;
* `Pattern.Frame` — a choice to come back to when the steps after it fail, or an inner search to end;
* `Pattern.advance`, `Pattern.retreat`, `Pattern.conclude` — what a step, a failure and a success lead to;
* `Pattern.search` — a search to its end.

A failure leads back to the latest choice. What it leaves of the bounds of groups is part of the rules:
a branch and a run of characters put back how many bounds are noted, but outside of repetitions they
leave the bounds themselves as the failed steps have changed them. A later step that notes a higher bound
uncovers them again.
-/

namespace FormCheck.Pattern

/-! ### What a search leaves behind -/

/-- What a search leaves behind. -/
structure Trail where
  /-- The place where the next inner search begins. -/
  position : Nat
  /-- The bounds of groups, by their keys. -/
  marks : Array (Option Nat)
  /-- Only bounds with keys below this one are in force. -/
  noted : Nat

namespace Trail

/-- The trail with the given place. -/
def moveTo (t : Trail) (place : Nat) : Trail :=
  { t with position := place }

/-- Notes a bound of a group. Keys in between that are not in force yet get no bound. -/
def mark (t : Trail) (key place : Nat) : Trail :=
  let cleared := (List.range (key - t.noted)).foldl (fun marks i => marks.set! (t.noted + i) none) t.marks
  { t with marks := cleared.set! key (some place), noted := max t.noted (key + 1) }

/-- Puts back how many bounds are in force, and with `all` the bounds too. -/
def restore (t saved : Trail) (all : Bool) : Trail :=
  { t with marks := if all then saved.marks else t.marks, noted := saved.noted }

/-- The bounds of what a group has matched last. -/
def bounds? (t : Trail) (number : Nat) : Option (Nat × Nat) :=
  let key := startKey number
  if key + 1 < t.noted then
    match t.marks[key]?.join, t.marks[key + 1]?.join with
    | some low, some high => if low ≤ high then some (low, high) else none
    | _, _ => none
  else none

/-- Some group in force ends before it starts. -/
def isTurned (t : Trail) (groups : Nat) : Bool :=
  (List.range groups).any fun i =>
    2 * i + 1 < t.noted &&
      match t.marks[2 * i]?.join, t.marks[2 * i + 1]?.join with
      | some low, some high => decide (high < low)
      | _, _ => false

end Trail

/-! ### What is under way -/

/-- A repetition under way. -/
structure Round where
  greedy : Bool
  least : Nat
  most : Option Nat
  body : List Step
  /-- The steps after the repetition. -/
  tail : List Step
  /-- The number of rounds that are over. -/
  count : Nat
  /-- Where the latest round began that was not demanded. -/
  last : Option Nat

namespace Round

/-- Another round is allowed from a place: not too many are over, and the latest one has moved. -/
def mayGoOn (r : Round) (place : Nat) : Bool :=
  r.most.all (r.count < ·) && r.last != some place

/-- The repetition with one more round under way. -/
def next (r : Round) : Round :=
  { r with count := r.count + 1 }

/-- The repetition with one more round under way that was not demanded. -/
def extra (r : Round) (place : Nat) : Round :=
  { r with count := r.count + 1, last := some place }

end Round

/-- Steps to take from a place. -/
structure Task where
  steps : List Step
  place : Nat
  /-- The repetitions under way, the innermost first. -/
  rounds : List Round
  /-- No inner search is under way, so that the steps have to lead to the end of the text. -/
  outermost : Bool

namespace Task

/-- The task of an inner search. -/
def inner (t : Task) (steps : List Step) (place : Nat) : Task :=
  { t with steps, place, outermost := false }

/-- The task from another place. -/
def startingAt (t : Task) (place : Nat) : Task :=
  { t with place }

end Task

/-- What to come back to. -/
inductive Frame where
  /-- Further alternatives of a branch; the task is what follows the branch. -/
  | alternatives (others : List (List Step)) (task : Task) (saved : Trail)
  /-- Shorter runs: `left` more than the least one. The task is what follows the shortest run. -/
  | shorter (left : Nat) (task : Task) (saved : Trail)
  /-- Longer runs, after a run of `count` characters. The task is what follows that run. -/
  | longer (count : Nat) (most : Option Nat) (test : CharTest) (task : Task) (saved : Trail)
  /-- Nothing more to choose: the place is put back. -/
  | back (place : Nat)
  /-- The end of a repetition, after a round that failed. -/
  | leave (round : Round) (task : Task) (saved : Trail)
  /-- Another round of a repetition, after its end failed. -/
  | enter (round : Round) (task : Task) (saved : Trail)
  /-- An inner search of which nothing is given back; the task is what follows it. -/
  | atomic (task : Task)
  /-- An inner search that leads back to its place; the task is what follows it. -/
  | look (negated : Bool) (task : Task) (saved : Trail)
  /-- A round of which nothing is given back, after `count` of them. -/
  | onlyRound (least : Nat) (most : Option Nat) (body : List Step) (count : Nat) (task : Task)
      (saved : Trail)

/-- What a search does next. -/
inductive Mode where
  | go (task : Task)
  | fail
  /-- The steps of the innermost search have led to their end. -/
  | succeed

/-- A search on its way. -/
structure Search where
  mode : Mode
  trail : Trail
  frames : List Frame

/-! ### Places -/

/-- The character before a place and the one at it are a word's character and another one. -/
def atWordEdge (ascii : Bool) (text : Array Char) (place : Nat) : Bool :=
  let word (c : Char) := inCategory ascii .word c
  let before := 0 < place && (text[place - 1]?.map word).getD false
  let after := (text[place]?.map word).getD false
  before != after

/-- The place is of the given sort. -/
def anchorHolds (text : Array Char) (place : Nat) : Anchor → Bool
  | .textStart => place == 0
  | .lineStart => place == 0 || text[place - 1]? == some '\n'
  | .textEnd => place == text.size
  | .lastLineEnd => place == text.size || (place + 1 == text.size && text[place]? == some '\n')
  | .lineEnd => place == text.size || text[place]? == some '\n'
  | .wordEdge ascii => text.size != 0 && atWordEdge ascii text place
  | .noWordEdge ascii => text.size != 0 && !atWordEdge ascii text place

/-- A character at the place passes a test. -/
def passesAt (text : Array Char) (test : CharTest) (place : Nat) : Bool :=
  text[place]?.any test.passes

/-- The number of characters from a place on that pass a test, at most `limit`. -/
def runLength (test : CharTest) (text : Array Char) (place : Nat) : (limit : Nat) → Nat
  | 0 => 0
  | limit + 1 => if passesAt text test place then runLength test text (place + 1) limit + 1 else 0

/-- The characters from `low` up to `high` stand again at a place. -/
def standsAgain (fold : Fold) (text : Array Char) (low high place : Nat) : Bool :=
  (List.range (high - low)).all fun i =>
    match text[low + i]?, text[place + i]? with
    | some c, some d => foldChar fold c == foldChar fold d
    | _, _ => false

/-! ### Moves -/

section

variable (text : Array Char)

/-- An alternative is passed over because its first step is a plain test that fails at the place. -/
def isPassedOver (place : Nat) : List Step → Bool
  | .unit (.exactly false code) :: _ => !passesAt text (.exactly false code) place
  | .unit (.among negated items ascii) :: _ => !passesAt text (.among negated items ascii) place
  | _ => false

/-- Tries the alternatives of a branch in turn; the task is what follows the branch. -/
def tryAlternatives (task : Task) (saved trail : Trail) (frames : List Frame) :
    List (List Step) → Search
  | [] => ⟨.fail, trail, frames⟩
  | first :: others =>
    if isPassedOver text task.place first then tryAlternatives task saved trail frames others
    else
      ⟨.go { task with steps := first ++ task.steps }, trail.moveTo task.place,
        .alternatives others task saved :: frames⟩

/-- The last of the `left` places after a place, or the place itself, where a test is passed; how far it
lies from there. -/
def lastPassing? (test : CharTest) (place : Nat) : (left : Nat) → Option Nat
  | 0 => if passesAt text test place then some 0 else none
  | left + 1 =>
    if passesAt text test (place + (left + 1)) then some (left + 1)
    else lastPassing? test place left

/-- The longest of the runs with up to `left` characters more than the least one, after which the steps
that follow may stand: a plain character that they begin with has to be there. -/
def fittingRun? (task : Task) (left : Nat) : Option Nat :=
  match task.steps with
  | .unit (.exactly false code) :: _ => lastPassing? text (.exactly false code) task.place left
  | _ => some left

/-- Tries what follows a run, the longest one first. -/
def tryShorter (left : Nat) (task : Task) (saved trail : Trail) (frames : List Frame) : Search :=
  match fittingRun? text task left with
  | none => ⟨.fail, trail, frames⟩
  | some k =>
    let place := task.place + k
    ⟨.go (task.startingAt place), trail.moveTo place, .shorter k task saved :: frames⟩

/-- Tries what follows a run of `count` characters, then longer runs. -/
def tryLonger (count : Nat) (most : Option Nat) (test : CharTest) (task : Task) (saved trail : Trail)
    (frames : List Frame) : Search :=
  if most.all (count ≤ ·) then
    ⟨.go task, trail.moveTo task.place, .longer count most test task saved :: frames⟩
  else ⟨.fail, trail, frames⟩

/-- Begins a run of characters; the task is what follows it, from the place where the run begins. -/
def beginRun (greed : Greed) (least : Nat) (most : Option Nat) (test : CharTest) (task : Task)
    (trail : Trail) (frames : List Frame) : Search :=
  let room := text.size - task.place
  if room < least then ⟨.fail, trail, frames⟩
  else
    let limit := if greed = .least then least else min room (most.getD room)
    let n := runLength test text task.place limit
    let place := task.place + n
    let trail := trail.moveTo (if test.takesPlace then place else task.place)
    if n < least then ⟨.fail, trail, frames⟩
    else
      match greed with
      | .most =>
        if task.steps.isEmpty && place = text.size then ⟨.succeed, trail.moveTo place, frames⟩
        else tryShorter text (n - least) (task.startingAt (task.place + least)) trail trail frames
      | .least =>
        if task.steps.isEmpty && (!task.outermost || place = text.size) then
          ⟨.succeed, trail.moveTo place, frames⟩
        else tryLonger n most test (task.startingAt place) trail trail frames
      | .onlyMost => ⟨.go (task.startingAt place), trail.moveTo place, frames⟩

/-- Goes on after a repetition, or fails with the place put back. -/
def leaveRounds (round : Round) (task : Task) (trail : Trail) (frames : List Frame) : Search :=
  ⟨.go { task with steps := round.tail }, trail, .back task.place :: frames⟩

/-- Begins a round, or fails with the place put back. -/
def enterRound (round : Round) (task : Task) (trail : Trail) (frames : List Frame) : Search :=
  ⟨.go { task with steps := round.body, rounds := round :: task.rounds }, trail,
    .back task.place :: frames⟩

/-- Decides at the end of a round whether another one follows. The task is that of the repetitions
around. -/
def takeTurn (round : Round) (task : Task) (trail : Trail) (frames : List Frame) : Search :=
  let trail := trail.moveTo task.place
  if round.count < round.least then enterRound round.next task trail frames
  else if !round.greedy then
    ⟨.go { task with steps := round.tail }, trail, .enter round task trail :: frames⟩
  else if round.mayGoOn task.place then
    ⟨.go { task with steps := round.body, rounds := round.extra task.place :: task.rounds }, trail,
      .leave round task trail :: frames⟩
  else leaveRounds round task trail frames

/-- Goes on with rounds of which none is given back, after `count` of them; the task is what follows
them. -/
def beginOnlyRound (least : Nat) (most : Option Nat) (body : List Step) (count : Nat) (task : Task)
    (trail : Trail) (frames : List Frame) : Search :=
  if count < least || most.all (count < ·) then
    ⟨.go (task.inner body trail.position), trail,
      .onlyRound least most body count task trail :: frames⟩
  else ⟨.go (task.startingAt trail.position), trail, frames⟩

/-- Takes the first step of a task. -/
def advance (task : Task) (trail : Trail) (frames : List Frame) : Search :=
  let place := task.place
  match task.steps with
  | [] =>
    if task.outermost && place != text.size then ⟨.fail, trail, frames⟩
    else ⟨.succeed, trail.moveTo place, frames⟩
  | step :: rest =>
    let after : Task := { task with steps := rest }
    match step with
    | .unit test =>
      if passesAt text test place then ⟨.go (after.startingAt (place + 1)), trail, frames⟩
      else ⟨.fail, trail, frames⟩
    | .place a =>
      if anchorHolds text place a then ⟨.go after, trail, frames⟩ else ⟨.fail, trail, frames⟩
    | .mark key => ⟨.go after, trail.mark key place, frames⟩
    | .join => ⟨.go after, trail, frames⟩
    | .branch alternatives => tryAlternatives text after trail trail frames alternatives
    | .run greed least most test => beginRun text greed least most test after trail frames
    | .rounds greedy least most body =>
      takeTurn ⟨greedy, least, most, body, rest, 0, none⟩ after trail frames
    | .turn =>
      match task.rounds with
      | [] => ⟨.fail, trail, frames⟩
      | round :: outer => takeTurn round { after with rounds := outer } trail frames
    | .onlyRounds least most body =>
      beginOnlyRound least most body 0 after (trail.moveTo place) frames
    | .atomic body =>
      ⟨.go (after.inner body place), trail.moveTo place, .atomic after :: frames⟩
    | .look back negated body =>
      if back ≤ place then
        ⟨.go (after.inner body (place - back)), trail.moveTo (place - back),
          .look negated after trail :: frames⟩
      else if negated then ⟨.go after, trail, frames⟩
      else ⟨.fail, trail, frames⟩
    | .again number fold =>
      match trail.bounds? number with
      | some (low, high) =>
        if standsAgain fold text low high place then
          ⟨.go (after.startingAt (place + (high - low))), trail, frames⟩
        else ⟨.fail, trail, frames⟩
      | none => ⟨.fail, trail, frames⟩
    | .choice number yes no =>
      let chosen := if (trail.bounds? number).isSome then yes else no
      ⟨.go { after with steps := chosen ++ rest }, trail, frames⟩

/-- Comes back to a choice after a failure, or ends an inner search that has failed. -/
def retreat (frame : Frame) (trail : Trail) (frames : List Frame) : Search :=
  match frame with
  | .alternatives others task saved =>
    tryAlternatives text task saved (trail.restore saved !task.rounds.isEmpty) frames others
  | .shorter left task saved =>
    let trail := trail.restore saved !task.rounds.isEmpty
    match left with
    | 0 => ⟨.fail, trail, frames⟩
    | left + 1 => tryShorter text left task saved trail frames
  | .longer count most test task saved =>
    let trail := (trail.restore saved !task.rounds.isEmpty).moveTo task.place
    if passesAt text test task.place then
      let place := task.place + 1
      tryLonger (count + 1) most test (task.startingAt place) saved
        (if test.takesPlace then trail.moveTo place else trail) frames
    else ⟨.fail, trail, frames⟩
  | .back place => ⟨.fail, trail.moveTo place, frames⟩
  | .leave round task saved =>
    leaveRounds round task ((trail.restore saved true).moveTo task.place) frames
  | .enter round task saved =>
    let trail := (trail.restore saved !task.rounds.isEmpty).moveTo task.place
    if round.mayGoOn task.place then enterRound (round.extra task.place) task trail frames
    else ⟨.fail, trail, frames⟩
  | .atomic task => ⟨.fail, trail.moveTo task.place, frames⟩
  | .look negated task saved =>
    if negated then ⟨.go task, trail.restore saved !task.rounds.isEmpty, frames⟩
    else ⟨.fail, trail, frames⟩
  | .onlyRound least _ _ count task saved =>
    if count < least then ⟨.fail, trail.moveTo task.place, frames⟩
    else
      let trail := trail.restore saved true
      ⟨.go (task.startingAt trail.position), trail, frames⟩

/-- Ends an inner search that has succeeded; choices within it are given up. -/
def conclude (frame : Frame) (trail : Trail) (frames : List Frame) : Search :=
  match frame with
  | .atomic task => ⟨.go (task.startingAt trail.position), trail, frames⟩
  | .look negated task _ =>
    if negated then ⟨.fail, trail, frames⟩ else ⟨.go task, trail, frames⟩
  | .onlyRound least most body count task saved =>
    if least ≤ count && trail.position = saved.position then
      ⟨.go (task.startingAt trail.position), trail, frames⟩
    else beginOnlyRound least most body (count + 1) task trail frames
  | _ => ⟨.succeed, trail, frames⟩

/-! ### The whole search -/

/-- A search of at most so many moves: what it leaves behind, if it succeeds. -/
def search : Nat → Search → Option Trail
  | 0, _ => none
  | fuel + 1, s =>
    match s.mode, s.frames with
    | .go task, frames => search fuel (advance text task s.trail frames)
    | .fail, [] => none
    | .fail, frame :: frames => search fuel (retreat text frame s.trail frames)
    | .succeed, [] => some s.trail
    | .succeed, frame :: frames => search fuel (conclude frame s.trail frames)

end

/-- A search is given up after so many moves, which none can make in a lifetime. -/
def moveLimit : Nat :=
  0x1000000000000000

end FormCheck.Pattern
