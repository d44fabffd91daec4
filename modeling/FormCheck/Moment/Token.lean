import FormCheck.Text.Blank
import FormCheck.Text.Letter
import FormCheck.Text.Numeral
import FormCheck.Text.LowerCase

/-!
# Tokens of written dates

* `tokens` — a text in runs of letters, runs of digits, and single characters: a point inside a run is kept
  where it may separate a fraction, a comma after two digits likewise;
* `weekday?`, `month?`, `unit?`, `half?` — the words for days, months, hours, minutes and seconds, and for
  the halves of the day;
* `isFiller` — the words and signs that may stand anywhere;
* `isUniversal` — the names of universal time.
-/

namespace FormCheck.Moment

open FormCheck.Text

/-! ### Runs -/

/-- What is being read: nothing yet, letters, digits, or either with a point among them. -/
inductive Run where
  | none
  | letters
  | digits
  | dottedLetters
  | dottedDigits
deriving DecidableEq, Repr

/-- A run goes on with a character, or it ends before it. -/
def Run.step (run : Run) (read : List Char) (c : Char) : Option Run :=
  let afterPoint := read.getLast? == some '.'
  match run with
  | .none => Option.none
  | .letters =>
    if isLetter c then some .letters else if c = '.' then some .dottedLetters else Option.none
  | .digits =>
    if isDigit c then some .digits
    else if c = '.' || (c = ',' && 2 ≤ read.length) then some .dottedDigits
    else Option.none
  | .dottedLetters =>
    if c = '.' || isLetter c then some .dottedLetters
    else if isDigit c && afterPoint then some .dottedDigits
    else Option.none
  | .dottedDigits =>
    if c = '.' || isDigit c then some .dottedDigits
    else if isLetter c && afterPoint then some .dottedLetters
    else Option.none

/-- The rest of a run, its last state, whether it was in a state of letters before its last character, and
what follows it. -/
def readRun (run : Run) (read : List Char) (sawLetters : Bool) :
    List Char → Run × List Char × Bool × List Char
  | [] => (run, read, sawLetters, [])
  | c :: rest =>
    let saw := sawLetters || run = .letters || run = .dottedLetters
    match run.step read c with
    | some next => readRun next (read ++ [c]) saw rest
    | Option.none => (run, read, saw, c :: rest)

/-- The parts of a run before, at and after its points and commas. -/
def pointParts (cs : List Char) : List (List Char) :=
  (cs.foldr (fun c parts =>
    if c = '.' || c = ',' then [] :: [c] :: parts
    else match parts with
      | [] => [[c]]
      | part :: parts => (c :: part) :: parts) [[]]).filter (!·.isEmpty)

/-- The tokens that a run makes: its parts where points separate more than a fraction, and else the run
itself, with a point for a comma. -/
def runTokens (run : Run) (read : List Char) (sawLetters : Bool) : List (List Char) :=
  let dotted := run = .dottedLetters || run = .dottedDigits
  let points := (read.filter (· == '.')).length
  let ending := read.getLast? == some '.' || read.getLast? == some ','
  if dotted && (sawLetters || 1 < points || ending) then pointParts read
  else if run = .dottedDigits && points = 0 then
    [read.map fun c => if c = ',' then '.' else c]
  else [read]

theorem readRun_length (run : Run) (read : List Char) (saw : Bool) (cs : List Char) :
    (readRun run read saw cs).2.2.2.length ≤ cs.length := by
  induction cs generalizing run read saw with
  | nil => simp [readRun]
  | cons c rest ih =>
    unfold readRun
    simp only
    split
    · exact Nat.le_trans (ih _ _ _) (by simp)
    · simp

/-- The run that a letter or a digit begins. -/
def startRun (c : Char) : Run :=
  if isLetter c then .letters else .digits

/-- The tokens of a text without null characters. -/
def tokensOf : List Char → List (List Char)
  | [] => []
  | c :: rest =>
    if isLetter c || isDigit c then
      let r := readRun (startRun c) [c] false rest
      runTokens r.1 r.2.1 r.2.2.1 ++ tokensOf r.2.2.2
    else (if isBlank c then [' '] else [c]) :: tokensOf rest
termination_by cs => cs.length
decreasing_by
  · have := readRun_length (startRun c) [c] false rest
    simp only [List.length_cons]
    omega
  · simp

/-- The tokens of a text. -/
def tokens (s : String) : List (List Char) :=
  tokensOf (s.toList.filter (· != Char.ofNat 0))

/-! ### Words -/

/-- The token in lower case. -/
def lowered (token : List Char) : String :=
  lowerText (String.ofList token)

/-- The place of the first list of words that holds the token, whatever its case. -/
def wordIndex? (words : List (List String)) (token : List Char) : Option Nat :=
  words.findIdx? (·.contains (lowered token))

/-- The days of the week, from Monday on. -/
def weekdays : List (List String) :=
  [["mon", "monday"], ["tue", "tuesday"], ["wed", "wednesday"], ["thu", "thursday"],
   ["fri", "friday"], ["sat", "saturday"], ["sun", "sunday"]]

/-- The day of the week that a token names, Monday being zero. -/
def weekday? (token : List Char) : Option Nat :=
  wordIndex? weekdays token

/-- The months of the year. -/
def months : List (List String) :=
  [["jan", "january"], ["feb", "february"], ["mar", "march"], ["apr", "april"], ["may"],
   ["jun", "june"], ["jul", "july"], ["aug", "august"], ["sep", "sept", "september"],
   ["oct", "october"], ["nov", "november"], ["dec", "december"]]

/-- The month that a token names, January being one. -/
def month? (token : List Char) : Option Nat :=
  (wordIndex? months token).map (· + 1)

/-- The units that a number can be followed by: zero for hours, one for minutes, two for seconds. -/
def unit? (token : List Char) : Option Nat :=
  wordIndex? [["h", "hour", "hours"], ["m", "minute", "minutes"], ["s", "second", "seconds"]] token

/-- The halves of the day: zero before noon, one after it. -/
def half? (token : List Char) : Option Nat :=
  wordIndex? [["am", "a"], ["pm", "p"]] token

/-- What may stand anywhere. -/
def isFiller (token : List Char) : Bool :=
  [" ", ".", ",", ";", "-", "/", "'", "at", "on", "and", "ad", "m", "t", "of", "st", "nd", "rd",
   "th"].contains (lowered token)

/-- A name of universal time. -/
def isUniversal (token : List Char) : Bool :=
  ["utc", "gmt", "z"].contains (lowered token)

end FormCheck.Moment
