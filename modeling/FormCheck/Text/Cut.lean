/-!
# Cutting and joining texts

* `cutAt` — the parts of a text between the occurrences of one character;
* `cutOnce`, `cutLast` — the parts before and after the first or the last occurrence;
* `joinWith` — parts put together with a separator between them;
* `startsWith`, `endsWith`, `hasInfix` — one run of characters within another;
* `sortNames` — names in ascending order of their code points.
-/

namespace FormCheck.Text

/-- The parts between the occurrences of `sep`: one more than it has occurrences. -/
def cutAt (sep : Char) : List Char → List (List Char)
  | [] => [[]]
  | c :: rest =>
    if c = sep then [] :: cutAt sep rest
    else match cutAt sep rest with
      | [] => [[c]]
      | part :: parts => (c :: part) :: parts

theorem cutAt_ne_nil (sep : Char) (cs : List Char) : cutAt sep cs ≠ [] := by
  cases cs with
  | nil => simp [cutAt]
  | cons c rest =>
    unfold cutAt
    split
    · simp
    · split <;> simp

/-- The comma-separated parts of a text. -/
def commaParts (s : String) : List String :=
  (cutAt ',' s.toList).map String.ofList

/-- What stands before and after the first occurrence of `sep`. -/
def cutOnce (sep : Char) (cs : List Char) : Option (List Char × List Char) :=
  match cs.dropWhile (· ≠ sep) with
  | [] => none
  | _ :: after => some (cs.takeWhile (· ≠ sep), after)

/-- What stands before and after the last occurrence of `sep`. -/
def cutLast (sep : Char) (cs : List Char) : Option (List Char × List Char) :=
  (cutOnce sep cs.reverse).map fun (after, before) => (before.reverse, after.reverse)

/-- The parts with the separator between neighbours. -/
def joinWith (sep : String) (parts : List String) : String :=
  sep.intercalate parts

/-- The text begins with the given one. -/
def startsWith (text start : List Char) : Bool :=
  start.isPrefixOf text

/-- The text ends with the given one. -/
def endsWith (text finish : List Char) : Bool :=
  finish.isSuffixOf text

/-- The given text occurs within the text. -/
def hasInfix (part : List Char) : List Char → Bool
  | [] => part.isEmpty
  | c :: rest => part.isPrefixOf (c :: rest) || hasInfix part rest

/-- Names in ascending order of their code points. -/
def sortNames (names : List String) : List String :=
  names.mergeSort fun a b => decide (a ≤ b)

end FormCheck.Text
