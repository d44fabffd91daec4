import FormCheck.Text.Quoted
import FormCheck.Path.Notation

/-!
# Patterns

* `Pattern.Node` — the parts of a regular expression, with the flags in force worked into them;
* `Pattern.Flags` — ignoring case, lines, the reach of the dot, verbose writing, ASCII classes;
* `Pattern.Problem`, `Pattern.Failure` — why a text is no regular expression, and where, with the wording.
-/

namespace FormCheck.Pattern

open FormCheck.Text FormCheck.Number

/-! ### Parts -/

/-- How two characters are compared: as they are, or without regard to case. -/
inductive Fold where
  | exact
  | ascii
  | unicode
deriving DecidableEq, Repr

/-- The named classes of characters. -/
inductive Category where
  | digit
  | space
  | word
deriving DecidableEq, Repr

/-- A member of a set of characters. Characters are given by their codes. -/
inductive SetItem where
  | single (code : Nat)
  | range (low high : Nat)
  | category (category : Category) (negated : Bool)
deriving DecidableEq, Repr

/-- A place in the text, or between its characters. -/
inductive Anchor where
  | textStart
  | lineStart
  | textEnd
  /-- The end, or before a line feed at the end. -/
  | lastLineEnd
  | lineEnd
  | wordEdge (ascii : Bool)
  | noWordEdge (ascii : Bool)
deriving DecidableEq, Repr

/-- Which number of repetitions is tried first, and whether others are tried. -/
inductive Greed where
  | most
  | least
  | onlyMost
deriving DecidableEq, Repr

/-- A part of a regular expression. -/
inductive Node where
  | literal (code : Nat) (fold : Fold)
  | otherThan (code : Nat) (fold : Fold)
  | dot (newlines : Bool)
  | set (negated : Bool) (items : List SetItem) (fold : Fold) (ascii : Bool)
  | anchor (a : Anchor)
  | branch (alternatives : List (List Node))
  /-- A group whose match is kept under its number. -/
  | group (number : Nat) (body : List Node)
  /-- Parts put together by a parenthesis alone. -/
  | parenthesis (body : List Node)
  /-- A group with flags of its own. -/
  | flagged (body : List Node)
  | repetition (greed : Greed) (least : Nat) (most : Option Nat) (body : List Node)
  | atomic (body : List Node)
  | look (ahead negated : Bool) (body : List Node)
  /-- What a group has matched, once more. -/
  | again (number : Nat) (fold : Fold)
  /-- One of two parts, depending on whether a group has matched. -/
  | choice (number : Nat) (yes no : List Node)

namespace Node

/-- The part is a mere place. -/
def isAnchor : Node → Bool
  | .anchor _ => true
  | _ => false

/-- The part is a repetition. -/
def isRepetition : Node → Bool
  | .repetition .. => true
  | _ => false

/-- The parts that a part stands for: a mere parenthesis stands for what is in it. -/
def unwrapped : Node → List Node
  | .parenthesis body => body
  | n => [n]

/-- The parts are written alike. Parts that hold others never count as alike. -/
def isLike : Node → Node → Bool
  | .literal a f, .literal b g => a == b && f == g
  | .otherThan a f, .otherThan b g => a == b && f == g
  | .dot a, .dot b => a == b
  | .set m as f a, .set n bs g b => m == n && as == bs && f == g && a == b
  | .anchor a, .anchor b => a == b
  | .again m f, .again n g => m == n && f == g
  | _, _ => false

end Node

/-! ### Flags -/

/-- The flags of a regular expression. -/
structure Flags where
  ignoreCase : Bool := false
  multiline : Bool := false
  dotAll : Bool := false
  verbose : Bool := false
  ascii : Bool := false
  unicode : Bool := false
  locale : Bool := false
  template : Bool := false
deriving DecidableEq, Repr

namespace Flags

/-- The flag that a letter names. -/
def ofLetter? : Char → Option Flags
  | 'i' => some { ignoreCase := true }
  | 'm' => some { multiline := true }
  | 's' => some { dotAll := true }
  | 'x' => some { verbose := true }
  | 'a' => some { ascii := true }
  | 'u' => some { unicode := true }
  | 'L' => some { locale := true }
  | 't' => some { template := true }
  | _ => none

/-- The flags of either. -/
def union (f g : Flags) : Flags :=
  ⟨f.ignoreCase || g.ignoreCase, f.multiline || g.multiline, f.dotAll || g.dotAll,
    f.verbose || g.verbose, f.ascii || g.ascii, f.unicode || g.unicode, f.locale || g.locale,
    f.template || g.template⟩

/-- The flags of the first that the second lacks. -/
def minus (f g : Flags) : Flags :=
  ⟨f.ignoreCase && !g.ignoreCase, f.multiline && !g.multiline, f.dotAll && !g.dotAll,
    f.verbose && !g.verbose, f.ascii && !g.ascii, f.unicode && !g.unicode, f.locale && !g.locale,
    f.template && !g.template⟩

/-- The flags in both. -/
def inter (f g : Flags) : Flags :=
  f.minus (f.minus g)

/-- The flags that choose the alphabet of the named classes. -/
def alphabet : Flags := { ascii := true, unicode := true, locale := true }

/-- No flag. -/
def isNone (f : Flags) : Bool :=
  f == {}

/-- The flags in force inside a group that turns some on and some off. -/
def change (f on off : Flags) : Flags :=
  let kept := if (on.inter alphabet).isNone then f else f.minus alphabet
  (kept.union on).minus off

/-- How letters are compared under the flags. -/
def fold (f : Flags) : Fold :=
  if f.ignoreCase then (if f.ascii then .ascii else .unicode) else .exact

end Flags

/-! ### Errors -/

/-- Why a text is no regular expression. -/
inductive Problem where
  | escapeAtEnd
  | incompleteEscape (text : String)
  | badEscape (text : String)
  | octalTooLarge (text : String)
  | missing (what : String)
  | unterminatedName (closing : Char)
  | unknownCharacter (name : String)
  | openGroup
  | groupInLookbehind
  | noSuchGroup (number : Nat)
  | groupZero
  | unknownName (name : String)
  | badName (name : String)
  | repeatedName (name : String) (number earlier : Nat)
  | openSet
  | badRange (low high : String)
  | leastAboveMost
  | nothingToRepeat
  | doubleRepeat
  | unexpectedEnd
  | unknownExtension (text : String)
  | openComment
  | openGroupText
  | thirdBranch
  | unbalanced
  | flagsNotFirst
  | localeFlag
  | alphabetsClash
  | unknownFlag
  | globalFlagOn
  | globalFlagOff
  | alphabetOff
  | flagOnAndOff
  | variableLookbehind
  | templateRepeat (greed : Greed)
deriving DecidableEq, Repr

/-- The wording of a problem. -/
def Problem.message : Problem → String
  | .escapeAtEnd => "bad escape (end of pattern)"
  | .incompleteEscape text => "incomplete escape " ++ text
  | .badEscape text => "bad escape " ++ text
  | .octalTooLarge text => "octal escape value " ++ text ++ " outside of range 0-0o377"
  | .missing what => "missing " ++ what
  | .unterminatedName closing => "missing " ++ String.singleton closing ++ ", unterminated name"
  | .unknownCharacter name => "undefined character name " ++ quote name
  | .openGroup => "cannot refer to an open group"
  | .groupInLookbehind => "cannot refer to group defined in the same lookbehind subpattern"
  | .noSuchGroup number => s!"invalid group reference {number}"
  | .groupZero => "bad group number"
  | .unknownName name => "unknown group name " ++ quote name
  | .badName name => "bad character in group name " ++ quote name
  | .repeatedName name number earlier =>
    "redefinition of group name " ++ quote name ++ s!" as group {number}; was group {earlier}"
  | .openSet => "unterminated character set"
  | .badRange low high => "bad character range " ++ low ++ "-" ++ high
  | .leastAboveMost => "min repeat greater than max repeat"
  | .nothingToRepeat => "nothing to repeat"
  | .doubleRepeat => "multiple repeat"
  | .unexpectedEnd => "unexpected end of pattern"
  | .unknownExtension text => "unknown extension " ++ text
  | .openComment => "missing ), unterminated comment"
  | .openGroupText => "missing ), unterminated subpattern"
  | .thirdBranch => "conditional backref with more than two branches"
  | .unbalanced => "unbalanced parenthesis"
  | .flagsNotFirst => "global flags not at the start of the expression"
  | .localeFlag => "bad inline flags: cannot use 'L' flag with a str pattern"
  | .alphabetsClash => "bad inline flags: flags 'a', 'u' and 'L' are incompatible"
  | .unknownFlag => "unknown flag"
  | .globalFlagOn => "bad inline flags: cannot turn on global flag"
  | .globalFlagOff => "bad inline flags: cannot turn off global flag"
  | .alphabetOff => "bad inline flags: cannot turn off flags 'a', 'u' and 'L'"
  | .flagOnAndOff => "bad inline flags: flag turned on and off"
  | .variableLookbehind => "look-behind requires fixed-width pattern"
  | .templateRepeat greed =>
    "internal: unsupported template operator " ++
      match greed with
      | .most => "MAX_REPEAT"
      | .least => "MIN_REPEAT"
      | .onlyMost => "POSSESSIVE_REPEAT"

/-- Why a regular expression cannot be made from a text. -/
inductive Failure where
  /-- A problem, and the position of the text where it was met. -/
  | malformed (problem : Problem) (position : Option Nat)
  /-- Flags for two alphabets at once. -/
  | twoAlphabets
  /-- A number of repetitions of too many digits. -/
  | longNumeral (digits : Nat)
  /-- A number of repetitions that cannot be counted to. -/
  | tooManyRepetitions
  /-- A part that looks behind further than places can be counted. -/
  | tooFarBehind
deriving DecidableEq, Repr

/-- A position within the lines of a text: its line and its column, both counted from one. -/
def lineAndColumn (text : List Char) (position : Nat) : Nat × Nat :=
  let before := text.take position
  ((before.filter (· == '\n')).length + 1, (before.reverse.takeWhile (· != '\n')).length + 1)

/-- The wording of a problem together with its position in the text. -/
def Problem.messageAt (problem : Problem) (position : Option Nat) (text : String) : String :=
  match position with
  | none => problem.message
  | some n =>
    let (line, column) := lineAndColumn text.toList n
    problem.message ++ s!" at position {n}" ++
      if text.toList.contains '\n' then s!" (line {line}, column {column})" else ""

end FormCheck.Pattern
