import FormCheck.Text.Blank
import FormCheck.Text.UpperCase
import FormCheck.Pattern.Reader

/-!
# Tests of single characters

* `Pattern.foldChar` — the form of a character that counts when case is ignored;
* `Pattern.CharTest` — what a part that matches one character asks of it;
* `Pattern.CharTest.passes` — whether a character passes;
* `Pattern.charTest?` — the test that a part makes, if it matches one character always.

A test that ignores case compares lower-case forms, but only where case can matter: a letter without a
case, or a set without cased members, is compared as it is.
-/

namespace FormCheck.Pattern

open FormCheck.Text

/-! ### Case -/

/-- The form of a character that is compared. -/
def foldChar (fold : Fold) (c : Char) : Char :=
  match fold with
  | .exact => c
  | .ascii => c.toLower
  | .unicode => lowerChar c

/-- The form of the character with a code that is compared. -/
def foldCode (fold : Fold) (code : Nat) : Nat :=
  if h : code.isValidChar then (foldChar fold (Char.ofNatAux code h)).toNat else code

/-- Some character between two codes, both included, has a case that is ignored. -/
def hasCase (fold : Fold) (low high : Nat) : Bool :=
  match fold with
  | .exact => false
  | .ascii => hasAsciiLetter low high
  | .unicode => anyCased low high

/-- The characters that are compared as `c` is, where `c` is such a form itself. -/
def unfolded (fold : Fold) (c : Char) : List Char :=
  match fold with
  | .exact => [c]
  | .ascii => [c, c.toUpper]
  | .unicode => (c :: caseTwins c).flatMap fun t => t :: capitalsOf t

/-- Codes from here on lie beyond the basic plane. -/
def basicPlaneEnd : Nat := 0x10000

/-! ### Members of sets -/

/-- The character belongs to a named class, of ASCII only or of all scripts. -/
def inCategory (ascii : Bool) (category : Category) (c : Char) : Bool :=
  match category with
  | .digit => if ascii then c.isDigit else isDecimal c
  | .space => if ascii then isLayout c else isBlank c
  | .word => if ascii then c.isAlphanum || c == '_' else isWordChar c

/-- The case of some character counts in a member of a set. Beyond the basic plane it always does. -/
def SetItem.hasCase (fold : Fold) : SetItem → Bool
  | .single code => basicPlaneEnd ≤ code || Pattern.hasCase fold code code
  | .range low high => basicPlaneEnd ≤ high || Pattern.hasCase fold low high
  | .category .. => false

/-- The character, as it is, belongs to a member of a set. -/
def SetItem.holds (ascii : Bool) (c : Char) : SetItem → Bool
  | .single code => c.toNat == code
  | .range low high => low ≤ c.toNat && c.toNat ≤ high
  | .category sort negated => inCategory ascii sort c != negated

/-- The compared form of a character belongs to a member of a set. Beyond the basic plane members are
compared as they are; a range that reaches there also holds a form by its upper-case form. -/
def SetItem.holdsFolded (fold : Fold) (ascii : Bool) (c : Char) : SetItem → Bool
  | .single code =>
    if basicPlaneEnd ≤ code then c.toNat == code
    else (unfolded fold c).any (·.toNat == code)
  | .range low high =>
    let inRange (d : Char) : Bool := low ≤ d.toNat && d.toNat ≤ high
    (unfolded fold c).any (fun d => d.toNat < basicPlaneEnd && inRange d)
      || (basicPlaneEnd ≤ high && (inRange c || inRange (upperChar c)))
  | .category sort negated => inCategory ascii sort c != negated

/-! ### Tests -/

/-- What a part that matches one character asks of it. -/
inductive CharTest where
  /-- The character has the code, or another one. -/
  | exactly (negated : Bool) (code : Nat)
  /-- The compared form of the character has the code, or another one. -/
  | folded (negated : Bool) (fold : Fold) (code : Nat)
  | anything (newlines : Bool)
  | among (negated : Bool) (items : List SetItem) (ascii : Bool)
  /-- The compared form of the character is in the set, or outside it. -/
  | foldedAmong (negated : Bool) (items : List SetItem) (fold : Fold) (ascii : Bool)

namespace CharTest

/-- A character passes the test. -/
def passes : CharTest → Char → Bool
  | .exactly negated code, c => (c.toNat == code) != negated
  | .folded negated fold code, c => ((foldChar fold c).toNat == code) != negated
  | .anything newlines, c => newlines || c != '\n'
  | .among negated items ascii, c => items.any (·.holds ascii c) != negated
  | .foldedAmong negated items fold ascii, c =>
    items.any (·.holdsFolded fold ascii (foldChar fold c)) != negated

/-- The test for one character, or for any other one. -/
def ofLiteral (negated : Bool) (code : Nat) (fold : Fold) : CharTest :=
  let target := foldCode fold code
  if !hasCase fold code code then .exactly negated code
  else if fold = .unicode && !(caseTwins (Char.ofNat target)).isEmpty then
    .foldedAmong negated [.single target] fold false
  else .folded negated fold target

/-- The test for a set. -/
def ofSet (negated : Bool) (items : List SetItem) (fold : Fold) (ascii : Bool) : CharTest :=
  if fold != .exact && items.any (·.hasCase fold) then .foldedAmong negated items fold ascii
  else .among negated items ascii

/-- The test takes the place in the text along with it: it is made on a set that ignores case. -/
def takesPlace : CharTest → Bool
  | .foldedAmong .. => true
  | _ => false

end CharTest

/-- The test that a part makes, if it matches one character always. -/
def charTest? : Node → Option CharTest
  | .literal code fold => some (.ofLiteral false code fold)
  | .otherThan code fold => some (.ofLiteral true code fold)
  | .dot newlines => some (.anything newlines)
  | .set negated items fold ascii => some (.ofSet negated items fold ascii)
  | _ => none

/-- The test that parts make together, if they are one part that matches one character always, perhaps in
groups with flags of their own. -/
def charTestOf? : List Node → Option CharTest
  | [.flagged body] => charTestOf? body
  | [n] => charTest? n
  | _ => none

end FormCheck.Pattern
