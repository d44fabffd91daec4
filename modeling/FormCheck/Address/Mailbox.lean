import FormCheck.Text.Cut

/-!
# Mail addresses

* `isMailbox` — a local part, an at sign and a domain, all in ASCII;
* `isLocalPart` — atoms with single points between them;
* `isDomain` — at least two labels with single points between them;
* `isLabel` — 1 to 63 letters, digits and hyphens, a letter or digit at either end.
-/

namespace FormCheck.Address

open FormCheck.Text

/-- The signs that an atom may hold beside letters and digits. -/
def atomSigns : List Char :=
  ['!', '#', '$', '%', '&', '\'', '*', '+', '/', '=', '?', '^', '_', '\x60', '\x7b', '|', '\x7d', '~', '-']

/-- A character of an atom. -/
def isAtomChar (c : Char) : Bool :=
  c.isAlphanum || atomSigns.contains c

/-- A run of atom characters, at least one. -/
def isAtom (cs : List Char) : Bool :=
  !cs.isEmpty && cs.all isAtomChar

/-- Atoms with single points between them: no point at either end, and no two in a row. -/
def isLocalPart (cs : List Char) : Bool :=
  (cutAt '.' cs).all isAtom

/-- The character at one end of a label. -/
def isLabelEnd (c : Option Char) : Bool :=
  c.any Char.isAlphanum

/-- 1 to 63 letters, digits and hyphens, a letter or digit at either end. -/
def isLabel (cs : List Char) : Bool :=
  isLabelEnd cs.head? && isLabelEnd cs.getLast? && cs.length ≤ 63
    && cs.all fun c => c.isAlphanum || c == '-'

/-- At least two labels with single points between them. -/
def isDomain (cs : List Char) : Bool :=
  let labels := cutAt '.' cs
  2 ≤ labels.length && labels.all isLabel

/-- A mail address: a local part, an at sign and a domain. -/
def isMailbox (cs : List Char) : Bool :=
  match cutOnce '@' cs with
  | some (localPart, domain) => isLocalPart localPart && isDomain domain
  | none => false

end FormCheck.Address
