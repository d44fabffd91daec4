import FormCheck.Text.Blank
import FormCheck.Text.Quoted
import FormCheck.Path.Basic

/-!
# Reading written paths

* `NotationError` — what is wrong with a written path or reference, with its wording;
* `Path.ofText` — a path from its written form, without open indices;
* `Reference`, `Reference.ofText` — a reference from one field to another: leading points, which climb
  from the referring field's group, and a path that may hold open indices, `[*]` or `[]`.
-/

namespace FormCheck

open FormCheck.Text FormCheck.Number

/-- What is wrong with a written path or reference. -/
inductive NotationError where
  /-- A point where a name is due. -/
  | emptySegment (position : Nat) (text : String)
  /-- A character that begins neither a name nor an index. -/
  | unexpected (c : Char) (position : Nat) (text : String)
  /-- A name right after an index. -/
  | missingPoint (name text : String)
  /-- An index where a name is due. -/
  | bareIndex (position : Nat) (text : String)
  /-- An open index where each index has to be given. -/
  | openIndex (text : String)
  /-- A point with nothing after it. -/
  | trailingPoint (text : String)
  /-- A reference of nothing but points and blanks. -/
  | emptyReference (text : String)
  /-- An index of too many digits. -/
  | longNumeral (digits : Nat)
deriving DecidableEq, Repr

/-- The wording of an error. -/
def NotationError.message : NotationError → String
  | .emptySegment position text => s!"empty segment at position {position} in " ++ quote text
  | .unexpected c position text =>
    "unexpected " ++ quote (String.singleton c) ++ s!" at position {position} in " ++ quote text
  | .missingPoint name text => "missing '.' before " ++ quote name ++ " in " ++ quote text
  | .bareIndex position text =>
    s!"index without a field name at position {position} in " ++ quote text
  | .openIndex text => "wildcard index not allowed in concrete path " ++ quote text
  | .trailingPoint text => "trailing '.' in " ++ quote text
  | .emptyReference text => "empty reference " ++ quote text
  | .longNumeral digits => longNumeralMessage digits

namespace Path

/-! ### Tokens -/

/-- A character that a written name may hold. -/
def isNameChar (c : Char) : Bool :=
  c != '.' && c != '[' && c != ']'

/-- What follows an opening bracket up to the closing one, and the rest after it: decimal digits, perhaps
none, or an asterisk. -/
def bracketed? (cs : List Char) : Option (List Char × List Char) :=
  match cs.dropWhile isDecimal with
  | ']' :: rest => some (cs.takeWhile isDecimal, rest)
  | _ =>
    match cs with
    | '*' :: ']' :: rest => some (['*'], rest)
    | _ => none

theorem length_dropWhile_le (p : Char → Bool) (cs : List Char) :
    (cs.dropWhile p).length ≤ cs.length :=
  (List.dropWhile_sublist p).length_le

theorem bracketed?_length {cs inner rest : List Char} (h : bracketed? cs = some (inner, rest)) :
    rest.length < cs.length := by
  unfold bracketed? at h
  split at h
  · next after heq =>
    have hle := length_dropWhile_le isDecimal cs
    rw [heq, List.length_cons] at hle
    simp only [Option.some.injEq, Prod.mk.injEq] at h
    obtain ⟨_, rfl⟩ := h
    exact hle
  · split at h
    · simp only [Option.some.injEq, Prod.mk.injEq] at h
      obtain ⟨_, rfl⟩ := h
      simp only [List.length_cons]
      omega
    · simp at h

/-- The step that an index in brackets stands for. -/
def indexSegment (allowOpen : Bool) (text : String) (inner : List Char) :
    Except NotationError Segment :=
  if !inner.isEmpty && inner.all isDecimal then
    if readLimit < inner.length then .error (.longNumeral inner.length)
    else .ok (.index (decimalValue inner))
  else if allowOpen then .ok .each
  else .error (.openIndex text)

/-! ### The grammar -/

/-- What may come next: a name at the beginning, a name after a point, or anything that goes on after a
complete step. -/
inductive Expect where
  | start
  | name
  | more
deriving DecidableEq, Repr

/-- Reads the rest of a written path from `position` on. -/
def readFrom (allowOpen : Bool) (text : String) (expect : Expect) (position : Nat) :
    List Char → Except NotationError Path
  | [] =>
    if expect = .name then .error (.trailingPoint text) else .ok []
  | c :: rest =>
    if c = '.' then
      if expect = .more then readFrom allowOpen text .name (position + 1) rest
      else .error (.emptySegment position text)
    else if c = '[' then
      match h : bracketed? rest with
      | none => .error (.unexpected c position text)
      | some (inner, after) =>
        if expect = .more then do
          let s ← indexSegment allowOpen text inner
          let path ← readFrom allowOpen text .more (position + inner.length + 2) after
          return s :: path
        else .error (.bareIndex position text)
    else if c = ']' then .error (.unexpected c position text)
    else
      let tail := rest.takeWhile isNameChar
      let name := String.ofList (c :: tail)
      if expect = .more then .error (.missingPoint name text)
      else do
        let path ← readFrom allowOpen text .more (position + tail.length + 1)
          (rest.dropWhile isNameChar)
        return .name name :: path
termination_by cs => cs.length
decreasing_by
  · simp
  · have := bracketed?_length h
    simp only [List.length_cons]
    omega
  · have := length_dropWhile_le isNameChar rest
    simp only [List.length_cons]
    omega

/-- A path from its written form; every index has to be given. -/
def ofText (text : String) : Except NotationError Path :=
  readFrom false text .start 0 text.toList

end Path

/-! ### References -/

/-- A reference as written at a field. -/
structure Reference where
  /-- The reference as it was written. -/
  expression : String
  /-- The steps after the leading points. -/
  segments : Path
  /-- How many groups to climb above the referring field's own group; nothing when the steps start at
  the root. -/
  levelsUp : Option Nat
deriving DecidableEq, Repr

namespace Reference

/-- The reference starts at the referring field. -/
def isRelative (r : Reference) : Bool :=
  r.levelsUp.isSome

/-- A reference from its written form. Blanks at the ends do not count. One leading point stands for the
referring field's own group, and each further one for the next group above. -/
def ofText (expression : String) : Except NotationError Reference :=
  let cs := trimChars expression.toList
  let points := cs.takeWhile (· == '.')
  let body := cs.dropWhile (· == '.')
  if body.isEmpty then .error (.emptyReference expression)
  else do
    let segments ← Path.readFrom true (String.ofList body) .start 0 body
    return ⟨expression, segments, if points.isEmpty then none else some (points.length - 1)⟩

end Reference

end FormCheck
