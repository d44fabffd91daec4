import FormCheck.Message.Facet

/-!
# Message templates

* `Piece` — a part of a template: text as it stands, or a hole with a name, perhaps a conversion and a
  layout;
* `piecesOf?` — the pieces of a template: doubled braces stand for single ones, and single ones enclose
  holes;
* `Layout` — how a text is padded and cut;
* `fillTemplate` — the template with every hole filled at once. A hole whose name is unknown is left as it
  is, and a template that cannot be filled is taken as it stands.
-/

namespace FormCheck.Message

open FormCheck.Text

/-! ### Pieces -/

/-- A part of a template. -/
inductive Piece where
  | literal (c : Char)
  /-- A hole: its name, its conversion, and the layout of what fills it. -/
  | hole (name : List Char) (conversion : Option Char) (layout : List Char)
deriving DecidableEq, Repr

/-- What stands before a part, put in front of its first component. -/
def prepend {α : Type} (c : Char) (found : Option (List Char × α)) : Option (List Char × α) :=
  found.map fun (cs, rest) => (c :: cs, rest)

/-- The name of a hole, the character that ends it, and what follows. Within square brackets every
character belongs to the name. -/
def holeName (inBrackets : Bool) : List Char → Option (List Char × Char × List Char)
  | [] => none
  | c :: rest =>
    if inBrackets then prepend c (holeName (c != ']') rest)
    else if c = '\x7b' then none
    else if c = '\x7d' || c = ':' || c = '!' then some ([], c, rest)
    else prepend c (holeName (c == '[') rest)

/-- The layout of a hole, up to the brace that closes the hole, and what follows. -/
def holeLayout (depth : Nat) : List Char → Option (List Char × List Char)
  | [] => none
  | c :: rest =>
    if c = '\x7b' then prepend c (holeLayout (depth + 1) rest)
    else if c = '\x7d' then
      match depth with
      | 0 => some ([], rest)
      | depth + 1 => prepend c (holeLayout depth rest)
    else prepend c (holeLayout depth rest)

/-- The conversion and the layout of a hole after its exclamation mark, and what follows. -/
def holeConversion : List Char → Option (Option Char × List Char × List Char)
  | c :: '\x7d' :: rest => some (some c, [], rest)
  | c :: ':' :: rest => (holeLayout 0 rest).map fun (layout, rest) => (some c, layout, rest)
  | _ => none

/-- A hole after its opening brace, and what follows. -/
def hole? (cs : List Char) : Option (Piece × List Char) := do
  let (name, stop, rest) ← holeName false cs
  if stop = '\x7d' then return (.hole name none [], rest)
  else if stop = ':' then
    let (layout, rest) ← holeLayout 0 rest
    return (.hole name none layout, rest)
  else
    let (conversion, layout, rest) ← holeConversion rest
    return (.hole name conversion layout, rest)

theorem holeName_length {inBrackets : Bool} {cs name rest : List Char} {stop : Char}
    (h : holeName inBrackets cs = some (name, stop, rest)) : rest.length < cs.length := by
  induction cs generalizing inBrackets name with
  | nil => simp [holeName] at h
  | cons c cs ih =>
    simp only [holeName, prepend] at h
    split at h
    · obtain ⟨⟨n, s, r⟩, hr, he⟩ := Option.map_eq_some_iff.1 h
      simp only [Prod.mk.injEq] at he
      obtain ⟨_, rfl, rfl⟩ := he
      have := ih hr
      simp only [List.length_cons]
      omega
    · split at h
      · simp at h
      · split at h
        · simp_all
        · obtain ⟨⟨n, s, r⟩, hr, he⟩ := Option.map_eq_some_iff.1 h
          simp only [Prod.mk.injEq] at he
          obtain ⟨_, rfl, rfl⟩ := he
          have := ih hr
          simp only [List.length_cons]
          omega

theorem holeLayout_length {depth : Nat} {cs layout rest : List Char}
    (h : holeLayout depth cs = some (layout, rest)) : rest.length < cs.length := by
  induction cs generalizing depth layout with
  | nil => simp [holeLayout] at h
  | cons c cs ih =>
    simp only [holeLayout, prepend] at h
    split at h
    · obtain ⟨⟨n, r⟩, hr, he⟩ := Option.map_eq_some_iff.1 h
      simp only [Prod.mk.injEq] at he
      obtain ⟨_, rfl⟩ := he
      have := ih hr
      simp only [List.length_cons]
      omega
    · split at h
      · split at h
        · simp_all
        · obtain ⟨⟨n, r⟩, hr, he⟩ := Option.map_eq_some_iff.1 h
          simp only [Prod.mk.injEq] at he
          obtain ⟨_, rfl⟩ := he
          have := ih hr
          simp only [List.length_cons]
          omega
      · obtain ⟨⟨n, r⟩, hr, he⟩ := Option.map_eq_some_iff.1 h
        simp only [Prod.mk.injEq] at he
        obtain ⟨_, rfl⟩ := he
        have := ih hr
        simp only [List.length_cons]
        omega

theorem holeConversion_length {cs layout rest : List Char} {conversion : Option Char}
    (h : holeConversion cs = some (conversion, layout, rest)) : rest.length < cs.length := by
  unfold holeConversion at h
  split at h
  · simp only [Option.some.injEq, Prod.mk.injEq] at h
    obtain ⟨_, _, rfl⟩ := h
    simp only [List.length_cons]
    omega
  · obtain ⟨⟨n, r⟩, hr, he⟩ := Option.map_eq_some_iff.1 h
    simp only [Prod.mk.injEq] at he
    obtain ⟨_, _, rfl⟩ := he
    have := holeLayout_length hr
    simp only [List.length_cons]
    omega
  · simp at h

theorem hole?_length {cs rest : List Char} {piece : Piece} (h : hole? cs = some (piece, rest)) :
    rest.length < cs.length := by
  unfold hole? at h
  cases hn : holeName false cs with
  | none => simp [hn] at h
  | some found =>
    obtain ⟨name, stop, after⟩ := found
    have hlt := holeName_length hn
    simp only [hn, Option.bind_eq_bind, Option.bind_some] at h
    split at h
    · simp only [Option.pure_def, Option.some.injEq, Prod.mk.injEq] at h
      obtain ⟨_, rfl⟩ := h
      exact hlt
    · split at h
      · cases hl : holeLayout 0 after with
        | none => simp [hl] at h
        | some found =>
          obtain ⟨layout, next⟩ := found
          have := holeLayout_length hl
          simp only [hl, Option.bind_some, Option.pure_def, Option.some.injEq, Prod.mk.injEq] at h
          obtain ⟨_, rfl⟩ := h
          exact Nat.lt_trans this hlt
      · cases hc : holeConversion after with
        | none => simp [hc] at h
        | some found =>
          obtain ⟨conversion, layout, next⟩ := found
          have := holeConversion_length hc
          simp only [hc, Option.bind_some, Option.pure_def, Option.some.injEq, Prod.mk.injEq] at h
          obtain ⟨_, rfl⟩ := h
          exact Nat.lt_trans this hlt

/-- The pieces of a template; a brace that stands alone makes it unreadable. -/
def piecesOf? : List Char → Option (List Piece)
  | [] => some []
  | '\x7b' :: '\x7b' :: rest => (piecesOf? rest).map (.literal '\x7b' :: ·)
  | '\x7d' :: '\x7d' :: rest => (piecesOf? rest).map (.literal '\x7d' :: ·)
  | '\x7d' :: _ => none
  | '\x7b' :: rest =>
    match _h : hole? rest with
    | some (piece, after) => (piecesOf? after).map (piece :: ·)
    | none => none
  | c :: rest => (piecesOf? rest).map (.literal c :: ·)
termination_by cs => cs.length
decreasing_by
  · simp only [List.length_cons]
    omega
  · simp only [List.length_cons]
    omega
  · have := hole?_length _h
    simp only [List.length_cons]
    omega
  · exact Nat.lt_succ_self _

/-! ### Layouts -/

/-- On which side a text is padded. -/
inductive Alignment where
  | left
  | right
  | center
deriving DecidableEq, Repr

/-- How a text is padded and cut. -/
structure Layout where
  fill : Char
  alignment : Alignment
  width : Nat
  /-- How many characters are kept at most. -/
  precision : Option Nat
deriving DecidableEq, Repr

/-- The alignment that a character stands for. -/
def alignmentOf? (c : Char) : Option Alignment :=
  if c = '<' then some .left
  else if c = '>' then some .right
  else if c = '^' then some .center
  else none

/-- The fill character and the alignment at the front of a layout. -/
def leadingAlignment (cs : List Char) : Option Char × Option Alignment × List Char :=
  match cs with
  | c :: d :: rest =>
    match alignmentOf? d with
    | some a => (some c, some a, rest)
    | none => match alignmentOf? c with
      | some a => (none, some a, d :: rest)
      | none => (none, none, cs)
  | [c] => match alignmentOf? c with
    | some a => (none, some a, [])
    | none => (none, none, cs)
  | [] => (none, none, [])

/-- The greatest number that a layout may hold. -/
def greatestSize : Nat := 0x7fffffffffffffff

/-- The number that the digits at the front write, zero if there are none; the rest. -/
def leadingSize? (cs : List Char) : Option (Nat × List Char) :=
  let n := decimalValue (cs.takeWhile isDecimal)
  if greatestSize < n then none else some (n, cs.dropWhile isDecimal)

/-- The precision after a point, and the rest. -/
def leadingPrecision? (cs : List Char) : Option (Option Nat × List Char) :=
  match cs with
  | '.' :: rest =>
    if (rest.head?.any isDecimal) then (leadingSize? rest).map fun (n, rest) => (some n, rest) else none
  | cs => some (none, cs)

/-- The layout that a text writes: a fill character and an alignment, a width, which after a zero fills
with zeros, a precision, and perhaps the letter `s`. -/
def Layout.ofChars? (cs : List Char) : Option Layout := do
  let (fill, alignment, cs) := leadingAlignment cs
  let (fill, cs) := match fill, cs with
    | none, '0' :: rest => ('0', rest)
    | fill, cs => (fill.getD ' ', cs)
  let (width, cs) ← leadingSize? cs
  let (precision, cs) ← leadingPrecision? cs
  if cs = [] || cs = ['s'] then return ⟨fill, alignment.getD .left, width, precision⟩ else none

/-- A text in a layout. -/
def Layout.apply (layout : Layout) (cs : List Char) : List Char :=
  let cs := match layout.precision with
    | some n => cs.take n
    | none => cs
  let spare := layout.width - cs.length
  let before := match layout.alignment with
    | .left => 0
    | .right => spare
    | .center => spare / 2
  List.replicate before layout.fill ++ cs ++ List.replicate (spare - before) layout.fill

/-! ### Filling holes -/

/-- A text with every character beyond ASCII written by its number. -/
def inAscii (cs : List Char) : List Char :=
  cs.flatMap fun c =>
    let n := c.toNat
    if n < 0x80 then [c]
    else if n < 0x100 then '\\' :: 'x' :: hexDigits 2 n
    else if n < 0x10000 then '\\' :: 'u' :: hexDigits 4 n
    else '\\' :: 'U' :: hexDigits 8 n

/-- A facet as a conversion gives it: as it is, shown, quoted, or quoted in ASCII. -/
def converted? (conversion : Option Char) (facet : Facet) : Option Facet :=
  match conversion with
  | none => some facet
  | some 's' => some (.text facet.shown)
  | some 'r' => some (.text facet.quoted)
  | some 'a' => some (.text (inAscii facet.quoted))
  | some _ => none

/-- A character that ends no name: neither a point nor an opening bracket. -/
def isNameChar (c : Char) : Bool :=
  c != '.' && c != '['

/-- What a run of names after points and of indices in brackets selects. -/
def selected? (facet : Facet) : List Char → Option Facet
  | [] => some facet
  | '[' :: rest =>
    match _h : rest.dropWhile (· != ']') with
    | [] => none
    | _ :: after => do
      let facet ← facet.item? (rest.takeWhile (· != ']'))
      selected? facet after
  | '.' :: rest => do
    let facet ← facet.attribute? (String.ofList (rest.takeWhile isNameChar))
    selected? facet (rest.dropWhile isNameChar)
  | _ => none
termination_by cs => cs.length
decreasing_by
  · have := congrArg List.length _h
    have := (List.dropWhile_sublist (l := rest) (· != ']')).length_le
    simp only [List.length_cons] at *
    omega
  · have := (List.dropWhile_sublist (l := rest) isNameChar).length_le
    simp only [List.length_cons]
    omega

/-- What a name stands for: the value of the name up to the first point or bracket, and what follows
selects from it. An unknown name stands for itself in braces; a name of digits, or none, stands for
nothing. -/
def named? (values : String → Option String) (name : List Char) : Option Facet :=
  let first := name.takeWhile isNameChar
  if first.all isDecimal then none
  else
    let text := match values (String.ofList first) with
      | some text => text.toList
      | none => '\x7b' :: first ++ ['\x7d']
    selected? (.text text) (name.dropWhile isNameChar)

/-- A facet in the layout that a text writes. Only a text can be laid out; without a layout every facet
is shown. -/
def laidOut? (facet : Facet) (layout : List Char) : Option (List Char) :=
  if layout.isEmpty then some facet.shown
  else match facet with
    | .text cs => (Layout.ofChars? layout).map (·.apply cs)
    | _ => none

/-- The template with its holes filled; layouts may have holes themselves, as far down as the depth
allows. -/
def fill? (values : String → Option String) : Nat → List Char → Option (List Char)
  | 0, _ => none
  | depth + 1, template => do
    let pieces ← piecesOf? template
    let parts ← pieces.mapM fun
      | .literal c => some [c]
      | .hole name conversion layout => do
        let facet ← named? values name
        let facet ← converted? conversion facet
        let layout ← if layout.contains '\x7b' then fill? values depth layout else some layout
        laidOut? facet layout
    return parts.flatten

/-- How deep holes may be nested. -/
def nestingDepth : Nat := 2

/-- The template with every hole filled at once; one that cannot be filled is taken as it stands. -/
def fillTemplate (values : String → Option String) (template : String) : String :=
  match fill? values nestingDepth template.toList with
  | some cs => String.ofList cs
  | none => template

end FormCheck.Message
