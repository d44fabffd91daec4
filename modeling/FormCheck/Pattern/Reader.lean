import FormCheck.Text.Blank
import FormCheck.Text.CharacterName
import FormCheck.Text.Cut
import FormCheck.Text.Word
import FormCheck.Pattern.Width

/-!
# Reading patterns

* `Pattern.Source` — the rest of a text that is being read as a regular expression, with what is known of
  its groups;
* `Pattern.joinAlternatives` — alternatives with their common beginning in front of them, and single
  characters among them as one set;
* `Pattern.alternatives`, `Pattern.sequence` — the grammar: parts one after the other, and alternatives of
  them;
* `Pattern.ofText` — the pattern that a text writes.

The text is read in tokens, a backslash together with the character after it. A backslash with nothing
after it is met as soon as the token before it is taken.
-/

namespace FormCheck

open FormCheck.Text FormCheck.Number

namespace Pattern

/-! ### Tokens -/

/-- A character, or an escaped one. -/
inductive Token where
  | plain (c : Char)
  | escaped (c : Char)
deriving DecidableEq, Repr

/-- The token as it stands in the text. -/
def Token.chars : Token → List Char
  | .plain c => [c]
  | .escaped c => ['\\', c]

/-- The token's text. -/
def Token.text (t : Token) : String :=
  String.ofList t.chars

/-- What is left of a text that is being read, and what is known so far. -/
structure Source where
  position : Nat
  rest : List Char
  /-- The flags for the whole expression. -/
  flags : Flags
  /-- The numbers of the named groups. -/
  names : List (String × Nat)
  /-- For each group from number one on its width, once it is complete. -/
  widths : Array (Option (Nat × Nat))
  /-- While a part that looks behind is read: the number of groups before it. -/
  behind : Option Nat
  /-- The groups that choices ask for, each with the first place that does. -/
  asked : List (Nat × Nat)

/-- A step of reading. -/
abbrev Reading := StateT Source (Except Failure)

/-- Stops with a problem, `back` characters before the place that is reached. -/
def failBack {α : Type} (problem : Problem) (back : Nat := 0) : Reading α := do
  let s ← get
  throw (.malformed problem (some (s.position - back)))

/-- Stops with a problem at a given place. -/
def failAt {α : Type} (problem : Problem) (position : Nat) : Reading α :=
  throw (.malformed problem (some position))

/-- The token ahead. -/
def peekToken? : List Char → Option Token
  | [] => none
  | '\\' :: c :: _ => some (.escaped c)
  | c :: _ => some (.plain c)

/-- The token ahead. -/
def peek : Reading (Option Token) := do
  return peekToken? (← get).rest

/-- Goes on to a place of the text; a lone backslash there is a problem. -/
def moveTo (position : Nat) (rest : List Char) : Reading Unit := do
  if rest = ['\\'] then throw (.malformed .escapeAtEnd (some position))
  modify fun s => { s with position, rest }

/-- Takes the token ahead. -/
def take : Reading (Option Token) := do
  let s ← get
  match peekToken? s.rest with
  | none => return none
  | some t =>
    moveTo (s.position + t.chars.length) (s.rest.drop t.chars.length)
    return some t

/-- Takes a character if it is ahead. -/
def accept (c : Char) : Reading Bool := do
  if (← peek) = some (.plain c) then
    discard take
    return true
  else return false

/-- Takes at most `n` characters of a class. -/
def takeUpTo (p : Char → Bool) : Nat → Reading (List Char)
  | 0 => return []
  | n + 1 => do
    match ← peek with
    | some (.plain c) =>
      if p c then
        discard take
        return c :: (← takeUpTo p n)
      else return []
    | _ => return []

/-- The characters up to a closing one, which is taken too. -/
def takeUntil (closing : Char) (what : String) : Nat → List Char → Reading (List Char)
  | 0, _ => failBack (.missing what)
  | fuel + 1, read => do
    match ← take with
    | none =>
      if read.isEmpty then failBack (.missing what)
      else failBack (.unterminatedName closing) read.length
    | some t =>
      if t = .plain closing then
        if read.isEmpty then failBack (.missing what) 1 else return read
      else takeUntil closing what fuel (read ++ t.chars)

/-- A name up to a closing character. -/
def nameUntil (closing : Char) (what : String) : Reading String := do
  let s ← get
  return String.ofList (← takeUntil closing what (s.rest.length + 1) [])

/-! ### Escapes -/

/-- An octal digit. -/
def isOctal (c : Char) : Bool :=
  '0' ≤ c && c ≤ '7'

/-- The characters that stand for a control character after a backslash. -/
def controlEscape? : Char → Option Nat
  | 'a' => some 7
  | 'b' => some 8
  | 'f' => some 12
  | 'n' => some 10
  | 'r' => some 13
  | 't' => some 9
  | 'v' => some 11
  | '\\' => some 92
  | _ => none

/-- The named classes. -/
def categoryEscape? : Char → Option SetItem
  | 'd' => some (.category .digit false)
  | 'D' => some (.category .digit true)
  | 's' => some (.category .space false)
  | 'S' => some (.category .space true)
  | 'w' => some (.category .word false)
  | 'W' => some (.category .word true)
  | _ => none

/-- A character given by exactly `width` hexadecimal digits after the letter of its escape. -/
def hexEscape (letter : Char) (width : Nat) : Reading Nat := do
  let digits ← takeUpTo isHexDigit width
  let text := String.ofList ('\\' :: letter :: digits)
  if digits.length ≠ width then failBack (.incompleteEscape text) text.length
  let code := valueIn 16 digits
  if 0x10FFFF < code then failBack (.badEscape text) text.length
  return code

/-- A character given by its name. -/
def namedEscape : Reading Nat := do
  unless ← accept '\x7b' do failBack (.missing "\x7b")
  let name ← nameUntil '\x7d' "character name"
  match characterNamed? name with
  | some code => return code
  | none => failBack (.unknownCharacter name) (name.length + 4)

/-- A character escaped by a letter that takes more after it, if `c` is such a letter. -/
def longEscape? (c : Char) : Option (Reading Nat) :=
  match c with
  | 'x' => some (hexEscape 'x' 2)
  | 'u' => some (hexEscape 'u' 4)
  | 'U' => some (hexEscape 'U' 8)
  | 'N' => some namedEscape
  | _ => none

/-- A character given by octal digits, at most 0o377. -/
def octalCode (text : List Char) : Reading Nat := do
  let code := valueIn 8 (text.drop 1)
  if 0o377 < code then failBack (.octalTooLarge (String.ofList text)) text.length
  return code

/-- An escaped character that stands for itself: neither a letter nor a digit of ASCII. -/
def plainEscape (c : Char) : Reading Nat := do
  if c.isAlphanum then failBack (.badEscape (Token.escaped c).text) 2
  return c.toNat

/-- What an escape stands for within a set. -/
def setEscape (c : Char) : Reading SetItem := do
  match controlEscape? c, categoryEscape? c, longEscape? c with
  | some code, _, _ => return .single code
  | _, some item, _ => return item
  | _, _, some long => return .single (← long)
  | _, _, _ =>
    if isOctal c then
      let more ← takeUpTo isOctal 2
      return .single (← octalCode ('\\' :: c :: more))
    else return .single (← plainEscape c)

/-! ### Groups -/

/-- A group by its number is complete. -/
def Source.isComplete (s : Source) (number : Nat) : Bool :=
  1 ≤ number && (s.widths[number - 1]?.join).isSome

/-- While looking behind, only groups from before may be asked for. -/
def checkBehind (number : Nat) : Reading Unit := do
  let s ← get
  match s.behind with
  | none => return ()
  | some groups =>
    unless s.isComplete number do failBack .openGroup
    if groups ≤ number then failBack .groupInLookbehind

/-- The group of the given number once more; `back` is the length of what names it. -/
def againGroup (flags : Flags) (number back : Nat) : Reading Node := do
  let s ← get
  unless s.isComplete number do failBack .openGroup back
  checkBehind number
  return .again number flags.fold

/-- The number of groups, the whole expression counted as one. -/
def Source.groups (s : Source) : Nat :=
  s.widths.size + 1

/-- An escape that begins with a digit other than zero: three octal digits, or a group's number. -/
def digitEscape (flags : Flags) (c : Char) : Reading Node := do
  let second ← takeUpTo Char.isDigit 1
  let text := c :: second
  let third ←
    if second.length = 1 && text.all isOctal then takeUpTo isOctal 1 else pure []
  if third.length = 1 then
    return .literal (← octalCode ('\\' :: text ++ third)) flags.fold
  let number := valueIn 10 text
  if number < (← get).groups then againGroup flags number (text.length + 1)
  else failBack (.noSuchGroup number) text.length

/-- What an escape stands for outside sets. -/
def escape (flags : Flags) (c : Char) : Reading Node := do
  match c with
  | 'A' => return .anchor .textStart
  | 'Z' => return .anchor .textEnd
  | 'b' => return .anchor (.wordEdge flags.ascii)
  | 'B' => return .anchor (.noWordEdge flags.ascii)
  | _ =>
    match categoryEscape? c, controlEscape? c, longEscape? c with
    | some item, _, _ => return .set false [item] flags.fold flags.ascii
    | _, some code, _ => return .literal code flags.fold
    | _, _, some long => return .literal (← long) flags.fold
    | _, _, _ =>
      if c = '0' then
        let more ← takeUpTo isOctal 2
        return .literal (valueIn 8 more) flags.fold
      else if c.isDigit then digitEscape flags c
      else return .literal (← plainEscape c) flags.fold

/-! ### Sets -/

/-- A token of a set. -/
def setItem (t : Token) : Reading SetItem :=
  match t with
  | .escaped c => setEscape c
  | .plain c => return .single c.toNat

/-- The range between two members of a set. -/
def setRange (low high : Token) (lowItem highItem : SetItem) : Reading SetItem := do
  let back := low.chars.length + 1 + high.chars.length
  match lowItem, highItem with
  | .single a, .single b =>
    if b < a then failBack (.badRange low.text high.text) back else return .range a b
  | _, _ => failBack (.badRange low.text high.text) back

/-- The members of a set up to its closing bracket. -/
def setItems (start : Nat) : Nat → List SetItem → Reading (List SetItem)
  | 0, _ => failAt .openSet start
  | fuel + 1, items => do
    match ← take with
    | none => failAt .openSet start
    | some low =>
      if low = .plain ']' && !items.isEmpty then return items
      let lowItem ← setItem low
      if ← accept '-' then
        match ← take with
        | none => failAt .openSet start
        | some high =>
          if high = .plain ']' then return items ++ [lowItem, .single '-'.toNat]
          let highItem ← setItem high
          let range ← setRange low high lowItem highItem
          setItems start fuel (items ++ [range])
      else setItems start fuel (items ++ [lowItem])

/-- A set, its opening bracket taken. A set of one character is that character. -/
def characterSet (flags : Flags) : Reading Node := do
  let s ← get
  let start := s.position - 1
  let negated ← accept '^'
  let items ← setItems start (s.rest.length + 1) []
  match items.eraseDups with
  | [.single code] =>
    return if negated then .otherThan code flags.fold else .literal code flags.fold
  | items => return .set negated items flags.fold flags.ascii

/-! ### Repetitions -/

/-- Numbers of repetitions from here on cannot be counted to. -/
def repetitionLimit : Nat := 0xffffffff

/-- The number of repetitions that digits write, if there are any. -/
def repetitionCount (digits : List Char) : Reading (Option Nat) := do
  if digits.isEmpty then return none
  if readLimit < digits.length then throw (.longNumeral digits.length)
  let n := valueIn 10 digits
  if repetitionLimit ≤ n then throw .tooManyRepetitions
  return some n

/-- The bounds in braces, the opening brace taken; nothing when it is an ordinary character, and then
nothing more is taken. -/
def braces : Reading (Option (Nat × Option Nat)) := do
  let s ← get
  if (← peek) = some (.plain '\x7d') then return none
  let low ← takeUpTo Char.isDigit s.rest.length
  let high ← if ← accept ',' then takeUpTo Char.isDigit s.rest.length else pure low
  if ← accept '\x7d' then
    let least ← repetitionCount low
    let most ← repetitionCount high
    let least := least.getD 0
    match most with
    | some n => if n < least then failAt .leastAboveMost s.position
    | none => pure ()
    return some (least, most)
  else
    moveTo s.position s.rest
    return none

/-- How greedy a repetition is, by the sign after its bounds. -/
def greedOf : Reading Greed := do
  if ← accept '?' then return .least
  if ← accept '+' then return .onlyMost
  return .most

/-- The last part, repeated. `start` is the position of the sign of repetition. -/
def repeatLast (start least : Nat) (most : Option Nat) : List Node → Reading (List Node)
  | [] => failAt .nothingToRepeat start
  | last :: before => do
    if last.isAnchor then failAt .nothingToRepeat start
    if last.isRepetition then failAt .doubleRepeat start
    let greed ← greedOf
    return .repetition greed least most last.unwrapped :: before

/-! ### Flags in the text -/

/-- A problem with a letter that is no flag. -/
def badFlag {α : Type} (t : Token) (what : String) : Reading α :=
  match t with
  | .plain c => failBack (if isLetter c then .unknownFlag else .missing what) 1
  | .escaped _ => failBack (.missing what) 2

/-- The flag that a token names. -/
def flagOf? : Token → Option Flags
  | .plain c => Flags.ofLetter? c
  | .escaped _ => none

/-- Flags that are turned on, from the first letter on, and the character that ends them. -/
def flagsOn (on : Flags) (letter : Token) : Nat → Reading (Flags × Char)
  | 0 => failBack (.missing "-, : or )")
  | fuel + 1 => do
    match flagOf? letter with
    | none => badFlag letter "-, : or )"
    | some flag =>
      if flag.locale then failBack .localeFlag
      let on := on.union flag
      unless (flag.inter .alphabet).isNone || on.inter .alphabet == flag do failBack .alphabetsClash
      match ← take with
      | none => failBack (.missing "-, : or )")
      | some (.plain ')') => return (on, ')')
      | some (.plain '-') => return (on, '-')
      | some (.plain ':') => return (on, ':')
      | some t => flagsOn on t fuel

/-- Flags that are turned off, from the first letter on, up to the colon. -/
def flagsOff (off : Flags) (letter : Token) (what : String) : Nat → Reading Flags
  | 0 => failBack (.missing ":")
  | fuel + 1 => do
    match flagOf? letter with
    | none => badFlag letter what
    | some flag =>
      unless (flag.inter .alphabet).isNone do failBack .alphabetOff
      let off := off.union flag
      match ← take with
      | none => failBack (.missing ":")
      | some (.plain ':') => return off
      | some t => flagsOff off t ":" fuel

/-- Flags in the text, from their first character on: those turned on and off inside a group, or nothing
when they are for the whole expression. -/
def readFlags (first : Token) : Reading (Option (Flags × Flags)) := do
  let fuel := (← get).rest.length + 1
  let (on, closing) ←
    if first = .plain '-' then pure (({} : Flags), '-') else flagsOn {} first fuel
  if closing = ')' then
    modify fun s => { s with flags := s.flags.union on }
    return none
  if on.template then failBack .globalFlagOn 1
  let off ←
    if closing = '-' then
      match ← take with
      | none => failBack (.missing "flag")
      | some t => flagsOff {} t "flag" fuel
    else pure {}
  if off.template then failBack .globalFlagOff 1
  unless (on.inter off).isNone do failBack .flagOnAndOff 1
  return some (on, off)

/-! ### Alternatives -/

/-- The number of parts at the beginning of the first alternative with which all others begin too. -/
def commonLength : List Node → List (List Node) → Nat
  | [], _ => 0
  | n :: rest, others =>
    if others.all fun other => other.head?.any n.isLike then
      commonLength rest (others.map List.tail) + 1
    else 0

/-- The members of a set that a part stands for, if it matches one of some characters. -/
def memberItems? : List Node → Option (List SetItem)
  | [.literal code _] => some [.single code]
  | [.set false items _ _] => some items
  | _ => none

/-- Alternatives as parts: their common beginning comes first, and if only single characters are left of
each they form one set. -/
def joinAlternatives (flags : Flags) (alternatives : List (List Node)) : List Node :=
  match alternatives with
  | [] => []
  | first :: others =>
    let common := commonLength first others
    let left := alternatives.map (·.drop common)
    first.take common ++
      match left.mapM memberItems? with
      | some items => [.set false items.flatten.eraseDups flags.fold flags.ascii]
      | none => [.branch left]

/-! ### The grammar -/

/-- Opens a group that keeps what it matches, under a name if it has one. -/
def openGroup (name : Option String) : Reading Nat := do
  let s ← get
  let number := s.groups
  set { s with widths := s.widths.push none }
  match name with
  | none => return number
  | some name =>
    match s.names.find? (·.1 == name) with
    | some (_, earlier) => failBack (.repeatedName name number earlier) (name.length + 1)
    | none =>
      modify fun s => { s with names := s.names ++ [(name, number)] }
      return number

/-- Notes the width of a group that is complete. -/
def closeGroup (number : Nat) (body : List Node) : Reading Unit :=
  modify fun s => { s with widths := s.widths.set! (number - 1) (some (widthOf s.widths body)) }

/-- The number that the name of a group in a choice writes, if it writes one that is not below zero. -/
def choiceNumber? (name : String) : Option Nat := do
  let numeral ← LooseNumeral.ofChars? name.toList
  if readLimit < numeral.digits.length then none
  else match numeral.value with
    | .ofNat n => some n
    | .negSucc _ => none

/-- The group that a choice depends on. -/
def choiceGroup : Reading Nat := do
  let name ← nameUntil ')' "group name"
  let s ← get
  let back := name.length + 1
  if isIdentifier name.toList then
    match s.names.find? (·.1 == name) with
    | some (_, number) => return number
    | none => failBack (.unknownName name) back
  else
    match choiceNumber? name with
    | none => failBack (.badName name) back
    | some number =>
      if number = 0 then failBack .groupZero back
      if 1073741823 ≤ number then failBack (.noSuchGroup number) back
      unless s.asked.any (·.1 == number) do
        set { s with asked := s.asked ++ [(number, s.position - back)] }
      return number

/-- The name of a group up to a closing character, which has to be an identifier. -/
def groupName (closing : Char) : Reading String := do
  let name ← nameUntil closing "group name"
  unless isIdentifier name.toList do failBack (.badName name) (name.length + 1)
  return name

/-- Closes a group that was opened at `start`. -/
def closeParenthesis (start : Nat) : Reading Unit := do
  unless ← accept ')' do failAt .openGroupText start

/-- The rest of a comment that was opened at `start`, of at most so many tokens. -/
def skipCommentUpTo (start : Nat) : Nat → Reading Unit
  | 0 => failAt .openComment start
  | fuel + 1 => do
    match ← take with
    | none => failAt .openComment start
    | some t => unless t = .plain ')' do skipCommentUpTo start fuel

/-- The rest of a comment that was opened at `start`. -/
def skipComment (start : Nat) : Reading Unit := do
  skipCommentUpTo start ((← get).rest.length + 1)

/-- The rest of a line, of at most so many tokens. -/
def skipLineUpTo : Nat → Reading Unit
  | 0 => return ()
  | fuel + 1 => do
    match ← take with
    | none => return ()
    | some t => unless t = .plain '\n' do skipLineUpTo fuel

/-- The rest of a line. -/
def skipLine : Reading Unit := do
  skipLineUpTo ((← get).rest.length + 1)

mutual

/-- Alternatives up to a closing parenthesis or the end; `outer` for the whole expression. -/
def alternatives (flags : Flags) (outer : Bool) : Nat → Reading (List Node)
  | 0 => return []
  | fuel + 1 => do
    let first ← sequence flags outer [] fuel
    let rest ← moreAlternatives flags outer fuel
    if rest.isEmpty then return first
    let s ← get
    let flags := if outer then s.flags else flags
    return joinAlternatives flags (first :: rest)

/-- Further alternatives. -/
def moreAlternatives (flags : Flags) (outer : Bool) : Nat → Reading (List (List Node))
  | 0 => return []
  | fuel + 1 => do
    if ← accept '|' then
      let s ← get
      let flags := if outer then s.flags else flags
      let body ← sequence flags false [] fuel
      return body :: (← moreAlternatives flags outer fuel)
    else return []

/-- Parts one after the other, those before them given last first; `first` where flags for the whole
expression may stand. -/
def sequence (flags : Flags) (first : Bool) (before : List Node) : Nat → Reading (List Node)
  | 0 => return before.reverse
  | fuel + 1 => do
    let start := (← get).position
    let next ← peek
    if next = none || next = some (.plain '|') || next = some (.plain ')') then
      return before.reverse.flatMap Node.unwrapped
    match ← take with
    | none => return before.reverse
    | some (.escaped c) =>
      let node ← escape flags c
      sequence flags first (node :: before) fuel
    | some (.plain c) =>
      if flags.verbose && isLayout c then sequence flags first before fuel
      else if flags.verbose && c = '#' then do
        skipLine
        sequence flags first before fuel
      else match c with
      | '[' => do
        let node ← characterSet flags
        sequence flags first (node :: before) fuel
      | '.' => sequence flags first (.dot flags.dotAll :: before) fuel
      | '^' =>
        sequence flags first
          (.anchor (if flags.multiline then .lineStart else .textStart) :: before) fuel
      | '$' =>
        sequence flags first
          (.anchor (if flags.multiline then .lineEnd else .lastLineEnd) :: before) fuel
      | '?' => do sequence flags first (← repeatLast start 0 (some 1) before) fuel
      | '*' => do sequence flags first (← repeatLast start 0 none before) fuel
      | '+' => do sequence flags first (← repeatLast start 1 none before) fuel
      | '\x7b' => do
        match ← braces with
        | none => sequence flags first (.literal c.toNat flags.fold :: before) fuel
        | some (least, most) =>
          sequence flags first (← repeatLast start least most before) fuel
      | '(' => do
        if ← accept '?' then
          match ← extension flags first before.isEmpty start fuel with
          | some node => sequence flags first (node :: before) fuel
          | none =>
            let s ← get
            let flags := if first && before.isEmpty then s.flags else flags
            sequence flags first before fuel
        else
          let node ← captured flags none start fuel
          sequence flags first (node :: before) fuel
      | c => sequence flags first (.literal c.toNat flags.fold :: before) fuel

/-- A group that keeps what it matches, its opening taken. -/
def captured (flags : Flags) (name : Option String) (start : Nat) : Nat → Reading Node
  | 0 => failAt .openGroupText start
  | fuel + 1 => do
    let number ← openGroup name
    let body ← alternatives flags false fuel
    closeParenthesis start
    closeGroup number body
    return .group number body

/-- A group that looks ahead or behind. -/
def looking (flags : Flags) (ahead negated : Bool) (start : Nat) : Nat → Reading Node
  | 0 => failAt .openGroupText start
  | fuel + 1 => do
    let outerBehind := (← get).behind
    if !ahead && outerBehind.isNone then
      modify fun s => { s with behind := some s.groups }
    let body ← alternatives flags false fuel
    if !ahead then modify fun s => { s with behind := outerBehind }
    closeParenthesis start
    return .look ahead negated body

/-- What follows a parenthesis and a question mark; nothing for a comment and for flags of the whole
expression. -/
def extension (flags : Flags) (first atStart : Bool) (start : Nat) : Nat → Reading (Option Node)
  | 0 => failAt .openGroupText start
  | fuel + 1 => do
    match ← take with
    | none => failBack .unexpectedEnd
    | some (.plain 'P') =>
      if ← accept '<' then
        let name ← groupName '>'
        return some (← captured flags (some name) start fuel)
      else if ← accept '=' then
        let name ← groupName ')'
        match (← get).names.find? (·.1 == name) with
        | none => failBack (.unknownName name) (name.length + 1)
        | some (_, number) => return some (← againGroup flags number (name.length + 1))
      else
        match ← take with
        | none => failBack .unexpectedEnd
        | some t => failBack (.unknownExtension ("?P" ++ t.text)) (t.chars.length + 2)
    | some (.plain ':') =>
      let body ← alternatives flags false fuel
      closeParenthesis start
      return some (.parenthesis body)
    | some (.plain '#') =>
      skipComment start
      return none
    | some (.plain '=') => return some (← looking flags true false start fuel)
    | some (.plain '!') => return some (← looking flags true true start fuel)
    | some (.plain '<') =>
      match ← take with
      | none => failBack .unexpectedEnd
      | some (.plain '=') => return some (← looking flags false false start fuel)
      | some (.plain '!') => return some (← looking flags false true start fuel)
      | some t => failBack (.unknownExtension ("?<" ++ t.text)) (t.chars.length + 2)
    | some (.plain '(') =>
      let number ← choiceGroup
      checkBehind number
      let yes ← sequence flags false [] fuel
      let no ←
        if ← accept '|' then
          let no ← sequence flags false [] fuel
          if (← peek) = some (.plain '|') then failBack .thirdBranch
          pure no
        else pure []
      closeParenthesis start
      return some (.choice number yes no)
    | some (.plain '>') =>
      let body ← alternatives flags false fuel
      closeParenthesis start
      return some (.atomic body)
    | some t =>
      if (flagOf? t).isSome || t = .plain '-' then
        match ← readFlags t with
        | none =>
          if !first || !atStart then failAt .flagsNotFirst start
          return none
        | some (on, off) =>
          let body ← alternatives (flags.change on off) false fuel
          closeParenthesis start
          return some (.flagged body)
      else failBack (.unknownExtension ("?" ++ t.text)) (t.chars.length + 1)

end

/-- The whole expression: its parts, and the width of each group. -/
def expression (fuel : Nat) : Reading (List Node) := do
  let s ← get
  moveTo s.position s.rest
  let body ← alternatives {} true fuel
  let s ← get
  if s.flags.ascii && s.flags.unicode then throw .twoAlphabets
  if !s.rest.isEmpty then failBack .unbalanced
  match s.asked.find? (s.groups ≤ ·.1) with
  | some (number, position) => failAt (.noSuchGroup number) position
  | none =>
    match checkLookbehinds s.flags.template s.widths body with
    | some problem => throw (.malformed problem none)
    | none =>
      if looksTooFar s.widths body then throw .tooFarBehind
      return body

end Pattern

/-- A regular expression with the text that writes it. -/
structure Pattern where
  source : String
  /-- The flags for the whole expression. -/
  flags : Pattern.Flags
  body : List Pattern.Node
  /-- The widths of its groups. -/
  groupWidths : Array (Option (Nat × Nat))

/-- The pattern that a text writes. -/
def Pattern.ofText (text : String) : Except Pattern.Failure Pattern := do
  let cs := text.toList
  let (body, s) ← (Pattern.expression (4 * cs.length + 8)).run ⟨0, cs, {}, [], #[], none, []⟩
  return ⟨text, s.flags, body, s.widths⟩

end FormCheck
