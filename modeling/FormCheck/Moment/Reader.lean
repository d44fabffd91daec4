import FormCheck.Text.Cut
import FormCheck.Number.Decimal
import FormCheck.Moment.Basic
import FormCheck.Moment.Token

/-!
# Reading moments from text

* `Moment.Parts` — the parts of a moment that a text has given so far;
* `Moment.DayParts` — the numbers for year, month and day, in the order of the text, and which is which
  where the text says so;
* `Moment.ofText?` — the moment that a text writes in one of many forms. Parts that are not given are those
  of `Moment.reference`, and years of two digits are those nearest to it.
-/

namespace FormCheck.Moment

open FormCheck.Text

/-- Why reading stops: the text is no moment, or a number in it needs more digits than are kept. -/
inductive Stop where
  | unreadable
  | inexact
deriving DecidableEq, Repr

/-- A step of reading. -/
abbrev Reads := Except Stop

/-- The moment that lends its parts to what a text leaves out. -/
def reference : Moment := ⟨2024, 6, 15, 0, 0, 0, 0, .none⟩

/-! ### Numbers for the day -/

/-- The numbers for year, month and day in the order of the text. -/
structure DayParts where
  numbers : List Nat
  /-- Some year was given with its century. -/
  century : Bool
  yearAt : Option Nat
  monthAt : Option Nat

namespace DayParts

/-- What a number is known to be. -/
inductive Role where
  | unknown
  | year
  | month
deriving DecidableEq, Repr

/-- One more number; a number with its century is a year. -/
def push (d : DayParts) (n : Nat) (withCentury : Bool) (role : Role) : Reads DayParts := do
  if withCentury && role = .month then throw .unreadable
  let role := if withCentury then .year else role
  let place := d.numbers.length
  let d := { d with numbers := d.numbers ++ [n], century := d.century || withCentury }
  match role with
  | .unknown => return d
  | .month => if d.monthAt.isSome then throw .unreadable else return { d with monthAt := some place }
  | .year => if d.yearAt.isSome then throw .unreadable else return { d with yearAt := some place }

/-- The whole number that digits write. -/
def readWhole (token : List Char) : Reads Nat :=
  if !token.isEmpty && token.all isDecimal && token.length ≤ Number.readLimit then
    .ok (decimalValue token)
  else .error .unreadable

/-- One more number, given by its digits; more than two of them give the century. -/
def pushDigits (d : DayParts) (token : List Char) (role : Role := .unknown) : Reads DayParts := do
  d.push (← readWhole token) (token.all isDigit && 2 < token.length) role

/-- One more number, given by its value. -/
def pushValue (d : DayParts) (x : Decimal) : Reads DayParts :=
  d.push x.wholePart (100 < x.wholePart || (x.wholePart = 100 && x.remainderIsZero? ⟨false, 1, 0⟩ ≠ some true))
    .unknown

/-- The number may be the day, as far as month and year are known. -/
def mayBeDay (d : DayParts) (x : Decimal) : Bool :=
  let at? (i : Option Nat) : Option Nat := i.bind fun i => d.numbers[i]?
  let last := match at? d.monthAt, at? d.yearAt with
    | none, _ => 31
    | some month, none => daysInMonth 2000 month
    | some month, some year => daysInMonth year month
  let n := x.wholePart
  1 ≤ n && (n < last || (n = last && x.remainderIsZero? ⟨false, 1, 0⟩ = some true))

/-- Year, month and day. -/
structure Day where
  year : Option Nat
  month : Option Nat
  day : Option Nat

/-- Three numbers of which the places of year and month are known. -/
def fromPlaces (numbers : List Nat) (year month : Nat) : Day :=
  ⟨numbers[year]?, numbers[month]?, numbers[3 - year - month]?⟩

/-- Which number is what. Numbers above 31 are years; of two numbers the first is the month; of three
the order is month, day, year unless the numbers or the name of a month speak against it. -/
def resolve (d : DayParts) : Reads Day :=
  match d.numbers, d.monthAt, d.yearAt with
  | [], _, _ => .ok ⟨none, none, none⟩
  | [_, _, _], some month, some year => .ok (fromPlaces d.numbers year month)
  | [a, b], some 0, some _ => .ok ⟨some b, some a, none⟩
  | [a, b], some _, some _ => .ok ⟨some a, some b, none⟩
  | [a], some _, _ => .ok ⟨none, some a, none⟩
  | [a], none, some _ => .ok ⟨some a, none, none⟩
  | [a], none, none => .ok (if 31 < a then ⟨some a, none, none⟩ else ⟨none, none, some a⟩)
  | [a, b], some 0, none => .ok (if 31 < b then ⟨some b, some a, none⟩ else ⟨none, some a, some b⟩)
  | [a, b], some _, none => .ok (if 31 < a then ⟨some a, some b, none⟩ else ⟨none, some b, some a⟩)
  | [a, b], none, _ =>
    .ok (if 31 < a then ⟨some a, some b, none⟩
      else if 31 < b then ⟨some b, some a, none⟩
      else ⟨none, some a, some b⟩)
  | [a, b, c], some 0, none =>
    .ok (if 31 < b then ⟨some b, some a, some c⟩ else ⟨some c, some a, some b⟩)
  | [a, b, c], some 1, none =>
    .ok (if 31 < a then ⟨some a, some b, some c⟩ else ⟨some c, some b, some a⟩)
  | [a, b, c], some _, none =>
    .ok (if 31 < b then ⟨some b, some c, some a⟩ else ⟨some a, some c, some b⟩)
  | [a, b, c], none, yearAt =>
    .ok (if 31 < a || yearAt = some 0 then ⟨some a, some b, some c⟩
      else if 12 < a then ⟨some c, some b, some a⟩
      else ⟨some c, some a, some b⟩)
  | _, _, _ => .error .unreadable

end DayParts

/-! ### Parts of a moment -/

/-- The parts of a moment that a text has given so far. -/
structure Parts where
  tokens : Array (List Char)
  days : DayParts
  weekday : Option Nat
  hour : Option Nat
  minute : Option Nat
  second : Option Nat
  microsecond : Option Nat
  zoneName : Option (List Char)
  offset : Option Int

namespace Parts

/-- The token at a place; there has to be one. -/
def token (p : Parts) (i : Nat) : Reads (List Char) :=
  match p.tokens[i]? with
  | some t => .ok t
  | none => .error .unreadable

/-- The token at a place is the given character. -/
def isAt (p : Parts) (i : Nat) (c : Char) : Bool :=
  p.tokens[i]? == some [c]

/-- A word at a place. -/
def wordAt? {α : Type} (p : Parts) (i : Nat) (word? : List Char → Option α) : Option α :=
  p.tokens[i]?.bind word?

end Parts

/-- The token is a number, or the name of one that is not finite. -/
def isNumber (token : List Char) : Bool :=
  (Binary64.ofText? (String.ofList token)).isSome

/-- The number that a token writes. -/
def decimalOf (token : List Char) : Reads Decimal :=
  match Decimal.ofChars? token with
  | some x => .ok x
  | none => .error .unreadable

/-- What a number leaves above its whole part. -/
def fractionOf (x : Decimal) : Reads Decimal :=
  match x.fractionPart? with
  | some f => .ok f
  | none => .error .inexact

/-- Minutes, and the seconds in their fraction if they have one. -/
def minuteParts (x : Decimal) : Reads (Nat × Option Nat) := do
  let f ← fractionOf x
  return (x.wholePart, if f.isZero then none else some f.sixtyTimes.wholePart)

/-- Seconds, and the microseconds in their fraction. -/
def secondParts (token : List Char) : Reads (Nat × Nat) := do
  match cutAt '.' token with
  | [whole] => return (← DayParts.readWhole whole, 0)
  | [whole, fraction] =>
    let digits := (fraction ++ List.replicate (6 - fraction.length) '0').take 6
    return (← DayParts.readWhole whole, ← DayParts.readWhole digits)
  | _ => throw .unreadable

/-- The hour of a half of the day, on a clock of twelve hours. -/
def hourInHalf (hour half : Nat) : Nat :=
  if hour < 12 && half = 1 then hour + 12
  else if hour = 12 && half = 0 then 0
  else hour

/-- Where the unit of the number at a place stands: after it, after a blank, before it, or at the very end
before a blank. -/
def unitPlace? (p : Parts) (i : Nat) : Option Nat :=
  let has (j : Nat) : Bool := (p.wordAt? j unit?).isSome
  if has (i + 1) then some (i + 1)
  else if p.isAt (i + 1) ' ' && has (i + 2) then some (i + 2)
  else if 0 < i && has (i - 1) then some (i - 1)
  else if 1 < i && i + 1 = p.tokens.size && p.isAt (i - 1) ' ' && has (i - 2) then some (i - 2)
  else none

/-- A number with its unit. -/
def assignUnit (p : Parts) (token : List Char) (unit : Nat) : Reads Parts := do
  let x ← decimalOf token
  match unit with
  | 0 =>
    let f ← fractionOf x
    let p := { p with hour := some x.wholePart }
    return if f.isZero then p else { p with minute := some f.sixtyTimes.wholePart }
  | 1 =>
    let (minute, second) ← minuteParts x
    return { p with minute := some minute, second }
  | 2 =>
    let (second, microsecond) ← secondParts token
    return { p with second := some second, microsecond := some microsecond }
  | _ => return p

/-- A time with colons, whose hour stands at a place; the last place that belongs to it. -/
def readClock (p : Parts) (i : Nat) (x : Decimal) : Reads (Parts × Nat) := do
  let (minute, second) ← minuteParts (← decimalOf (← p.token (i + 2)))
  let p := { p with hour := some x.wholePart, minute := some minute, second }
  if p.isAt (i + 3) ':' && i + 4 < p.tokens.size then
    let (second, microsecond) ← secondParts (← p.token (i + 4))
    return ({ p with second := some second, microsecond := some microsecond }, i + 4)
  else return (p, i + 2)

/-- A date with separators, whose first number stands at a place; the last place that belongs to it. -/
def readDashed (p : Parts) (i : Nat) (token : List Char) : Reads (Parts × Nat) := do
  let separator ← p.token (i + 1)
  let days ← p.days.pushDigits token
  match p.tokens[i + 2]? with
  | none => return ({ p with days }, i + 1)
  | some second =>
    if isFiller second then return ({ p with days }, i + 1)
    let days ←
      if second.all isDigit then days.pushDigits second
      else match month? second with
        | some month => days.push month false .month
        | none => throw .unreadable
    if p.tokens[i + 3]? == some separator then
      let third ← p.token (i + 4)
      let days ← match month? third with
        | some month => days.push month false .month
        | none => days.pushDigits third
      return ({ p with days }, i + 4)
    else return ({ p with days }, i + 2)

/-- A number in the text; the last place that belongs to what it begins. -/
def readNumber (p : Parts) (i : Nat) (token : List Char) : Reads (Parts × Nat) := do
  let x ← decimalOf token
  let size := token.length
  let part (low width : Nat) : Reads Nat := DayParts.readWhole ((token.drop low).take width)
  let atEnd := p.tokens.size ≤ i + 1
  if p.days.numbers.length = 3 && (size = 2 || size = 4) && p.hour.isNone
      && (atEnd || (!p.isAt (i + 1) ':' && (p.wordAt? (i + 1) unit?).isNone)) then
    let p := { p with hour := some (← part 0 2) }
    if size = 4 then return ({ p with minute := some (← part 2 2) }, i) else return (p, i)
  else if size = 6 || (6 < size && token.findIdx? (· == '.') = some 6) then
    if p.days.numbers.isEmpty && !token.contains '.' then
      let days ← p.days.pushDigits (token.take 2)
      let days ← days.pushDigits ((token.drop 2).take 2)
      let days ← days.pushDigits (token.drop 4)
      return ({ p with days }, i)
    else
      let hour ← part 0 2
      let minute ← part 2 2
      let (second, microsecond) ← secondParts (token.drop 4)
      return ({ p with hour := some hour, minute := some minute, second := some second,
                       microsecond := some microsecond }, i)
  else if size = 8 || size = 12 || size = 14 then
    let days ← p.days.pushDigits (token.take 4) .year
    let days ← days.pushDigits ((token.drop 4).take 2)
    let days ← days.pushDigits ((token.drop 6).take 2)
    let p := { p with days }
    if size = 8 then return (p, i)
    let hour ← part 8 2
    let minute ← part 10 2
    let p := { p with hour := some hour, minute := some minute }
    if size = 12 then return (p, i)
    return ({ p with second := some (← part 12 2) }, i)
  else match unitPlace? p i with
    | some place =>
      let unit := (p.wordAt? place unit?).getD 0
      if i < place then return (← assignUnit p token unit, place)
      else return (← assignUnit p token (unit + 1), i)
    | none =>
      if p.isAt (i + 1) ':' && i + 2 < p.tokens.size then readClock p i x
      else if p.isAt (i + 1) '-' || p.isAt (i + 1) '/' || p.isAt (i + 1) '.' then
        readDashed p i token
      else if atEnd || (p.tokens[i + 1]?.map isFiller).getD false then
        match p.wordAt? (i + 2) half? with
        | some half => return ({ p with hour := some (hourInHalf x.wholePart half) }, i + 2)
        | none => return ({ p with days := ← p.days.pushValue x }, i + 1)
      else match p.wordAt? (i + 1) half? with
        | some half =>
          if x.wholePart < 24 then
            return ({ p with hour := some (hourInHalf x.wholePart half) }, i + 1)
          else if p.days.mayBeDay x then return ({ p with days := ← p.days.pushValue x }, i)
          else throw .unreadable
        | none =>
          if p.days.mayBeDay x then return ({ p with days := ← p.days.pushValue x }, i)
          else throw .unreadable

/-- A year of two digits in the century that brings it within fifty years of the reference. -/
def fullYear (year : Nat) (century : Bool) : Nat :=
  if year < 100 && !century then
    let y := 2000 + year
    if reference.year + 50 ≤ y then y - 100
    else if y < reference.year - 50 then y + 100
    else y
  else year

/-- The name of a month in the text; the last place that belongs to what it begins. -/
def readMonth (p : Parts) (i month : Nat) : Reads (Parts × Nat) := do
  let days ← p.days.push month false .month
  let dashed := p.isAt (i + 1) '-' || p.isAt (i + 1) '/'
  if dashed then
    let days ← days.pushDigits (← p.token (i + 2))
    if (p.tokens[i + 3]?).isSome && p.tokens[i + 3]? == p.tokens[i + 1]? then
      let days ← days.pushDigits (← p.token (i + 4))
      return ({ p with days }, i + 4)
    else return ({ p with days }, i + 2)
  else if i + 4 < p.tokens.size && p.isAt (i + 1) ' ' && p.isAt (i + 3) ' '
      && (p.tokens[i + 2]?.map (lowered · == "of")).getD false then
    let year ← p.token (i + 4)
    if year.all isDigit then
      let full := Number.natDigits (fullYear (← DayParts.readWhole year) false)
      return ({ p with days := ← days.pushDigits full .year }, i + 4)
    else return ({ p with days }, i + 4)
  else return ({ p with days }, i)

/-- The token may be the name of a zone: an hour and no zone has been given, and it is at most five capitals
of ASCII, or the letter z. -/
def mayBeZone (p : Parts) (offset : Option Int) (token : List Char) : Bool :=
  p.hour.isSome && p.zoneName.isNone && offset.isNone && token.length ≤ 5
    && (token.all (fun c => 'A' ≤ c && c ≤ 'Z') || token == ['z'])

/-- The name of a zone. With a sign after it, the offset that follows counts the other way round, and
universal time is not the zone meant. -/
def readZoneName (p : Parts) (i : Nat) (token : List Char) : Parts :=
  let p := { p with zoneName := some token, offset := none }
  let turned (c : Char) : Parts :=
    { p with tokens := p.tokens.set! (i + 1) [c]
             zoneName := if isUniversal token then none else some token }
  if p.isAt (i + 1) '+' then turned '-'
  else if p.isAt (i + 1) '-' then turned '+'
  else p

/-- An offset in digits after its sign; the last place that belongs to it. -/
def readOffset (p : Parts) (i : Nat) (sign : Int) : Reads (Parts × Nat) := do
  let digits ← p.token (i + 1)
  let (hours, minutes, i) ←
    if digits.length = 4 then do
      pure (← DayParts.readWhole (digits.take 2), ← DayParts.readWhole (digits.drop 2), i)
    else if p.isAt (i + 2) ':' then do
      pure (← DayParts.readWhole digits, ← DayParts.readWhole (← p.token (i + 3)), i + 2)
    else if digits.length ≤ 2 then do
      pure (← DayParts.readWhole digits, 0, i)
    else throw .unreadable
  let p := { p with offset := some (sign * (hours * 3600 + minutes * 60 : Nat)) }
  let name := p.tokens[i + 4]?.getD []
  if i + 5 < p.tokens.size && (p.tokens[i + 2]?.map isFiller).getD false && p.isAt (i + 3) '('
      && p.isAt (i + 5) ')' && 3 ≤ name.length && mayBeZone p none name then
    return ({ p with zoneName := some name }, i + 5)
  else return (p, i + 1)

/-- The half of the day, for the hour that has been given. -/
def readHalf (p : Parts) (half : Nat) : Reads Parts :=
  match p.hour with
  | some hour =>
    if hour ≤ 12 then .ok { p with hour := some (hourInHalf hour half) } else .error .unreadable
  | none => .error .unreadable

/-- The token at a place with all that belongs to it; the last place that does. -/
def readToken (p : Parts) (i : Nat) (token : List Char) : Reads (Parts × Nat) := do
  if isNumber token then readNumber p i token
  else match weekday? token, month? token, half? token with
    | some day, _, _ => return ({ p with weekday := some day }, i)
    | _, some month, _ => readMonth p i month
    | _, _, some half => return (← readHalf p half, i)
    | _, _, _ =>
      if mayBeZone p p.offset token then return (readZoneName p i token, i)
      else if p.hour.isSome && token = ['+'] then readOffset p i 1
      else if p.hour.isSome && token = ['-'] then readOffset p i (-1)
      else if isFiller token then return (p, i)
      else throw .unreadable

/-- The tokens from a place on, at most `fuel` of them beginning something. -/
def readTokens : (fuel : Nat) → Parts → Nat → Reads Parts
  | 0, p, _ => .ok p
  | fuel + 1, p, i => do
    match p.tokens[i]? with
    | none => return p
    | some token =>
      let (p, last) ← readToken p i token
      readTokens fuel p (last + 1)

/-! ### The moment -/

/-- The zone that the parts give: universal time by its name or by an offset of zero, or another offset.
A name without an offset that is not universal time gives none. -/
def zoneOf (p : Parts) : Reads Zone :=
  let name := p.zoneName
  let isZ := name = some ['Z'] || name = some ['z']
  if (p.offset = some 0 && name.isNone) || isZ || name = some ['U', 'T', 'C'] then .ok .universal
  else if (name.map isUniversal).getD false || p.offset = some 0 then .ok .universal
  else match p.offset with
    | some seconds =>
      if seconds < -86399999913600 || 86399999999999 < seconds then .error .unreadable
      else .ok (.offset (name.map String.ofList) seconds)
    | none => .ok .none

/-- The day, `n` days later. -/
def daysLater (year month day : Nat) : Nat → Reads (Nat × Nat × Nat)
  | 0 => .ok (year, month, day)
  | n + 1 =>
    if day < daysInMonth year month then daysLater year month (day + 1) n
    else if month < 12 then daysLater year (month + 1) 1 n
    else if year < lastYear then daysLater (year + 1) 1 1 n
    else .error .unreadable

/-- The moment that the parts give. A day of the week moves it on to the next such day unless the day of the
month is given. -/
def ofParts (p : Parts) : Reads Moment := do
  let d ← p.days.resolve
  let given := [d.year, d.month, d.day, p.weekday, p.hour, p.minute, p.second, p.microsecond]
  if given.all Option.isNone && p.zoneName.isNone && p.offset.isNone then throw .unreadable
  let year := (d.year.map fun y => fullYear y p.days.century).getD reference.year
  let month := d.month.getD reference.month
  let day := d.day.getD (min reference.day (daysInMonth year month))
  let hour := p.hour.getD 0
  let minute := p.minute.getD 0
  let second := p.second.getD 0
  let microsecond := p.microsecond.getD 0
  unless isDate year month day && hour < 24 && minute < 60 && second < 60 do throw .unreadable
  let (year, month, day) ← match p.weekday, d.day with
    | some weekday, none => daysLater year month day ((7 + weekday - weekdayOf year month day) % 7)
    | _, _ => pure (year, month, day)
  return ⟨year, month, day, hour, minute, second, microsecond, ← zoneOf p⟩

/-- The moment that a text writes, if it writes one. -/
def ofText? (s : String) : Except Fault (Option Moment) :=
  if allBlank s then .ok none
  else
    let tokens := (tokens (trim s)).toArray
    let start : Parts :=
      ⟨tokens, ⟨[], false, none, none⟩, none, none, none, none, none, none, none⟩
    match readTokens (tokens.size + 1) start 0 >>= ofParts with
    | .ok m => .ok (some m)
    | .error .unreadable => .ok none
    | .error .inexact => .error .inexact

end FormCheck.Moment
