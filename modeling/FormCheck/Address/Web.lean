import FormCheck.Text.Blank
import FormCheck.Text.Cut
import FormCheck.Text.Numeral

/-!
# Web addresses

* `isWebAddress` — one of the schemes `http`, `https` and `ftp`, two slashes and an authority;
* `authority?` — what stands between the two slashes and the next slash, question mark or hash;
* `isSound` — an authority whose brackets hold a literal address, and none of whose characters stands
  for a separator;
* `isLiteralAddress` — eight groups of hexadecimal digits, perhaps with one run of zeros left out, the
  last two perhaps as four decimal octets.
-/

namespace FormCheck.Address

open FormCheck.Text

/-! ### Literal addresses -/

/-- The number that decimal digits write. -/
def octetValue (cs : List Char) : Nat :=
  cs.foldl (fun n c => 10 * n + (c.toNat - '0'.toNat)) 0

/-- A number up to 255 in decimal digits, without a leading zero. -/
def isOctet (cs : List Char) : Bool :=
  !cs.isEmpty && cs.all Char.isDigit && cs.length ≤ 3 && (cs == ['0'] || cs.head? != some '0')
    && octetValue cs ≤ 255

/-- Four octets with points between them. -/
def isDotted (cs : List Char) : Bool :=
  let octets := cutAt '.' cs
  octets.length == 4 && octets.all isOctet

/-- A group of one to four hexadecimal digits. -/
def isGroup (cs : List Char) : Bool :=
  !cs.isEmpty && cs.length ≤ 4 && cs.all isHexDigit

/-- How many groups a run with colons between them stands for; the last one may be four octets in the
place of two groups. -/
def groupCount? : List (List Char) → Option Nat
  | [] => some 0
  | [last] => if isGroup last then some 1 else if isDotted last then some 2 else none
  | g :: rest => if isGroup g then (groupCount? rest).map (· + 1) else none

/-- How many groups a run stands for that may be empty. -/
def runCount? (cs : List Char) : Option Nat :=
  if cs.isEmpty then some 0 else groupCount? (cutAt ':' cs)

/-- What stands before and after the first two colons in a row. -/
def cutAtGap? : List Char → Option (List Char × List Char)
  | ':' :: ':' :: rest => some ([], rest)
  | c :: rest => (cutAtGap? rest).map fun (before, after) => (c :: before, after)
  | [] => none

/-- Eight groups, or fewer with one gap for the rest. -/
def isGrouped (cs : List Char) : Bool :=
  match cutAtGap? cs with
  | none => groupCount? (cutAt ':' cs) == some 8
  | some (before, after) =>
    match before.any (· == '.'), runCount? before, runCount? after with
    | false, some m, some n => m + n ≤ 7
    | _, _, _ => false

/-- An address in groups, perhaps with the name of a zone after a percent sign. -/
def isLiteralAddress (cs : List Char) : Bool :=
  match cutOnce '%' cs with
  | none => isGrouped cs
  | some (address, zone) => !zone.isEmpty && !zone.contains '%' && isGrouped address

/-- An address of a later version: a hexadecimal version number after a `v`, a point and more. -/
def isLaterAddress (cs : List Char) : Bool :=
  match cs with
  | 'v' :: rest =>
    let version := rest.takeWhile isHexDigit
    match rest.dropWhile isHexDigit with
    | '.' :: address => !version.isEmpty && !address.isEmpty
    | _ => false
  | _ => false

/-! ### Authorities -/

/-- The characters that stand for a separator when they are written in their plain form. -/
def disguisedSeparators : List Nat :=
  [0x2047, 0x2048, 0x2049, 0x2100, 0x2101, 0x2105, 0x2106, 0x2A74, 0xFE13, 0xFE16, 0xFE55, 0xFE56,
   0xFE5F, 0xFE6B, 0xFF03, 0xFF0F, 0xFF1A, 0xFF1F, 0xFF20]

/-- What follows the last at sign, or all when there is none. -/
def afterUser (cs : List Char) : List Char :=
  match cutLast '@' cs with
  | some (_, rest) => rest
  | none => cs

/-- A host in brackets: a literal address, or a later one when it begins with a `v`. -/
def isBracketedHost (host : List Char) : Bool :=
  if host.head? == some 'v' then isLaterAddress host else isLiteralAddress host

/-- Brackets come in both kinds or not at all. With brackets, the host is a literal address: nothing
stands before its bracket, and after it nothing or a colon. When both brackets stand in the user's
part, the host has to be a literal address without them. -/
def bracketsAreSound (cs : List Char) : Bool :=
  if cs.contains '[' && cs.contains ']' then
    match afterUser cs with
    | '[' :: bracketed =>
      let after := (bracketed.dropWhile (· != ']')).drop 1
      (after.isEmpty || after.head? == some ':')
        && isBracketedHost (bracketed.takeWhile (· != ']'))
    | plain => !plain.contains '[' && isBracketedHost (plain.takeWhile (· != ':'))
  else !cs.contains '[' && !cs.contains ']'

/-- An authority with sound brackets and no disguised separators. -/
def isSound (cs : List Char) : Bool :=
  bracketsAreSound cs && !cs.any fun c => disguisedSeparators.contains c.toNat

/-! ### Addresses -/

/-- A character that no address keeps. -/
def isDropped (c : Char) : Bool :=
  c == '\t' || c == '\n' || c == '\r'

/-- A character of a scheme. -/
def isSchemeChar (c : Char) : Bool :=
  c.isAlphanum || c == '+' || c == '-' || c == '.'

/-- The scheme in front of the first colon, in small letters, and what follows it. -/
def scheme? (cs : List Char) : Option (List Char × List Char) :=
  match cutOnce ':' cs with
  | some (scheme, rest) =>
    if scheme.head?.any Char.isAlpha && scheme.all isSchemeChar then
      some (scheme.map Char.toLower, rest)
    else none
  | none => none

/-- What follows two slashes up to the next slash, question mark or hash. -/
def authority? : List Char → Option (List Char)
  | '/' :: '/' :: rest => some (rest.takeWhile fun c => c != '/' && c != '?' && c != '#')
  | _ => none

/-- The schemes of web addresses. -/
def webSchemes : List String := ["http", "https", "ftp"]

/-- A web address: a known scheme and an authority that is sound and not empty. Control characters in
front do not count, nor do line breaks and tabulators anywhere. -/
def isWebAddress (s : String) : Bool :=
  let cs := ((trimChars s.toList).dropWhile fun c => c.toNat ≤ 0x20).filter (!isDropped ·)
  match scheme? cs with
  | some (scheme, rest) =>
    match authority? rest with
    | some authority =>
      webSchemes.contains (String.ofList scheme) && !authority.isEmpty && isSound authority
    | none => false
  | none => false

end FormCheck.Address
