import FormCheck.Text.CharacterName.Accented
import FormCheck.Text.CharacterName.Alias
import FormCheck.Text.CharacterName.Ancient
import FormCheck.Text.CharacterName.Eastern
import FormCheck.Text.CharacterName.Forms
import FormCheck.Text.CharacterName.Notation
import FormCheck.Text.CharacterName.Pictorial
import FormCheck.Text.CharacterName.Pictures
import FormCheck.Text.CharacterName.Recent
import FormCheck.Text.CharacterName.Southern
import FormCheck.Text.CharacterName.Symbols
import FormCheck.Text.CharacterName.Western
import FormCheck.Text.Numeral
import FormCheck.Text.Ranges

/-!
# Names of characters

* `codeInTable?` — the code that a table of names gives to a name;
* `nameFamilies` — names that a word and the code of the character make up;
* `ideograph?`, `hangulSyllable?` — the characters whose names follow a rule;
* `characterNamed?` — the code of the character with a name of Unicode 14.

A table is a list of texts, each of entries with semicolons between them. An entry says how many words
the name shares with the beginning of the one before it, and which words follow. Codes ascend by one
from entry to entry; an at sign and a code in hexadecimal digits say from where on they ascend.
-/

namespace FormCheck.Text

/-! ### Tables -/

/-- The tables of names. -/
def nameTables : List (List String) :=
  [westernNames, southernNames, accentedNames, symbolNames, easternNames, formNames, ancientNames,
   pictorialNames, recentNames, notationNames, pictureNames, furtherNames]

/-- The code of the entry that makes up the wanted words, from an entry on. Here `code` is the code of
the next entry and `last` holds the words of the entry before it. -/
def codeInEntries? (wanted : List String) : Nat → List String → List String → Option Nat
  | _, _, [] => none
  | code, last, entry :: rest =>
    match entry.splitOn " " with
    | shared :: word :: words =>
      let name := last.take (valueIn 10 shared.toList) ++ word :: words
      if name = wanted then some code else codeInEntries? wanted (code + 1) name rest
    | start => codeInEntries? wanted (valueIn 16 ((start.headD "").toList.drop 1)) last rest

/-- The code that a table gives to the name of the wanted words. -/
def codeInTable? (wanted : List String) (table : List String) : Option Nat :=
  codeInEntries? wanted 0 [] (table.flatMap (·.splitOn ";"))

/-! ### Names that follow a rule -/

/-- Names that are made up of a word and the code of the character, and the codes of each. -/
def nameFamilies : List (String × Ranges) :=
  [("CJK COMPATIBILITY IDEOGRAPH-", [(0xf900, 0xfa6d), (0xfa70, 0xfad9), (0x2f800, 0x2fa1d)]),
   ("KHITAN SMALL SCRIPT CHARACTER-", [(0x18b00, 0x18cd5)]),
   ("NUSHU CHARACTER-", [(0x1b170, 0x1b2fb)])]

/-- A code in hexadecimal digits with capital letters, if there are four or five of them. -/
def codeOfDigits? (digits : List Char) : Option Nat :=
  if (digits.length = 4 ∨ digits.length = 5) ∧ digits.all fun c => isHexDigit c && !c.isLower then
    some (valueIn 16 digits)
  else none

/-- The code that a name states, if its first word is the given one and the code lies in the ranges. -/
def codeInFamily? (family : String) (codes : Ranges) (name : List Char) : Option Nat :=
  if family.toList.isPrefixOf name then
    (codeOfDigits? (name.drop family.length)).filter fun code =>
      codes.any fun r => r.1 ≤ code && code ≤ r.2
  else none

/-- The codes of the unified ideographs. -/
def unifiedIdeographs : Ranges :=
  [(0x3400, 0x4dbf), (0x4e00, 0x9fff), (0x20000, 0x2a6df), (0x2a700, 0x2b738), (0x2b740, 0x2b81d),
   (0x2b820, 0x2cea1), (0x2ceb0, 0x2ebe0), (0x30000, 0x3134a)]

/-- The first word of the name of a unified ideograph. -/
def ideographFamily : String := "CJK UNIFIED IDEOGRAPH-"

/-- The sounds in front of the vowel of a Hangul syllable. -/
def leadingSounds : List String :=
  ["G", "GG", "N", "D", "DD", "R", "M", "B", "BB", "S", "SS", "", "J", "JJ", "C", "K", "T", "P", "H"]

/-- The vowels of Hangul syllables. -/
def vowelSounds : List String :=
  ["A", "AE", "YA", "YAE", "EO", "E", "YEO", "YE", "O", "WA", "WAE", "OE", "YO", "U", "WEO", "WE",
   "WI", "YU", "EU", "YI", "I"]

/-- The sounds after the vowel of a Hangul syllable. -/
def trailingSounds : List String :=
  ["", "G", "GG", "GS", "N", "NJ", "NH", "D", "L", "LG", "LM", "LB", "LS", "LT", "LP", "LH", "M",
   "B", "BS", "S", "SS", "NG", "J", "C", "K", "T", "P", "H"]

/-- The place of the longest sound that the text begins with, and what follows it. -/
def longestSound? (sounds : List String) (cs : List Char) : Option (Nat × List Char) :=
  let fitting := sounds.zipIdx.filter fun (sound, _) => sound.toList.isPrefixOf cs
  (fitting.foldl (fun best (sound, place) =>
    match best with
    | some (length, _) => if length < sound.length then some (sound.length, place) else best
    | none => some (sound.length, place)) none).map fun (length, place) => (place, cs.drop length)

/-- The first words of the name of a Hangul syllable. -/
def hangulFamily : String := "HANGUL SYLLABLE "

/-- The code of the Hangul syllable with the given sounds. -/
def hangulSyllable? (cs : List Char) : Option Nat := do
  let (leading, rest) ← longestSound? leadingSounds cs
  let (vowel, rest) ← longestSound? vowelSounds rest
  let (trailing, rest) ← longestSound? trailingSounds rest
  if rest.isEmpty then some (0xac00 + (21 * leading + vowel) * 28 + trailing) else none

/-! ### All names -/

/-- No name is longer. -/
def longestName : Nat := 256

/-- The code of the character with a name. The case of letters counts only in the names of ideographs
and of Hangul syllables. -/
def characterNamed? (name : String) : Option Nat :=
  let cs := name.toList
  let capitals := cs.map Char.toUpper
  if longestName < cs.length then none
  else if hangulFamily.toList.isPrefixOf cs then hangulSyllable? (cs.drop hangulFamily.length)
  else if ideographFamily.toList.isPrefixOf cs then
    codeInFamily? ideographFamily unifiedIdeographs cs
  else
    match nameFamilies.findSome? fun (family, codes) => codeInFamily? family codes capitals with
    | some code => some code
    | none => nameTables.findSome? (codeInTable? ((String.ofList capitals).splitOn " "))

end FormCheck.Text
