import FormCheck.Text.Ranges

/-!
# Blank characters

* `isBlank` — the white space of every script, the four information separators included;
* `trim` — a text without the blank characters at its two ends.
-/

namespace FormCheck.Text

/-- White space: `White_Space` of Unicode and the separators `U+001C` to `U+001F`. -/
def blankRanges : Ranges :=
  [(0x09, 0x0D), (0x1C, 0x20), (0x85, 0x85), (0xA0, 0xA0), (0x1680, 0x1680), (0x2000, 0x200A),
   (0x2028, 0x2029), (0x202F, 0x202F), (0x205F, 0x205F), (0x3000, 0x3000)]

/-- A white-space character. -/
def isBlank (c : Char) : Bool :=
  blankRanges.covers c

/-- White space in its narrow sense: a space and the characters that move the place of writing. -/
def isLayout (c : Char) : Bool :=
  c == ' ' || (9 ≤ c.toNat && c.toNat ≤ 13)

/-- The characters of a text less the blank ones at its end. -/
def trimRightChars (cs : List Char) : List Char :=
  (cs.reverse.dropWhile isBlank).reverse

/-- The characters of a text less the blank ones at either end. -/
def trimChars (cs : List Char) : List Char :=
  trimRightChars (cs.dropWhile isBlank)

/-- A text less the blank characters at either end. -/
def trim (s : String) : String :=
  String.ofList (trimChars s.toList)

/-- Nothing but blank characters. -/
def allBlank (s : String) : Bool :=
  s.toList.all isBlank

theorem trimRightChars_of_last {cs : List Char} {c : Char} (h : isBlank c = false) :
    trimRightChars (cs ++ [c]) = cs ++ [c] := by
  simp [trimRightChars, h]

end FormCheck.Text
