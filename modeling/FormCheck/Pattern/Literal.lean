import FormCheck.Pattern.Reader

/-!
# Patterns as text

* `Pattern.Flags.names` — the flags of an expression as they are shown;
* `Pattern.literal` — a pattern as it is shown: the beginning of its quoted text, and its flags.
-/

namespace FormCheck.Pattern

open FormCheck.Text

/-- The flags as they are shown, in a fixed order. The alphabet of all scripts is the usual one and is not
mentioned. -/
def Flags.names (f : Flags) : List String :=
  [("re.TEMPLATE", f.template), ("re.IGNORECASE", f.ignoreCase), ("re.MULTILINE", f.multiline),
   ("re.DOTALL", f.dotAll), ("re.VERBOSE", f.verbose), ("re.ASCII", f.ascii)].filterMap
    fun (name, isSet) => if isSet then some name else none

/-- So many characters of a pattern's quoted text are shown. -/
def shownLength : Nat := 200

/-- A pattern as it is shown. -/
def literal (p : FormCheck.Pattern) : String :=
  let source := String.ofList ((quoteChars p.source.toList).take shownLength)
  let flags := p.flags.names
  "re.compile(" ++ joinWith ", " (source :: if flags.isEmpty then [] else [joinWith "|" flags]) ++ ")"

end FormCheck.Pattern
