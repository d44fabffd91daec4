import FormCheck.Text.Cut
import FormCheck.Value.Basic

/-!
# Message catalogs

* `Resolver` — what gives the template for a message key in a language, if it has one;
* `Catalog` — templates by language and key;
* `Catalog.lookup` — the template for a key, or else for the part of the key before its first point.
-/

namespace FormCheck.Message

open FormCheck.Text

/-- What gives the template for a message key in a language. -/
abbrev Resolver := String → String → Option String

/-- Templates by language and key. -/
structure Catalog where
  entries : List (String × List (String × String))

namespace Catalog

/-- The catalog without templates. -/
def empty : Catalog := ⟨[]⟩

/-- The templates of a language. -/
def ofLanguage (catalog : Catalog) (language : String) : List (String × String) :=
  (entryOf? catalog.entries language).getD []

/-- The catalog with templates added for a language; a new one takes the place of an older one. -/
def add (catalog : Catalog) (language : String) (templates : List (String × String)) : Catalog :=
  let all := templates.foldl (fun entries e => putEntry entries e.1 e.2) (catalog.ofLanguage language)
  ⟨putEntry catalog.entries language all⟩

/-- The catalog of templates by language. -/
def ofList (entries : List (String × List (String × String))) : Catalog :=
  entries.foldl (fun catalog e => catalog.add e.1 e.2) empty

/-- The languages of a catalog in ascending order. -/
def languages (catalog : Catalog) : List String :=
  sortNames (catalog.entries.map (·.1))

/-- The part of a key before its first point. -/
def baseKey (key : String) : String :=
  String.ofList (key.toList.takeWhile (· != '.'))

/-- The template for a key in a language, or else for the part of the key before its first point. -/
def lookup (catalog : Catalog) : Resolver := fun key language =>
  let templates := catalog.ofLanguage language
  (entryOf? templates key).orElse fun _ => entryOf? templates (baseKey key)

end Catalog

end FormCheck.Message
