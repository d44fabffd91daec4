import FormCheck.Text.Cut
import FormCheck.Text.Numeral
import FormCheck.Text.Quoted

/-!
# Facets of texts

* `Facet` — what a hole of a template can select, beginning with the text that its name stands for;
* `Facet.attribute?` — what a name after a point selects;
* `Facet.item?` — what an index in brackets selects;
* `Facet.shown`, `Facet.quoted` — a facet as it fills a hole, and its quoted form.

A text has characters, the sort of all texts, and operations. Sorts have names and the sorts that they
derive from: every sort derives from the sort of all things. An operation that is bound to a text is
shown with a number that tells one such operation from another; here that number is always zero.
-/

namespace FormCheck.Message

open FormCheck.Text

/-! ### Sorts and operations -/

/-- The sort of all texts. -/
def textSort : String := "str"

/-- The sort of all things. -/
def anySort : String := "object"

/-- The sort of sorts. -/
def sortSort : String := "type"

/-- The sort of rows of sorts. -/
def rowSort : String := "tuple"

/-- The sort of nothing. -/
def nothingSort : String := "NoneType"

/-- A sort and those that it derives from. -/
def lineage (sort : String) : List String :=
  if sort = anySort then [anySort] else [sort, anySort]

/-- What is said of a sort. -/
def sortNote? (sort : String) : Option String :=
  if sort = textSort then
    some <| joinWith "\n"
      ["str(object='') -> str", "str(bytes_or_buffer[, encoding[, errors]]) -> str", "",
       "Create a new string object from the given object. If encoding or",
       "errors is specified, then the object must expose a data buffer",
       "that will be decoded using the given encoding and error handler.",
       "Otherwise, returns the result of object.__str__() (if defined)", "or repr(object).",
       "encoding defaults to sys.getdefaultencoding().", "errors defaults to 'strict'."]
  else if sort = anySort then
    some <| joinWith "\n"
      ["The base class of the class hierarchy.", "",
       "When called, it accepts no arguments and returns a new featureless",
       "instance that has no instance attributes and cannot be given any.", ""]
  else if sort = sortSort then
    some <| joinWith "\n"
      ["type(object) -> the object's type", "type(name, bases, dict, **kwds) -> a new type"]
  else if sort = rowSort then
    some <| joinWith "\n"
      ["Built-in immutable sequence.", "",
       "If no argument is given, the constructor returns an empty tuple.",
       "If iterable is specified the tuple is initialized from iterable's items.", "",
       "If the argument is a tuple, the return value is the same object."]
  else none

/-- An operation of a sort: one of its methods, or one behind an operator. -/
structure Operation where
  owner : String
  name : String
  isMethod : Bool

/-- The methods of texts. -/
def textMethods : List String :=
  ["__format__", "__getnewargs__", "__sizeof__", "capitalize", "casefold", "center", "count", "encode",
   "endswith", "expandtabs", "find", "format", "format_map", "index", "isalnum", "isalpha", "isascii",
   "isdecimal", "isdigit", "isidentifier", "islower", "isnumeric", "isprintable", "isspace", "istitle",
   "isupper", "join", "ljust", "lower", "lstrip", "partition", "removeprefix", "removesuffix", "replace",
   "rfind", "rindex", "rjust", "rpartition", "rsplit", "rstrip", "split", "splitlines", "startswith",
   "strip", "swapcase", "title", "translate", "upper", "zfill"]

/-- What lies behind the operators of texts. -/
def textOperators : List String :=
  ["__add__", "__contains__", "__eq__", "__ge__", "__getattribute__", "__getitem__", "__gt__", "__hash__",
   "__iter__", "__le__", "__len__", "__lt__", "__mod__", "__mul__", "__ne__", "__repr__", "__rmod__",
   "__rmul__", "__str__"]

/-- The methods of all things. -/
def commonMethods : List String :=
  ["__dir__", "__format__", "__getstate__", "__reduce__", "__reduce_ex__", "__sizeof__"]

/-- What lies behind the operators of all things. -/
def commonOperators : List String :=
  ["__delattr__", "__eq__", "__ge__", "__getattribute__", "__gt__", "__hash__", "__init__", "__le__",
   "__lt__", "__ne__", "__repr__", "__setattr__", "__str__"]

/-- The operation of a sort under a name, its own first. Only texts and all things are known to have
operations. -/
def operation? (sort name : String) : Option Operation :=
  if sort = textSort && textMethods.contains name then some ⟨textSort, name, true⟩
  else if sort = textSort && textOperators.contains name then some ⟨textSort, name, false⟩
  else if sort = textSort || sort = anySort then
    if commonMethods.contains name then some ⟨anySort, name, true⟩
    else if commonOperators.contains name then some ⟨anySort, name, false⟩
    else none
  else none

/-! ### Facets -/

/-- What a hole can select. -/
inductive Facet where
  | text (cs : List Char)
  | sort (name : String)
  | sorts (names : List String)
  | nothing
  | operation (o : Operation)
  /-- An operation bound to a text. -/
  | bound (o : Operation) (cs : List Char)

namespace Facet

/-- A facet that is a given text. -/
def ofString (s : String) : Facet :=
  .text s.toList

/-- The sort of a facet. -/
def sortOf : Facet → String
  | .text _ => textSort
  | .sort _ => sortSort
  | .sorts _ => rowSort
  | .nothing => nothingSort
  | .operation o => if o.isMethod then "method_descriptor" else "wrapper_descriptor"
  | .bound o _ => if o.isMethod then "builtin_function_or_method" else "method-wrapper"

/-- An attribute of a sort. -/
def ofSort? (sort name : String) : Option Facet :=
  match name with
  | "__name__" | "__qualname__" => some (ofString sort)
  | "__module__" => some (ofString "builtins")
  | "__mro__" => some (.sorts (lineage sort))
  | "__bases__" => some (.sorts ((lineage sort).drop 1))
  | "__base__" => some ((((lineage sort).drop 1).head?.map Facet.sort).getD .nothing)
  | "__doc__" =>
    if sort = nothingSort then some .nothing else (sortNote? sort).map ofString
  | name => (operation? sort name).map .operation

/-- An attribute of an operation: its name, alone or after the sort that it is taken for. -/
def ofOperation? (o : Operation) (holder name : String) : Option Facet :=
  match name with
  | "__name__" => some (ofString o.name)
  | "__qualname__" => some (ofString (holder ++ "." ++ o.name))
  | _ => none

/-- What a name after a point selects. -/
def attribute? (facet : Facet) (name : String) : Option Facet :=
  if name = "__class__" then some (.sort facet.sortOf)
  else match facet with
    | .text cs =>
      if name = "__doc__" then (sortNote? textSort).map ofString
      else (operation? textSort name).map (.bound · cs)
    | .sort s => ofSort? s name
    | .sorts _ => if name = "__doc__" then (sortNote? rowSort).map ofString else none
    | .nothing => if name = "__doc__" then some .nothing else none
    | .operation o =>
      if name = "__objclass__" then some (.sort o.owner) else ofOperation? o o.owner name
    | .bound o cs =>
      if name = "__self__" then some (.text cs)
      else if o.isMethod then
        if name = "__module__" then some .nothing else ofOperation? o textSort name
      else if name = "__objclass__" then some (.sort o.owner)
      else ofOperation? o o.owner name

/-- What an index in brackets selects: a character of a text, or a member of a row. -/
def item? (facet : Facet) (index : List Char) : Option Facet :=
  if !index.isEmpty && index.all isDecimal then
    match facet with
    | .text cs => (cs[decimalValue index]?).map fun c => .text [c]
    | .sorts names => (names[decimalValue index]?).map .sort
    | _ => none
  else none

/-- A sort as it is written. -/
def sortText (sort : String) : String :=
  "<class '" ++ sort ++ "'>"

/-- A row of sorts as it is written. -/
def rowText : List String → String
  | [only] => "(" ++ sortText only ++ ",)"
  | names => "(" ++ joinWith ", " (names.map sortText) ++ ")"

/-- An operation as it is written. -/
def operationText (o : Operation) : String :=
  (if o.isMethod then "<method '" else "<slot wrapper '") ++ o.name ++ "' of '" ++ o.owner ++ "' objects>"

/-- An operation bound to a text as it is written. -/
def boundText (o : Operation) : String :=
  (if o.isMethod then "<built-in method " ++ o.name else "<method-wrapper '" ++ o.name ++ "'")
    ++ " of str object at 0x000000000000>"

/-- A facet as it fills a hole. -/
def shown : Facet → List Char
  | .text cs => cs
  | .sort s => (sortText s).toList
  | .sorts names => (rowText names).toList
  | .nothing => "None".toList
  | .operation o => (operationText o).toList
  | .bound o _ => (boundText o).toList

/-- The quoted form of a facet: only texts are quoted. -/
def quoted : Facet → List Char
  | .text cs => quoteChars cs
  | facet => facet.shown

end Facet

end FormCheck.Message
