/-
Filters clean up the text that was selected from a page. A filter turns one text into another
or fails; filters in a row hand their results on, and the first failure ends the row. What a
filter needs beyond the text, the categories of the site and the present instant, is given to
it from outside.
-/
import Metasearch.Calendar.Canonical
import Metasearch.Category
import Metasearch.Definition.Error
import Metasearch.Layout
import Metasearch.Pattern.Match
import Metasearch.RelativeTime
import Metasearch.Url.Query
import Metasearch.Url.Reader

namespace Metasearch

/-- A filter with its arguments. -/
inductive Filter
  /-- The first value of a query parameter of an address. -/
  | queryString (param : String)
  /-- A date in a layout, written in the canonical form. -/
  | dateParse (layout : String)
  /-- What a pattern picks. -/
  | regexp (pattern : Pattern)
  /-- One of the pieces between separators; a negative index counts from the end. -/
  | split (separator : String) (index : Int)
  /-- A time said relative to the present, written in the canonical form. -/
  | timeAgo
  /-- The words for today and yesterday, replaced by these days in a layout. -/
  | relTime (layout : String)
  /-- A category number of the site, replaced by the canonical one. -/
  | mapCats
  deriving DecidableEq, Repr

namespace Filter

/-! ### Making filters -/

/-- What a definition may give a filter to work with. -/
inductive Argument
  | none
  | int (value : Int)
  | text (value : String)
  | pair (text : String) (int : Int)
  deriving DecidableEq, Repr

/-- An argument in words. -/
def Argument.describe : Argument → String
  | .none => "no argument"
  | .int _ => "an integer"
  | .text _ => "a string"
  | .pair _ _ => "a [string, int] pair"

/-- The filter of a name with an argument. -/
def ofName (name : String) (argument : Argument) : Except Definition.Error Filter :=
  let expects (expected : String) : Except Definition.Error Filter :=
    .error (.filterArguments name expected argument.describe)
  match name, argument with
  | "querystring", .text param => .ok (.queryString param)
  | "dateparse", .text layout => .ok (.dateParse layout)
  | "regexp", .text text =>
    match Pattern.read? text with
    | some pattern => .ok (.regexp pattern)
    | none => .error (.badPattern text)
  | "split", .pair separator index => .ok (.split separator index)
  | "timeago", .none => .ok .timeAgo
  | "reltime", .text layout => .ok (.relTime layout)
  | "mapcats", .none => .ok .mapCats
  | "querystring", _ | "dateparse", _ | "regexp", _ | "reltime", _ => expects "a string"
  | "split", _ => expects "a [string, int] pair"
  | "timeago", _ | "mapcats", _ => expects "no argument"
  | _, _ => .error (.unknownFilter name)

/-- The name of a filter. -/
def name : Filter → String
  | .queryString _ => "querystring"
  | .dateParse _ => "dateparse"
  | .regexp _ => "regexp"
  | .split _ _ => "split"
  | .timeAgo => "timeago"
  | .relTime _ => "reltime"
  | .mapCats => "mapcats"

/-! ### Failures -/

/-- Why a value cannot be had from a page, or not be filtered. -/
inductive Error
  | badUrl (value : String) (reason : Url.Error)
  | dateMismatch (value layout : String)
  | noMatch (pattern : String)
  | splitOutOfRange (index : Int) (length : Nat)
  | timeAgo (phrase : String) (reason : RelativeTime.Reason)
  | badCategory (value : String)
  | unmappedCategory (id : Int)
  | missingAttribute (name : String)
  deriving DecidableEq, Repr

/-- The wording of a failure. -/
def Error.message : Error → String
  | .badUrl value reason =>
    "Unable to parse " ++ Text.quoted value ++ " as a URL: " ++ reason.message
  | .dateMismatch value layout =>
    "Value " ++ Text.quoted value ++ " does not match date layout " ++ Text.quoted layout
  | .noMatch pattern => "No matches found for pattern " ++ Text.quoted pattern
  | .splitOutOfRange index length =>
    "Split index " ++ toString index ++ " out of range for " ++ toString length ++ " fragments"
  | .timeAgo phrase reason =>
    "Unable to parse relative time " ++ Text.quoted phrase ++ ": " ++ reason.message
  | .badCategory value => "Unable to parse category id " ++ Text.quoted value
  | .unmappedCategory id => "No category mapping found for id " ++ toString id
  | .missingAttribute name => "Requested attribute " ++ Text.quoted name ++ " doesn't exist"

/-! ### Applying filters -/

/-- What filters may read besides the text. -/
structure Context where
  categories : CategoryTable
  now : Calendar.Instant
  deriving Repr

/-- The address that others are taken to be relative to when only their queries matter. -/
def anyBase : Url :=
  ⟨"http", "", "", some (.named "localhost"), none, .segments [""], none, none⟩

/-- Reads an address; a relative one is good enough. -/
def readUrl (value : String) : Except Url.Error Url :=
  match Url.read value with
  | .error .relative => anyBase.join value
  | other => other

/-- The first value of a query parameter, or nothing. -/
def queryValue (param value : String) : Except Error String := do
  let url ← (readUrl value).mapError (.badUrl value)
  return ((url.pairs.find? fun pair => pair.1 == param).map (·.2)).getD ""

/-- The pieces of a text between separators; with an empty separator, its characters. -/
def fragments (separator value : String) : List String :=
  if separator.isEmpty then value.toList.map fun c => String.ofList [c]
  else (Text.splitOn separator.toList value.toList).map String.ofList

/-- The piece at an index, from the end if it is negative. -/
def fragmentAt? (list : List String) (index : Int) : Option String :=
  let position := if index < 0 then (list.length : Int) + index else index
  if position < 0 then none else list[position.toNat]?

/-- A text with the words for today and yesterday replaced, the latter also within what replaced
the former. -/
def replaceDays (value layout : String) (now : Calendar.Instant) : String :=
  let day (instant : Calendar.Instant) : List Char := (Layout.write instant layout).toList
  let before := now.plus (Calendar.Span.ofSeconds (-(Calendar.secondsPerDay : Int)))
  String.ofList (Text.replaceAll "Yesterday".toList (day before)
    (Text.replaceAll "Today".toList (day now) value.toList))

/-- The canonical number of a category number of the site. -/
def mapCategory (categories : CategoryTable) (value : String) : Except Error String := do
  let locally ← (Number.readSigned value.toList).mapError fun _ => .badCategory value
  match categories.resolve locally with
  | some category => return toString category.id
  | none => throw (.unmappedCategory locally)

/-- What a filter makes of a text. -/
def apply (context : Context) (filter : Filter) (value : String) : Except Error String :=
  match filter with
  | .queryString param => queryValue param value
  | .dateParse layout =>
    match Layout.read? value (Layout.pattern layout) with
    | some time => .ok (Calendar.writeCanonical time)
    | none => .error (.dateMismatch value layout)
  | .regexp pattern =>
    match pattern.pick? value with
    | some part => .ok part
    | none => .error (.noMatch pattern.text)
  | .split separator index =>
    let list := fragments separator value
    match fragmentAt? list index with
    | some fragment => .ok fragment
    | none => .error (.splitOutOfRange index list.length)
  | .timeAgo =>
    ((RelativeTime.read value context.now).mapError (.timeAgo value)).map
      Calendar.Instant.toCanonical
  | .relTime layout => .ok (replaceDays value layout context.now)
  | .mapCats => mapCategory context.categories value

/-- What filters in a row make of a text. -/
def applyAll (context : Context) (filters : List Filter) (value : String) :
    Except Error String :=
  filters.foldlM (fun value filter => filter.apply context value) value

end Filter

end Metasearch
