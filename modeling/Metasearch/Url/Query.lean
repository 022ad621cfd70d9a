/-
The query of an address as pairs of names and values. Writing escapes all that could be taken
for a mark between pairs; reading takes a plus sign for a space, leaves out pairs with nothing
in them, and puts replacement characters where escapes make no text.
-/
import Metasearch.Url.Basic
import Metasearch.Url.Escape
import Metasearch.Text.Search
import Metasearch.Text.Blank

namespace Metasearch.Url

/-- A name or a value in its escaped form. -/
def escapePart (text : String) : List Char :=
  escapeText escapedInPair text.toList

/-- A pair in its escaped form. -/
def writePair (pair : String × String) : List Char :=
  escapePart pair.1 ++ '=' :: escapePart pair.2

/-- Pairs as a query. -/
def writePairs (pairs : List (String × String)) : String :=
  String.ofList (['&'].intercalate (pairs.map writePair))

/-- A name or a value from its escaped form. -/
def readPart (text : List Char) : String :=
  String.ofList (Text.decode (unescape (Text.encode
    (text.map fun c => if c == '+' then ' ' else c))))

/-- A pair from its escaped form; without an equals sign the value is empty. -/
def readPair (text : List Char) : String × String :=
  match Text.cut ['='] text with
  | some (name, value) => (readPart name, readPart value)
  | none => (readPart text, "")

/-- The pairs of a query. -/
def readPairs (query : String) : List (String × String) :=
  ((Text.splitAt (· == '&') query.toList).filter (!·.isEmpty)).map readPair

/-- The pairs of the query of an address. -/
def pairs (url : Url) : List (String × String) :=
  (url.query.map readPairs).getD []

/-- The address with another query. Line breaks and tabs are dropped from it, and what may not
stand as itself in a query is escaped. -/
def withQuery (url : Url) (query : String) : Url :=
  let kept := query.toList.filter (!isBreak ·)
  let escaped := escapeText (escapedInQuery (kindOf url.scheme).isSpecial) kept
  { url with query := some (String.ofList escaped) }

/-- A query with written pairs behind those it has. -/
def joinQuery (query : Option String) (written : String) : String :=
  match query with
  | some query => if query.isEmpty then written else query ++ "&" ++ written
  | none => written

/-- The address with pairs behind those its query has. -/
def withPairs (url : Url) (pairs : List (String × String)) : Url :=
  if pairs.isEmpty then url else withQuery url (joinQuery url.query (writePairs pairs))

/-! ### Strict queries -/

/-- The text from the first percent sign that two hexadecimal digits do not follow. -/
def badEscape? : List Char → Option (List Char)
  | '%' :: first :: second :: rest =>
    if (Text.hexDigitValue? first).isSome && (Text.hexDigitValue? second).isSome then
      badEscape? rest
    else some ('%' :: first :: second :: rest)
  | '%' :: rest => some ('%' :: rest)
  | _ :: rest => badEscape? rest
  | [] => none

/-- A query in which each percent sign must start an escape; otherwise the three bytes, or fewer
at the end, from the first that does not. -/
def readStrictly (query : String) : Except String (List (String × String)) :=
  match badEscape? query.toList with
  | some text => .error (String.ofList (Text.decode ((Text.encode text).take 3)))
  | none => .ok (readPairs query)

end Metasearch.Url
