/-
Settings from the environment. A variable whose name starts with the program's name and an
underscore overrides the setting that the rest of its name leads to, two underscores dividing
the levels. What looks like a number, a truth value, a list or a table is taken for it; a text
that must be a text whatever it looks like is put between quotes.
-/
import Metasearch.Document.Settings
import Metasearch.Text.Blank
import Metasearch.Text.Search

namespace Metasearch.Settings

/-- What the names of the variables start with, in any case. -/
def variablePrefix : String := "TRAWLER_"

/-! ### Values -/

/-- A blank of ASCII. -/
def isSpace (c : Char) : Bool :=
  [' ', '\t', '\n', '\r', '\x0c'].contains c

/-- A character that cannot be part of a bare value. -/
def isMark (c : Char) : Bool :=
  [',', '\x7b', '\x7d', '[', ']'].contains c

/-- Reads what follows a backslash between quotes. -/
def readEscaped? : List Char → Option (Char × List Char)
  | 'b' :: rest => some ('\x08', rest)
  | 't' :: rest => some ('\t', rest)
  | 'n' :: rest => some ('\n', rest)
  | 'f' :: rest => some ('\x0c', rest)
  | 'r' :: rest => some ('\r', rest)
  | '"' :: rest => some ('"', rest)
  | '\\' :: rest => some ('\\', rest)
  | _ => none

/-- Reads a text between quotes, behind the first. -/
def readQuoted? (fuel : Nat) (text : List Char) : Option (List Char × List Char) :=
  match fuel, text with
  | _, '"' :: rest => some ([], rest)
  | fuel + 1, '\\' :: rest => do
    let (c, rest) ← readEscaped? rest
    (readQuoted? fuel rest).map fun (more, rest) => (c :: more, rest)
  | fuel + 1, c :: rest => (readQuoted? fuel rest).map fun (more, rest) => (c :: more, rest)
  | _, _ => none

/-- Splits off a sign. -/
def splitSign (text : List Char) : Bool × List Char :=
  match text with
  | '-' :: rest => (true, rest)
  | '+' :: rest => (false, rest)
  | _ => (false, text)

/-- The text is a number with a point and perhaps an exponent. -/
def isReal (text : List Char) : Bool :=
  let body := (splitSign text).2
  let size := body.takeWhile fun c => c != 'e' && c != 'E'
  let exponent := (splitSign (body.drop (size.length + 1))).2
  size.contains '.' && (Number.Binary64.readDecimal? size).isSome &&
    (size.length == body.length || (!exponent.isEmpty && exponent.all Char.isDigit))

/-- A bare value: a number if it is one, else a text. No setting has a point in it, so what a
number with a point comes to is not asked. -/
def bareValue (text : List Char) : Json :=
  if isReal text then .real false .zero
  else
    match Number.readUnsigned Number.maxUnsigned text, Number.readSigned text with
    | .ok value, _ => .int value
    | _, .ok value => .int value
    | _, _ => .text (String.ofList text)

/-- The fields of a table with one in front of them, unless one of them has its name: of two fields
with one name the later counts. -/
def withField (field : String × Json) (fields : List (String × Json)) : List (String × Json) :=
  if fields.any fun later => later.1 == field.1 then fields else field :: fields

mutual

/-- Reads a value with blanks around it. -/
def readSetting? (fuel : Nat) (text : List Char) : Option (Json × List Char) :=
  match fuel with
  | 0 => none
  | fuel + 1 => do
    let (json, rest) ← match text.dropWhile isSpace with
      | 't' :: 'r' :: 'u' :: 'e' :: rest => some (.bool true, rest)
      | 'f' :: 'a' :: 'l' :: 's' :: 'e' :: rest => some (.bool false, rest)
      | '"' :: rest => (readQuoted? rest.length rest).map fun (value, rest) =>
        (.text (String.ofList value), rest)
      | '\'' :: c :: '\'' :: rest => some (.text (String.ofList [c]), rest)
      | '\'' :: _ => none
      | '[' :: rest => (readList? fuel rest).map fun (items, rest) => (.list items, rest)
      | '\x7b' :: rest => (readTable? fuel rest).map fun (fields, rest) => (.object fields, rest)
      | text =>
        let bare := text.takeWhile (!isMark ·)
        some (bareValue (Text.trim bare), text.drop bare.length)
    return (json, rest.dropWhile isSpace)

/-- Reads the values of a list up to its end. -/
def readList? (fuel : Nat) (text : List Char) : Option (List Json × List Char) :=
  match fuel, text.dropWhile isSpace with
  | _, ']' :: rest => some ([], rest)
  | fuel + 1, text => do
    let (item, rest) ← readSetting? fuel text
    match rest with
    | ',' :: rest => (readList? fuel rest).map fun (items, rest) => (item :: items, rest)
    | ']' :: rest => some ([item], rest)
    | _ => none
  | _, _ => none

/-- Reads the keys and values of a table up to its end. -/
def readTable? (fuel : Nat) (text : List Char) : Option (List (String × Json) × List Char) :=
  match fuel, text.dropWhile isSpace with
  | _, '\x7d' :: rest => some ([], rest)
  | fuel + 1, text => do
    let key := text.takeWhile fun c => c.isAlphanum || c == '_' || c == '-'
    let (key, rest) ← match text with
      | '"' :: rest => readQuoted? rest.length rest
      | _ => if key.isEmpty then none else some (key, text.drop key.length)
    match rest.dropWhile isSpace with
    | '=' :: rest => do
      let (value, rest) ← readSetting? fuel rest
      let field := (String.ofList key, value)
      match rest with
      | ',' :: rest =>
        (readTable? fuel rest).map fun (fields, rest) => (withField field fields, rest)
      | '\x7d' :: rest => some ([field], rest)
      | _ => none
    | _ => none
  | _, _ => none

end

/-- The value of a variable; what cannot be read as anything else is a text. -/
def valueOf (text : String) : Json :=
  let trimmed := Text.trim text.toList
  if trimmed.isEmpty then .text ""
  else
    match readSetting? (trimmed.length + 2) trimmed with
    | some (json, []) => json
    | _ => .text (String.ofList trimmed)

/-! ### Names -/

/-- The text behind a beginning, letters of ASCII in any case. -/
def dropAnyCase? (beginning text : List Char) : Option (List Char) :=
  (Text.dropBeginning? (beginning.map Char.toLower) (text.map Char.toLower)).map fun _ =>
    text.drop beginning.length

/-- The keys that the name of a variable leads through. -/
def pathOf? (name : String) : Option (List String) := do
  let rest ← dropAnyCase? variablePrefix.toList (Text.trim name.toList)
  let parts := Text.splitAt (· == '.') (Text.replaceAll ['_', '_'] ['.'] rest)
  if parts.any List.isEmpty then none
  else some (parts.map fun part => String.ofList (part.map Char.toLower))

/-- A value behind keys. -/
def nested : List String → Json → Json
  | [], json => json
  | key :: keys, json => .object [(key, nested keys json)]

mutual

/-- A value with another laid over it: tables are taken together, anything else is replaced. -/
def overlay : Json → Json → Json
  | .object fields, .object others => .object (overlayFields fields others ++
      others.filter fun field => !(fields.map (·.1)).contains field.1)
  | _, other => other

/-- The fields of a table with those of another laid over them. -/
def overlayFields : List (String × Json) → List (String × Json) → List (String × Json)
  | [], _ => []
  | (name, json) :: rest, others =>
    (name, match others.lookup name with
      | some other => overlay json other
      | none => json) :: overlayFields rest others

end

/-- What the variables of the environment set. -/
def ofEnvironment (environment : List (String × String)) : Json :=
  environment.foldl (fun json (name, text) =>
    match pathOf? name with
    | some path => overlay json (nested path (valueOf text))
    | none => json) (.object [])

/-- Reads a configuration file, with the settings of the environment laid over it. -/
def readWith (environment : List (String × String)) (text : String) : Except Error Settings := do
  let tree ← readTree text
  (ofJson (overlay tree (ofEnvironment environment))).mapError fun _ => .unreadable

end Metasearch.Settings
