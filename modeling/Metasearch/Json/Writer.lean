/-
Writing JSON text, on one line or spread over lines with two blanks for each level.
-/
import Metasearch.Json.Basic

namespace Metasearch.Json

/-- A character as it stands between quotes. -/
def escapedChar (c : Char) : List Char :=
  match c with
  | '"' => ['\\', '"']
  | '\\' => ['\\', '\\']
  | '\x08' => ['\\', 'b']
  | '\x0c' => ['\\', 'f']
  | '\n' => ['\\', 'n']
  | '\r' => ['\\', 'r']
  | '\t' => ['\\', 't']
  | c =>
    if c.toNat < 0x20 then
      ['\\', 'u', '0', '0', Text.hexDigit (c.toNat / 16), Text.hexDigit (c.toNat % 16)]
    else [c]

/-- A text between quotes. -/
def writeText (text : String) : List Char :=
  '"' :: text.toList.flatMap escapedChar ++ ['"']

/-- A value without parts. -/
def writeLeaf : Json → List Char
  | .bool true => "true".toList
  | .bool false => "false".toList
  | .int value => (toString value).toList
  | .real negative size => (if negative then ['-'] else []) ++ size.toCompact
  | .text value => writeText value
  | _ => "null".toList

mutual

/-- The value on one line, without blanks. -/
def compact : Json → List Char
  | .list items => '[' :: compactItems true items
  | .object fields => '{' :: compactFields true fields
  | leaf => writeLeaf leaf

/-- The items of a list, and its end. -/
def compactItems (first : Bool) : List Json → List Char
  | [] => [']']
  | item :: rest => (if first then [] else [',']) ++ compact item ++ compactItems false rest

/-- The fields of an object, and its end. -/
def compactFields (first : Bool) : List (String × Json) → List Char
  | [] => ['}']
  | (name, value) :: rest =>
    (if first then [] else [',']) ++ writeText name ++ ':' :: compact value ++
      compactFields false rest

end

/-- A new line, indented. -/
def newLine (level : Nat) : List Char :=
  '\n' :: List.replicate (2 * level) ' '

mutual

/-- The value over several lines; empty lists and objects stay on one. -/
def spread (level : Nat) : Json → List Char
  | .list [] => ['[', ']']
  | .list items => '[' :: spreadItems (level + 1) true items ++ newLine level ++ [']']
  | .object [] => ['{', '}']
  | .object fields => '{' :: spreadFields (level + 1) true fields ++ newLine level ++ ['}']
  | leaf => writeLeaf leaf

/-- The items of a list, each on lines of its own. -/
def spreadItems (level : Nat) (first : Bool) : List Json → List Char
  | [] => []
  | item :: rest =>
    (if first then [] else [',']) ++ newLine level ++ spread level item ++
      spreadItems level false rest

/-- The fields of an object, each on lines of its own. -/
def spreadFields (level : Nat) (first : Bool) : List (String × Json) → List Char
  | [] => []
  | (name, value) :: rest =>
    (if first then [] else [',']) ++ newLine level ++ writeText name ++ [':', ' '] ++
      spread level value ++ spreadFields level false rest

end

/-- The value as text on one line. -/
def write (value : Json) : String :=
  String.ofList (compact value)

/-- The value as text over several lines. -/
def writeSpread (value : Json) : String :=
  String.ofList (spread 0 value)

end Metasearch.Json
