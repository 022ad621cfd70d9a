/-
Escapes in addresses: a byte that may not stand as itself is written as a percent sign and two
hexadecimal digits. Which characters may stand as themselves depends on the place; bytes of
characters outside ASCII never do.
-/
import Metasearch.Text.Utf8
import Metasearch.Text.Quoted

namespace Metasearch.Url

/-- A value below sixteen as a digit, letters in upper case. -/
def upperHex (value : Nat) : Char :=
  (Text.hexDigit value).toUpper

/-- A byte as an escape. -/
def escapeByte (byte : UInt8) : List Char :=
  ['%', upperHex (byte.toNat / 16), upperHex (byte.toNat % 16)]

/-- A character as it stands in a place: as itself, or as the escapes of its bytes. -/
def escapeChar (escapes : Char → Bool) (c : Char) : List Char :=
  if escapes c || 0x80 ≤ c.toNat then (Text.charBytes c).flatMap escapeByte else [c]

/-- A text with the characters escaped that may not stand as themselves. -/
def escapeText (escapes : Char → Bool) (text : List Char) : List Char :=
  text.flatMap (escapeChar escapes)

/-- The value of a byte that is a hexadecimal digit. -/
def hexOfByte? (byte : UInt8) : Option UInt8 :=
  if 48 ≤ byte && byte ≤ 57 then some (byte - 48)
  else if 65 ≤ byte && byte ≤ 70 then some (byte - 55)
  else if 97 ≤ byte && byte ≤ 102 then some (byte - 87)
  else none

/-- Bytes with their escapes undone; a percent sign without two digits behind it stays. -/
def unescape : List UInt8 → List UInt8
  | 37 :: first :: second :: rest =>
    match hexOfByte? first, hexOfByte? second with
    | some high, some low => (high * 16 + low) :: unescape rest
    | _, _ => 37 :: unescape (first :: second :: rest)
  | byte :: rest => byte :: unescape rest
  | [] => []

/-! ### The places -/

/-- Controls stand as themselves nowhere. -/
def isControl (c : Char) : Bool :=
  c.toNat < 0x20 || c.toNat == 0x7F

/-- Dropped wherever it occurs in the text of an address. -/
def isBreak (c : Char) : Bool :=
  c == '\t' || c == '\n' || c == '\r'

/-- Escaped in a fragment. -/
def escapedInFragment (c : Char) : Bool :=
  isControl c || [' ', '"', '<', '>', '\x60'].contains c

/-- Escaped in a segment of a path. -/
def escapedInPath (c : Char) : Bool :=
  escapedInFragment c || ['#', '?', '\x7b', '\x7d'].contains c

/-- Escaped in the name and the password of a user. -/
def escapedInUser (c : Char) : Bool :=
  escapedInPath c || ['/', ':', ';', '=', '@', '[', '\\', ']', '^', '|'].contains c

/-- Escaped in a query; under a scheme with rules of its own the apostrophe is too. -/
def escapedInQuery (special : Bool) (c : Char) : Bool :=
  isControl c || [' ', '"', '#', '<', '>'].contains c || (special && c == '\'')

/-- Escaped in a name or a value of a form: all but letters, digits and `-`, `_`, `.`, `~`. -/
def escapedInPair (c : Char) : Bool :=
  !(c.isAlphanum || ['-', '_', '.', '~'].contains c)

end Metasearch.Url
