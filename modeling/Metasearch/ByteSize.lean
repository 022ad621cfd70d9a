/-
Sizes such as `1.2 GB` or `700 MiB`. Commas do not count, a bare number is bytes, the plain
units are powers of a thousand and those with an i powers of 1024. The number is read as binary
floating point and multiplied by its unit, and what is left behind the point is dropped.
-/
import Metasearch.Number.Binary64
import Metasearch.Number.Integer
import Metasearch.Text.Blank
import Metasearch.Text.Letter

namespace Metasearch.ByteSize

open Number (Binary64)

/-- A letter in lower case; the sign of the unit kelvin counts as the letter K. -/
def lowerLetter (c : Char) : Char :=
  if c == '\u212A' then 'k' else c.toLower

/-- The bytes of a unit. -/
def unitSize? (unit : List Char) : Option Nat :=
  match String.ofList (unit.map lowerLetter) with
  | "b" => some 1
  | "k" | "kb" => some (Nat.pow 1000 1)
  | "m" | "mb" => some (Nat.pow 1000 2)
  | "g" | "gb" => some (Nat.pow 1000 3)
  | "t" | "tb" => some (Nat.pow 1000 4)
  | "p" | "pb" => some (Nat.pow 1000 5)
  | "ki" | "kib" => some (Nat.pow 1024 1)
  | "mi" | "mib" => some (Nat.pow 1024 2)
  | "gi" | "gib" => some (Nat.pow 1024 3)
  | "ti" | "tib" => some (Nat.pow 1024 4)
  | "pi" | "pib" => some (Nat.pow 1024 5)
  | _ => none

/-- The unit is left out or written in full. -/
def isPlainBytes (unit : List Char) : Bool :=
  let lower := unit.map Char.toLower
  lower == [] || lower == "byte".toList || lower == "bytes".toList

/-- The number of bytes that a text gives, at most the greatest of 64 bits. -/
def read? (text : String) : Option Nat := do
  let cleaned := (Text.trim text.toList).filter (· != ',')
  let number := Text.trim (cleaned.takeWhile fun c => !Text.isAlphabetic c)
  let unit := cleaned.dropWhile fun c => !Text.isAlphabetic c
  let size ← if isPlainBytes unit then some 1 else unitSize? unit
  let value ← Binary64.readDecimal? number
  return (value.mul (Binary64.ofNat size)).truncate Number.maxUnsigned

end Metasearch.ByteSize
