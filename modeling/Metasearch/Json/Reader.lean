/-
Reading JSON text. The reader never fails: damaged text ends in the leaf `malformed`. Numbers
without a point or an exponent are whole numbers as long as they fit 64 bits; all others are
binary floating point, computed as their first digits (as many as fit 64 bits) times or divided
by a power of ten, each of the two steps rounded.
-/
import Metasearch.Json.Basic

namespace Metasearch.Json

open Number (Binary64)

/-- The four characters that may stand between the parts of a document. -/
def isSpace (c : Char) : Bool :=
  c == ' ' || c == '\n' || c == '\t' || c == '\r'

/-- The text behind the blanks it begins with. -/
def skipSpace (text : List Char) : List Char :=
  text.dropWhile isSpace

/-! ### Texts -/

/-- Four hexadecimal digits and what follows them. -/
def hexFour? : List Char → Option (Nat × List Char)
  | a :: b :: c :: d :: rest => do
    let a ← Text.hexDigitValue? a
    let b ← Text.hexDigitValue? b
    let c ← Text.hexDigitValue? c
    let d ← Text.hexDigitValue? d
    return (a * 4096 + b * 256 + c * 16 + d, rest)
  | _ => none

/-- The character of a short escape. -/
def shortEscape? : Char → Option Char
  | '"' => some '"'
  | '\\' => some '\\'
  | '/' => some '/'
  | 'b' => some '\x08'
  | 'f' => some '\x0c'
  | 'n' => some '\n'
  | 'r' => some '\r'
  | 't' => some '\t'
  | _ => none

/-- Reads a text behind its opening quote: its characters, whether all of them exist, and what
follows the closing quote. The characters read so far are given in reverse. -/
def readText? (fuel : Nat) (seen : List Char) (whole : Bool) (text : List Char) :
    Option (List Char × Bool × List Char) :=
  match fuel, text with
  | 0, _ => none
  | _, [] => none
  | fuel + 1, c :: rest =>
    if c == '"' then some (seen.reverse, whole, rest)
    else if c.toNat < 0x20 then none
    else if c == '\\' then
      match rest with
      | 'u' :: rest => do
        let (unit, rest) ← hexFour? rest
        if 0xD800 ≤ unit && unit ≤ 0xDBFF then
          match rest with
          | '\\' :: 'u' :: behind =>
            let (second, behind) ← hexFour? behind
            if 0xDC00 ≤ second && second ≤ 0xDFFF then
              let point := 0x10000 + (unit - 0xD800) * 0x400 + (second - 0xDC00)
              readText? fuel (Char.ofNat point :: seen) whole behind
            else readText? fuel seen false rest
          | _ => readText? fuel seen false rest
        else if 0xDC00 ≤ unit && unit ≤ 0xDFFF then readText? fuel seen false rest
        else readText? fuel (Char.ofNat unit :: seen) whole rest
      | e :: rest => do
        let escaped ← shortEscape? e
        readText? fuel (escaped :: seen) whole rest
      | [] => none
    else readText? fuel (c :: seen) whole rest

/-! ### Numbers -/

/-- The leading digits of a number that fit 64 bits together, and how many digits were left out
behind them. -/
def foldDigits (digits : List Char) (start : Nat) : Nat × Nat × Nat :=
  digits.foldl (fun (whole, taken, left) c =>
    let next := whole * 10 + (c.toNat - 48)
    if left > 0 || next > Number.maxUnsigned then (whole, taken, left + 1)
    else (next, taken + 1, left)) (start, 0, 0)

/-- `significand * 10 ^ power`, in two rounded steps; powers below the least one first divide by
`10 ^ 308`. Nothing when the number is too large. -/
def scaleDecimal? (significand : Nat) (power : Int) : Option Binary64 :=
  let value := Binary64.ofNat significand
  if value.isZero then some value
  else if power > 308 then none
  else if power ≥ 0 then
    match value.mul (Binary64.ofDecimal 1 power) with
    | .infinite => none
    | product => some product
  else
    let rec divide (fuel : Nat) (value : Binary64) (power : Nat) : Binary64 :=
      match fuel with
      | 0 => value
      | fuel + 1 =>
        if power ≤ 308 then value.div (Binary64.ofDecimal 1 power)
        else if value.isZero then value
        else divide fuel (value.div (Binary64.ofDecimal 1 308)) (power - 308)
    some (divide 10 value power.natAbs)

/-- A number with a point or an exponent. -/
def readReal (negative : Bool) (whole : Nat) (left : Nat) (text : List Char) :
    Json × Option (List Char) :=
  let finish (significand : Nat) (power : Int) (rest : List Char) : Json × Option (List Char) :=
    match scaleDecimal? significand power with
    | some size => (.real negative size, some rest)
    | none => (.unreadable, some rest)
  let readExponent (significand : Nat) (power : Int) (text : List Char) :
      Json × Option (List Char) :=
    match text with
    | e :: rest =>
      if e == 'e' || e == 'E' then
        let (sign, rest) : Bool × List Char := match rest with
          | '+' :: rest => (false, rest)
          | '-' :: rest => (true, rest)
          | rest => (false, rest)
        let digits := rest.takeWhile Char.isDigit
        let rest := rest.dropWhile Char.isDigit
        if digits.isEmpty then (.malformed, none)
        else
          let size : Nat := digits.foldl (fun value c => value * 10 + (c.toNat - 48)) 0
          if Number.maxSigned32 < size then
            if significand != 0 && !sign then (.unreadable, some rest)
            else (.real negative Binary64.zero, some rest)
          else finish significand (if sign then power - size else power + size) rest
      else finish significand power text
    | [] => finish significand power text
  match text with
  | '.' :: rest =>
    let digits := rest.takeWhile Char.isDigit
    let rest := rest.dropWhile Char.isDigit
    if digits.isEmpty then (.malformed, none)
    else
      let (significand, taken, _) := foldDigits digits whole
      readExponent significand ((left : Int) - (taken : Int)) rest
  | text => readExponent whole left text

/-- A number. -/
def readNumber (negative : Bool) (text : List Char) : Json × Option (List Char) :=
  let digits := text.takeWhile Char.isDigit
  let rest := text.dropWhile Char.isDigit
  match digits with
  | [] => (.malformed, none)
  | '0' :: _ :: _ => (.malformed, none)
  | digits =>
    let (whole, _, left) := foldDigits digits 0
    let isReal := match rest with
      | c :: _ => c == '.' || c == 'e' || c == 'E'
      | [] => false
    if isReal || left > 0 then readReal negative whole left rest
    else if !negative then (.int whole, some rest)
    else if whole == 0 || whole > Number.maxSigned + 1 then
      (.real true (Binary64.ofNat whole), some rest)
    else (.int (-(whole : Int)), some rest)

/-! ### Documents -/

/-- The rest of the text behind a word that must stand here. -/
def readWord (word : List Char) (value : Json) (text : List Char) : Json × Option (List Char) :=
  if word.isPrefixOf text then (value, some (text.drop word.length)) else (.malformed, none)

mutual

/-- A value and what follows it; nothing follows a damaged one. -/
def readValue (fuel : Nat) (text : List Char) : Json × Option (List Char) :=
  match fuel with
  | 0 => (.malformed, none)
  | fuel + 1 =>
    match skipSpace text with
    | [] => (.malformed, none)
    | 'n' :: rest => readWord ['u', 'l', 'l'] .null rest
    | 't' :: rest => readWord ['r', 'u', 'e'] (.bool true) rest
    | 'f' :: rest => readWord ['a', 'l', 's', 'e'] (.bool false) rest
    | '-' :: rest => readNumber true rest
    | '"' :: rest =>
      match readText? (rest.length + 1) [] true rest with
      | some (value, true, rest) => (.text (String.ofList value), some rest)
      | some (_, false, rest) => (.unreadable, some rest)
      | none => (.malformed, none)
    | '[' :: rest =>
      match skipSpace rest with
      | ']' :: rest => (.list [], some rest)
      | rest =>
        let (items, rest) := readItems fuel rest
        (.list items, rest)
    | '{' :: rest =>
      match skipSpace rest with
      | '}' :: rest => (.object [], some rest)
      | rest =>
        let (fields, rest) := readFields fuel rest
        (.object fields, rest)
    | text => readNumber false text

/-- The items of a list, the first of them still to come. -/
def readItems (fuel : Nat) (text : List Char) : List Json × Option (List Char) :=
  match fuel with
  | 0 => ([.malformed], none)
  | fuel + 1 =>
    match readValue fuel text with
    | (item, none) => ([item], none)
    | (item, some rest) =>
      match skipSpace rest with
      | ',' :: rest =>
        let (items, rest) := readItems fuel rest
        (item :: items, rest)
      | ']' :: rest => ([item], some rest)
      | _ => ([item, .malformed], none)

/-- The fields of an object, the first of them still to come. -/
def readFields (fuel : Nat) (text : List Char) : List (String × Json) × Option (List Char) :=
  match fuel with
  | 0 => ([("", .malformed)], none)
  | fuel + 1 =>
    match skipSpace text with
    | '"' :: rest =>
      match readText? (rest.length + 1) [] true rest with
      | some (name, true, rest) =>
        match skipSpace rest with
        | ':' :: rest =>
          match readValue fuel rest with
          | (value, none) => ([(String.ofList name, value)], none)
          | (value, some rest) =>
            match skipSpace rest with
            | ',' :: rest =>
              let (fields, rest) := readFields fuel rest
              ((String.ofList name, value) :: fields, rest)
            | '}' :: rest => ([(String.ofList name, value)], some rest)
            | _ => ([(String.ofList name, value), ("", .malformed)], none)
        | _ => ([(String.ofList name, .malformed)], none)
      | _ => ([("", .malformed)], none)
    | _ => ([("", .malformed)], none)

end

/-- Reads a document: its value, and whether the text ends with it. -/
def readDocument (text : List Char) : Json × Bool :=
  match readValue (2 * text.length + 2) text with
  | (value, some rest) => (value, (skipSpace rest).isEmpty)
  | (value, none) => (value, false)

/-- The value of a text that is sound to its end. -/
def read? (text : String) : Option Json :=
  match readDocument text.toList with
  | (value, true) => if value.isSound then some value else none
  | _ => none

end Metasearch.Json
