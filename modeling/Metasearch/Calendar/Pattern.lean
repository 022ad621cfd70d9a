/-
Date patterns: texts in which a percent sign and a letter stand for a part of a date or a time.
A minus sign or a point, colon or number sign between the two changes how the part is written.
A run of blanks in a pattern is an item of its own, because it matches any run of blanks.
-/
import Metasearch.Text.Blank

namespace Metasearch.Calendar

/-- What fills up a number that has fewer digits than its places. -/
inductive Padding
  | zeros
  | spaces
  | nothing
  deriving DecidableEq, Repr

/-- A number in a date or a time. -/
inductive NumberPart
  | year
  | yearOfCentury
  | month
  | day
  | ordinal
  | hour
  | hourOfHalf
  | minute
  | second
  deriving DecidableEq, Repr

/-- A part of a pattern. -/
inductive PatternItem
  | literal (text : List Char)
  | blanks (text : List Char)
  | number (part : NumberPart) (padding : Padding)
  | monthName (full : Bool)
  | weekdayName (full : Bool)
  /-- The half of the day. -/
  | half (capital : Bool)
  | zoneName
  /-- The offset from UTC in hours and minutes. -/
  | offset (colon : Bool)
  /-- An offset whose minutes may be missing; it can be read and not written. -/
  | looseOffset
  /-- The fraction of the second with its point: in so many digits, or in as many as it needs. -/
  | fraction (digits : Option Nat)
  /-- A percent sign that begins nothing known. -/
  | malformed
  deriving DecidableEq, Repr

/-- The number that a letter stands for, and what fills it up. -/
def numberOfLetter? : Char → Option (NumberPart × Padding)
  | 'Y' => some (.year, .zeros)
  | 'y' => some (.yearOfCentury, .zeros)
  | 'm' => some (.month, .zeros)
  | 'd' => some (.day, .zeros)
  | 'e' => some (.day, .spaces)
  | 'j' => some (.ordinal, .zeros)
  | 'H' => some (.hour, .zeros)
  | 'I' => some (.hourOfHalf, .zeros)
  | 'M' => some (.minute, .zeros)
  | 'S' => some (.second, .zeros)
  | _ => none

/-- The item that a single letter behind a percent sign stands for. -/
def itemOfLetter (letter : Char) : PatternItem :=
  match letter with
  | '%' => .literal ['%']
  | 'B' => .monthName true
  | 'b' => .monthName false
  | 'A' => .weekdayName true
  | 'a' => .weekdayName false
  | 'P' => .half false
  | 'p' => .half true
  | 'Z' => .zoneName
  | 'z' => .offset false
  | letter =>
    match numberOfLetter? letter with
    | some (part, padding) => .number part padding
    | none => .malformed

/-- The item that begins behind a percent sign, and the number of characters it takes there. -/
def itemBehindPercent : List Char → PatternItem × Nat
  | '-' :: letter :: _ =>
    match numberOfLetter? letter with
    | some (part, _) => (.number part .nothing, 2)
    | none => (.malformed, 2)
  | ':' :: 'z' :: _ => (.offset true, 2)
  | '#' :: 'z' :: _ => (.looseOffset, 2)
  | '.' :: 'f' :: _ => (.fraction none, 2)
  | '.' :: '3' :: 'f' :: _ => (.fraction (some 3), 3)
  | '.' :: '6' :: 'f' :: _ => (.fraction (some 6), 3)
  | '.' :: '9' :: 'f' :: _ => (.fraction (some 9), 3)
  | letter :: _ => (itemOfLetter letter, 1)
  | [] => (.malformed, 0)

/-- An ordinary character in front of the items that follow it: it goes with a literal or with a
run of blanks that follows. -/
def consChar (c : Char) (items : List PatternItem) : List PatternItem :=
  if Text.isBlank c then
    match items with
    | .blanks text :: rest => .blanks (c :: text) :: rest
    | items => .blanks [c] :: items
  else
    match items with
    | .literal text :: rest => .literal (c :: text) :: rest
    | items => .literal [c] :: items

/-- The items of a pattern; the first `skip` characters belong to an item already found. -/
def patternItems (skip : Nat) : List Char → List PatternItem
  | [] => []
  | c :: rest =>
    match skip with
    | skip + 1 => patternItems skip rest
    | 0 =>
      if c == '%' then
        let (item, taken) := itemBehindPercent rest
        item :: patternItems taken rest
      else consChar c (patternItems 0 rest)

/-- The items of a pattern. -/
def itemsOf (pattern : String) : List PatternItem :=
  patternItems 0 pattern.toList

end Metasearch.Calendar
