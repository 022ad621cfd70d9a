/-
Writing a point in time with a pattern, as the clock at its offset shows it.
-/
import Metasearch.Calendar.Instant
import Metasearch.Calendar.Pattern

namespace Metasearch.Calendar

/-- A number in decimal digits. -/
def decimal (value : Nat) : List Char :=
  Nat.toDigits 10 value

/-- A number in decimal digits, filled up from the left. -/
def padded (width : Nat) (fill : Char) (value : Nat) : List Char :=
  let digits := decimal value
  List.replicate (width - digits.length) fill ++ digits

/-- A number of so many places with its padding. -/
def written (width : Nat) (padding : Padding) (value : Nat) : List Char :=
  match padding with
  | .zeros => padded width '0' value
  | .spaces => padded width ' ' value
  | .nothing => decimal value

/-- A year; one outside 0 to 9999 has a sign. -/
def writtenYear (padding : Padding) (year : Int) : List Char :=
  if 0 ≤ year && year ≤ 9999 then written 4 padding year.toNat
  else (if year < 0 then '-' else '+') :: written 4 padding year.natAbs

namespace Timestamp

/-- The seconds since 1970-01-01T00:00:00 that the clock shows. -/
def localSeconds (time : Timestamp) : Int :=
  time.instant.seconds + time.offset

/-- The date that the clock shows. -/
def date (time : Timestamp) : Date :=
  Date.ofDayNumber (time.localSeconds / secondsPerDay)

/-- The seconds since midnight that the clock shows. -/
def timeOfDay (time : Timestamp) : Nat :=
  (time.localSeconds % secondsPerDay).toNat

/-- The local hour. -/
def hour (time : Timestamp) : Nat :=
  time.timeOfDay / 3600

/-- The local minute. -/
def minute (time : Timestamp) : Nat :=
  time.timeOfDay / 60 % 60

/-- The second; 60 within a leap second. -/
def second (time : Timestamp) : Nat :=
  time.timeOfDay % 60 + time.instant.nanos / nanosPerSecond

/-- The nanoseconds within the second that the clock shows. -/
def fraction (time : Timestamp) : Nat :=
  time.instant.nanos % nanosPerSecond

end Timestamp

/-- An hour on a clock of twelve hours. -/
def hourOfHalf (hour : Nat) : Nat :=
  if hour % 12 == 0 then 12 else hour % 12

/-- A number of a date or a time. -/
def writtenNumber (time : Timestamp) (part : NumberPart) (padding : Padding) : List Char :=
  match part with
  | .year => writtenYear padding time.date.year
  | .yearOfCentury => written 2 padding (time.date.year % 100).toNat
  | .month => written 2 padding time.date.month
  | .day => written 2 padding time.date.day
  | .ordinal => written 3 padding time.date.ordinal
  | .hour => written 2 padding time.hour
  | .hourOfHalf => written 2 padding (hourOfHalf time.hour)
  | .minute => written 2 padding time.minute
  | .second => written 2 padding time.second

/-- An offset in hours and minutes, with a sign. -/
def writtenOffset (colon : Bool) (offset : Int) : List Char :=
  let minutes := offset.natAbs / 60
  (if offset < 0 then '-' else '+') :: padded 2 '0' (minutes / 60) ++
    (if colon then [':'] else []) ++ padded 2 '0' (minutes % 60)

/-- A fraction of a second in three, six or nine digits. -/
def writtenFraction (nanos : Nat) (digits : Nat) : List Char :=
  '.' :: (padded 9 '0' nanos).take digits

/-- A full name, or its short form. -/
def writtenName (names : List String) (full : Bool) (index : Nat) : List Char :=
  let name := names.getD index ""
  (if full then name else shortName name).toList

/-- One item of a pattern. -/
def writtenItem (time : Timestamp) (zone : String) (item : PatternItem) : List Char :=
  match item with
  | .literal text => text
  | .blanks text => text
  | .number part padding => writtenNumber time part padding
  | .monthName full => writtenName monthNames full (time.date.month - 1)
  | .weekdayName full => writtenName weekdayNames full time.date.weekday
  | .half capital =>
    let letters := if time.hour < 12 then "am" else "pm"
    if capital then letters.toList.map Char.toUpper else letters.toList
  | .zoneName => zone.toList
  | .offset colon => writtenOffset colon time.offset
  | .looseOffset => []
  | .fraction (some digits) => writtenFraction time.fraction digits
  | .fraction none =>
    if time.fraction == 0 then []
    else if time.fraction % 1000000 == 0 then writtenFraction time.fraction 3
    else if time.fraction % 1000 == 0 then writtenFraction time.fraction 6
    else writtenFraction time.fraction 9
  | .malformed => []

/-- A point in time written with a pattern; `zone` is the name of its time zone. -/
def writeWith (items : List PatternItem) (zone : String) (time : Timestamp) : String :=
  String.ofList (items.flatMap (writtenItem time zone))

end Metasearch.Calendar
