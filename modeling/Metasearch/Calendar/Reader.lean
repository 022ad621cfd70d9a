/-
Reading a point in time with a pattern. The text is first matched against the items of the
pattern, which collects the numbers and names that were read; a part that occurs twice has to
say the same both times. The collected parts are then put together: a year with a month and a
day, or with the number of the day in the year, makes a date, and everything else that was read
about the date has to agree with it.
-/
import Metasearch.Calendar.Instant
import Metasearch.Calendar.Pattern
import Metasearch.Number.Integer
import Metasearch.Text.Search

namespace Metasearch.Calendar

/-! ### Collected parts -/

/-- What has been read of a date and time. -/
structure Parts where
  year : Option Int
  yearOfCentury : Option Nat
  month : Option Nat
  day : Option Nat
  ordinal : Option Nat
  weekday : Option Nat
  /-- Zero for the first half of the day and one for the second. -/
  half : Option Nat
  hourOfHalf : Option Nat
  minute : Option Nat
  second : Option Nat
  nanos : Option Nat
  offset : Option Int
  deriving DecidableEq, Repr

namespace Parts

/-- Nothing is known yet. -/
def empty : Parts :=
  ⟨none, none, none, none, none, none, none, none, none, none, none, none⟩

/-- A part that has been read once more: it may be new, or the same as before. -/
def agree {Part : Type} [DecidableEq Part] (before : Option Part) (part : Part) :
    Option (Option Part) :=
  match before with
  | none => some (some part)
  | some old => if old = part then some (some old) else none

/-- The year takes its value, unless it has another already. -/
def setYear (parts : Parts) (year : Int) : Option Parts := do
  if Number.isWithin Number.maxSigned32 year then
    let year ← agree parts.year year
    return { parts with year }
  else none

/-- The day of the week takes its value, unless it has another already. -/
def setWeekday (parts : Parts) (weekday : Nat) : Option Parts := do
  let weekday ← agree parts.weekday weekday
  return { parts with weekday }

/-- The month takes its value, which has to be one to twelve, unless it has another already. -/
def setMonth (parts : Parts) (month : Nat) : Option Parts := do
  if 1 ≤ month && month ≤ 12 then
    let month ← agree parts.month month
    return { parts with month }
  else none

/-- The half of the day takes its value, unless it has another already. -/
def setHalf (parts : Parts) (half : Nat) : Option Parts := do
  let half ← agree parts.half half
  return { parts with half }

/-- The hour of the half of the day takes its value, unless it has another already. -/
def setHourOfHalf (parts : Parts) (hour : Nat) : Option Parts := do
  let hourOfHalf ← agree parts.hourOfHalf hour
  return { parts with hourOfHalf }

/-- The part of the second takes its value, unless it has another already. -/
def setNanos (parts : Parts) (nanos : Nat) : Option Parts := do
  let nanos ← agree parts.nanos nanos
  return { parts with nanos }

/-- The offset takes its value, unless it has another already. -/
def setOffset (parts : Parts) (offset : Int) : Option Parts := do
  let offset ← agree parts.offset offset
  return { parts with offset }

/-- Takes in a number; each has its range. -/
def setNumber (parts : Parts) (part : NumberPart) (value : Nat) : Option Parts :=
  match part with
  | .year => parts.setYear value
  | .yearOfCentury => do
    let yearOfCentury ← agree parts.yearOfCentury value
    return { parts with yearOfCentury }
  | .month => parts.setMonth value
  | .day => do
    if 1 ≤ value && value ≤ 31 then
      let day ← agree parts.day value
      return { parts with day }
    else none
  | .ordinal => do
    if 1 ≤ value && value ≤ 366 then
      let ordinal ← agree parts.ordinal value
      return { parts with ordinal }
    else none
  | .hour => do
    if value ≤ 23 then
      let parts ← parts.setHalf (value / 12)
      parts.setHourOfHalf (value % 12)
    else none
  | .hourOfHalf => do
    if 1 ≤ value && value ≤ 12 then parts.setHourOfHalf (value % 12) else none
  | .minute => do
    if value ≤ 59 then
      let minute ← agree parts.minute value
      return { parts with minute }
    else none
  | .second => do
    if value ≤ 60 then
      let second ← agree parts.second value
      return { parts with second }
    else none

/-! ### Putting parts together -/

/-- The year that was read; of two digits alone, those below 70 count from 2000. -/
def fullYear? (parts : Parts) : Option Int :=
  match parts.year, parts.yearOfCentury with
  | some year, some short =>
    if 0 ≤ year && year % 100 == (short : Int) then some year else none
  | some year, none => some year
  | none, some short => some (if short < 70 then 2000 + short else 1900 + short)
  | none, none => none

/-- A part that was not read, or is as it should be. -/
def fits {Part : Type} [DecidableEq Part] (part : Option Part) (value : Part) : Bool :=
  match part with
  | none => true
  | some read => decide (read = value)

/-- The date that was read. -/
def date? (parts : Parts) : Option Date := do
  let year ← parts.fullYear?
  match parts.month, parts.day, parts.ordinal with
  | some month, some day, ordinal =>
    let date ← Date.of? year month day
    if fits parts.weekday date.weekday && fits ordinal date.ordinal then some date else none
  | month, day, some ordinal =>
    let date ← Date.ofOrdinal? year ordinal
    if fits month date.month && fits day date.day && fits parts.weekday date.weekday then some date
    else none
  | _, _, none => none

/-- The time of day that was read: the seconds since midnight, and the nanoseconds. A second of 60
is kept on the second before it. -/
def time? (parts : Parts) : Option (Nat × Nat) := do
  let half ← parts.half
  let hourOfHalf ← parts.hourOfHalf
  let minute ← parts.minute
  let nanos ← match parts.second, parts.nanos with
    | none, some _ => none
    | _, nanos => some (nanos.getD 0)
  let second := parts.second.getD 0
  let seconds := (half * 12 + hourOfHalf) * 3600 + minute * 60
  if second == 60 then some (seconds + 59, nanosPerSecond + nanos)
  else some (seconds + second, nanos)

/-- The instant of a date and a time of day on a clock with an offset. -/
def instantAt (date : Date) (time : Nat × Nat) (offset : Int) : Instant :=
  ⟨date.dayNumber * secondsPerDay + time.1 - offset, time.2⟩

/-- The point in time that was read, which needs a date, a time and an offset of less than a day. -/
def timestamp? (parts : Parts) : Option Timestamp := do
  let offset ← parts.offset
  let date ← parts.date?
  let time ← parts.time?
  if -(secondsPerDay : Int) < offset && offset < secondsPerDay then
    let instant ← (instantAt date time offset).checked
    return ⟨instant, offset⟩
  else none

end Parts

/-! ### Matching text -/

/-- The value of decimal digits. -/
def digitsValue (digits : List Char) : Nat :=
  digits.foldl (fun value c => value * 10 + (c.toNat - 48)) 0

/-- One digit or more, at most `most`, as a number below `2 ^ 63`, and what follows. -/
def readNumber? (most : Nat) (text : List Char) : Option (Nat × List Char) :=
  let digits := (text.take most).takeWhile Char.isDigit
  let value := digitsValue digits
  if digits.isEmpty || Number.maxSigned < value then none else some (value, text.drop digits.length)

/-- A year: four digits at most, or any number of them behind a sign. -/
def readYear? (text : List Char) : Option (Int × List Char) :=
  match text with
  | '-' :: rest => (readNumber? rest.length rest).map fun (value, rest) => (-(value : Int), rest)
  | '+' :: rest => (readNumber? rest.length rest).map fun (value, rest) => ((value : Int), rest)
  | text => (readNumber? 4 text).map fun (value, rest) => ((value : Int), rest)

/-- The rest of the text behind a word, whatever the case of its letters. -/
def dropWord? (word text : List Char) : Option (List Char) :=
  if (text.take word.length).map Char.toLower == word.map Char.toLower then
    some (text.drop word.length)
  else none

/-- The place of the name that the text begins with, by its first three letters; where full names
are read, the rest of the name is taken too if it stands there. -/
def readName? (names : List String) (full : Bool) (text : List Char) : Option (Nat × List Char) :=
  names.zipIdx.findSome? fun (name, index) => do
    let rest ← dropWord? (name.toList.take 3) text
    if full then return (index, (dropWord? (name.toList.drop 3) rest).getD rest)
    else return (index, rest)

/-- The half of the day. -/
def readHalf? (text : List Char) : Option (Nat × List Char) :=
  match dropWord? ['a', 'm'] text with
  | some rest => some (0, rest)
  | none => (dropWord? ['p', 'm'] text).map fun rest => (1, rest)

/-- A fraction of a second behind its point, in nanoseconds: exactly so many digits, or any number
of them, of which nine count. -/
def readFraction? (digits : Option Nat) (text : List Char) : Option (Nat × List Char) :=
  let all := text.takeWhile Char.isDigit
  match digits with
  | some count =>
    if count ≤ all.length then
      some (digitsValue (all.take count) * Number.tenTo (9 - count), text.drop count)
    else none
  | none =>
    let kept := all.take 9
    if kept.isEmpty then none
    else some (digitsValue kept * Number.tenTo (9 - kept.length), text.drop all.length)

/-- Two digits. -/
def readTwoDigits? : List Char → Option (Nat × List Char)
  | a :: b :: rest =>
    if a.isDigit && b.isDigit then some (digitsValue [a, b], rest) else none
  | _ => none

/-- An offset: a sign, hours, and minutes with any colons and blanks before them. A loose one may
be the letter Z, or end with its hours. -/
def readOffset? (loose : Bool) (text : List Char) : Option (Int × List Char) := do
  let (sign, rest) ← match text with
    | '+' :: rest => some ((1 : Int), rest)
    | '-' :: rest => some (-1, rest)
    | '\u2212' :: rest => some (-1, rest)
    | c :: rest => if loose && (c == 'Z' || c == 'z') then some (0, rest) else none
    | [] => none
  if sign = 0 then return (0, rest)
  else
    let (hours, rest) ← readTwoDigits? rest
    let rest := rest.dropWhile fun c => c == ':' || Text.isBlank c
    if loose && rest.isEmpty then return (sign * (hours * 3600), [])
    else
      let (minutes, rest) ← readTwoDigits? rest
      if minutes ≤ 59 then return (sign * (hours * 3600 + minutes * 60), rest) else none

/-- The digits that a number of a pattern may have. -/
def NumberPart.width : NumberPart → Nat
  | .year => 4
  | .ordinal => 3
  | _ => 2

/-- Matches one item of a pattern. -/
def readItem? (parts : Parts) (text : List Char) (item : PatternItem) :
    Option (Parts × List Char) :=
  match item with
  | .literal expected => (Text.dropBeginning? expected text).map fun rest => (parts, rest)
  | .blanks _ => some (parts, Text.trimStart text)
  | .number .year _ => do
    let (year, rest) ← readYear? (Text.trimStart text)
    return (← parts.setYear year, rest)
  | .number part _ => do
    let (value, rest) ← readNumber? part.width (Text.trimStart text)
    return (← parts.setNumber part value, rest)
  | .monthName full => do
    let (index, rest) ← readName? monthNames full text
    return (← parts.setMonth (index + 1), rest)
  | .weekdayName full => do
    let (index, rest) ← readName? weekdayNames full text
    return (← parts.setWeekday index, rest)
  | .half _ => do
    let (half, rest) ← readHalf? text
    return (← parts.setHalf half, rest)
  | .zoneName => some (parts, text.dropWhile fun c => !Text.isBlank c)
  | .offset _ => do
    let (offset, rest) ← readOffset? false (Text.trimStart text)
    return (← parts.setOffset offset, rest)
  | .looseOffset => do
    let (offset, rest) ← readOffset? true (Text.trimStart text)
    return (← parts.setOffset offset, rest)
  | .fraction digits =>
    match text with
    | '.' :: rest => do
      let (nanos, rest) ← readFraction? digits rest
      return (← parts.setNanos nanos, rest)
    | text => some (parts, text)
  | .malformed => none

/-- Matches a whole text against a pattern. -/
def readParts? (items : List PatternItem) (text : List Char) : Option Parts := do
  let (parts, rest) ← items.foldlM (fun (parts, rest) item => readItem? parts rest item)
    (Parts.empty, text)
  if rest.isEmpty then return parts else none

/-- The point in time that a text gives with a pattern that includes an offset. -/
def readTimestamp? (items : List PatternItem) (text : String) : Option Timestamp := do
  let parts ← readParts? items text.toList
  parts.timestamp?

/-- The point in time that a text gives with any pattern: without an offset the time is taken as
UTC, without a time the date begins at midnight. -/
def readLoosely? (items : List PatternItem) (text : String) : Option Timestamp := do
  let parts ← readParts? items text.toList
  match parts.timestamp? with
  | some time => some time
  | none =>
    let date ← parts.date?
    return ⟨Parts.instantAt date (parts.time?.getD (0, 0)) 0, 0⟩

end Metasearch.Calendar
