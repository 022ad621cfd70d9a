/-
Phrases such as `2 days, 3 hours ago`. A phrase is cut into numbers, words and single other
characters; then each quantity and its unit move the reference instant back, one after the
other. Months and years keep the time of day and the day of the month as far as the month has
it; a week is always seven days, whatever quantity stands before it. A fraction of a quantity is
taken off afterwards, as that share of one unit.
-/
import Metasearch.Calendar.Instant
import Metasearch.Number.Binary64
import Metasearch.Number.Integer
import Metasearch.Text.Blank
import Metasearch.Text.Letter
import Metasearch.Text.Quoted
import Metasearch.Text.Search

namespace Metasearch.RelativeTime

open Calendar (Instant Span)
open Number (Binary64)

/-! ### Tokens -/

/-- A piece of a phrase. -/
inductive Token
  | number (text : List Char)
  | word (text : List Char)
  | mark (text : List Char)
  deriving DecidableEq, Repr

/-- The text of a token. -/
def Token.text : Token → List Char
  | .number text => text
  | .word text => text
  | .mark text => text

/-- A number stands at the beginning of the text: a digit, or a point before a digit. -/
def startsNumber : List Char → Bool
  | '.' :: next :: _ => next.isDigit
  | c :: _ => c.isDigit
  | [] => false

/-- How many characters the number at the beginning of a text takes: digits, a point after them,
and the digits behind it. -/
def numberLength (text : List Char) : Nat :=
  let whole := (text.takeWhile Char.isDigit).length
  match text.drop whole with
  | '.' :: rest => whole + 1 + (rest.takeWhile Char.isDigit).length
  | _ => whole

/-- A character that a word can begin with. -/
def startsWord (c : Char) : Bool :=
  Text.isAlphabetic c || c == '_'

/-- A character that a word can go on with. -/
def continuesWord (c : Char) : Bool :=
  Text.isAlphanumeric c || c == '_'

/-- The pieces of a phrase; the first `skip` characters belong to a piece already found. -/
def tokensFrom (skip : Nat) : List Char → List Token
  | [] => []
  | c :: rest =>
    match skip with
    | skip + 1 => tokensFrom skip rest
    | 0 =>
      if Text.isBlank c then tokensFrom 0 rest
      else if startsNumber (c :: rest) then
        let length := numberLength (c :: rest)
        .number ((c :: rest).take length) :: tokensFrom (length - 1) rest
      else if startsWord c then
        let tail := rest.takeWhile continuesWord
        .word (c :: tail) :: tokensFrom tail.length rest
      else .mark [c] :: tokensFrom 0 rest

/-- The pieces of a phrase. -/
def tokens (phrase : List Char) : List Token :=
  tokensFrom 0 phrase

/-! ### Errors -/

/-- Why a phrase names no instant. -/
inductive Reason
  | noQuantity (token : String)
  | noUnit (quantity : String)
  | unknownUnit (unit : String)
  | outOfRange
  deriving DecidableEq, Repr

/-- The wording of a reason. -/
def Reason.message : Reason → String
  | .noQuantity token => "failed to parse decimal time " ++ Text.quoted token
  | .noUnit quantity => "expected a time unit after " ++ Text.quoted quantity
  | .unknownUnit unit => "unsupported unit of time " ++ Text.quoted unit
  | .outOfRange => "time offset out of range"

/-! ### Quantities and units -/

/-- A quantity: its whole part, and the fraction behind its point. -/
structure Quantity where
  whole : Nat
  fraction : Binary64
  deriving DecidableEq, Repr

/-- Reads a quantity whose whole part fits 32 bits. -/
def readQuantity? (text : List Char) : Option Quantity :=
  match Text.cut ['.'] text with
  | some (whole, fraction) => do
    let whole ← (Number.readUnsigned Number.maxUnsigned32 whole).toOption
    let fraction ← Binary64.readDecimal? ('0' :: '.' :: fraction)
    return ⟨whole, fraction⟩
  | none => do
    let whole ← (Number.readUnsigned Number.maxUnsigned32 text).toOption
    return ⟨whole, Binary64.zero⟩

/-- A unit of time. -/
inductive TimeUnit
  | year
  | month
  | week
  | day
  | hour
  | minute
  | second
  deriving DecidableEq, Repr

/-- The unit that a word names, in the singular or with an s. -/
def readUnit? (word : List Char) : Option TimeUnit :=
  let singular := (Text.dropEnding? ['s'] word).getD word
  if singular = "year".toList then some .year
  else if singular = "month".toList then some .month
  else if singular = "week".toList then some .week
  else if singular = "day".toList then some .day
  else if singular = "hour".toList then some .hour
  else if singular = "minute".toList then some .minute
  else if singular = "second".toList then some .second
  else none

/-- The share of a span that a fraction gives, toward zero in whole nanoseconds. -/
def share (span : Span) (fraction : Binary64) : Span :=
  let size := ((Binary64.ofNat span.natAbs).mul fraction).truncate Number.maxSigned
  if span < 0 then -(size : Int) else size

/-- So many small units make the fraction of a large one. -/
def portion (fraction : Binary64) (small : Nat) : Nat :=
  (fraction.mul (Binary64.ofNat small)).truncate Number.maxSigned

/-- Takes off the fraction of some months before the instant. -/
def minusShareOfMonths? (instant : Instant) (months : Nat) (fraction : Binary64) :
    Option Instant := do
  if fraction.isZero then return instant
  let earlier ← instant.minusMonths? months
  instant.plus? (share (Span.ofSeconds (earlier.seconds - instant.seconds)) fraction)

/-- Takes off so many seconds. -/
def minusSeconds? (instant : Instant) (seconds : Nat) : Option Instant :=
  instant.plus? (Span.ofSeconds (-(seconds : Int)))

/-- The instant a quantity of a unit earlier, if it is in range. -/
def step? (instant : Instant) (quantity : Quantity) (unit : TimeUnit) : Option Instant :=
  let fraction := quantity.fraction
  match unit with
  | .year => do
    let months := min (quantity.whole * 12) Number.maxUnsigned32
    minusShareOfMonths? (← instant.minusMonths? months) 12 fraction
  | .month => do
    minusShareOfMonths? (← instant.minusMonths? quantity.whole) 1 fraction
  | .week => do
    let instant ← instant.minusDays? 7
    if fraction.isZero then return instant
    instant.plus? (share (Span.ofSeconds (-(7 * 86400 : Int))) fraction)
  | .day => do
    let instant ← instant.minusDays? quantity.whole
    if fraction.isZero then return instant
    minusSeconds? instant (60 * portion fraction 1440)
  | .hour => do
    let instant ← minusSeconds? instant (3600 * quantity.whole)
    if fraction.isZero then return instant
    minusSeconds? instant (portion fraction 3600)
  | .minute => do
    let instant ← minusSeconds? instant (60 * quantity.whole)
    if fraction.isZero then return instant
    minusSeconds? instant (portion fraction 60)
  | .second => minusSeconds? instant quantity.whole

/-! ### Phrases -/

/-- A piece that may stand between quantities and says nothing. -/
def isFiller (text : List Char) : Bool :=
  text == [','] || text == ['a', 'g', 'o'] || text == ['a', 'n', 'd']

/-- Goes through the pieces of a phrase. -/
def goBack (instant : Instant) : List Token → Except Reason Instant
  | [] => .ok instant
  | token :: rest =>
    if isFiller token.text then goBack instant rest
    else
      match readQuantity? token.text, rest with
      | none, _ => .error (.noQuantity (String.ofList token.text))
      | some _, [] => .error (.noUnit (String.ofList token.text))
      | some quantity, unit :: rest =>
        match readUnit? unit.text with
        | none => .error (.unknownUnit (String.ofList unit.text))
        | some timeUnit =>
          match step? instant quantity timeUnit with
          | none => .error .outOfRange
          | some instant => goBack instant rest

/-- The instant that a phrase names, seen from a reference instant. -/
def read (phrase : String) (now : Instant) : Except Reason Instant :=
  goBack now (tokens phrase.toList)

end Metasearch.RelativeTime
