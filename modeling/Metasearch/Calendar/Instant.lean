/-
Points in time: the seconds since 1970-01-01T00:00:00 UTC and the nanoseconds within the
second. A leap second is kept as more than a thousand million nanoseconds on the second before
it, so that a clock shows 60 in it. Adding a time span that leads out of a leap second goes on
from the second after it or, forwards, from the second it is kept on.
-/
import Metasearch.Calendar.Date

namespace Metasearch.Calendar

/-- A point in time. -/
structure Instant where
  seconds : Int
  nanos : Nat
  deriving DecidableEq, Repr

/-- A point in time seen at an offset from UTC, in seconds to the east. -/
structure Timestamp where
  instant : Instant
  offset : Int
  deriving DecidableEq, Repr

/-- A span of time in nanoseconds. -/
abbrev Span := Int

/-- The nanoseconds of a second. -/
def nanosPerSecond : Nat := 1000000000

/-- The seconds of a day. -/
def secondsPerDay : Nat := 86400

/-- A span of whole seconds. -/
def Span.ofSeconds (seconds : Int) : Span :=
  seconds * nanosPerSecond

namespace Instant

/-- The number of the day, in UTC. -/
def dayNumber (instant : Instant) : Int :=
  instant.seconds / secondsPerDay

/-- The seconds since midnight, in UTC. -/
def timeOfDay (instant : Instant) : Nat :=
  (instant.seconds % secondsPerDay).toNat

/-- The day is one that dates are kept for. -/
def inRange (instant : Instant) : Bool :=
  firstDay ≤ instant.dayNumber && instant.dayNumber ≤ lastDay

theorem inRange_iff {instant : Instant} :
    instant.inRange = true ↔ firstDay ≤ instant.dayNumber ∧ instant.dayNumber ≤ lastDay := by
  simp only [inRange, Bool.and_eq_true, decide_eq_true_eq]

/-- The instant, if its day is one that dates are kept for. -/
def checked (instant : Instant) : Option Instant :=
  if instant.inRange then some instant else none

/-- The instant of a day at the same time of day as another. -/
def onDay (instant : Instant) (day : Int) : Instant :=
  { instant with seconds := day * secondsPerDay + instant.timeOfDay }

theorem dayNumber_onDay (instant : Instant) (day : Int) : (instant.onDay day).dayNumber = day := by
  unfold onDay dayNumber timeOfDay secondsPerDay
  simp only
  omega

theorem timeOfDay_onDay (instant : Instant) (day : Int) :
    (instant.onDay day).timeOfDay = instant.timeOfDay := by
  unfold onDay timeOfDay secondsPerDay
  simp only
  omega

/-- The instant a span later, wherever it leads. -/
def plus (instant : Instant) (span : Span) : Instant :=
  let seconds := Int.tdiv span nanosPerSecond
  let nanos := Int.tmod span nanosPerSecond
  let leap := nanosPerSecond ≤ instant.nanos
  let leapsForward := 0 < seconds ||
    (0 < nanos && 2 * (nanosPerSecond : Int) ≤ instant.nanos + nanos)
  if leap && !leapsForward && seconds == 0 then
    { instant with nanos := (instant.nanos + nanos).toNat }
  else
    let start : Int := if leap && !leapsForward then instant.seconds + 1 else instant.seconds
    let within : Int := if leap then (instant.nanos : Int) - nanosPerSecond else instant.nanos
    let sum := within + nanos
    ⟨start + seconds + sum / nanosPerSecond, (sum % nanosPerSecond).toNat⟩

/-- The instant a span later, if it is in range. -/
def plus? (instant : Instant) (span : Span) : Option Instant :=
  (instant.plus span).checked

/-- The same time of day some days earlier, if that is in range. -/
def minusDays? (instant : Instant) (days : Nat) : Option Instant :=
  (instant.onDay (instant.dayNumber - days)).checked

/-- The same time of day some months earlier, if that is in range. -/
def minusMonths? (instant : Instant) (months : Nat) : Option Instant :=
  ((Date.ofDayNumber instant.dayNumber).minusMonths? months).map fun date =>
    instant.onDay date.dayNumber

end Instant

end Metasearch.Calendar
