/-
The one form in which timestamps travel: weekday, date and time with a numeric offset.
-/
import Metasearch.Calendar.Reader
import Metasearch.Calendar.Writer

namespace Metasearch.Calendar

/-- The pattern of the canonical form. -/
def canonicalPattern : String := "%a, %d %b %Y %H:%M:%S %z"

/-- A point in time in the canonical form. -/
def writeCanonical (time : Timestamp) : String :=
  writeWith (itemsOf canonicalPattern) "" time

/-- Reads the canonical form. -/
def readCanonical? (text : String) : Option Timestamp :=
  readTimestamp? (itemsOf canonicalPattern) text

/-- An instant in the canonical form, in UTC. -/
def Instant.toCanonical (instant : Instant) : String :=
  writeCanonical ⟨instant, 0⟩

end Metasearch.Calendar
