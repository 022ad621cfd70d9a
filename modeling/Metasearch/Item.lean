/-
Search results. An item is what one row of a result page comes down to.
-/
import Metasearch.Calendar.Instant
import Metasearch.Number.Binary64

namespace Metasearch

/-- A ratio of bytes sent to bytes received. -/
structure Ratio where
  negative : Bool
  size : Number.Binary64
  deriving DecidableEq, Repr

/-- A search result. -/
structure Item where
  site : String
  title : String
  description : String
  /-- Where the file is. -/
  link : String
  /-- Where the details are; it also tells the item from others. -/
  guid : String
  comments : String
  /-- The canonical category. -/
  category : Int
  /-- In bytes. -/
  size : Nat
  seeders : Int
  /-- Those who have the whole file and those who do not yet. -/
  peers : Int
  publishDate : Option Calendar.Timestamp
  minimumRatio : Ratio
  /-- In seconds. -/
  minimumSeedTime : Nat
  deriving DecidableEq, Repr

namespace Item

/-- Two days. -/
def usualSeedTime : Nat := 2 * Calendar.secondsPerDay

/-- An item of a site of which nothing is known. -/
def ofSite (site : String) : Item :=
  ⟨site, "", "", "", "", "", 0, 0, 0, 0, none, ⟨false, .ofNat 1⟩, usualSeedTime⟩

end Item

end Metasearch
