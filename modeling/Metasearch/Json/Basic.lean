/-
The JSON data model. A document is read as a tree even when its text is damaged: the tree then
holds the leaf `malformed` at the place where the text stops making sense, and nothing behind
it. Reading a typed value walks the tree in document order, so whichever comes first, a value
of the wrong shape or the damaged place, is what gets reported.
-/
import Metasearch.Number.Binary64
import Metasearch.Number.Integer
import Metasearch.Text.Quoted

namespace Metasearch

/-- A JSON value. -/
inductive Json
  | null
  | bool (value : Bool)
  | int (value : Int)
  | real (negative : Bool) (size : Number.Binary64)
  | text (value : String)
  | list (items : List Json)
  | object (fields : List (String × Json))
  /-- A text or number that is well formed but has no value: a text with half a surrogate pair, or
  a number too large. It may be passed over, not read. -/
  | unreadable
  /-- The place where the text stops being JSON. -/
  | malformed

namespace Json

instance : Inhabited Json := ⟨.null⟩

/-- The field of an object; of two fields with one name the later counts. -/
def get? (name : String) : Json → Option Json
  | .object fields => (fields.reverse.find? fun field => field.1 == name).map (·.2)
  | _ => none

mutual

/-- The damaged place, if there is one, lies outside this value. -/
def isSound : Json → Bool
  | .malformed => false
  | .list items => areSound items
  | .object fields => fieldsAreSound fields
  | _ => true

/-- `isSound` on the items of a list. -/
def areSound : List Json → Bool
  | [] => true
  | item :: rest => isSound item && areSound rest

/-- `isSound` on the values of an object. -/
def fieldsAreSound : List (String × Json) → Bool
  | [] => true
  | (_, value) :: rest => isSound value && fieldsAreSound rest

end

mutual

/-- Everything in this value has a value. -/
def isReadable : Json → Bool
  | .malformed | .unreadable => false
  | .list items => areReadable items
  | .object fields => fieldsAreReadable fields
  | _ => true

/-- `isReadable` on the items of a list. -/
def areReadable : List Json → Bool
  | [] => true
  | item :: rest => isReadable item && areReadable rest

/-- `isReadable` on the values of an object. -/
def fieldsAreReadable : List (String × Json) → Bool
  | [] => true
  | (_, value) :: rest => isReadable value && fieldsAreReadable rest

end

mutual

/-- The number of lists and objects inside one another. -/
def depth : Json → Nat
  | .list items => depthOfItems items + 1
  | .object fields => depthOfFields fields + 1
  | _ => 0

/-- The greatest depth among the items of a list. -/
def depthOfItems : List Json → Nat
  | [] => 0
  | item :: rest => max (depth item) (depthOfItems rest)

/-- The greatest depth among the values of an object. -/
def depthOfFields : List (String × Json) → Nat
  | [] => 0
  | (_, value) :: rest => max (depth value) (depthOfFields rest)

end

end Json

end Metasearch
