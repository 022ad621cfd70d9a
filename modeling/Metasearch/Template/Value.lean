/-
The values that templates read: texts, whole numbers, lists, and maps in the order of their
keys.
-/

namespace Metasearch.Template

/-- A value that a template can read. A map holds each key once, in ascending order. -/
inductive Value
  | text (content : String)
  | int (value : Int)
  | list (items : List Value)
  | map (fields : List (String × Value))

namespace Value

instance : Inhabited Value := ⟨.int 0⟩

/-- The value counts as present: it is not empty and not zero. -/
def isTruthy : Value → Bool
  | .text content => content != ""
  | .int value => value != 0
  | .list items => !items.isEmpty
  | .map fields => !fields.isEmpty

mutual

/-- The text of a value. -/
def toText : Value → String
  | .text content => content
  | .int value => toString value
  | .list items => "[" ++ itemsText true items ++ "]"
  | .map fields => "map[" ++ fieldsText true fields ++ "]"

/-- The items of a list, with blanks between. -/
def itemsText (first : Bool) : List Value → String
  | [] => ""
  | item :: rest => (if first then "" else " ") ++ toText item ++ itemsText false rest

/-- The fields of a map, with blanks between. -/
def fieldsText (first : Bool) : List (String × Value) → String
  | [] => ""
  | (name, value) :: rest =>
    (if first then "" else " ") ++ name ++ ":" ++ toText value ++ fieldsText false rest

end

/-- The value of a key. -/
def field? (name : String) : Value → Option Value
  | .map fields => (fields.find? fun field => field.1 == name).map (·.2)
  | _ => none

/-- The items that a part is repeated for; texts and numbers have none. -/
def items? : Value → Option (List Value)
  | .list items => some items
  | .map fields => some (fields.map (·.2))
  | _ => none

end Value

end Metasearch.Template
