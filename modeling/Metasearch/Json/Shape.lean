/-
Reading typed values out of JSON. A reading takes a value and gives what it stands for, or says
why it does not fit. A record may be written as an object, its fields in any order and unknown
ones passed over, or as the list of its fields in the order of their declaration.

Values are read in document order and the first misfit ends the reading, so the error names the
first wrong place of a document, and a damaged place counts where it stands.
-/
import Metasearch.Json.Basic

namespace Metasearch.Json

/-! ### Misfits -/

/-- Why a value does not fit. -/
inductive Misfit
  | malformed
  | wrongType (found expected : String)
  | wrongValue (found expected : String)
  | wrongLength (length : Nat) (expected : String)
  | missingField (name : String)
  | duplicateField (name : String)
  | noVariant (choice : String)
  /-- A value of the right shape that its domain refuses. -/
  | refused (reason : String)
  deriving DecidableEq, Repr

/-- The wording of a misfit; damaged text has none. -/
def Misfit.message : Misfit → String
  | .malformed => ""
  | .wrongType found expected => "invalid type: " ++ found ++ ", expected " ++ expected
  | .wrongValue found expected => "invalid value: " ++ found ++ ", expected " ++ expected
  | .wrongLength length expected =>
    "invalid length " ++ toString length ++ ", expected " ++ expected
  | .missingField name => "missing field `" ++ name ++ "`"
  | .duplicateField name => "duplicate field `" ++ name ++ "`"
  | .noVariant choice => "data did not match any variant of untagged enum " ++ choice
  | .refused reason => reason

/-- Where the value comes from, which decides what happens to a list that is too long: in a value
its length is wrong, in a text the place behind its last item is damaged. -/
inductive Origin
  | value
  | text
  deriving DecidableEq, Repr

/-- A reading of typed values. -/
abbrev Reading (Value : Type) := Json → Except Misfit Value

/-- How a message names a value that was found. -/
def description : Json → String
  | .null => "null"
  | .bool true => "boolean `true`"
  | .bool false => "boolean `false`"
  | .int value => "integer `" ++ toString value ++ "`"
  | .real negative size =>
    "floating point `" ++ (if negative then "-" else "") ++ String.ofList size.toPositional ++ "`"
  | .text value => "string " ++ Text.quoted value
  | .list _ => "sequence"
  | .object _ => "map"
  | .unreadable => ""
  | .malformed => ""

/-- The misfit of a value of another type. -/
def mismatch (expected : String) (json : Json) : Misfit :=
  match json with
  | .unreadable | .malformed => .malformed
  | other => .wrongType other.description expected

/-! ### Single values -/

/-- Reads a text. -/
def asText : Reading String
  | .text value => .ok value
  | other => .error (mismatch "a string" other)

/-- Reads a truth value. -/
def asBool : Reading Bool
  | .bool value => .ok value
  | other => .error (mismatch "a boolean" other)

/-- A signed number of 64 bits. -/
def asSigned : Reading Int
  | .int value =>
    if Number.isWithin Number.maxSigned value then .ok value
    else .error (.wrongValue (description (.int value)) "i64")
  | other => .error (mismatch "i64" other)

/-- An unsigned number of 64 bits; `kind` names it in messages. -/
def asUnsigned (kind : String) : Reading Nat
  | .int value =>
    if 0 ≤ value then .ok value.toNat
    else .error (.wrongValue (description (.int value)) kind)
  | other => .error (mismatch kind other)

/-- A binary floating-point number: its sign and its size. -/
def asReal : Reading (Bool × Number.Binary64)
  | .real negative size => .ok (negative, size)
  | .int value => .ok (decide (value < 0), Number.Binary64.ofNat value.natAbs)
  | other => .error (mismatch "f64" other)

/-! ### Values with parts -/

/-- A value that may be `null`. -/
def asOptional {Value : Type} (reading : Reading Value) : Reading (Option Value)
  | .null => .ok none
  | other => (reading other).map some

/-- Reads a list, each of its items in the same way. -/
def asList {Value : Type} (reading : Reading Value) : Reading (List Value)
  | .list items => items.mapM reading
  | other => .error (mismatch "a sequence" other)

/-- The list with a field put at its place in the order of names; a field of that name goes. -/
def insertField {Value : Type} (name : String) (value : Value) :
    List (String × Value) → List (String × Value)
  | [] => [(name, value)]
  | (head, old) :: rest =>
    if name == head then (name, value) :: rest
    else if name < head then (name, value) :: (head, old) :: rest
    else (head, old) :: insertField name value rest

/-- An object whose fields all have one type, in the order of their names; of two fields with one
name the later counts. -/
def asMap {Value : Type} (reading : Reading Value) : Reading (List (String × Value))
  | .object fields =>
    fields.foldlM (fun read (name, json) => do
      let value ← reading json
      return insertField name value read) []
  | other => .error (mismatch "a map" other)

/-- A reading whose value its domain may refuse. -/
def asChecked {Value Result : Type} (reading : Reading Value)
    (check : Value → Except String Result) : Reading Result := fun json => do
  let value ← reading json
  (check value).mapError .refused

/-! ### Records -/

/-- When a field of a record may be left out. -/
inductive Presence
  | required
  /-- From an object only. -/
  | optional
  | defaulted
  deriving DecidableEq, Repr

/-- A field of a record: its name, and how its value is put into the record. -/
structure Slot (Record : Type) where
  name : String
  presence : Presence
  put : Json → Record → Except Misfit Record

/-- A field with a reading for its value. -/
def Slot.of {Record Value : Type} (name : String) (presence : Presence) (reading : Reading Value)
    (set : Value → Record → Record) : Slot Record :=
  ⟨name, presence, fun json record => (reading json).map fun value => set value record⟩

/-- Reads the fields of an object in their order, the names of those already read in `seen`. -/
def putFields {Record : Type} (slots : List (Slot Record)) (seen : List String)
    (record : Record) : List (String × Json) → Except Misfit Record
  | [] =>
    match slots.find? fun slot => slot.presence == .required && !seen.contains slot.name with
    | some slot => .error (.missingField slot.name)
    | none => .ok record
  | (name, json) :: rest =>
    match slots.find? fun slot => slot.name == name with
    | none => if json.isSound then putFields slots seen record rest else .error .malformed
    | some slot =>
      if seen.contains name then .error (.duplicateField name)
      else do
        let record ← slot.put json record
        putFields slots (name :: seen) record rest

/-- Reads the items of a list as the fields in the order of their declaration. -/
def putItems {Record : Type} (origin : Origin) (expected : String) (length : Nat) :
    Nat → List (Slot Record) → List Json → Record → Except Misfit Record
  | _, [], [], record => .ok record
  | _, [], _ :: _, _ =>
    match origin with
    | .value => .error (.wrongLength length "fewer elements in array")
    | .text => .error .malformed
  | index, slot :: slots, [], record =>
    if slot.presence == .defaulted then
      putItems origin expected length (index + 1) slots [] record
    else .error (.wrongLength index expected)
  | index, slot :: slots, item :: items, record => do
    let record ← slot.put item record
    putItems origin expected length (index + 1) slots items record

/-- A count of elements in words. -/
def elementCount (count : Nat) : String :=
  toString count ++ (if count == 1 then " element" else " elements")

/-- A record, written as an object or as the list of its fields. -/
def asRecord {Record : Type} (origin : Origin) (name : String) (slots : List (Slot Record))
    (start : Record) : Reading Record
  | .object fields => putFields slots [] start fields
  | .list items =>
    putItems origin ("struct " ++ name ++ " with " ++ elementCount slots.length) items.length 0
      slots items start
  | other => .error (mismatch ("struct " ++ name) other)

end Metasearch.Json
