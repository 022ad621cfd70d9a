/-
The tables of a configuration file as they grow line by line. A table comes about in one of
three ways: by its own header, by a header or a dotted key that leads through it, or by a
dotted key that ends in it. How it came about decides what may still be added: each table has
one header at most, and a dotted key cannot go into a table with a header.
-/
import Metasearch.Json.Basic

namespace Metasearch.Toml

/-- How a table came about. -/
inductive Standing
  /-- By its own header. -/
  | headed
  /-- By a header of a table inside it. -/
  | implied
  /-- By a dotted key. -/
  | dotted
  deriving DecidableEq, Repr

/-- What a key of a table leads to. -/
inductive Entry
  | value (json : Json)
  | table (standing : Standing) (entries : List (String × Entry))
  /-- Tables that share a header, in their order. -/
  | tables (list : List (List (String × Entry)))

/-- The keys of a table and what they lead to. -/
abbrev Entries := List (String × Entry)

/-- What a key leads to. -/
def find? (entries : Entries) (key : String) : Option Entry :=
  (entries.find? fun entry => entry.1 == key).map (·.2)

/-- The table with a key leading to something else. -/
def replace (entries : Entries) (key : String) (entry : Entry) : Entries :=
  entries.map fun (name, old) => if name == key then (name, entry) else (name, old)

/-- The table with a new key. -/
def add? (key : String) (entry : Entry) (entries : Entries) : Option Entries :=
  if (find? entries key).isSome then none else some (entries ++ [(key, entry)])

/-- Changes the table that the keys of a header lead to; tables that are not there yet come
about. -/
def under? (change : Entries → Option Entries) : List String → Entries → Option Entries
  | [], entries => change entries
  | key :: keys, entries =>
    match find? entries key with
    | none => (under? change keys []).map fun inner => entries ++ [(key, .table .implied inner)]
    | some (.table standing inner) =>
      (under? change keys inner).map fun inner => replace entries key (.table standing inner)
    | some (.tables list) => do
      let inner ← under? change keys (← list.getLast?)
      return replace entries key (.tables (list.dropLast ++ [inner]))
    | some (.value _) => none

/-- Changes the table that the front keys of a dotted key lead to. -/
def within? (change : Entries → Option Entries) : List String → Entries → Option Entries
  | [], entries => change entries
  | key :: keys, entries =>
    match find? entries key with
    | none => (within? change keys []).map fun inner => entries ++ [(key, .table .dotted inner)]
    | some (.table standing inner) =>
      if standing == .headed || (keys.isEmpty && standing != .dotted) then none
      else (within? change keys inner).map fun inner =>
        replace entries key (.table standing inner)
    | some (.tables list) =>
      if keys.isEmpty then none
      else do
        let inner ← within? change keys (← list.getLast?)
        return replace entries key (.tables (list.dropLast ++ [inner]))
    | some (.value _) => none

/-- Opens a table by its header. -/
def openTable? (path : List String) (key : String) : Entries → Option Entries :=
  under? (fun entries =>
    match find? entries key with
    | none => some (entries ++ [(key, .table .headed [])])
    | some (.table .implied inner) => some (replace entries key (.table .headed inner))
    | some _ => none) path

/-- Opens one more of the tables that share a header. -/
def openItem? (path : List String) (key : String) : Entries → Option Entries :=
  under? (fun entries =>
    match find? entries key with
    | none => some (entries ++ [(key, .tables [[]])])
    | some (.tables list) => some (replace entries key (.tables (list ++ [[]])))
    | some _ => none) path

/-- Puts a value behind a dotted key of the table with a header. -/
def put? (header path : List String) (key : String) (value : Json) : Entries → Option Entries :=
  under? (within? (add? key (.value value)) path) header

mutual

/-- The value of an entry. -/
def Entry.toJson : Entry → Json
  | .value json => json
  | .table _ entries => .object (fieldsOf entries)
  | .tables list => .list (objectsOf list)

/-- The fields of a table. -/
def fieldsOf : List (String × Entry) → List (String × Json)
  | [] => []
  | (key, entry) :: rest => (key, entry.toJson) :: fieldsOf rest

/-- The values of tables. -/
def objectsOf : List (List (String × Entry)) → List Json
  | [] => []
  | entries :: rest => .object (fieldsOf entries) :: objectsOf rest

end

end Metasearch.Toml
