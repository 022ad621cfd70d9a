/-
The store of keys and values that sites are configured with. Sections and keys are kept in
order, each name once. A store may be out of reach; then every question to it fails.
-/
import Metasearch.Json.Shape
import Metasearch.Settings.Basic

namespace Metasearch.Settings

/-- A store. -/
structure Store where
  /-- The sections with their keys, both in order. -/
  sections : List (String × List (String × String))
  /-- Why the store is out of reach. -/
  trouble : Option String
  deriving DecidableEq, Repr

namespace Store

/-- A store with nothing in it. -/
def empty : Store := ⟨[], none⟩

/-- The store of the sections of some settings. -/
def ofSettings (settings : Settings) : Store :=
  ⟨settings.indexers, none⟩

/-- What the store answers if it is in reach. -/
def ask {Value : Type} (store : Store) (answer : Value) : Except Error Value :=
  match store.trouble with
  | some reason => .error (.unavailable reason)
  | none => .ok answer

/-- The keys and values of a section; none if there is no such section. -/
def keysOf (store : Store) (name : String) : List (String × String) :=
  (store.sections.lookup name).getD []

/-- The value of a key. -/
def get (store : Store) (name key : String) : Except Error (Option String) :=
  store.ask ((store.keysOf name).lookup key)

/-- The store with a key set. -/
def set (store : Store) (name key value : String) : Except Error Store :=
  let keys := Json.insertField key value (store.keysOf name)
  store.ask { store with sections := Json.insertField name keys store.sections }

/-- The names of the sections. -/
def names (store : Store) : Except Error (List String) :=
  store.ask (store.sections.map (·.1))

/-- The keys and values of a section. -/
def keys (store : Store) (name : String) : Except Error (List (String × String)) :=
  store.ask (store.keysOf name)

/-- A site is enabled unless its section says otherwise or cannot be asked. -/
def isEnabled (store : Store) (name : String) : Bool :=
  match store.get name "enabled" with
  | .ok (some value) => value == "true" || value == "ok"
  | .ok none => true
  | .error _ => false

end Store

/-- What keeps the settings of sites, and is asked about them while a site is worked with. -/
class Keeper (Kind : Type) where
  /-- The value of a key of a section. -/
  get : Kind → String → String → Except Error (Option String)
  /-- The keys and values of a section. -/
  keys : Kind → String → Except Error (List (String × String))

instance : Keeper Store := ⟨Store.get, Store.keys⟩

end Metasearch.Settings
