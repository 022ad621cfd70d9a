/-
Definitions as JSON. Filters and categories are checked as they are read, so that what has been
read holds neither an unknown filter nor an unknown category. In a definition read from text,
an argument of a filter and a reference to a category are looked at before it is known what
they are, and may not nest beyond a bound.
-/
import Metasearch.Definition.Basic
import Metasearch.Json.Reader
import Metasearch.Json.Shape

namespace Metasearch.Definition

open Json (Slot Reading Origin Misfit)

/-! ### Values of more than one shape -/

/-- How deep lists and objects of a text may nest where their shape is not known beforehand. -/
def maxDepth : Nat := 127

/-- The value can be looked at as a whole; it stands below so many lists and objects. -/
def isWhole (origin : Origin) (above : Nat) (json : Json) : Bool :=
  json.isReadable && (origin == .value || above + json.depth ≤ maxDepth)

/-- The argument of a filter. -/
def readArgument (origin : Origin) (above : Nat) : Reading Filter.Argument := fun json =>
  if !isWhole origin above json then .error .malformed
  else
    match json with
    | .null => .ok .none
    | .text value => .ok (.text value)
    | .list [.text text, int] =>
      match Json.asSigned int with
      | .ok int => .ok (.pair text int)
      | .error _ => .error (.noVariant "FilterArgs")
    | json =>
      match Json.asSigned json with
      | .ok int => .ok (.int int)
      | .error _ => .error (.noVariant "FilterArgs")

/-- A reference to a category: a number, or the name of a standard one. -/
def readReference (origin : Origin) (above : Nat) : Reading (Int ⊕ String) := fun json =>
  if !isWhole origin above json then .error .malformed
  else
    match json with
    | .text name => .ok (.inr name)
    | json =>
      match Json.asSigned json with
      | .ok id => .ok (.inl id)
      | .error _ => .error (.noVariant "CategoryRef")

/-! ### Filters and blocks -/

/-- A filter as it is written. -/
structure WrittenFilter where
  name : String
  argument : Filter.Argument

/-- A filter. -/
def readFilter (origin : Origin) (above : Nat) : Reading Filter :=
  Json.asChecked
    (Json.asRecord origin "RawFilter"
      [Slot.of "name" .required Json.asText fun name filter => { filter with name },
       .of "args" .defaulted (readArgument origin (above + 1))
        fun argument filter => { filter with argument }]
      (⟨"", .none⟩ : WrittenFilter))
    fun filter => (Filter.ofName filter.name filter.argument).mapError Error.message

/-- A row of filters. -/
def readFilters (origin : Origin) (above : Nat) : Reading (List Filter) :=
  Json.asList (readFilter origin (above + 1))

/-- A block. -/
def readBlock (origin : Origin) (above : Nat) : Reading SelectorBlock :=
  Json.asRecord origin "SelectorBlock"
    [Slot.of "selector" .defaulted Json.asText fun selector block => { block with selector },
     .of "attribute" .defaulted (Json.asOptional Json.asText)
      fun attributeName block => { block with attributeName },
     .of "remove" .defaulted (Json.asOptional Json.asText)
      fun remove block => { block with remove },
     .of "filters" .defaulted (readFilters origin (above + 1))
      fun filters block => { block with filters }]
    SelectorBlock.whole

/-! ### Categories -/

/-- An entry of the table of categories as it is written. -/
structure WrittenEntry where
  id : Int
  reference : Int ⊕ String

/-- The entry that is meant. -/
def toEntry (entry : WrittenEntry) : Except Error CategoryEntry :=
  match entry.reference with
  | .inl id => .ok ⟨entry.id, Category.ofId id⟩
  | .inr name =>
    match Category.ofName? name with
    | some category => .ok ⟨entry.id, category⟩
    | none => .error (.unknownCategory name)

/-- The table of categories. -/
def readCategories (origin : Origin) (above : Nat) : Reading CategoryTable :=
  Json.asChecked
    (Json.asList (Json.asRecord origin "RawCategoryMapping"
      [Slot.of "id" .required Json.asSigned fun id entry => { entry with id },
       .of "cat" .required (readReference origin (above + 2))
        fun reference entry => { entry with reference }]
      (⟨0, .inl 0⟩ : WrittenEntry)))
    fun entries => ((entries.mapM toEntry).map CategoryTable.mk).mapError Error.message

/-! ### The parts of a definition -/

/-- Templates under their names. -/
def readTemplates : Reading (List (String × String)) :=
  Json.asMap Json.asText

/-- A sign that a login failed. -/
def readRule (origin : Origin) (above : Nat) : Reading ErrorRule :=
  Json.asRecord origin "ErrorRule"
    [Slot.of "selector" .defaulted (Json.asOptional Json.asText)
      fun selector rule => { rule with selector },
     .of "contains" .defaulted (Json.asOptional Json.asText)
      fun contains rule => { rule with contains },
     .of "message" .defaulted (Json.asOptional (readBlock origin (above + 1)))
      fun message rule => { rule with message }]
    ⟨none, none, none⟩

/-- A login. -/
def readLogin (origin : Origin) (above : Nat) : Reading LoginBlock :=
  Json.asRecord origin "LoginBlock"
    [Slot.of "path" .required Json.asText fun path login => { login with path },
     .of "form_selector" .defaulted Json.asText
      fun formSelector login => { login with formSelector },
     .of "inputs" .defaulted readTemplates fun inputs login => { login with inputs },
     .of "error" .defaulted (Json.asList (readRule origin (above + 2)))
      fun errors login => { login with errors }]
    ⟨"", "form", [], []⟩

/-- The selector of the rows. -/
def readRows (origin : Origin) : Reading String :=
  Json.asRecord origin "RowsBlock"
    [Slot.of "selector" .required Json.asText fun selector _ => selector] ""

/-- A search. -/
def readSearch (origin : Origin) (above : Nat) : Reading SearchBlock :=
  Json.asRecord origin "SearchBlock"
    [Slot.of "path" .required Json.asText fun path search => { search with path },
     .of "inputs" .defaulted readTemplates fun inputs search => { search with inputs },
     .of "rows" .required (readRows origin) fun rows search => { search with rows },
     .of "fields" .required (Json.asMap (readBlock origin (above + 2)))
      fun fields search => { search with fields }]
    ⟨"", [], "", []⟩

/-- A kind of search. -/
def readMode (origin : Origin) : Reading SearchMode :=
  Json.asRecord origin "SearchMode"
    [Slot.of "key" .required Json.asText fun key mode => { mode with key },
     .of "available" .defaulted Json.asBool fun available mode => { mode with available },
     .of "supported_params" .defaulted (Json.asList Json.asText)
      fun supportedParams mode => { mode with supportedParams }]
    ⟨"", true, []⟩

/-- What a site can do. -/
def readCapabilities (origin : Origin) (above : Nat) : Reading Capabilities :=
  Json.asRecord origin "Capabilities"
    [Slot.of "modes" .defaulted (Json.asList (readMode origin))
      fun modes capabilities => { capabilities with modes },
     .of "categories" .defaulted (readCategories origin (above + 1))
      fun categories capabilities => { capabilities with categories }]
    ⟨[], .empty⟩

/-- A definition. -/
def ofJson (origin : Origin) : Reading Definition :=
  Json.asRecord origin "Definition"
    [Slot.of "site" .required Json.asText fun site definition => { definition with site },
     .of "name" .required Json.asText fun name definition => { definition with name },
     .of "description" .defaulted Json.asText
      fun description definition => { definition with description },
     .of "language" .defaulted Json.asText
      fun language definition => { definition with language },
     .of "links" .required (Json.asList Json.asText)
      fun links definition => { definition with links },
     .of "login" .defaulted (Json.asOptional (readLogin origin 1))
      fun login definition => { definition with login },
     .of "search" .required (readSearch origin 1)
      fun search definition => { definition with search },
     .of "capabilities" .defaulted (readCapabilities origin 1)
      fun capabilities definition => { definition with capabilities }]
    ⟨"", "", "", "en-us", [], none, ⟨"", [], "", []⟩, ⟨[], .empty⟩⟩

/-- Reads the text of a definition. What follows a definition in the text damages it. -/
def read (text : String) : Except Misfit Definition := do
  let (json, ends) := Json.readDocument text.toList
  let definition ← ofJson .text json
  if ends then return definition else throw .malformed

end Metasearch.Definition
