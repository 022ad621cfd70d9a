/-
Definitions of sites. A definition says where the pages of a site are, what to send to them,
which elements of a result page are the rows, and where in a row each value stands and how it
is cleaned up. It is data: nothing here goes to a site.
-/
import Metasearch.Definition.Error
import Metasearch.Filter
import Metasearch.Selector.Reader

namespace Metasearch

/-- Where a value stands and how it is cleaned up. -/
structure SelectorBlock where
  /-- Selects elements below the row; empty for the row itself. -/
  selector : String
  /-- The attribute of the first element that is the value, in place of the text. -/
  attributeName : Option String
  /-- Selects elements that do not count towards the text. -/
  remove : Option String
  filters : List Filter
  deriving Repr

/-- The block of the whole text of the row. -/
def SelectorBlock.whole : SelectorBlock := ⟨"", none, none, []⟩

/-- A sign that a login failed: an element whose text contains something, or without a selector
a page whose text does. -/
structure ErrorRule where
  selector : Option String
  contains : Option String
  /-- Where the page says why. -/
  message : Option SelectorBlock
  deriving Repr

/-- How to log in. -/
structure LoginBlock where
  path : String
  formSelector : String
  /-- Templates for the fields of the form, in the order of their names. -/
  inputs : List (String × String)
  errors : List ErrorRule
  deriving Repr

/-- How to search, and how to read the results. -/
structure SearchBlock where
  path : String
  /-- Templates for the parameters, in the order of their names. -/
  inputs : List (String × String)
  /-- Selects the rows of a result page. -/
  rows : String
  /-- The values of a row, in the order of their names. -/
  fields : List (String × SelectorBlock)
  deriving Repr

/-- A kind of search that a site takes. -/
structure SearchMode where
  key : String
  available : Bool
  supportedParams : List String
  deriving DecidableEq, Repr

/-- What a site can do. -/
structure Capabilities where
  modes : List SearchMode
  categories : CategoryTable
  deriving Repr

/-- The definition of a site. -/
structure Definition where
  site : String
  name : String
  description : String
  language : String
  links : List String
  login : Option LoginBlock
  search : SearchBlock
  capabilities : Capabilities
  deriving Repr

namespace Definition

/-- The names of the values that a row can have. -/
def resultFields : List String :=
  ["download", "details", "comments", "title", "description", "category", "size", "leechers",
   "seeders", "date"]

/-- The search input whose value is a query of its own. -/
def rawInput : String := "$raw"

/-- Reads a selector. -/
def compile (selector : String) : Except Error Selector :=
  match Selector.read? selector with
  | some compiled => .ok compiled
  | none => .error (.badSelector selector)

/-- Reads a link. -/
def readLink (link : String) : Except Error Url :=
  (Url.read link).mapError (.badLink link)

/-- The address of the site: its first link. -/
def baseUrl (definition : Definition) : Except Error Url :=
  match definition.links with
  | [] => .error .noLinks
  | link :: _ => readLink link

/-! ### Checking -/

/-- Checks the selectors of a block. -/
def checkBlock (block : SelectorBlock) : Except Error Unit := do
  if !block.selector.isEmpty then let _ ← compile block.selector
  block.remove.forM fun remove => do let _ ← compile remove

/-- Checks the selectors of a sign of failure. -/
def checkRule (rule : ErrorRule) : Except Error Unit := do
  rule.selector.forM fun selector => do let _ ← compile selector
  rule.message.forM checkBlock

/-- Checks the selectors of a login. -/
def checkLogin (login : LoginBlock) : Except Error Unit := do
  let _ ← compile login.formSelector
  login.errors.forM checkRule

/-- Checks the name and the selectors of a value. -/
def checkField (field : String × SelectorBlock) : Except Error Unit := do
  if !resultFields.contains field.1 then throw (.unknownField field.1)
  checkBlock field.2

/-- Checks what is plain text in a definition: links, selectors and the names of values. -/
def check (definition : Definition) : Except Error Unit := do
  if definition.links.isEmpty then throw .noLinks
  definition.links.forM fun link => do let _ ← readLink link
  definition.login.forM checkLogin
  let _ ← compile definition.search.rows
  definition.search.fields.forM checkField

end Definition

end Metasearch
