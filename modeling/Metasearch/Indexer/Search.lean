/-
Searching a site, downloading from it, and testing it. A search opens the search page, sends
the parameters that the definition makes of the request, and reads the page that comes back.
A download logs in first, each time. A test searches once in every mode of the site and looks
whether the results are complete.
-/
import Metasearch.Indexer.Login

namespace Metasearch.Indexer

open Markup (Document)

/-! ### Parameters -/

/-- The parameters that a raw input stands for: it is a query in which each percent sign must
start an escape. -/
def readRawInput (input : String) : Except Error (List (String × String)) :=
  (Url.readStrictly input).mapError (.badRawInput input)

/-- The parameters of one search input: one of its name, or those of the query it makes. -/
def inputParams (context : Template.Value) (name template : String) :
    Except Error (List (String × String)) := do
  let value ← (Template.resolve "search_inputs" template context).mapError .template
  if name == Definition.rawInput then readRawInput value
  else return [(name, value)]

/-- The parameters of search inputs. -/
def paramsOf (context : Template.Value) :
    List (String × String) → Except Error (List (String × String))
  | [] => .ok []
  | (name, template) :: rest => do
    let params ← inputParams context name template
    return params ++ (← paramsOf context rest)

variable {Kind : Type}

/-- The parameters that a request is sent with. -/
def searchParams (indexer : Indexer Kind) (query : Query) :
    Except Error (List (String × String)) :=
  let table := indexer.definition.capabilities.categories
  paramsOf (query.searchContext (table.localIds query.categories)) indexer.definition.search.inputs

/-! ### Searching -/

variable {State : Type}

/-- Counts what happened to a row. -/
def recordEvent (site : String) : Extraction.Event → Act State Unit
  | .warned field => record .warnings [site, field]
  | .filtered => record .rows [site, "filtered"]
  | .emitted => record .rows [site, "emitted"]

variable [Browser State] [Settings.Keeper Kind]

/-- The items on the page the browser shows. -/
def readItems (indexer : Indexer Kind) (query : Query) : Act State (List Item) := do
  let base ← indexer.currentUrl
  let page ← currentPage
  let definition := indexer.definition
  let (events, items) := Extraction.readPage
    ⟨definition.site, definition.search, query, base, indexer.context⟩ page.document
  events.forM (recordEvent definition.site)
  lift .ofExtraction items

/-- The steps of a search. -/
def searchSteps (indexer : Indexer Kind) (query : Query) : Act State (List Item) := do
  let url ← indexer.resolvePath indexer.definition.search.path
  send (.view url)
  let params ← lift id (indexer.searchParams query)
  send (.viewWith url params)
  indexer.readItems query

/-- How a search that did not fail is counted. -/
def searchLabel (items : List Item) : String :=
  if items.isEmpty then "empty" else "success"

/-- Searches the site. -/
def search (indexer : Indexer Kind) (query : Query) : Act State (List Item) := fun visit =>
  let site := indexer.definition.site
  match searchSteps indexer query visit with
  | .ok items after =>
    (do record .searchDuration [site]
        record .searches [site, searchLabel items]
        pure items) after
  | .error error after =>
    (do record .searchDuration [site]
        record .searches [site, "failed"]
        throw error) after

/-! ### Downloading -/

/-- A file that was downloaded. -/
structure Download where
  bytes : List UInt8
  headers : List (String × String)
  deriving DecidableEq, Repr

/-- Logs in and fetches what a link leads to. -/
def download (indexer : Indexer Kind) (link : String) : Act State Download := do
  indexer.login
  let url ← indexer.resolvePath link
  send (.view url)
  let page ← currentPage
  return ⟨page.body, page.headers⟩

/-! ### Testing -/

/-- How many results a test asks for in each mode. -/
def testLimit : Nat := 5

/-- The request of a test in a mode; searches for television ask for their categories. -/
def testQuery (mode : String) : Query :=
  { Query.ofMode mode with
    limit := some testLimit
    categories := if mode == "tv-search" then [5000, 5040, 5030] else [] }

/-- What an item lacks. -/
def problemOf? (item : Item) : Option String :=
  if item.title.isEmpty then some "empty title"
  else if item.size == 0 then some "zero size"
  else if item.link.isEmpty then some "blank link"
  else if item.site.isEmpty then some "blank site"
  else if item.category == 0 then some "blank category"
  else none

/-- Checks items, the first of which has a number; the first that lacks something decides. -/
def checkItems : Nat → List Item → Except Error Unit
  | _, [] => .ok ()
  | number, item :: items =>
    match problemOf? item with
    | some problem => .error (.incomplete ("Result row " ++ toString number ++ " has " ++ problem))
    | none => checkItems (number + 1) items

/-- Tests the site in one mode. -/
def testMode (indexer : Indexer Kind) (mode : SearchMode) : Act State Unit := do
  let items ← indexer.search (testQuery mode.key)
  if items.isEmpty then throw .noResults
  lift id (checkItems 1 items)

/-- Tests the site in all its modes. -/
def test (indexer : Indexer Kind) : Act State Unit :=
  indexer.definition.capabilities.modes.forM indexer.testMode

end Metasearch.Indexer
