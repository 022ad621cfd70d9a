/-
Working with a site. An indexer is a site's definition together with the settings of its user.
Its operations act on a visit, a browser and what was counted so far; whatever an operation did
to the visit stays done when it fails.
-/
import Metasearch.Browser
import Metasearch.Definition.Basic
import Metasearch.Extraction
import Metasearch.Metrics
import Metasearch.Settings.Store
import Metasearch.Template.Render

namespace Metasearch

/-- A site's definition and the settings of its user. -/
structure Indexer (Kind : Type := Settings.Store) where
  definition : Definition
  store : Kind
  /-- The present instant. -/
  now : Calendar.Instant

namespace Indexer

/-! ### Errors -/

/-- Why an operation fails. -/
inductive Error
  | definition (error : Definition.Error)
  | filter (error : Filter.Error)
  | template (error : Template.Error)
  | browser (error : Browser.Error)
  | settings (error : Settings.Error)
  | login (reason : String)
  | badUrl (url : String) (reason : Url.Error)
  | badRawInput (input escape : String)
  | incomplete (problem : String)
  | noResults

/-- The wording of an error. -/
def Error.message : Error → String
  | .definition error => error.message
  | .filter error => error.message
  | .template error => error.message
  | .browser error => error.message
  | .settings error => error.message
  | .login reason => "Login failed: " ++ reason
  | .badUrl url reason => "Invalid URL " ++ Text.quoted url ++ ": " ++ reason.message
  | .badRawInput input escape =>
    "Error parsing $raw input " ++ Text.quoted input ++ ": invalid URL escape " ++
      Text.quoted escape
  | .incomplete problem => "Self-test failed: " ++ problem
  | .noResults => "Search returned no results"

/-- What stops the reading of a page stops the operation. -/
def Error.ofExtraction : Extraction.Error → Error
  | .definition error => .definition error
  | .filter error => .filter error

/-! ### Visits -/

/-- A browser and what was counted while it was used. -/
structure Visit (State : Type) where
  browser : State
  metrics : Metrics

/-- An operation on a visit. -/
abbrev Act (State : Type) := EStateM Error (Visit State)

variable {State : Type}

/-- An outcome as an operation that leaves the visit as it is. -/
def lift {Cause Value : Type} (wrap : Cause → Error) (outcome : Except Cause Value) :
    Act State Value :=
  match outcome with
  | .ok value => pure value
  | .error cause => throw (wrap cause)

/-- Counts a sample. -/
def record (metric : Metric) (values : List String) : Act State Unit :=
  modify fun visit => { visit with metrics := ⟨metric, values⟩ :: visit.metrics }

variable [Browser State]

/-- Sends a request. -/
def send (request : Request) : Act State Unit := do
  let visit ← get
  let (trouble, browser) := Browser.send request visit.browser
  set { visit with browser }
  match trouble with
  | some error => throw (.browser error)
  | none => pure ()

/-- The page the browser shows. -/
def currentPage : Act State Page := do
  match Browser.page? (← get).browser with
  | some page => pure page
  | none => throw (.browser .noPage)

/-! ### Addresses -/

/-- Name, title and language of a site. -/
structure Info where
  id : String
  title : String
  description : String
  language : String
  deriving DecidableEq, Repr

variable {Kind : Type}

/-- What a site says about itself. -/
def info (indexer : Indexer Kind) : Info :=
  let definition := indexer.definition
  ⟨definition.site, definition.name, definition.description, definition.language⟩

/-- What the filters of a site may read. -/
def context (indexer : Indexer Kind) : Filter.Context :=
  ⟨indexer.definition.capabilities.categories, indexer.now⟩

variable [Settings.Keeper Kind]

/-- Where a visit to the site starts: at the address in its settings, or else at its first
link. -/
def startUrl (indexer : Indexer Kind) : Except Error Url := do
  let told := Settings.Keeper.get indexer.store indexer.definition.site "url"
  match ← told.mapError .settings with
  | some text => (Url.read text).mapError (.badUrl text)
  | none => indexer.definition.baseUrl.mapError .definition

/-- Where the visit is: on the page the browser shows, or else where it starts. -/
def currentUrl (indexer : Indexer Kind) : Act State Url := do
  match Browser.page? (← get).browser with
  | some page => pure page.url
  | none => lift id indexer.startUrl

/-- A path as seen from where the visit is. -/
def resolvePath (indexer : Indexer Kind) (path : String) : Act State Url := do
  let base ← indexer.currentUrl
  lift (.badUrl path) (base.join path)

end Indexer

end Metasearch
