/-
Browsers. A browser sends requests and shows one page, that of the last request that was
answered. What stands behind it, a network or a collection of prepared pages, is its state.
-/
import Metasearch.Page
import Metasearch.Url.Query

namespace Metasearch

/-- How a request is made. -/
inductive RequestKind
  /-- A page is opened. -/
  | view
  /-- A page is opened with parameters behind its query. -/
  | viewWith
  /-- A form on the page is sent. -/
  | submit (method : FormMethod)
  deriving DecidableEq, Repr

/-- A request: the address without the parameters, and these. -/
structure Request where
  kind : RequestKind
  url : Url
  params : List (String × String)
  deriving DecidableEq, Repr

namespace Request

/-- Opens a page. -/
def view (url : Url) : Request := ⟨.view, url, []⟩

/-- Opens a page with parameters. -/
def viewWith (url : Url) (params : List (String × String)) : Request := ⟨.viewWith, url, params⟩

/-- Sends a form. -/
def ofForm (form : Form) : Request := ⟨.submit form.method, form.action, form.fields⟩

/-- The address that is asked for: parameters belong to it unless they are sent apart. -/
def target (request : Request) : Url :=
  match request.kind with
  | .submit .post => request.url
  | _ => request.url.withPairs request.params

end Request

/-- States that act as browsers. -/
class Browser (State : Type) where
  /-- Sends a request: what went wrong, if anything did, and the state afterwards. -/
  send : Request → State → Option Browser.Error × State
  /-- The page of the last request that was answered. -/
  page? : State → Option Page

end Metasearch
