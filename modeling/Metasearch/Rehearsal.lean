/-
A browser without a network. Its pages are prepared beforehand, each under its address; an
address with no page of its own shows the page without query and fragment, or else nothing is
found there. It keeps all requests that were sent, and can be told to fail at the next.
-/
import Metasearch.Browser

namespace Metasearch

/-- A browser over prepared pages. -/
structure Rehearsal where
  /-- The pages under the texts of their addresses; of two with one address the first counts. -/
  pages : List (String × Page)
  /-- The requests that were sent, the latest first. -/
  sent : List Request
  trouble : Option Browser.Error
  current : Option Page

namespace Rehearsal

/-- A browser that finds nothing. -/
def empty : Rehearsal := ⟨[], [], none, none⟩

/-- A prepared page put in place of another at its address. -/
def addPage (rehearsal : Rehearsal) (page : Page) : Rehearsal :=
  { rehearsal with pages := (page.url.write, page) :: rehearsal.pages }

/-- A page of markup. -/
def markupPage (url : Url) (markup : String) : Page :=
  ⟨url, 200, [], Text.encode markup.toList⟩

/-- The page at an address. -/
def pageAt (rehearsal : Rehearsal) (url : Url) : Page :=
  match rehearsal.pages.lookup url.write with
  | some page => page
  | none =>
    match rehearsal.pages.lookup url.page.write with
    | some page => { page with url }
    | none => ⟨url, 404, [], []⟩

/-- The browser told to fail at the next request. -/
def failNext (rehearsal : Rehearsal) (error : Browser.Error) : Rehearsal :=
  { rehearsal with trouble := some error }

instance : Browser Rehearsal where
  send request rehearsal :=
    let asked := { rehearsal with sent := request :: rehearsal.sent }
    match rehearsal.trouble with
    | some error => (some error, { asked with trouble := none })
    | none => (none, { asked with current := some (rehearsal.pageAt request.target) })
  page? := Rehearsal.current

end Rehearsal

end Metasearch
