/-
An example site to rehearse with: a tracker with a login, a search page and categories, and a
browser that has its pages.
-/
import Metasearch.Definition.Basic
import Metasearch.Rehearsal

namespace Metasearch.Tracker

/-! ### The definition -/

/-- The text of an element of a row. -/
def textBlock (selector : String) : SelectorBlock :=
  { SelectorBlock.whole with selector }

/-- The address that an element of a row leads to. -/
def linkBlock (selector : String) : SelectorBlock :=
  { SelectorBlock.whole with selector, attributeName := some "href" }

/-- How to log in. -/
def login : LoginBlock where
  path := "/login.php"
  formSelector := "form#login"
  inputs :=
    [("password", "\x7b\x7b .Config.password \x7d\x7d"),
     ("username", "\x7b\x7b .Config.username \x7d\x7d")]
  errors := [⟨some "div.error", none, none⟩]

/-- The parameters that are sent as a query of their own. -/
def rawTemplate : String :=
  "q=\x7b\x7b .Query.Keywords \x7d\x7d&page=2" ++
    "\x7b\x7b range .Categories \x7d\x7d&cat[]=\x7b\x7b . \x7d\x7d\x7b\x7b end \x7d\x7d"

/-- How to search. -/
def search : SearchBlock where
  path := "/browse.php"
  inputs := [("$raw", rawTemplate), ("search", "\x7b\x7b .Query.Keywords \x7d\x7d")]
  rows := "table#torrents tr.torrent"
  fields :=
    [("category", { linkBlock "td.cat a" with filters := [.queryString "cat", .mapCats] }),
     ("date", { textBlock "td.added" with filters := [.dateParse "2006-01-02 15:04:05"] }),
     ("details", linkBlock "td.name a"),
     ("download", linkBlock "td.dl a"),
     ("leechers", textBlock "td.leechers"),
     ("seeders", textBlock "td.seeders"),
     ("size", textBlock "td.size"),
     ("title", textBlock "td.name a")]

/-- The definition of the site. -/
def definition : Definition where
  site := "examplesite"
  name := "Example Tracker"
  description := "A private example tracker"
  language := "en-us"
  links := ["https://tracker.example/"]
  login := some login
  search := search
  capabilities :=
    { modes := [⟨"search", true, ["q"]⟩, ⟨"tv-search", true, ["q", "season", "ep"]⟩]
      categories := .ofPairs [(5030, 7), (5040, 7), (2040, 12)] }

/-! ### The pages -/

/-- An address of the site. -/
def address (path : String) : Url :=
  ⟨"https", "", "", some (.named "tracker.example"), none, .segments [path], none, none⟩

/-- The page with the form to log in. -/
def loginPage : String :=
  "<html><body>
        <form id=\"login\" action=\"takelogin.php\" method=\"post\">
          <input type=\"hidden\" name=\"returnto\" value=\"/\">
          <input type=\"text\" name=\"username\">
          <input type=\"password\" name=\"password\">
          <input type=\"submit\" value=\"Log in\">
        </form>
    </body></html>"

/-- The page behind a login. -/
def welcomePage : String :=
  "<html><body><div class=\"welcome\">Welcome back</div></body></html>"

/-- A row of results; without a title its link is empty. -/
def row (id : Nat) (title : String) (locally : Int) : String :=
  "<tr class=\"torrent\">
                <td class=\"cat\"><a href=\"/browse.php?cat=" ++ toString locally ++ "\">cat</a></td>
                <td class=\"name\"><a href=\"/details.php?id=" ++ toString id ++ "\">" ++
    title ++ "</a></td>
                <td class=\"dl\"><a href=\"/download.php?id=" ++ toString id ++ "\">dl</a></td>
                <td class=\"size\">1.5 GB</td>
                <td class=\"seeders\">" ++ toString (id * 10) ++ "</td>
                <td class=\"leechers\">2</td>
                <td class=\"added\">2016-03-12 08:05:00</td>
            </tr>"

/-- A page of results. -/
def resultsPage (rows : List String) : String :=
  "<html><body><table id=\"torrents\">
                <tr class=\"header\"><th>Name</th></tr>
                " ++ "\n".intercalate rows ++ "
            </table></body></html>"

/-- A browser with the pages of the site, some page of results among them. -/
def browser (results : String) : Rehearsal :=
  [("", "<html><body>home</body></html>"), ("login.php", loginPage),
    ("takelogin.php", welcomePage), ("browse.php", results)].foldl
    (fun rehearsal (path, markup) =>
      rehearsal.addPage (Rehearsal.markupPage (address path) markup)) Rehearsal.empty

end Metasearch.Tracker
