/-
A browser that reaches nobody. Every request fails: those for the web because no connection can
be made, and all others because only the web is spoken. It never shows a page.
-/
import Metasearch.Browser
import Metasearch.Settings.Basic

namespace Metasearch

/-- A browser without a network; there is nothing to know about it. -/
structure Offline where
  deriving DecidableEq, Repr

namespace Offline

/-- An address without the name and the password of a user, which are not sent in it. -/
def withoutUser (url : Url) : Url :=
  { url with user := "", password := "" }

/-- The scheme is one the web is spoken in. -/
def isWeb (url : Url) : Bool :=
  url.scheme == "http" || url.scheme == "https"

/-- Why an address is not reached. -/
def refusal (url : Url) : Browser.Error :=
  let asked := " for url (" ++ (withoutUser url).write ++ ")"
  if isWeb url then .connectionFailed url.write ("error sending request" ++ asked)
  else .request url.write ("builder error" ++ asked)

instance : Browser Offline where
  send request offline := (some (refusal request.target), offline)
  page? _ := none

/-- A character that cannot be in the name a browser gives itself: a control character other
than a tab. -/
def isControl (c : Char) : Bool :=
  (c.toNat < 0x20 && c != '\t') || c == '\x7f'

/-- The browser that settings ask for. -/
def ofSettings (settings : BrowserSettings) : Except Browser.Error Offline :=
  if settings.userAgent.toList.any isControl then .error (.client "builder error") else .ok ⟨⟩

end Offline

end Metasearch
