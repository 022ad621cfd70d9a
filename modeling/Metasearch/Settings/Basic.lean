/-
Settings of the program: how pages are asked for, where definitions are kept, and for each site
a section of keys and values, such as the name and password of the user.
-/
import Metasearch.Text.Blank

namespace Metasearch

/-- How pages are asked for. -/
structure BrowserSettings where
  userAgent : String
  /-- In seconds. -/
  timeout : Nat
  sendReferer : Bool
  deriving DecidableEq, Repr

/-- All settings. -/
structure Settings where
  browser : BrowserSettings
  /-- Where definitions are kept. -/
  definitions : String
  /-- The sections of the sites, in the order of their names, with their keys in order. -/
  indexers : List (String × List (String × String))
  deriving DecidableEq, Repr

namespace Settings

/-- What can be wrong with settings. -/
inductive Error
  | fileNotFound (path : String)
  | unreadable
  | invalid (reason : String)
  | unavailable (reason : String)
  deriving DecidableEq, Repr

/-- The wording of an error. Why settings cannot be read is not part of it. -/
def Error.message : Error → String
  | .fileNotFound path => "Configuration file not found: " ++ path
  | .unreadable => "Failed to parse configuration"
  | .invalid reason => "Configuration validation failed: " ++ reason
  | .unavailable reason => "Configuration store is unavailable: " ++ reason

/-- How pages are asked for when nothing is said about it. -/
def usualBrowser : BrowserSettings :=
  ⟨"Mozilla/5.0 (Windows NT 10.0; Win64; x64) AppleWebKit/537.36 (KHTML, like Gecko) " ++
    "Chrome/120.0.0.0 Safari/537.36", 30, false⟩

/-- The settings when nothing is set. -/
def usual : Settings := ⟨usualBrowser, "definitions", []⟩

/-- Checks what can be read but not used. -/
def check (settings : Settings) : Except Error Unit :=
  if settings.browser.timeout == 0 then
    .error (.invalid "browser.timeout_secs cannot be 0")
  else if (Text.trim settings.browser.userAgent.toList).isEmpty then
    .error (.invalid "browser.user_agent cannot be empty")
  else .ok ()

end Settings

end Metasearch
