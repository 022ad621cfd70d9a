/-
Settings as they are written in a configuration file.
-/
import Metasearch.Json.Shape
import Metasearch.Settings.Basic
import Metasearch.Toml.Reader

namespace Metasearch.Settings

open Json (Slot Reading)

/-- How pages are asked for. -/
def readBrowser : Reading BrowserSettings :=
  Json.asRecord .value "BrowserConfig"
    [Slot.of "user_agent" .defaulted Json.asText
      fun userAgent browser => { browser with userAgent },
     .of "timeout_secs" .defaulted (Json.asUnsigned "u64")
      fun timeout browser => { browser with timeout },
     .of "send_referer" .defaulted Json.asBool
      fun sendReferer browser => { browser with sendReferer }]
    usualBrowser

/-- Where definitions are kept. -/
def readDefinitions : Reading String :=
  Json.asRecord .value "DefinitionsConfig"
    [Slot.of "dir" .defaulted Json.asText fun directory _ => directory] usual.definitions

/-- All settings. -/
def ofJson : Reading Settings :=
  Json.asRecord .value "AppConfig"
    [Slot.of "browser" .defaulted readBrowser fun browser settings => { settings with browser },
     .of "definitions" .defaulted readDefinitions
      fun definitions settings => { settings with definitions },
     .of "indexers" .defaulted (Json.asMap (Json.asMap Json.asText))
      fun indexers settings => { settings with indexers }]
    usual

/-- Reads the values of a configuration file. -/
def readTree (text : String) : Except Error Json :=
  match Toml.read? text with
  | some json => .ok json
  | none => .error .unreadable

/-- Reads a configuration file. -/
def read (text : String) : Except Error Settings := do
  (ofJson (← readTree text)).mapError fun _ => .unreadable

end Metasearch.Settings
