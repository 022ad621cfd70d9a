/-
Running the command line. First the words are read, then the configuration file, which may be
missing, then the command is done. A command may print on its way, and may fail with a reason; what
it printed before it failed stays printed. The exit code is 2 if the words are not understood, 1 if
the command fails, and else 0.
-/
import Metasearch.CommandLine.Reader
import Metasearch.CommandLine.Report
import Metasearch.Document.Definition
import Metasearch.Document.Item
import Metasearch.Indexer.Search
import Metasearch.Settings.File

namespace Metasearch.CommandLine

open Files (Disk Node Trouble)

/-! ### Outcomes -/

/-- How a run ends. -/
structure Outcome where
  code : Nat
  /-- What was printed. -/
  output : String
  /-- Why the run failed, if it did. -/
  fatal : Option String
  deriving DecidableEq, Repr

/-- A part of a run. It knows what is printed so far and may print more, and it may fail with a
reason, which takes nothing back that is printed. -/
abbrev Task (m : Type → Type) := ExceptT String (StateT String m)

/-- What a run works with: files, the variables of the environment, the present instant, and a
browser that is made as the settings ask. -/
structure Surroundings (m : Type → Type) (State : Type) where
  disk : Disk m
  environment : List (String × String)
  now : Calendar.Instant
  connect : BrowserSettings → Except Browser.Error State

variable {m : Type → Type} [Monad m] {State : Type}

/-- An outcome as a part of a run. -/
def lift {Cause Value : Type} (wording : Cause → String) (outcome : Except Cause Value) :
    Task m Value :=
  ExceptT.mk (pure (outcome.mapError wording))

/-- Something done outside of the run, which is not printed. -/
def reach {Value : Type} (act : m Value) : Task m Value :=
  ExceptT.lift (StateT.lift act)

/-- Prints a text. -/
def print (text : String) : Task m Unit :=
  ExceptT.lift (modify (· ++ text))

/-- Prints a value. -/
def printJson (json : Json) : Task m Unit :=
  print (json.writeSpread ++ "\n")

/-- What is at a path. -/
def look (disk : Disk m) (path : String) : Task m (Except Trouble Node) :=
  reach (disk.look path)

/-- A reason with what was going on when it arose. -/
def during (what reason : String) : String := what ++ ": " ++ reason

/-! ### Definitions -/

/-- The ending of the names of definitions. -/
def definitionEnding : String := ".json"

/-- Where a definition is: at a path, or under a name in the directory of definitions. -/
def definitionPath (disk : Disk m) (settings : Settings) (definition : String) :
    Task m String := do
  if Files.isFile (← look disk definition) then return definition
  else return Files.join settings.definitions (definition ++ definitionEnding)

/-- Loads a definition and checks it. -/
def loadDefinition (disk : Disk m) (settings : Settings) (definition : String) :
    Task m Definition := do
  let path ← definitionPath disk settings definition
  let named (what : String) : String := what ++ " definition " ++ Text.quoted path
  let text ← lift (fun trouble => during (named "Failed to read") trouble.message)
    (Files.textOf (← look disk path))
  let definition ← lift (fun _ => named "Failed to parse") (Definition.read text)
  lift (fun error => during (named "Invalid") error.message) definition.check
  return definition

/-- The indexer of a definition under some settings, unless these disable it. -/
def loadIndexer (surroundings : Surroundings m State) (settings : Settings)
    (definition : String) : Task m Indexer := do
  let definition ← loadDefinition surroundings.disk settings definition
  let store := Settings.Store.ofSettings settings
  if !store.isEnabled definition.site then
    throw ("Indexer " ++ definition.site ++ " is disabled in configuration")
  return ⟨definition, store, surroundings.now⟩

/-- The names of the definitions in a directory, in order. -/
def definitionNames (names : List String) : List String :=
  (names.filterMap (Files.stem? definitionEnding)).mergeSort fun left right => left ≤ right

/-! ### Commands -/

/-- Goes to a site with a new browser. -/
def visit {Value : Type} (surroundings : Surroundings m State) (settings : Settings)
    (act : Indexer.Act State Value) : Task m Value := do
  let browser ← lift Browser.Error.message (surroundings.connect settings.browser)
  match act ⟨browser, []⟩ with
  | .ok value _ => return value
  | .error error _ => throw error.message

variable [Browser State]

/-- Lists the definitions, each on a line. -/
def list (disk : Disk m) (settings : Settings) : Task m Unit := do
  let directory := settings.definitions
  let names ← lift (fun (trouble : Trouble) =>
      during ("Failed to read definitions directory " ++ Text.quoted directory) trouble.message)
    (Files.namesOf (← look disk directory))
  (definitionNames names).forM fun name => print (name ++ "\n")

/-- Prints what a site is and what it can do. -/
def caps (surroundings : Surroundings m State) (settings : Settings) (definition : String) :
    Task m Unit := do
  let indexer ← loadIndexer surroundings settings definition
  printJson indexer.capsJson

/-- Searches a site and prints what is found. -/
def search (surroundings : Surroundings m State) (settings : Settings) (definition : String)
    (params : List (String × String)) (limit : Option Nat) : Task m Unit := do
  let query ← lift (fun (error : Query.Error) => during "Invalid query" error.message)
    (Query.ofParams params)
  let indexer ← loadIndexer surroundings settings definition
  let items ← visit surroundings settings do
    indexer.login
    indexer.search { query with limit }
  printJson (.list (items.map Item.toJson))

/-- Tests a site. -/
def test (surroundings : Surroundings m State) (settings : Settings) (definition : String) :
    Task m Unit := do
  let indexer ← loadIndexer surroundings settings definition
  visit surroundings settings do
    indexer.login
    indexer.test

/-- Downloads a link into a file. -/
def download (surroundings : Surroundings m State) (settings : Settings)
    (definition link output : String) : Task m Unit := do
  let indexer ← loadIndexer surroundings settings definition
  let file ← visit surroundings settings (indexer.download link)
  lift (fun (trouble : Trouble) =>
      during ("Failed to write " ++ Text.quoted output) trouble.message)
    (← reach (surroundings.disk.save output file.bytes))

/-- Does a command. -/
def perform (surroundings : Surroundings m State) (settings : Settings) : Command → Task m Unit
  | .list => list surroundings.disk settings
  | .caps definition => caps surroundings settings definition
  | .search definition params limit =>
    search surroundings settings definition params limit
  | .test definition => test surroundings settings definition
  | .download definition link output => download surroundings settings definition link output

/-! ### Runs -/

/-- The settings of a run: the usual ones if there is no configuration file. -/
def loadSettings (surroundings : Surroundings m State) (path : String) : Task m Settings := do
  match ← reach (Settings.load surroundings.disk surroundings.environment path) with
  | .ok settings => return settings
  | .error (.fileNotFound _) => return .usual
  | .error _ => throw ("Failed to load config from " ++ Text.quoted path)

/-- Does what was asked for. -/
def carryOut (surroundings : Surroundings m State) (invocation : Invocation) :
    Task m Unit := do
  let settings ← loadSettings surroundings invocation.path
  lift (fun (error : Settings.Error) => during "Configuration validation failed" error.message)
    settings.check
  perform surroundings settings invocation.command

/-- Runs the command line. -/
def run (surroundings : Surroundings m State) (words : List String) : m Outcome := do
  match read surroundings.environment words with
  | .error .misuse => return ⟨2, "", none⟩
  | .error (.help text) => return ⟨0, text, none⟩
  | .ok invocation =>
    match ← (carryOut surroundings invocation).run.run "" with
    | (.ok _, output) => return ⟨0, output, none⟩
    | (.error reason, output) => return ⟨1, output, some reason⟩

end Metasearch.CommandLine
