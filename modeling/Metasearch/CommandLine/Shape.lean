/-
The shape of the command line: its commands with their arguments and flags, and the help that
is printed about them. Every flag takes a value, but for the one that asks for help, which all
commands have.
-/
import Metasearch.Number.Integer

namespace Metasearch.CommandLine

/-! ### Shapes -/

/-- What the value of a flag has to be. -/
inductive FlagKind
  | text
  /-- A path, which is not empty. -/
  | path
  /-- A number of 64 bits without a sign that counts. -/
  | count
  deriving DecidableEq, Repr

/-- A value is what a flag takes. -/
def FlagKind.admits (kind : FlagKind) (value : String) : Bool :=
  match kind with
  | .text => true
  | .path => !value.isEmpty
  | .count => (Number.readUnsigned Number.maxUnsigned value.toList).isOk

/-- A flag. -/
structure Flag where
  /-- What follows two hyphens. -/
  name : String
  /-- What follows one hyphen. -/
  letter : Option Char
  kind : FlagKind
  /-- The command cannot do without. -/
  isNeeded : Bool
  about : String
  deriving DecidableEq, Repr

/-- An argument. -/
structure Argument where
  name : String
  about : String
  deriving DecidableEq, Repr

/-- A command, or the program as a whole. -/
structure Shape where
  /-- What it is called with. -/
  usage : String
  about : String
  arguments : List Argument
  flags : List Flag
  /-- The commands to choose from; without any, arguments are taken. -/
  commands : List (String × String)
  deriving DecidableEq, Repr

/-! ### Help -/

/-- What stands for a value. -/
def placeholder (name : String) : String :=
  "<" ++ name.map Char.toUpper ++ ">"

/-- A flag with what stands for its value. -/
def Flag.form (flag : Flag) : String :=
  "--" ++ flag.name ++ " " ++ placeholder flag.name

/-- The letter of a flag, or a blank in its place. -/
def letterForm : Option Char → String
  | some letter => String.ofList ['-', letter, ',', ' ']
  | none => "    "

/-- Rows of two columns under a heading. -/
def columns (heading : String) (rows : List (String × String)) : List String :=
  if rows.isEmpty then []
  else
    let width := (rows.map fun row => row.1.length).foldl max 0
    let line (row : String × String) : String :=
      "  " ++ row.1 ++ String.ofList (List.replicate (width - row.1.length + 2) ' ') ++ row.2
    [heading ++ ":\n" ++ "\n".intercalate (rows.map line)]

/-- The rows of the flags, that for help among them. -/
def Shape.flagRows (shape : Shape) : List (String × String) :=
  shape.flags.map (fun flag => (letterForm flag.letter ++ flag.form, flag.about)) ++
    [(letterForm (some 'h') ++ "--help", "Print help")]

/-- The rows of the arguments. -/
def Shape.argumentRows (shape : Shape) : List (String × String) :=
  shape.arguments.map fun argument => (placeholder argument.name, argument.about)

/-- How a command is called. -/
def Shape.usageLine (shape : Shape) : String :=
  let (needed, others) := shape.flags.partition (·.isNeeded)
  " ".intercalate ([shape.usage] ++ (if others.isEmpty then [] else ["[OPTIONS]"]) ++
    needed.map Flag.form ++ shape.arguments.map (placeholder ·.name) ++
    (if shape.commands.isEmpty then [] else ["<COMMAND>"]))

/-- A text of several parts with a line between them. -/
def pageOf (parts : List String) : String :=
  "\n\n".intercalate parts ++ "\n"

/-- The help about a command. -/
def Shape.help (shape : Shape) : String :=
  pageOf ([shape.about, "Usage: " ++ shape.usageLine] ++
    columns "Commands" shape.commands ++ columns "Arguments" shape.argumentRows ++
    columns "Options" shape.flagRows)

/-! ### The commands -/

/-- A file or the name of a site, which most commands start from. -/
def definitionArgument : Argument :=
  ⟨"definition", "Definition file, or a site name in the definitions directory"⟩

/-- Listing definitions. -/
def listShape : Shape :=
  ⟨"trawler list", "List definitions in the definitions directory", [], [], []⟩

/-- Showing what a site can do. -/
def capsShape : Shape :=
  ⟨"trawler caps", "Show a site's info and capabilities", [definitionArgument], [], []⟩

/-- Searching. -/
def searchShape : Shape :=
  ⟨"trawler search", "Log in and search a site", [definitionArgument],
    [⟨"query", some 'q', .text, false, "Search keywords"⟩,
     ⟨"cat", none, .text, false, "Comma separated canonical category ids"⟩,
     ⟨"limit", some 'l', .count, false, "Maximum results"⟩,
     ⟨"mode", some 't', .text, false, "Search mode [default: search]"⟩], []⟩

/-- Testing. -/
def testShape : Shape :=
  ⟨"trawler test", "Run a test search in every mode the site supports", [definitionArgument],
    [], []⟩

/-- Downloading. -/
def downloadShape : Shape :=
  ⟨"trawler download", "Log in and download a result link",
    [definitionArgument, ⟨"link", "Link to fetch, absolute or relative to the site"⟩],
    [⟨"output", some 'o', .path, true, "Where to write the file"⟩], []⟩

/-- The command that prints help. -/
def helpCommand : String × String :=
  ("help", "Print this message or the help of the given subcommand(s)")

/-- The variable of the environment that names the configuration file. -/
def pathVariable : String := "TRAWLER_CONFIG"

/-- The configuration file when none is named. -/
def usualPath : String := "trawler.toml"

/-- The program, with the value that the environment has for its configuration file. -/
def programShape (inEnvironment : String) : Shape :=
  ⟨"trawler", "Scrape torrent indexers from declarative site definitions", [],
    [⟨"config", some 'c', .path, false, "Configuration file [env: " ++ pathVariable ++ "=" ++
      inEnvironment ++ "] [default: " ++ usualPath ++ "]"⟩],
    [("list", listShape.about), ("caps", capsShape.about), ("search", searchShape.about),
     ("test", testShape.about), ("download", downloadShape.about), helpCommand]⟩

/-- The help about the command that prints help. -/
def helpAboutHelp : String :=
  pageOf ([helpCommand.2, "Usage: trawler help [COMMAND]..."] ++
    columns "Arguments" [("[COMMAND]...", "Print help for the subcommand(s)")])

end Metasearch.CommandLine
