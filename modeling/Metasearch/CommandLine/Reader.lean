/-
Reading the command line. Words are read from the left; the first that is not understood, or
that asks for help, ends the reading. The value of a flag follows an equals sign, or a letter,
or stands in the next word, which then must not look like a flag. Two hyphens alone make all
words behind them arguments.

A value in a word of its own is not looked at before the next flag or argument, or the end of the
words. If the name of a command stands there, it is looked at behind the words of the command; so
a command that asks for help gets it, whatever the value is.
-/
import Metasearch.CommandLine.Shape
import Metasearch.Text.Search

namespace Metasearch.CommandLine

/-- Why reading ends early. -/
inductive Stop
  | misuse
  | help (text : String)
  deriving DecidableEq, Repr

/-! ### Words -/

/-- What was read so far: flags with their values, arguments, and perhaps a flag in the word before,
whose value is still to come or was not looked at. -/
structure Reading where
  values : List (String × String)
  pending : Option (Flag × Option String)
  arguments : List String
  deriving DecidableEq, Repr

namespace Reading

/-- Nothing was read. -/
def empty : Reading := ⟨[], none, []⟩

/-- A flag given a value. No flag is given twice. -/
def give (reading : Reading) (flag : Flag) (value : String) : Except Stop Reading :=
  if (reading.values.lookup flag.name).isSome || !flag.kind.admits value then .error .misuse
  else .ok ⟨reading.values ++ [(flag.name, value)], none, reading.arguments⟩

/-- The flag in the word before given its value, which must have come. -/
def settle (reading : Reading) : Except Stop Reading :=
  match reading.pending with
  | none => .ok reading
  | some (flag, some value) => reading.give flag value
  | some (_, none) => .error .misuse

/-- A flag met, with its value or in wait of it. -/
def meet (reading : Reading) (flag : Flag) (value : Option String) : Except Stop Reading :=
  match value with
  | some value => reading.give flag value
  | none => .ok { reading with pending := some (flag, none) }

/-- Arguments taken in, if the command takes so many. -/
def take (shape : Shape) (reading : Reading) (arguments : List String) : Except Stop Reading :=
  let all := reading.arguments ++ arguments
  if all.length ≤ shape.arguments.length then .ok { reading with arguments := all }
  else .error .misuse

/-- The reading at its end: no flag or argument is missing. -/
def finish (shape : Shape) (reading : Reading) : Except Stop Reading :=
  let isGiven (flag : Flag) : Bool := (reading.values.lookup flag.name).isSome
  if reading.arguments.length < shape.arguments.length ||
      !(shape.flags.all fun flag => !flag.isNeeded || isGiven flag) then .error .misuse
  else .ok reading

/-- The value of a flag. -/
def value? (reading : Reading) (name : String) : Option String :=
  reading.values.lookup name

end Reading

/-- What a word is. -/
inductive Word
  | separator
  | long (name : String) (value : Option String)
  | short (letter : Char) (rest : List Char)
  | plain

/-- Tells what a word is; a hyphen alone is plain. -/
def wordOf (word : String) : Word :=
  match word.toList with
  | ['-', '-'] => .separator
  | '-' :: '-' :: text =>
    match Text.cut ['='] text with
    | some (name, value) => .long (String.ofList name) (some (String.ofList value))
    | none => .long (String.ofList text) none
  | '-' :: letter :: rest => .short letter rest
  | _ => .plain

/-- The value that follows a letter, perhaps behind an equals sign. -/
def valueBehind : List Char → Option String
  | [] => none
  | '=' :: value => some (String.ofList value)
  | value => some (String.ofList value)

/-- A word that is a flag taken in. -/
def readFlag (shape : Shape) (reading : Reading) : Word → Except Stop Reading
  | .long name value =>
    if name == "help" then .error (if value.isSome then .misuse else .help shape.help)
    else
      match shape.flags.find? (·.name == name) with
      | some flag => reading.meet flag value
      | none => .error .misuse
  | .short letter rest =>
    if letter == 'h' then .error (.help shape.help)
    else
      match shape.flags.find? (·.letter == some letter) with
      | some flag => reading.meet flag (valueBehind rest)
      | none => .error .misuse
  | .separator | .plain => .error .misuse

/-- Reads the words of a command to their end, or up to the command if there are commands to
choose from; that and the words behind it are left. -/
def readWords (shape : Shape) (reading : Reading) :
    List String → Except Stop (Reading × List String)
  | [] => do return (← (← reading.settle).finish shape, [])
  | word :: words => do
    match reading.pending, wordOf word with
    | some (flag, none), .plain =>
      readWords shape { reading with pending := some (flag, some word) } words
    | _, .plain =>
      if shape.commands.isEmpty then
        readWords shape (← (← reading.settle).take shape [word]) words
      else return (reading, word :: words)
    | _, .separator => do
      let reading ← (← reading.settle).take shape words
      return (← reading.finish shape, [])
    | _, flag => readWords shape (← readFlag shape (← reading.settle) flag) words

/-! ### Commands -/

/-- What is to be done. -/
inductive Command
  | list
  | caps (definition : String)
  | search (definition : String) (params : List (String × String)) (limit : Option Nat)
  | test (definition : String)
  | download (definition link output : String)
  deriving DecidableEq, Repr

/-- What is to be done, and under which configuration. -/
structure Invocation where
  path : String
  command : Command
  deriving DecidableEq, Repr

/-- The parameters of a search that flags stand for. -/
def searchParams (reading : Reading) : List (String × String) :=
  [("t", (reading.value? "mode").getD "search")] ++
    ((reading.value? "query").map fun value => ("q", value)).toList ++
    ((reading.value? "cat").map fun value => ("cat", value)).toList

/-- The limit that a flag sets. -/
def limitOf (reading : Reading) : Option Nat := do
  (Number.readUnsigned Number.maxUnsigned (← reading.value? "limit").toList).toOption

/-- The help about the commands that words name. -/
def helpAbout (program : Shape) : List String → Stop
  | [] => .help program.help
  | ["list"] => .help listShape.help
  | ["caps"] => .help capsShape.help
  | ["search"] => .help searchShape.help
  | ["test"] => .help testShape.help
  | ["download"] => .help downloadShape.help
  | ["help"] => .help helpAboutHelp
  | _ => .misuse

/-- The one argument of a command. -/
def onlyArgument (reading : Reading) (command : String → Command) : Except Stop Command :=
  match reading.arguments with
  | [definition] => .ok (command definition)
  | _ => .error .misuse

/-- Reads a command. -/
def readCommand (program : Shape) (name : String) (words : List String) :
    Except Stop Command := do
  let read (shape : Shape) : Except Stop Reading := do
    return (← readWords shape .empty words).1
  match name with
  | "list" => do
    let _ ← read listShape
    return .list
  | "caps" => onlyArgument (← read capsShape) .caps
  | "test" => onlyArgument (← read testShape) .test
  | "search" => do
    let reading ← read searchShape
    onlyArgument reading (.search · (searchParams reading) (limitOf reading))
  | "download" => do
    let reading ← read downloadShape
    match reading.arguments, reading.value? "output" with
    | [definition, link], some output => return .download definition link output
    | _, _ => throw .misuse
  | "help" => throw (helpAbout program words)
  | _ => throw .misuse

/-- Reads the command line. The flag for the configuration file goes before the variable of the
environment, and that before the usual path. A flag right in front of the command is not looked at
before the command was read. -/
def read (environment : List (String × String)) (words : List String) :
    Except Stop Invocation := do
  let named := environment.lookup pathVariable
  let program := programShape (named.getD "")
  match ← readWords program .empty words with
  | (_, []) => throw .misuse
  | (reading, name :: rest) =>
    let command ← readCommand program name rest
    let reading ← reading.settle
    let path := ((reading.value? "config").or named).getD usualPath
    if path.isEmpty then throw .misuse
    return ⟨path, command⟩

end Metasearch.CommandLine
