/-
The program. It runs the command line over the files of the machine. The handles it has open a
file by its name and reach no network, so a directory is met with trouble where its names would
have to be told, and every request to a site fails.
-/
import Metasearch.CommandLine.Run
import Metasearch.Offline

namespace Metasearch.Machine

open Files (Disk Trouble)

/-- Trouble as the operating system reports it. -/
def troubleOf : IO.Error → Trouble
  | .noFileOrDirectory .. => .missing
  | .inappropriateType _ 20 _ => .notDirectory
  | .inappropriateType .. => .other "Function not implemented (os error 38)"
  | error => .other error.toString

/-- The files of the machine. -/
def disk : Disk IO where
  look path := do
    try return .ok (.file (← IO.FS.readBinFile path).toList)
    catch error => return .error (troubleOf error)
  save path bytes := do
    try
      IO.FS.writeBinFile path ⟨bytes.toArray⟩
      return .ok ()
    catch error => return .error (troubleOf error)

/-- A variable of the environment and its value. -/
def variableOf (text : List Char) : Option (String × String) :=
  (Text.cut ['='] text).map fun (name, value) => (String.ofList name, String.ofList value)

/-- The variables of the environment. -/
def environment : IO (List (String × String)) := do
  match ← disk.look "/proc/self/environ" with
  | .ok (.file bytes) =>
    return (Text.splitAt (· == '\x00') (Text.decode bytes)).filterMap variableOf
  | _ => return []

/-- What the program works with. The clock is not asked: no page is ever read. -/
def surroundings : IO (CommandLine.Surroundings IO Offline) := do
  return ⟨disk, ← environment, ⟨0, 0⟩, Offline.ofSettings⟩

end Metasearch.Machine

/-- Runs the command line and tells how it ended. -/
def main (words : List String) : IO UInt32 := do
  let outcome ← Metasearch.CommandLine.run (← Metasearch.Machine.surroundings) words
  IO.print outcome.output
  match outcome.fatal with
  | some reason => IO.eprintln ("Fatal error: " ++ reason)
  | none =>
    if outcome.code != 0 then IO.eprintln "For more information, try '--help'."
  return outcome.code.toUInt32
