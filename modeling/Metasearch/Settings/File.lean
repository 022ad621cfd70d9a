/-
Settings from a configuration file. The file has to be there. A directory in its place counts
as a file in which nothing is set.
-/
import Metasearch.Files.Basic
import Metasearch.Settings.Environment

namespace Metasearch.Settings

open Files (Disk Node Trouble)

/-- The settings in what is at the path of a configuration file, with those of the environment
laid over them. -/
def ofNode (environment : List (String × String)) (path : String) :
    Except Trouble Node → Except Error Settings
  | .error _ => .error (.fileNotFound path)
  | .ok (.directory _) => readWith environment ""
  | .ok (.file bytes) =>
    match Files.textOf (.ok (.file bytes)) with
    | .ok text => readWith environment text
    | .error _ => .error .unreadable

/-- Loads a configuration file, with the settings of the environment laid over it. -/
def load {m : Type → Type} [Monad m] (disk : Disk m) (environment : List (String × String))
    (path : String) : m (Except Error Settings) := do
  return ofNode environment path (← disk.look path)

end Metasearch.Settings
