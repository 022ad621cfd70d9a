/-
Files as a program sees them. At a path there is a file, which is bytes, or a directory, which
is names, or trouble. What stands behind the paths, the machine's own files or a tree held in
memory, is a disk.
-/
import Metasearch.Text.Blank
import Metasearch.Text.Search
import Metasearch.Text.Utf8

namespace Metasearch.Files

/-! ### Trouble -/

/-- Why a path leads nowhere, or not to what was wanted. -/
inductive Trouble
  | missing
  | notDirectory
  | isDirectory
  | nameTooLong
  | badPath
  | notText
  | other (reason : String)
  deriving DecidableEq, Repr

/-- The wording of trouble: that of the operating system, with its number. -/
def Trouble.message : Trouble → String
  | .missing => "No such file or directory (os error 2)"
  | .notDirectory => "Not a directory (os error 20)"
  | .isDirectory => "Is a directory (os error 21)"
  | .nameTooLong => "File name too long (os error 36)"
  | .badPath => "file name contained an unexpected NUL byte"
  | .notText => "stream did not contain valid UTF-8"
  | .other reason => reason

/-! ### Disks -/

/-- What is at a path. -/
inductive Node
  | file (bytes : List UInt8)
  /-- The names of what is in it, in no order that means anything. -/
  | directory (names : List String)
  deriving DecidableEq, Repr

/-- What paths lead to, and how files are written. -/
structure Disk (m : Type → Type) where
  look : String → m (Except Trouble Node)
  save : String → List UInt8 → m (Except Trouble Unit)

/-- A file is there. -/
def isFile : Except Trouble Node → Bool
  | .ok (.file _) => true
  | _ => false

/-- The text of what is at a path; the bytes must be those of a text. -/
def textOf (found : Except Trouble Node) : Except Trouble String := do
  match ← found with
  | .directory _ => throw .isDirectory
  | .file bytes =>
    let text := Text.decode bytes
    if Text.encode text == bytes then return String.ofList text else throw .notText

/-- The names in what is at a path. -/
def namesOf (found : Except Trouble Node) : Except Trouble (List String) := do
  match ← found with
  | .directory names => return names
  | .file _ => throw .notDirectory

/-! ### Paths -/

/-- The path of a name below a directory; a name that starts at the root stands for itself. -/
def join (directory name : String) : String :=
  if name.startsWith "/" || directory.isEmpty then name
  else if directory.endsWith "/" then directory ++ name
  else directory ++ "/" ++ name

/-- What comes before the ending of a name, if the name has that ending and something before
it. -/
def stem? (ending name : String) : Option String :=
  match Text.dropEnding? ending.toList name.toList with
  | none | some [] => none
  | some stem => some (String.ofList stem)

end Metasearch.Files
