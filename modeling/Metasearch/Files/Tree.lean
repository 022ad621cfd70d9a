/-
A tree of files held in memory. It has the files that were put in it, at paths without turns,
and the directories above them; everything else that paths can lead to, such as the root of the
machine, is outside, where directories are that have nothing in them.
-/
import Metasearch.Files.Basic

namespace Metasearch.Files

/-- A tree: files with the names that lead to them, and directories kept though they may be
empty. Of two files with one path the first counts. -/
structure Tree where
  files : List (List String × List UInt8)
  directories : List (List String)
  deriving DecidableEq, Repr

namespace Tree

/-! ### Walking -/

/-- Where a walk has come. -/
inductive Spot
  | inside (names : List String)
  | outside
  deriving DecidableEq, Repr

/-- The names of a path between its slashes. -/
def namesIn (path : String) : List String :=
  (Text.splitAt (· == '/') path.toList).map String.ofList

/-- A tree of the given texts, and directories, at their paths. -/
def ofTexts (texts : List (String × String)) (directories : List String) : Tree :=
  ⟨texts.map fun (path, text) => (namesIn path, Text.encode text.toList),
    directories.map namesIn⟩

/-- The name that follows some names on the way to others. -/
def nextName? (names path : List String) : Option String :=
  if names.isPrefixOf path then path[names.length]? else none

/-- The names right below others. -/
def namesBelow (tree : Tree) (names : List String) : List String :=
  ((tree.files.map (·.1) ++ tree.directories).filterMap (nextName? names)).eraseDups

/-- Names lead to a directory. -/
def isDirectory (tree : Tree) (names : List String) : Bool :=
  names.isEmpty || tree.directories.contains names || !(tree.namesBelow names).isEmpty

/-- What names lead to. -/
def nodeAt? (tree : Tree) (names : List String) : Option Node :=
  match tree.files.lookup names with
  | some bytes => some (.file bytes)
  | none => if tree.isDirectory names then some (.directory (tree.namesBelow names)) else none

/-- A walk can go on from a spot. -/
def isOpen (tree : Tree) : Spot → Bool
  | .outside => true
  | .inside names =>
    match tree.nodeAt? names with
    | some (.directory _) => true
    | _ => false

/-- The longest name that anything can have, in bytes. -/
def longestName : Nat := 255

/-- The longest path that can be asked for, in bytes. -/
def longestPath : Nat := 4095

/-- One turn of a walk. -/
def turn (tree : Tree) (spot : Spot) (name : String) : Except Trouble Spot :=
  if !tree.isOpen spot then .error .notDirectory
  else if name == "" || name == "." then .ok spot
  else if longestName < Text.byteLength name.toList then .error .nameTooLong
  else
    match spot with
    | .outside => if name == ".." then .ok .outside else .error .missing
    | .inside names =>
      if name == ".." then
        .ok (if names.isEmpty then .outside else .inside names.dropLast)
      else if (tree.nodeAt? (names ++ [name])).isSome then .ok (.inside (names ++ [name]))
      else .error .missing

/-- Walks along a path. -/
def walk (tree : Tree) (path : String) : Except Trouble Spot :=
  if path.toList.contains '\x00' then .error .badPath
  else if path.isEmpty then .error .missing
  else if longestPath < Text.byteLength path.toList then .error .nameTooLong
  else
    (namesIn path).foldlM tree.turn (if path.startsWith "/" then .outside else .inside [])

/-- What is at a path. -/
def look (tree : Tree) (path : String) : Except Trouble Node := do
  match ← tree.walk path with
  | .outside => return .directory []
  | .inside names =>
    match tree.nodeAt? names with
    | some node => return node
    | none => throw .missing

/-! ### Writing -/

/-- The tree with a file put at a path. The directory has to be there. -/
def save (tree : Tree) (path : String) (bytes : List UInt8) : Except Trouble Tree := do
  let names := namesIn path
  let above := String.ofList (['/'].intercalate (names.dropLast.map String.toList))
  match ← tree.walk (if above.isEmpty then "." else above) with
  | .outside => throw .missing
  | .inside directory =>
    let name := names.getLastD ""
    if ["", ".", ".."].contains name then throw .isDirectory
    if longestName < Text.byteLength name.toList then throw .nameTooLong
    match tree.nodeAt? (directory ++ [name]) with
    | some (.directory _) => throw .isDirectory
    | _ => return { tree with files := (directory ++ [name], bytes) :: tree.files }

/-- A tree as a disk. -/
def disk : Disk (StateM Tree) where
  look path := do return (← get).look path
  save path bytes := do
    match (← get).save path bytes with
    | .ok tree => set tree; return .ok ()
    | .error trouble => return .error trouble

end Tree

end Metasearch.Files
