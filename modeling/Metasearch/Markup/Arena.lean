/-
A tree under construction. Nodes are numbered in the order of their creation and refer to each
other by number, so that they can be moved; a node without a parent is not in the tree. Text
put beside text becomes part of it.
-/
import Metasearch.Markup.Element

namespace Metasearch.Markup

/-- What a node is. -/
inductive Content
  | document
  /-- The content of a template, which is kept apart from its element. -/
  | fragment
  | element (element : Element)
  | text (content : String)
  | comment (content : String)
  | doctype
  deriving Inhabited

/-- A node and its place. -/
structure Cell where
  parent : Option Nat
  children : Array Nat
  content : Content
  deriving Inhabited

/-- The nodes of a tree under construction. -/
structure Arena where
  cells : Array Cell
  deriving Inhabited

namespace Arena

/-- An arena with the document alone, which has the number zero. -/
def start : Arena :=
  ⟨#[⟨none, #[], .document⟩]⟩

/-- The node with a number, and its place. -/
def cell (arena : Arena) (node : Nat) : Cell :=
  arena.cells.getD node default

/-- The element of a node; a nameless one for other nodes. -/
def element (arena : Arena) (node : Nat) : Element :=
  match (arena.cell node).content with
  | .element element => element
  | _ => default

/-- The arena with a node changed. -/
def update (arena : Arena) (node : Nat) (change : Cell → Cell) : Arena :=
  ⟨arena.cells.modify node change⟩

/-- A new node outside the tree. -/
def create (arena : Arena) (content : Content) : Nat × Arena :=
  (arena.cells.size, ⟨arena.cells.push ⟨none, #[], content⟩⟩)

/-- Takes a node out of its place. -/
def detach (arena : Arena) (node : Nat) : Arena :=
  match (arena.cell node).parent with
  | none => arena
  | some parent =>
    let arena := arena.update parent fun cell =>
      { cell with children := cell.children.filter (· != node) }
    arena.update node fun cell => { cell with parent := none }

/-- Puts a node behind the other children of a parent. -/
def append (arena : Arena) (parent node : Nat) : Arena :=
  let arena := arena.detach node
  let arena := arena.update parent fun cell => { cell with children := cell.children.push node }
  arena.update node fun cell => { cell with parent := some parent }

/-- Puts a node in front of a sibling that has a parent. -/
def insertBefore (arena : Arena) (sibling node : Nat) : Arena :=
  let arena := arena.detach node
  match (arena.cell sibling).parent with
  | none => arena
  | some parent =>
    let arena := arena.update parent fun cell =>
      let before := cell.children.toList.takeWhile (· != sibling)
      { cell with children := (before ++ node :: cell.children.toList.drop before.length).toArray }
    arena.update node fun cell => { cell with parent := some parent }

/-- Adds to the text of a text node. -/
def extend (arena : Arena) (node : Nat) (text : String) : Arena :=
  arena.update node fun cell =>
    match cell.content with
    | .text content => { cell with content := .text (content ++ text) }
    | _ => cell

/-- The node is text. -/
def isText (arena : Arena) (node : Nat) : Bool :=
  match (arena.cell node).content with
  | .text _ => true
  | _ => false

/-- Puts text behind the children of a parent. -/
def appendText (arena : Arena) (parent : Nat) (text : String) : Arena :=
  match (arena.cell parent).children.back? with
  | some last =>
    if arena.isText last then arena.extend last text
    else
      let (node, arena) := arena.create (.text text)
      arena.append parent node
  | none =>
    let (node, arena) := arena.create (.text text)
    arena.append parent node

/-- The sibling just before a node. -/
def previous? (arena : Arena) (node : Nat) : Option Nat :=
  match (arena.cell node).parent with
  | none => none
  | some parent => ((arena.cell parent).children.toList.takeWhile (· != node)).getLast?

/-- Puts text in front of a sibling that has a parent. -/
def insertTextBefore (arena : Arena) (sibling : Nat) (text : String) : Arena :=
  match (arena.cell sibling).parent with
  | none => arena
  | some _ =>
    match arena.previous? sibling with
    | some before =>
      if arena.isText before then arena.extend before text
      else
        let (node, arena) := arena.create (.text text)
        arena.insertBefore sibling node
    | none =>
      let (node, arena) := arena.create (.text text)
      arena.insertBefore sibling node

/-- Moves all children of a node behind those of another. -/
def moveChildren (arena : Arena) (source target : Nat) : Arena :=
  (arena.cell source).children.foldl (fun arena node => arena.append target node) arena

/-- Gives an element the attributes that it lacks. -/
def addAttributes (arena : Arena) (node : Nat) (attributes : List Attribute) : Arena :=
  arena.update node fun cell =>
    match cell.content with
    | .element element =>
      let missing := attributes.filter fun attr =>
        !element.attributes.any fun present =>
          present.space == attr.space && present.name == attr.name
      { cell with content := .element { element with attributes := element.attributes ++ missing } }
    | _ => cell

end Arena

end Metasearch.Markup
