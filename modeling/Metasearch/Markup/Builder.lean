/-
The state in which a page's tree is built, and the moves that the rules for its parts are made
of: putting nodes in, opening and closing elements, and keeping the list of running styles that
go on across paragraphs and cells.
-/
import Metasearch.Markup.Arena
import Metasearch.Markup.Token

namespace Metasearch.Markup

/-- The part of a page that is being read, which decides the rules for the next token. -/
inductive Mode
  | initial
  | beforeHtml
  | beforeHead
  | inHead
  | afterHead
  | inBody
  | inText
  | inTable
  | inTableText
  | inCaption
  | inColumnGroup
  | inTableBody
  | inRow
  | inCell
  | inSelect
  | inSelectInTable
  | inTemplate
  | afterBody
  | inFrameset
  | afterFrameset
  | afterAfterBody
  | afterAfterFrameset
  deriving DecidableEq, Repr, Inhabited

/-- A running style, with the tag that began it, or the border of an element that styles do not
leave. -/
inductive StyleEntry
  | border
  | style (node : Nat) (tag : Tag)
  deriving DecidableEq, Repr

/-- The entry of an element. -/
def StyleEntry.isFor (node : Nat) : StyleEntry → Bool
  | .border => false
  | .style other _ => other == node

/-- A tree under construction and all that the rules remember. The open elements and the running
styles are listed with the latest first. -/
structure Builder where
  arena : Arena
  mode : Mode
  /-- The mode to go back to after a stretch of text. -/
  returnMode : Mode
  templateModes : List Mode
  openNodes : List Nat
  styles : List StyleEntry
  head : Option Nat
  form : Option Nat
  framesetAllowed : Bool
  /-- A line feed that comes next does not count. -/
  skipsNewline : Bool
  /-- Content that has no place in a table goes in front of it. -/
  movesOut : Bool
  /-- Text met inside a table, and whether it is blank. -/
  tableText : List (Bool × List Char)
  /-- The page declares no standard type, and a table does not end a paragraph. -/
  isOldStyle : Bool
  region : Region
  deriving Inhabited

/-- What the rules make of a token: the new state, and the token if it has to be looked at again. -/
abbrev Outcome := Builder × Option Token

namespace Builder

/-- The builder of a page of which nothing was read. -/
def start : Builder :=
  { arena := Arena.start
    mode := .initial
    returnMode := .initial
    templateModes := []
    openNodes := []
    styles := []
    head := none
    form := none
    framesetAllowed := true
    skipsNewline := false
    movesOut := false
    tableText := []
    isOldStyle := false
    region := .markup }

/-- The token is settled. -/
def done (builder : Builder) : Outcome :=
  (builder, none)

/-- The token is looked at again by the rules of another mode. -/
def again (builder : Builder) (mode : Mode) (token : Token) : Outcome :=
  ({ builder with mode := mode }, some token)

/-! ### Looking at the open elements -/

/-- The element of a node. -/
def elementOf (builder : Builder) (node : Nat) : Element :=
  builder.arena.element node

/-- The innermost open element. -/
def current (builder : Builder) : Nat :=
  builder.openNodes.headD 0

/-- The element opened last. -/
def currentElement (builder : Builder) : Element :=
  builder.elementOf builder.current

/-- The element opened last is the one of HTML with a name. -/
def currentIs (builder : Builder) (name : String) : Bool :=
  builder.currentElement.isHtml name

/-- The outermost open element. -/
def rootNode (builder : Builder) : Nat :=
  builder.openNodes.getLastD 0

/-- An element is open. -/
def hasOpen (builder : Builder) (name : String) : Bool :=
  builder.openNodes.any fun node => (builder.elementOf node).isHtml name

/-- Looks from the innermost open element outwards, up to the first that is a boundary. -/
def inScopeFrom (builder : Builder) (isScope : Element → Bool) (wanted : Nat → Bool) :
    List Nat → Bool
  | [] => false
  | node :: rest =>
    if wanted node then true
    else if isScope (builder.elementOf node) then false
    else builder.inScopeFrom isScope wanted rest

/-- An element that is wanted is open, and none that bounds the scope was opened behind it. -/
def inScope (builder : Builder) (isScope : Element → Bool) (wanted : Element → Bool) : Bool :=
  builder.inScopeFrom isScope (fun node => wanted (builder.elementOf node)) builder.openNodes

/-- An element of HTML with a name is open in a scope. -/
def inScopeNamed (builder : Builder) (isScope : Element → Bool) (name : String) : Bool :=
  builder.inScope isScope fun element => element.isHtml name

/-- The body, if it is the second open element. -/
def body? (builder : Builder) : Option Nat :=
  match builder.openNodes.reverse with
  | _ :: node :: _ => if (builder.elementOf node).isHtml "body" then some node else none
  | _ => none

/-! ### Putting nodes in -/

/-- A place for a node: behind the children of a parent, or before a table. When the table has no
parent the second node takes the place of one. -/
inductive Spot
  | inside (parent : Nat)
  | beforeTable (table : Nat) (outer : Nat)
  deriving DecidableEq, Repr

/-- The node that holds the content of a template. -/
def templateContent (builder : Builder) (node : Nat) : Nat :=
  (builder.arena.cell node).children.getD 0 node

/-- The place for content that has none in a table. -/
def spotOutside (builder : Builder) : List Nat → Spot
  | [] => .inside builder.rootNode
  | node :: rest =>
    if (builder.elementOf node).isHtml "template" then .inside (builder.templateContent node)
    else if (builder.elementOf node).isHtml "table" then .beforeTable node (rest.headD 0)
    else builder.spotOutside rest

/-- The place for a node that belongs in a given element. -/
def spotIn (builder : Builder) (target : Nat) : Spot :=
  let element := builder.elementOf target
  if builder.movesOut && element.isTablePart then builder.spotOutside builder.openNodes
  else if element.isHtml "template" then .inside (builder.templateContent target)
  else .inside target

/-- Puts a node at a spot. -/
def putNode (builder : Builder) (spot : Spot) (node : Nat) : Builder :=
  let arena := builder.arena
  match spot with
  | .inside parent => { builder with arena := arena.append parent node }
  | .beforeTable table outer =>
    if (arena.cell table).parent.isSome then
      { builder with arena := arena.insertBefore table node }
    else { builder with arena := arena.append outer node }

/-- Puts text at the place for content of the current element. -/
def appendText (builder : Builder) (text : List Char) : Builder :=
  if text.isEmpty then builder
  else
    let text := String.ofList text
    match builder.spotIn builder.current with
    | .inside parent => { builder with arena := builder.arena.appendText parent text }
    | .beforeTable table outer =>
      if (builder.arena.cell table).parent.isSome then
        { builder with arena := builder.arena.insertTextBefore table text }
      else { builder with arena := builder.arena.appendText outer text }

/-- Puts a comment behind the children of a node. -/
def commentIn (builder : Builder) (parent : Nat) (content : List Char) : Builder :=
  let (node, arena) := builder.arena.create (.comment (String.ofList content))
  { builder with arena := arena.append parent node }

/-- Puts a comment where things are put now. -/
def appendComment (builder : Builder) (content : List Char) : Builder :=
  let (node, arena) := builder.arena.create (.comment (String.ofList content))
  let builder := { builder with arena }
  builder.putNode (builder.spotIn builder.current) node

/-- A new element outside the tree. -/
def create (builder : Builder) (element : Element) : Nat × Builder :=
  let (node, arena) := builder.arena.create (.element element)
  if element.isHtml "template" then
    let (content, arena) := arena.create .fragment
    (node, { builder with arena := arena.append node content })
  else (node, { builder with arena })

/-- The element of HTML that a tag begins. -/
def htmlElement (tag : Tag) : Element :=
  ⟨.html, tag.name, tag.attributes.map fun (name, value) => ⟨"", name, value⟩⟩

/-- Puts an element in at the place for content of the current one. -/
def insert (builder : Builder) (element : Element) : Nat × Builder :=
  let (node, builder) := builder.create element
  (node, builder.putNode (builder.spotIn builder.current) node)

/-- Puts an element in and opens it. -/
def openElement (builder : Builder) (element : Element) : Nat × Builder :=
  let (node, builder) := builder.insert element
  (node, { builder with openNodes := node :: builder.openNodes })

/-- Opens the element of HTML that a tag stands for. -/
def openTag (builder : Builder) (tag : Tag) : Builder :=
  (builder.openElement (htmlElement tag)).2

/-- Opens an element that no tag was written for. -/
def openImplied (builder : Builder) (name : String) : Builder :=
  builder.openTag ⟨name, [], false⟩

/-- Puts in an element that has no content. -/
def insertEmpty (builder : Builder) (tag : Tag) : Builder :=
  (builder.insert (htmlElement tag)).2

/-- The outermost element. -/
def openRoot (builder : Builder) (tag : Tag) : Builder :=
  let (node, builder) := builder.create (htmlElement tag)
  { builder with arena := builder.arena.append 0 node, openNodes := node :: builder.openNodes }

/-- Opens an element whose content is text of another kind. -/
def openText (builder : Builder) (tag : Tag) (region : Region) : Builder :=
  let builder := builder.openTag tag
  { builder with returnMode := builder.mode, mode := .inText, region }

/-! ### Closing elements -/

/-- Closes the element opened last. -/
def close (builder : Builder) : Builder :=
  { builder with openNodes := builder.openNodes.drop 1 }

/-- Closes elements up to and with the first wanted one. -/
def closeThrough (builder : Builder) (wanted : Element → Bool) : Builder :=
  { builder with
    openNodes :=
      (builder.openNodes.dropWhile fun node => !wanted (builder.elementOf node)).drop 1 }

/-- Closes elements until one of HTML with a name has been closed. -/
def closeThroughNamed (builder : Builder) (name : String) : Builder :=
  builder.closeThrough fun element => element.isHtml name

/-- Closes elements until the current one is wanted. -/
def closeUntil (builder : Builder) (names : List String) : Builder :=
  { builder with
    openNodes := builder.openNodes.dropWhile fun node =>
      !(builder.elementOf node).isHtmlIn names }

/-- Closes the elements whose end is implied. -/
def closeImplied (builder : Builder) (implied : Element → Bool) : Builder :=
  { builder with
    openNodes := builder.openNodes.dropWhile fun node => implied (builder.elementOf node) }

/-- Closes the elements whose ends need not be written, up to one with a name. -/
def closeImpliedExcept (builder : Builder) (name : String) : Builder :=
  builder.closeImplied fun element => element.hasImpliedEnd && !element.isHtml name

/-- Closes the innermost paragraph. -/
def closeParagraph (builder : Builder) : Builder :=
  (builder.closeImpliedExcept "p").closeThroughNamed "p"

/-- Closes the paragraph that the text stands in, if there is one. -/
def endParagraph (builder : Builder) : Builder :=
  if builder.inScopeNamed Element.isButtonScope "p" then builder.closeParagraph else builder

/-- Takes a node out of the open ones. -/
def removeOpen (builder : Builder) (node : Nat) : Builder :=
  { builder with openNodes := builder.openNodes.filter (· != node) }

/-! ### Running styles -/

/-- Puts a border behind the styles in force. -/
def addBorder (builder : Builder) : Builder :=
  { builder with styles := .border :: builder.styles }

/-- Forgets the styles up to and with the latest border. -/
def clearStyles (builder : Builder) : Builder :=
  { builder with styles := (builder.styles.dropWhile (· != .border)).drop 1 }

/-- The node is a style in force. -/
def isStyle (builder : Builder) (node : Nat) : Bool :=
  builder.styles.any fun entry => entry.isFor node

/-- Takes a node out of the styles in force. -/
def removeStyle (builder : Builder) (node : Nat) : Builder :=
  { builder with styles := builder.styles.filter fun entry => !entry.isFor node }

/-- The latest style inside the border with a name. -/
def style? (builder : Builder) (name : String) : Option (Nat × Tag) :=
  (builder.styles.takeWhile (· != .border)).findSome? fun
    | .style node tag => if tag.name == name then some (node, tag) else none
    | .border => none

/-- The style is open, or is a border. -/
def isSettled (builder : Builder) : StyleEntry → Bool
  | .border => true
  | .style node _ => builder.openNodes.contains node

/-- Opens the styles that should go on at this place but are closed. -/
def resumeStyles (builder : Builder) : Builder :=
  let closed := builder.styles.takeWhile fun entry => !builder.isSettled entry
  let settled := builder.styles.drop closed.length
  closed.reverse.foldl (fun builder entry =>
    match entry with
    | .border => builder
    | .style _ tag =>
      let (node, builder) := builder.openElement (htmlElement tag)
      { builder with styles := .style node tag :: builder.styles })
    { builder with styles := settled }

/-- The attributes in the order of their names, for comparison. -/
def sortedAttributes (tag : Tag) : List (String × String) :=
  tag.attributes.mergeSort fun left right => left.1 ≤ right.1

/-- Two tags begin the same style. -/
def sameStyle (left right : Tag) : Bool :=
  left.name == right.name && sortedAttributes left == sortedAttributes right

/-- Opens a style; of four equal ones the earliest is forgotten. -/
def openStyle (builder : Builder) (tag : Tag) : Builder :=
  let inside := builder.styles.takeWhile (· != .border)
  let equal := inside.filterMap fun
    | .style node other => if sameStyle tag other then some node else none
    | .border => none
  let builder := match equal.getLast? with
    | some earliest => if equal.length ≥ 3 then builder.removeStyle earliest else builder
    | none => builder
  let (node, builder) := builder.openElement (htmlElement tag)
  { builder with styles := .style node tag :: builder.styles }

/-! ### Modes -/

/-- The mode that the open elements call for. -/
def modeFrom (builder : Builder) : List Nat → Mode
  | [] => .inBody
  | node :: rest =>
    let element := builder.elementOf node
    let isLast := rest.isEmpty
    if element.space != .html then builder.modeFrom rest
    else if element.name == "select" then
      let around := rest.find? fun node =>
        (builder.elementOf node).isHtmlIn ["template", "table"]
      match around with
      | some node => if (builder.elementOf node).isHtml "table" then .inSelectInTable else .inSelect
      | none => .inSelect
    else if ["td", "th"].contains element.name && !isLast then .inCell
    else if element.name == "tr" then .inRow
    else if ["tbody", "thead", "tfoot"].contains element.name then .inTableBody
    else if element.name == "caption" then .inCaption
    else if element.name == "colgroup" then .inColumnGroup
    else if element.name == "table" then .inTable
    else if element.name == "template" then builder.templateModes.headD .inTemplate
    else if element.name == "head" && !isLast then .inHead
    else if element.name == "body" then .inBody
    else if element.name == "frameset" then .inFrameset
    else if element.name == "html" then
      if builder.head.isNone then .beforeHead else .afterHead
    else builder.modeFrom rest

/-- The state in the mode that the open elements call for. -/
def resetMode (builder : Builder) : Builder :=
  { builder with mode := builder.modeFrom builder.openNodes }

end Builder

end Metasearch.Markup
