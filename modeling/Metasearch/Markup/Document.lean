/-
Pages as trees. A text is read token by token; every token, and every change of the part of the
page that it leads to, is applied to the tree under construction, and the finished tree is then
taken out of the numbered nodes, and with it the trees that no longer are in it. Each node keeps
its number, because elements are sometimes found in the order in which they were made.
-/
import Metasearch.Markup.Foreign

namespace Metasearch.Markup

/-- A node of a finished tree. -/
inductive Node
  | element (serial : Nat) (element : Element) (children : List Node)
  /-- The content of a template. -/
  | fragment (children : List Node)
  | text (content : String)
  | comment (content : String)
  | doctype
  deriving Inhabited

/-- A page: the nodes at its outermost level, and those that were taken out of it, such as a body
that a frameset replaces. What is in these can still be found. -/
structure Document where
  children : List Node
  detached : List Node
  deriving Inhabited

/-! ### The type of a page -/

/-- The beginnings of the public names of old page types. -/
def oldTypes : List String :=
  ["+//silmaril//dtd html pro v0r11 19970101//",
   "-//advasoft ltd//dtd html 3.0 aswedit + extensions//",
   "-//as//dtd html 3.0 aswedit + extensions//", "-//ietf//dtd html 2.0 level 1//",
   "-//ietf//dtd html 2.0 level 2//", "-//ietf//dtd html 2.0 strict level 1//",
   "-//ietf//dtd html 2.0 strict level 2//", "-//ietf//dtd html 2.0 strict//",
   "-//ietf//dtd html 2.0//", "-//ietf//dtd html 2.1e//", "-//ietf//dtd html 3.0//",
   "-//ietf//dtd html 3.2 final//", "-//ietf//dtd html 3.2//", "-//ietf//dtd html 3//",
   "-//ietf//dtd html level 0//", "-//ietf//dtd html level 1//", "-//ietf//dtd html level 2//",
   "-//ietf//dtd html level 3//", "-//ietf//dtd html strict level 0//",
   "-//ietf//dtd html strict level 1//", "-//ietf//dtd html strict level 2//",
   "-//ietf//dtd html strict level 3//", "-//ietf//dtd html strict//", "-//ietf//dtd html//",
   "-//metrius//dtd metrius presentational//",
   "-//microsoft//dtd internet explorer 2.0 html strict//",
   "-//microsoft//dtd internet explorer 2.0 html//",
   "-//microsoft//dtd internet explorer 2.0 tables//",
   "-//microsoft//dtd internet explorer 3.0 html strict//",
   "-//microsoft//dtd internet explorer 3.0 html//",
   "-//microsoft//dtd internet explorer 3.0 tables//", "-//netscape comm. corp.//dtd html//",
   "-//netscape comm. corp.//dtd strict html//", "-//o'reilly and associates//dtd html 2.0//",
   "-//o'reilly and associates//dtd html extended 1.0//",
   "-//o'reilly and associates//dtd html extended relaxed 1.0//",
   "-//softquad software//dtd hotmetal pro 6.0::19990601::extensions to html 4.0//",
   "-//softquad//dtd hotmetal pro 4.0::19971010::extensions to html 4.0//",
   "-//spyglass//dtd html 2.0 extended//", "-//sq//dtd html 2.0 hotmetal + extensions//",
   "-//sun microsystems corp.//dtd hotjava html//",
   "-//sun microsystems corp.//dtd hotjava strict html//", "-//w3c//dtd html 3 1995-03-24//",
   "-//w3c//dtd html 3.2 draft//", "-//w3c//dtd html 3.2 final//", "-//w3c//dtd html 3.2//",
   "-//w3c//dtd html 3.2s draft//", "-//w3c//dtd html 4.0 frameset//",
   "-//w3c//dtd html 4.0 transitional//", "-//w3c//dtd html experimental 19960712//",
   "-//w3c//dtd html experimental 970421//", "-//w3c//dtd w3 html//", "-//w3o//dtd w3 html 3.0//",
   "-//webtechs//dtd mozilla html 2.0//", "-//webtechs//dtd mozilla html//"]

/-- Public names that are old page types as a whole. -/
def oldTypeNames : List String :=
  ["-//w3o//dtd w3 html strict 3.0//en//", "-/w3c/dtd html 4.0 transitional/en", "html"]

/-- Types that are old when no system identifier goes with them. -/
def oldWithoutSystem : List String :=
  ["-//w3c//dtd html 4.01 frameset//", "-//w3c//dtd html 4.01 transitional//"]

/-- The page is of an old type, or declares none that is known. -/
def Doctype.isOldStyle (type : Doctype) : Bool :=
  let publicId := (type.publicId.getD "").map Char.toLower
  let systemId := type.systemId.map fun id => id.map Char.toLower
  let startsWithOne (types : List String) : Bool :=
    types.any fun beginning => beginning.toList.isPrefixOf publicId.toList
  type.isBroken || type.name != some "html" || oldTypeNames.contains publicId ||
    systemId == some "http://www.ibm.com/data/dtd/v11/ibmxhtml1-transitional.dtd" ||
    startsWithOne oldTypes || (systemId.isNone && startsWithOne oldWithoutSystem)

/-! ### Reading a page -/

namespace Builder

/-- Applies the rules to a token until it is settled. -/
def settle (fuel : Nat) (builder : Builder) (token : Token) : Builder :=
  match fuel with
  | 0 => builder
  | fuel + 1 =>
    let outcome :=
      if builder.isForeign token then builder.ruleInForeign token else builder.rule token
    match outcome with
    | (builder, none) => builder
    | (builder, some token) => settle fuel builder token

/-- The token as it counts behind an element whose first line feed does not. -/
def dropNewline (skips : Bool) (token : Token) : Option Token :=
  match token with
  | .text blank content =>
    let content := match skips, content with
      | true, '\n' :: rest => rest
      | _, content => content
    if content.isEmpty then none else some (.text blank content)
  | token => some token

/-- Takes in one token. -/
def take (builder : Builder) (token : Token) : Builder :=
  let skips := builder.skipsNewline
  let builder := { builder with skipsNewline := false }
  match token with
  | .doctype type =>
    if builder.mode == .initial then
      let (node, arena) := builder.arena.create .doctype
      { builder with
        arena := arena.append 0 node
        isOldStyle := type.isOldStyle
        mode := .beforeHtml }
    else builder
  | token =>
    match dropNewline skips token with
    | none => builder
    | some token =>
      builder.settle (4 * (builder.openNodes.length + builder.templateModes.length) + 32) token

/-- The next character may stand in a drawing or formula. -/
def inForeign (builder : Builder) : Bool :=
  !builder.openNodes.isEmpty && builder.currentElement.space != .html

/-- Reads a text to its end. -/
def run (fuel : Nat) (builder : Builder) (text : List Char) : Builder :=
  match fuel with
  | 0 => builder
  | fuel + 1 =>
    match nextToken builder.region builder.inForeign text with
    | (.endOfText, _) => builder.take .endOfText
    | (token, rest) => run fuel (builder.take token) rest

end Builder

namespace Arena

/-- The finished tree below some nodes. -/
def finish (arena : Arena) (fuel : Nat) (nodes : List Nat) : List Node :=
  match fuel with
  | 0 => []
  | fuel + 1 =>
    nodes.map fun node =>
      let cell := arena.cell node
      let children := arena.finish fuel cell.children.toList
      match cell.content with
      | .element element => .element node element children
      | .fragment | .document => .fragment children
      | .text content => .text content
      | .comment content => .comment content
      | .doctype => .doctype

/-- The nodes without a parent, but for the document. -/
def detachedNodes (arena : Arena) : List Nat :=
  (List.range arena.cells.size).filter fun node => node != 0 && (arena.cell node).parent.isNone

end Arena

/-- Reads a page. -/
def Document.read (text : String) : Document :=
  let text := normalize text.toList
  let builder := Builder.start.run (text.length + 2) text
  let arena := builder.arena
  let fuel := arena.cells.size + 1
  ⟨arena.finish fuel (arena.cell 0).children.toList, arena.finish fuel arena.detachedNodes⟩

end Metasearch.Markup
