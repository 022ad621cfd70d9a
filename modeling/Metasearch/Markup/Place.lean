/-
Elements in their places. A place is an element together with its siblings and the elements
around it, so that one can look from it in every direction. The content of a template is a tree
of its own: nothing is around the elements at its outermost level. So is what was taken out of a
page: a body that was replaced is around what is in it, but nothing is around that body.
-/
import Metasearch.Markup.Document

namespace Metasearch.Markup

/-- An element, what it contains, and its siblings: those before it with the nearest first. -/
structure Level where
  serial : Nat
  element : Element
  children : List Node
  before : List Node
  after : List Node
  deriving Inhabited

/-- An element in its place: its own level, the levels of the elements around it, the nearest
first, and whether the outermost of all stands in the page itself. -/
structure Place where
  level : Level
  above : List Level
  inPage : Bool
  deriving Inhabited

/-! ### Text -/

mutual

/-- All text of a node, in document order. -/
def Node.allText : Node → List Char
  | .element _ _ children => textOfAll children
  | .fragment children => textOfAll children
  | .text content => content.toList
  | .comment _ => []
  | .doctype => []

/-- All text of some nodes. -/
def textOfAll : List Node → List Char
  | [] => []
  | node :: rest => node.allText ++ textOfAll rest

end

/-! ### All places -/

mutual

/-- The places of the elements of a node, in document order. -/
def placesOfNode (above : List Level) (inPage : Bool) (before after : List Node) :
    Node → List Place
  | .element serial element children =>
    let level : Level := ⟨serial, element, children, before, after⟩
    ⟨level, above, inPage⟩ :: placesOfNodes (level :: above) inPage [] children
  | .fragment children => placesOfNodes [] false [] children
  | _ => []

/-- The places of the elements of siblings and of what they contain, in document order; `before`
are the siblings already passed. -/
def placesOfNodes (above : List Level) (inPage : Bool) (before : List Node) :
    List Node → List Place
  | [] => []
  | node :: rest =>
    placesOfNode above inPage before rest node ++ placesOfNodes above inPage (node :: before) rest

end

/-- The places of the elements in a node that was taken out of a page. The node itself has none,
since it stands nowhere, but it still is around them. -/
def placesInside : Node → List Place
  | .element serial element children =>
    placesOfNodes [⟨serial, element, children, [], []⟩] false [] children
  | .fragment children => placesOfNodes [] false [] children
  | _ => []

namespace Document

/-- The places of the elements in a page, in document order. -/
def placesInPage (document : Document) : List Place :=
  placesOfNodes [] true [] document.children

/-- The places of all elements that stand in a page, in document order, and behind them those in
what was taken out of it. -/
def places (document : Document) : List Place :=
  document.placesInPage ++ document.detached.flatMap placesInside

end Document

namespace Place

/-- The number of the node at a place. -/
def serial (place : Place) : Nat :=
  place.level.serial

/-- The element at a place. -/
def element (place : Place) : Element :=
  place.level.element

/-- The value of an attribute. -/
def attribute? (place : Place) (name : String) : Option String :=
  place.element.attribute? name

/-- The text inside the element. -/
def text (place : Place) : List Char :=
  textOfAll place.level.children

/-- The places of the elements inside, in document order. -/
def descendants (place : Place) : List Place :=
  placesOfNodes (place.level :: place.above) place.inPage [] place.level.children

/-- The places around, from an innermost level outwards. -/
def ofLevels (inPage : Bool) : List Level → List Place
  | [] => []
  | level :: above => ⟨level, above, inPage⟩ :: ofLevels inPage above

/-- The places of the elements around, the nearest first. -/
def ancestors (place : Place) : List Place :=
  ofLevels place.inPage place.above

/-- The element stands at the outermost level of the page. -/
def isRoot (place : Place) : Bool :=
  place.above.isEmpty && place.inPage

/-- The element has neither elements nor text at its first level. -/
def isEmpty (place : Place) : Bool :=
  !place.level.children.any fun
    | .element _ _ _ => true
    | .text _ => true
    | _ => false

/-- The node of the element. -/
def node (place : Place) : Node :=
  .element place.serial place.element place.level.children

/-- The elements among siblings on one side of an element, the nearest first, given the siblings
on the other side; `build` puts the two sides in order. -/
def siblingLevels (build : Nat → Element → List Node → List Node → List Node → Level)
    (passed : List Node) : List Node → List Level
  | [] => []
  | node :: rest =>
    match node with
    | .element serial element children =>
      build serial element children rest passed :: siblingLevels build (node :: passed) rest
    | _ => siblingLevels build (node :: passed) rest

/-- The sibling elements before, the nearest first. -/
def earlier (place : Place) : List Place :=
  (siblingLevels Level.mk (place.node :: place.level.after) place.level.before).map fun level =>
    { place with level }

/-- The sibling elements after, the nearest first. -/
def later (place : Place) : List Place :=
  (siblingLevels (fun serial element children after before =>
    ⟨serial, element, children, before, after⟩)
    (place.node :: place.level.before) place.level.after).map fun level => { place with level }

end Place

end Metasearch.Markup
