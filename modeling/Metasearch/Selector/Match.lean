/-
Which elements a selector fits, and finding them. A chain fits an element when its rightmost
conditions hold of the element and some element that its combinator leads to fits the rest.
-/
import Metasearch.Markup.Place
import Metasearch.Selector.Basic
import Metasearch.Text.Blank
import Metasearch.Text.Search

namespace Metasearch.Selector

open Markup (Document Element Place)

/-! ### Conditions on the element itself -/

/-- The element has a name: in HTML without regard to the case of the selector. -/
def hasName (element : Element) (name : String) : Bool :=
  element.name == (if element.space == .html then name.map Char.toLower else name)

/-- The element has an identifier. -/
def hasId (element : Element) (id : String) : Bool :=
  match element.attributes.find? fun attr => attr.name == "id" with
  | some attr => attr.value == id
  | none => false

/-- One of the words of a class attribute is the name. -/
def hasClassName (element : Element) (name : String) : Bool :=
  element.attributes.any fun attr =>
    attr.name == "class" && (Text.words attr.value.toList).contains name.toList

/-- The value compares with the wanted one; but for equality, no value compares with an empty
one. -/
def Comparison.holds (comparison : Comparison) (value wanted : List Char) : Bool :=
  match comparison with
  | .equal => value == wanted
  | .includesWord =>
    let isBlank (c : Char) : Bool := c == ' ' || c == '\t' || c == '\n' || c == '\r' || c == '\x0c'
    !wanted.isEmpty && (Text.splitAt isBlank value).contains wanted
  | .startsWithPart => value == wanted || (wanted ++ ['-']).isPrefixOf value
  | .startsWith => !wanted.isEmpty && wanted.isPrefixOf value
  | .endsWith => !wanted.isEmpty && wanted.isSuffixOf value
  | .contains => !wanted.isEmpty && Text.occursIn wanted value

/-- The value passes a test. -/
def ValueTest.holds (test : ValueTest) (isHtml : Bool) (value : String) : Bool :=
  let exact := test.caseRule == .exact || (test.caseRule == .ignoredInHtml && !isHtml)
  let fold (text : String) : List Char :=
    if exact then text.toList else text.toList.map Char.toLower
  test.comparison.holds (fold value) (fold test.value)

/-- Some attribute of the name passes the test. -/
def hasAttribute (element : Element) (anySpace : Bool) (name : String) (test : Option ValueTest) :
    Bool :=
  let isHtml := element.space == .html
  let wanted := if isHtml then name.map Char.toLower else name
  element.attributes.any fun attr =>
    (anySpace || attr.space == "") && attr.name == wanted &&
      (match test with
       | none => true
       | some test => test.holds isHtml attr.value)

/-- The place among the siblings, from one. -/
def siblingIndex (place : Place) (fromEnd sameType : Bool) : Int :=
  let siblings := if fromEnd then place.later else place.earlier
  let counted := siblings.filter fun other =>
    !sameType ||
      (other.element.name == place.element.name && other.element.space == place.element.space)
  (counted.length : Int) + 1

/-- Some count from zero on gives the index. -/
def isStep (step start index : Int) : Bool :=
  let rest := index - start
  if step == 0 then rest == 0 else rest % step == 0 && 0 ≤ rest / step

/-! ### Chains -/

/-- What a chain may refer to: the element a search began at, and the one a `:has` asks about. -/
structure Frame where
  scope : Option Nat
  anchor : Option Nat

/-- The elements inside an element and behind it, with what they contain. -/
def insideAndBehind (place : Place) : List Place :=
  place.descendants ++ place.later.flatMap fun sibling => sibling :: sibling.descendants

mutual

/-- A condition holds of an element. -/
def holds (frame : Frame) (place : Place) : Condition → Bool
  | .anything => true
  | .nothing => false
  | .name name => hasName place.element name
  | .id id => hasId place.element id
  | .hasClass name => hasClassName place.element name
  | .attribute anySpace name test => hasAttribute place.element anySpace name test
  | .nth fromEnd sameType step start => isStep step start (siblingIndex place fromEnd sameType)
  | .empty => place.isEmpty
  | .root => place.isRoot
  | .scope =>
    match frame.scope with
    | some serial => place.serial == serial
    | none => place.isRoot
  | .anchor => frame.anchor == some place.serial
  | .anyOf chains => fitsAny frame place chains
  | .noneOf chains => !fitsAny frame place chains
  | .has chains =>
    let inner := { frame with anchor := some place.serial }
    (insideAndBehind place).any fun found => fitsAny inner found chains

/-- All conditions hold of an element. -/
def allHold (frame : Frame) (place : Place) : List Condition → Bool
  | [] => true
  | condition :: rest => holds frame place condition && allHold frame place rest

/-- A chain fits an element. -/
def fits (frame : Frame) (place : Place) : Chain → Bool
  | .single conditions => allHold frame place conditions
  | .linked conditions combinator left =>
    allHold frame place conditions &&
      (match combinator with
       | .descendant => place.ancestors.any fun other => fits frame other left
       | .child => (place.ancestors.take 1).any fun other => fits frame other left
       | .nextSibling => (place.earlier.take 1).any fun other => fits frame other left
       | .laterSibling => place.earlier.any fun other => fits frame other left)

/-- Some chain fits an element. -/
def fitsAny (frame : Frame) (place : Place) : List Chain → Bool
  | [] => false
  | chain :: rest => fits frame place chain || fitsAny frame place rest

end

/-- The selector fits an element, in a search that began at `scope`. -/
def fitsIn (selector : Selector) (scope : Option Nat) (place : Place) : Bool :=
  fitsAny ⟨scope, none⟩ place selector.chains

/-- The elements of a page that a selector fits, in the order in which they were made. Those in what
was taken out of the page are among them. -/
def selectIn (selector : Selector) (document : Document) : List Place :=
  (document.places.filter (selector.fitsIn none)).mergeSort fun left right =>
    left.serial ≤ right.serial

/-- A paragraph in a body that a frameset replaced. -/
example :
    ((⟨[.single [.name "p"]]⟩ : Selector).selectIn
      (Document.read "<p>A</p><frameset></frameset>")).map Place.text = [['A']] := by
  decide +kernel

/-- The elements inside an element that a selector fits, in document order. -/
def selectBelow (selector : Selector) (place : Place) : List Place :=
  place.descendants.filter (selector.fitsIn (some place.serial))

end Metasearch.Selector
