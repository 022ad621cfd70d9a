/-
Drawings and formulas inside a page. Their elements follow simple rules of their own, until a
tag of running text ends them or an element is met whose content belongs to the page again.
-/
import Metasearch.Markup.Rules

namespace Metasearch.Markup.Builder

/-- The token stands inside a drawing or formula. -/
def isForeign (builder : Builder) (token : Token) : Bool :=
  let element := builder.currentElement
  let isText := match token with
    | .text _ _ | .nul => true
    | _ => false
  let startName? := match token with
    | .startTag tag => some tag.name
    | _ => none
  if token == .endOfText || builder.openNodes.isEmpty || element.space == .html then false
  else if element.holdsFormulaText &&
      (isText || (startName?.any fun name => name != "mglyph" && name != "malignmark")) then false
  else if element.holdsPage && (isText || startName?.isSome) then false
  else if element.space == .mathml && element.name == "annotation-xml" &&
      startName? == some "svg" then false
  else true

/-- The tags that end a drawing or formula. -/
def endsForeign (tag : Tag) : Bool :=
  ["b", "big", "blockquote", "body", "br", "center", "code", "dd", "div", "dl", "dt", "em",
   "embed", "h1", "h2", "h3", "h4", "h5", "h6", "head", "hr", "i", "img", "li", "listing", "menu",
   "meta", "nobr", "ol", "p", "pre", "ruby", "s", "small", "span", "strong", "strike", "sub",
   "sup", "table", "tt", "u", "ul", "var"].contains tag.name ||
    (tag.name == "font" &&
      tag.attributes.any fun written => ["color", "face", "size"].contains written.1)

/-- Closes the elements of a drawing or formula. -/
def closeForeign (builder : Builder) : Builder :=
  { builder with
    openNodes := builder.openNodes.dropWhile fun node =>
      let element := builder.elementOf node
      !(element.space == .html || element.holdsFormulaText || element.holdsPage) }

/-- Looks for the element that an end tag closes; nothing when an element of the page comes
first. -/
def foreignEnd? (builder : Builder) (name : String) (first : Bool) :
    List Nat → Option (List Nat)
  | [] => some builder.openNodes
  | [_] => some builder.openNodes
  | node :: rest =>
    let element := builder.elementOf node
    if !first && element.space == .html then none
    else if element.name.map Char.toLower == name then some rest
    else builder.foreignEnd? name false rest

/-- The rule inside drawings and formulas. -/
def ruleInForeign (builder : Builder) (token : Token) : Outcome :=
  match token with
  | .nul => (builder.appendText ['\uFFFD']).done
  | .text blank content =>
    let builder := if blank then builder else builder.withoutFrameset
    (builder.appendText content).done
  | .comment content => (builder.appendComment content).done
  | .startTag tag =>
    if endsForeign tag then builder.closeForeign.rule token
    else
      let space := builder.currentElement.space
      let name := if space == .svg then spelled svgNames tag.name else tag.name
      (builder.openForeign space name tag).done
  | .endTag tag =>
    if tag.name == "br" || tag.name == "p" then builder.closeForeign.rule token
    else match builder.foreignEnd? tag.name true builder.openNodes with
      | some openNodes => { builder with openNodes }.done
      | none => builder.rule token
  | _ => builder.done

end Metasearch.Markup.Builder
