/-
The rules for building the tree of a page from its tokens, one function for each part of a page.
A rule changes the state and may ask for the token to be looked at again, by the rules of
another part.
-/
import Metasearch.Markup.Style

namespace Metasearch.Markup.Builder

/-! ### Head -/

/-- A second `html` tag adds attributes to the outermost element. -/
def onHtmlTag (builder : Builder) (tag : Tag) : Builder :=
  if builder.hasOpen "template" then builder
  else
    { builder with
      arena := builder.arena.addAttributes builder.rootNode (htmlElement tag).attributes }

/-- The elements of a head that have no content. -/
def isEmptyInHead (name : String) : Bool :=
  ["base", "basefont", "bgsound", "link", "meta"].contains name

/-- The elements that may stand in a head. -/
def belongsInHead (name : String) : Bool :=
  isEmptyInHead name ||
    ["noframes", "script", "style", "template", "title"].contains name

/-- The end of a template. -/
def onTemplateEnd (builder : Builder) : Builder :=
  if !builder.hasOpen "template" then builder
  else
    let builder :=
      (builder.closeImplied Element.hasImpliedEndInTemplate).closeThroughNamed "template"
    let builder := builder.clearStyles
    { builder with templateModes := builder.templateModes.drop 1 }.resetMode

/-- The tag of an element that may stand in a head. -/
def onHeadTag (builder : Builder) (tag : Tag) : Builder :=
  if isEmptyInHead tag.name then builder.insertEmpty tag
  else if tag.name == "title" then builder.openText tag (.escapable "title")
  else if tag.name == "script" then builder.openText tag .script
  else if tag.name == "template" then
    let builder := (builder.openTag tag).addBorder
    { builder with
      framesetAllowed := false
      mode := .inTemplate
      templateModes := .inTemplate :: builder.templateModes }
  else builder.openText tag (.raw tag.name)

/-- The rule inside the head. -/
def ruleInHead (builder : Builder) (token : Token) : Outcome :=
  match token with
  | .text true content => (builder.appendText content).done
  | .comment content => (builder.appendComment content).done
  | .startTag tag =>
    if tag.name == "html" then (builder.onHtmlTag tag).done
    else if belongsInHead tag.name || tag.name == "noscript" then (builder.onHeadTag tag).done
    else if tag.name == "head" then builder.done
    else builder.close.again .afterHead token
  | .endTag tag =>
    if tag.name == "head" then { builder.close with mode := .afterHead }.done
    else if tag.name == "template" then builder.onTemplateEnd.done
    else if ["body", "html", "br"].contains tag.name then builder.close.again .afterHead token
    else builder.done
  | _ => builder.close.again .afterHead token

/-- The rule where a page begins. -/
def ruleInitial (builder : Builder) (token : Token) : Outcome :=
  match token with
  | .text true _ => builder.done
  | .comment content => (builder.commentIn 0 content).done
  | _ => { builder with isOldStyle := true }.again .beforeHtml token

/-- The rule before the root element. -/
def ruleBeforeHtml (builder : Builder) (token : Token) : Outcome :=
  let otherwise : Outcome := (builder.openRoot ⟨"html", [], false⟩).again .beforeHead token
  match token with
  | .text true _ => builder.done
  | .comment content => (builder.commentIn 0 content).done
  | .startTag tag =>
    if tag.name == "html" then { builder.openRoot tag with mode := .beforeHead }.done else otherwise
  | .endTag tag =>
    if ["head", "body", "html", "br"].contains tag.name then otherwise else builder.done
  | _ => otherwise

/-- Opens the head. -/
def openHead (builder : Builder) (tag : Tag) : Builder :=
  let (node, builder) := builder.openElement (htmlElement tag)
  { builder with head := some node, mode := .inHead }

/-- The rule before the head. -/
def ruleBeforeHead (builder : Builder) (token : Token) : Outcome :=
  let otherwise : Outcome := (builder.openHead ⟨"head", [], false⟩, some token)
  match token with
  | .text true _ => builder.done
  | .comment content => (builder.appendComment content).done
  | .startTag tag =>
    if tag.name == "html" then (builder.onHtmlTag tag).done
    else if tag.name == "head" then (builder.openHead tag).done
    else otherwise
  | .endTag tag =>
    if ["head", "body", "html", "br"].contains tag.name then otherwise else builder.done
  | _ => otherwise

/-- The rule between head and body. -/
def ruleAfterHead (builder : Builder) (token : Token) : Outcome :=
  let otherwise : Outcome := (builder.openImplied "body").again .inBody token
  match token with
  | .text true content => (builder.appendText content).done
  | .comment content => (builder.appendComment content).done
  | .startTag tag =>
    if tag.name == "html" then (builder.onHtmlTag tag).done
    else if tag.name == "body" then
      { builder.openTag tag with framesetAllowed := false, mode := .inBody }.done
    else if tag.name == "frameset" then { builder.openTag tag with mode := .inFrameset }.done
    else if belongsInHead tag.name then
      let head := builder.head.getD 0
      let inside := { builder with openNodes := head :: builder.openNodes }
      ((inside.onHeadTag tag).removeOpen head).done
    else if tag.name == "head" then builder.done
    else otherwise
  | .endTag tag =>
    if tag.name == "template" then builder.onTemplateEnd.done
    else if ["body", "html", "br"].contains tag.name then otherwise
    else builder.done
  | _ => otherwise

/-! ### Body -/

/-- The elements that end a paragraph and begin a block. -/
def isBlock (name : String) : Bool :=
  ["address", "article", "aside", "blockquote", "center", "details", "dialog", "dir", "div", "dl",
   "fieldset", "figcaption", "figure", "footer", "header", "hgroup", "main", "menu", "nav", "ol",
   "p", "section", "summary", "ul"].contains name

/-- The elements whose end tag closes everything inside them. -/
def closesAll (name : String) : Bool :=
  ["address", "article", "aside", "blockquote", "button", "center", "details", "dialog", "dir",
   "div", "dl", "fieldset", "figcaption", "figure", "footer", "header", "hgroup", "listing",
   "main", "menu", "nav", "ol", "pre", "section", "summary", "ul"].contains name

/-- The name of a heading of any level. -/
def isHeadingName (name : String) : Bool :=
  ["h1", "h2", "h3", "h4", "h5", "h6"].contains name

/-- The elements of running styles, links apart. -/
def isStyleName (name : String) : Bool :=
  ["b", "big", "code", "em", "font", "i", "s", "small", "strike", "strong", "tt", "u"].contains name

/-- The tag says that its input is not shown. -/
def isHiddenInput (tag : Tag) : Bool :=
  tag.attributes.any fun (name, value) =>
    name == "type" && value.map Char.toLower == "hidden"

/-- A frameset can no longer take the place of the body. -/
def withoutFrameset (builder : Builder) : Builder :=
  { builder with framesetAllowed := false }

/-- Closes the list item or definition that the text stands in. -/
def closeItem (builder : Builder) (names : List String) : Builder :=
  let found := builder.openNodes.find? fun node =>
    let element := builder.elementOf node
    element.isHtmlIn names ||
      (element.isSpecial && !element.isHtmlIn ["address", "div", "p"])
  match found with
  | none => builder
  | some node =>
    let element := builder.elementOf node
    if element.isHtmlIn names then
      (builder.closeImpliedExcept element.name).closeThroughNamed element.name
    else builder

/-- Opens an element of another language. -/
def openForeign (builder : Builder) (space : Namespace) (name : String) (tag : Tag) : Builder :=
  let element : Element := ⟨space, name, tag.attributes.map (foreignAttribute space)⟩
  if tag.selfClosing then (builder.insert element).2 else (builder.openElement element).2

/-- The mode for the options of a list: whether the list stands in a table is told by the mode that
the page is in. -/
def selectMode (mode : Mode) : Mode :=
  if [Mode.inTable, .inCaption, .inTableBody, .inRow, .inCell].contains mode then .inSelectInTable
  else .inSelect

/-- A start tag in the body. -/
def onBodyTag (builder : Builder) (tag : Tag) : Builder :=
  let name := tag.name
  if name == "html" then builder.onHtmlTag tag
  else if belongsInHead name then builder.onHeadTag tag
  else if name == "body" then
    match builder.body? with
    | some body =>
      if builder.hasOpen "template" then builder
      else
        { builder with
          framesetAllowed := false
          arena := builder.arena.addAttributes body (htmlElement tag).attributes }
    | none => builder
  else if name == "frameset" then
    if !builder.framesetAllowed then builder
    else match builder.body? with
      | none => builder
      | some body =>
        let builder := { builder with
          arena := builder.arena.detach body
          openNodes := [builder.rootNode] }
        { builder.openTag tag with mode := .inFrameset }
  else if isBlock name then builder.endParagraph.openTag tag
  else if isHeadingName name then
    let builder := builder.endParagraph
    let builder := if builder.currentElement.isHeading then builder.close else builder
    builder.openTag tag
  else if name == "pre" || name == "listing" then
    { builder.endParagraph.openTag tag with skipsNewline := true, framesetAllowed := false }
  else if name == "form" then
    if builder.form.isSome && !builder.hasOpen "template" then builder
    else
      let (node, builder) := builder.endParagraph.openElement (htmlElement tag)
      if builder.hasOpen "template" then builder else { builder with form := some node }
  else if name == "li" then
    ((builder.withoutFrameset.closeItem ["li"]).endParagraph).openTag tag
  else if name == "dd" || name == "dt" then
    ((builder.withoutFrameset.closeItem ["dd", "dt"]).endParagraph).openTag tag
  else if name == "plaintext" then { builder.endParagraph.openTag tag with region := .plain }
  else if name == "button" then
    let builder :=
      if builder.inScopeNamed Element.isScope "button" then
        (builder.closeImplied Element.hasImpliedEnd).closeThroughNamed "button"
      else builder
    (builder.resumeStyles.openTag tag).withoutFrameset
  else if name == "a" then builder.closeOuterLink.resumeStyles.openStyle tag
  else if isStyleName name then builder.resumeStyles.openStyle tag
  else if name == "nobr" then
    let builder := builder.resumeStyles
    let builder :=
      if builder.inScopeNamed Element.isScope "nobr" then (builder.closeStyle "nobr").resumeStyles
      else builder
    builder.openStyle tag
  else if ["applet", "marquee", "object"].contains name then
    (builder.resumeStyles.openTag tag).addBorder.withoutFrameset
  else if name == "table" then
    let builder := if builder.isOldStyle then builder else builder.endParagraph
    { builder.openTag tag with framesetAllowed := false, mode := .inTable }
  else if ["area", "br", "embed", "img", "keygen", "wbr"].contains name then
    (builder.resumeStyles.insertEmpty tag).withoutFrameset
  else if name == "input" then
    let builder := builder.resumeStyles.insertEmpty tag
    if isHiddenInput tag then builder else builder.withoutFrameset
  else if ["param", "source", "track"].contains name then builder.insertEmpty tag
  else if name == "hr" then (builder.endParagraph.insertEmpty tag).withoutFrameset
  else if name == "image" then
    (builder.resumeStyles.insertEmpty { tag with name := "img" }).withoutFrameset
  else if name == "textarea" then
    { builder.openText tag (.escapable "textarea") with
      skipsNewline := true
      framesetAllowed := false }
  else if name == "xmp" then
    (builder.endParagraph.resumeStyles.withoutFrameset).openText tag (.raw "xmp")
  else if name == "iframe" then builder.withoutFrameset.openText tag (.raw "iframe")
  else if name == "noembed" || name == "noscript" then builder.openText tag (.raw name)
  else if name == "select" then
    { builder.resumeStyles.openTag tag with
      framesetAllowed := false
      mode := selectMode builder.mode }
  else if name == "optgroup" || name == "option" then
    let builder := if builder.currentIs "option" then builder.close else builder
    builder.resumeStyles.openTag tag
  else if name == "rb" || name == "rtc" then
    let builder :=
      if builder.inScopeNamed Element.isScope "ruby" then
        builder.closeImplied Element.hasImpliedEnd
      else builder
    builder.openTag tag
  else if name == "rp" || name == "rt" then
    let builder :=
      if builder.inScopeNamed Element.isScope "ruby" then builder.closeImpliedExcept "rtc"
      else builder
    builder.openTag tag
  else if name == "math" then builder.resumeStyles.openForeign .mathml "math" tag
  else if name == "svg" then builder.resumeStyles.openForeign .svg "svg" tag
  else if ["caption", "col", "colgroup", "frame", "head", "tbody", "td", "tfoot", "th", "thead",
      "tr"].contains name then builder
  else builder.resumeStyles.openTag tag

/-- The end of a form. -/
def onFormEnd (builder : Builder) : Builder :=
  if builder.hasOpen "template" then
    if !builder.inScopeNamed Element.isScope "form" then builder
    else (builder.closeImplied Element.hasImpliedEnd).closeThroughNamed "form"
  else
    match builder.form with
    | none => builder
    | some node =>
      let builder := { builder with form := none }
      if !builder.inScopeFrom Element.isScope (· == node) builder.openNodes then builder
      else (builder.closeImplied Element.hasImpliedEnd).removeOpen node

/-- An end tag in the body, those of the body and the page apart. -/
def onBodyEndTag (builder : Builder) (tag : Tag) : Builder :=
  let name := tag.name
  if name == "template" then builder.onTemplateEnd
  else if closesAll name then
    if !builder.inScopeNamed Element.isScope name then builder
    else (builder.closeImplied Element.hasImpliedEnd).closeThroughNamed name
  else if name == "form" then builder.onFormEnd
  else if name == "p" then
    let builder :=
      if builder.inScopeNamed Element.isButtonScope "p" then builder else builder.openImplied "p"
    builder.closeParagraph
  else if ["li", "dd", "dt"].contains name then
    let isScope := if name == "li" then Element.isListScope else Element.isScope
    if builder.inScopeNamed isScope name then
      (builder.closeImpliedExcept name).closeThroughNamed name
    else builder
  else if isHeadingName name then
    if builder.inScope Element.isScope Element.isHeading then
      (builder.closeImplied Element.hasImpliedEnd).closeThrough Element.isHeading
    else builder
  else if name == "a" || name == "nobr" || isStyleName name then builder.closeStyle name
  else if ["applet", "marquee", "object"].contains name then
    if !builder.inScopeNamed Element.isScope name then builder
    else ((builder.closeImplied Element.hasImpliedEnd).closeThroughNamed name).clearStyles
  else if name == "br" then
    (builder.resumeStyles.insertEmpty ⟨"br", [], false⟩).withoutFrameset
  else builder.closeOrdinary name

/-- The text ends. Inside a template the template ends first. -/
def onEnd (builder : Builder) : Outcome :=
  if builder.templateModes.isEmpty || !builder.hasOpen "template" then builder.done
  else
    let builder := (builder.closeThroughNamed "template").clearStyles
    let builder := { builder with templateModes := builder.templateModes.drop 1 }.resetMode
    (builder, some .endOfText)

/-- The rule inside the body. -/
def ruleInBody (builder : Builder) (token : Token) : Outcome :=
  match token with
  | .nul => builder.done
  | .text blank content =>
    let builder := builder.resumeStyles
    let builder := if blank then builder else builder.withoutFrameset
    (builder.appendText content).done
  | .comment content => (builder.appendComment content).done
  | .startTag tag => (builder.onBodyTag tag).done
  | .endTag tag =>
    if tag.name == "body" then
      if builder.inScopeNamed Element.isScope "body" then { builder with mode := .afterBody }.done
      else builder.done
    else if tag.name == "html" then
      if builder.inScopeNamed Element.isScope "body" then builder.again .afterBody token
      else builder.done
    else (builder.onBodyEndTag tag).done
  | .doctype _ => builder.done
  | .endOfText => builder.onEnd

/-- The rule inside elements that hold nothing but text. -/
def ruleInText (builder : Builder) (token : Token) : Outcome :=
  match token with
  | .text _ content => (builder.appendText content).done
  | .endTag _ => { builder.close with mode := builder.returnMode, region := .markup }.done
  | .endOfText => { builder.close with region := .markup }.again builder.returnMode token
  | _ => builder.done

/-! ### Tables -/

/-- Content that has no place in a table is treated as in the body, and goes before the table. -/
def ruleOutsideTable (builder : Builder) (token : Token) : Outcome :=
  let (builder, token?) := ({ builder with movesOut := true }).ruleInBody token
  ({ builder with movesOut := false }, token?)

/-- Text in a table is first collected, to see whether all of it is blank. -/
def onTableText (builder : Builder) (token : Token) : Outcome :=
  if builder.currentElement.isTablePart then
    { builder with returnMode := builder.mode, tableText := [] }.again .inTableText token
  else builder.ruleOutsideTable token

/-- The name of a group of rows. -/
def isTableBodyName (name : String) : Bool :=
  ["tbody", "tfoot", "thead"].contains name

/-- The rule inside a table. -/
def ruleInTable (builder : Builder) (token : Token) : Outcome :=
  match token with
  | .nul | .text _ _ => builder.onTableText token
  | .comment content => (builder.appendComment content).done
  | .startTag tag =>
    let name := tag.name
    let inTable := builder.closeUntil ["html", "table", "template"]
    if name == "caption" then { inTable.addBorder.openTag tag with mode := .inCaption }.done
    else if name == "colgroup" then { inTable.openTag tag with mode := .inColumnGroup }.done
    else if name == "col" then (inTable.openImplied "colgroup").again .inColumnGroup token
    else if isTableBodyName name then { inTable.openTag tag with mode := .inTableBody }.done
    else if ["td", "th", "tr"].contains name then
      (inTable.openImplied "tbody").again .inTableBody token
    else if name == "table" then
      if builder.inScopeNamed Element.isTableScope "table" then
        ((builder.closeThroughNamed "table").resetMode, some token)
      else builder.done
    else if ["style", "script", "template"].contains name then (builder.onHeadTag tag).done
    else if name == "input" && isHiddenInput tag then (builder.insertEmpty tag).done
    else if name == "form" then
      if builder.hasOpen "template" || builder.form.isSome then builder.done
      else
        let (node, builder) := builder.insert (htmlElement tag)
        { builder with form := some node }.done
    else builder.ruleOutsideTable token
  | .endTag tag =>
    let name := tag.name
    if name == "table" then
      if builder.inScopeNamed Element.isTableScope "table" then
        (builder.closeThroughNamed "table").resetMode.done
      else builder.done
    else if ["body", "caption", "col", "colgroup", "html", "tbody", "td", "tfoot", "th", "thead",
        "tr"].contains name then builder.done
    else if name == "template" then builder.onTemplateEnd.done
    else builder.ruleOutsideTable token
  | .endOfText => builder.onEnd
  | .doctype _ => builder.done

/-- The rule for text inside a table. -/
def ruleInTableText (builder : Builder) (token : Token) : Outcome :=
  match token with
  | .nul => builder.done
  | .text blank content =>
    { builder with tableText := builder.tableText ++ [(blank, content)] }.done
  | token =>
    let collected := builder.tableText
    let builder := { builder with tableText := [] }
    let builder :=
      if collected.all (·.1) then
        collected.foldl (fun builder run => builder.appendText run.2) builder
      else
        collected.foldl (fun builder run =>
          (builder.ruleOutsideTable (.text run.1 run.2)).1) builder
    builder.again builder.returnMode token

/-- The rule inside the caption of a table. -/
def ruleInCaption (builder : Builder) (token : Token) : Outcome :=
  let leave (isEnd : Bool) : Outcome :=
    if builder.inScopeNamed Element.isTableScope "caption" then
      let builder := (builder.closeImplied Element.hasImpliedEnd).closeThroughNamed "caption"
      let builder := { builder.clearStyles with mode := .inTable }
      if isEnd then builder.done else (builder, some token)
    else builder.done
  match token with
  | .startTag tag =>
    if ["caption", "col", "colgroup", "tbody", "td", "tfoot", "th", "thead", "tr"].contains tag.name
    then leave false else builder.ruleInBody token
  | .endTag tag =>
    if tag.name == "table" then leave false
    else if tag.name == "caption" then leave true
    else if ["body", "col", "colgroup", "html", "tbody", "td", "tfoot", "th", "thead",
        "tr"].contains tag.name then builder.done
    else builder.ruleInBody token
  | token => builder.ruleInBody token

/-- The rule inside a group of columns. -/
def ruleInColumnGroup (builder : Builder) (token : Token) : Outcome :=
  let otherwise : Outcome :=
    if builder.currentIs "colgroup" then builder.close.again .inTable token else builder.done
  match token with
  | .text true content => (builder.appendText content).done
  | .comment content => (builder.appendComment content).done
  | .startTag tag =>
    if tag.name == "html" then (builder.onHtmlTag tag).done
    else if tag.name == "col" then (builder.insertEmpty tag).done
    else if tag.name == "template" then (builder.onHeadTag tag).done
    else otherwise
  | .endTag tag =>
    if tag.name == "colgroup" then
      if builder.currentIs "colgroup" then { builder.close with mode := .inTable }.done
      else builder.done
    else if tag.name == "col" then builder.done
    else if tag.name == "template" then builder.onTemplateEnd.done
    else otherwise
  | .endOfText => builder.onEnd
  | _ => otherwise

/-- The rule inside a group of rows. -/
def ruleInTableBody (builder : Builder) (token : Token) : Outcome :=
  let inBody := builder.closeUntil ["tbody", "tfoot", "thead", "template", "html"]
  let leave : Outcome :=
    if builder.inScope Element.isTableScope (Element.isHtmlIn ["table", "tbody", "tfoot"]) then
      inBody.close.again .inTable token
    else builder.done
  match token with
  | .startTag tag =>
    let name := tag.name
    if name == "tr" then { inBody.openTag tag with mode := .inRow }.done
    else if name == "th" || name == "td" then (inBody.openImplied "tr").again .inRow token
    else if ["caption", "col", "colgroup", "tbody", "tfoot", "thead"].contains name then leave
    else builder.ruleInTable token
  | .endTag tag =>
    let name := tag.name
    if isTableBodyName name then
      if builder.inScopeNamed Element.isTableScope name then
        { inBody.close with mode := .inTable }.done
      else builder.done
    else if name == "table" then leave
    else if ["body", "caption", "col", "colgroup", "html", "td", "th", "tr"].contains name then
      builder.done
    else builder.ruleInTable token
  | token => builder.ruleInTable token

/-- The rule inside a row. -/
def ruleInRow (builder : Builder) (token : Token) : Outcome :=
  let inRow := builder.closeUntil ["tr", "template", "html"]
  let hasRow := builder.inScopeNamed Element.isTableScope "tr"
  let leave : Outcome := if hasRow then inRow.close.again .inTableBody token else builder.done
  match token with
  | .startTag tag =>
    let name := tag.name
    if name == "th" || name == "td" then
      { (inRow.openTag tag).addBorder with mode := .inCell }.done
    else if ["caption", "col", "colgroup", "tbody", "tfoot", "thead", "tr"].contains name then leave
    else builder.ruleInTable token
  | .endTag tag =>
    let name := tag.name
    if name == "tr" then
      if hasRow then { inRow.close with mode := .inTableBody }.done else builder.done
    else if name == "table" then leave
    else if isTableBodyName name then
      if builder.inScopeNamed Element.isTableScope name then leave else builder.done
    else if ["body", "caption", "col", "colgroup", "html", "td", "th"].contains name then
      builder.done
    else builder.ruleInTable token
  | token => builder.ruleInTable token

/-- Closes the cell that the text stands in. -/
def closeCell (builder : Builder) : Builder :=
  ((builder.closeImplied Element.hasImpliedEnd).closeThrough
    (Element.isHtmlIn ["td", "th"])).clearStyles

/-- The rule inside a cell. -/
def ruleInCell (builder : Builder) (token : Token) : Outcome :=
  match token with
  | .startTag tag =>
    if ["caption", "col", "colgroup", "tbody", "td", "tfoot", "th", "thead", "tr"].contains tag.name
    then
      if builder.inScope Element.isTableScope (Element.isHtmlIn ["td", "th"]) then
        builder.closeCell.again .inRow token
      else builder.done
    else builder.ruleInBody token
  | .endTag tag =>
    let name := tag.name
    if name == "td" || name == "th" then
      if builder.inScopeNamed Element.isTableScope name then
        let builder := (builder.closeImplied Element.hasImpliedEnd).closeThroughNamed name
        { builder.clearStyles with mode := .inRow }.done
      else builder.done
    else if ["body", "caption", "col", "colgroup", "html"].contains name then builder.done
    else if name == "table" || name == "tr" || isTableBodyName name then
      if builder.inScopeNamed Element.isTableScope name then builder.closeCell.again .inRow token
      else builder.done
    else builder.ruleInBody token
  | token => builder.ruleInBody token

/-! ### Lists of options -/

/-- The rule inside a choice. -/
def ruleInSelect (builder : Builder) (token : Token) : Outcome :=
  let leave (keep : Option Token) : Outcome :=
    if builder.inScopeNamed Element.isSelectScope "select" then
      ((builder.closeThroughNamed "select").resetMode, keep)
    else builder.done
  match token with
  | .nul => builder.done
  | .text _ content => (builder.appendText content).done
  | .comment content => (builder.appendComment content).done
  | .startTag tag =>
    let name := tag.name
    if name == "html" then (builder.onHtmlTag tag).done
    else if name == "option" then
      let builder := if builder.currentIs "option" then builder.close else builder
      (builder.openTag tag).done
    else if name == "optgroup" then
      let builder := if builder.currentIs "option" then builder.close else builder
      let builder := if builder.currentIs "optgroup" then builder.close else builder
      (builder.openTag tag).done
    else if name == "select" then leave none
    else if ["input", "keygen", "textarea"].contains name then leave (some token)
    else if name == "script" || name == "template" then (builder.onHeadTag tag).done
    else builder.done
  | .endTag tag =>
    let name := tag.name
    if name == "optgroup" then
      let isInGroup := match builder.openNodes with
        | node :: outer :: _ =>
          (builder.elementOf node).isHtml "option" && (builder.elementOf outer).isHtml "optgroup"
        | _ => false
      let builder := if isInGroup then builder.close else builder
      (if builder.currentIs "optgroup" then builder.close else builder).done
    else if name == "option" then
      (if builder.currentIs "option" then builder.close else builder).done
    else if name == "select" then leave none
    else if name == "template" then builder.onTemplateEnd.done
    else builder.done
  | .doctype _ => builder.done
  | .endOfText => builder.onEnd

/-- The parts of a table that end a list of options in it. -/
def endsSelect (name : String) : Bool :=
  ["caption", "table", "tbody", "tfoot", "thead", "tr", "td", "th"].contains name

/-- The rule inside a choice inside a table. -/
def ruleInSelectInTable (builder : Builder) (token : Token) : Outcome :=
  let leave : Outcome := ((builder.closeThroughNamed "select").resetMode, some token)
  match token with
  | .startTag tag => if endsSelect tag.name then leave else builder.ruleInSelect token
  | .endTag tag =>
    if endsSelect tag.name then
      if builder.inScopeNamed Element.isTableScope tag.name then leave else builder.done
    else builder.ruleInSelect token
  | token => builder.ruleInSelect token

/-! ### Templates and the rest of a page -/

/-- The rule inside a template. -/
def ruleInTemplate (builder : Builder) (token : Token) : Outcome :=
  let turn (mode : Mode) : Outcome :=
    { builder with templateModes := mode :: builder.templateModes.drop 1 }.again mode token
  match token with
  | .text _ _ | .comment _ => builder.ruleInBody token
  | .startTag tag =>
    let name := tag.name
    if belongsInHead name then (builder.onHeadTag tag).done
    else if ["caption", "colgroup", "tbody", "tfoot", "thead"].contains name then turn .inTable
    else if name == "col" then turn .inColumnGroup
    else if name == "tr" then turn .inTableBody
    else if name == "td" || name == "th" then turn .inRow
    else turn .inBody
  | .endTag tag => if tag.name == "template" then builder.onTemplateEnd.done else builder.done
  | .endOfText => builder.onEnd
  | _ => builder.done

/-- The rule behind the body. -/
def ruleAfterBody (builder : Builder) (token : Token) : Outcome :=
  match token with
  | .text true _ => builder.ruleInBody token
  | .comment content => (builder.commentIn builder.rootNode content).done
  | .startTag tag =>
    if tag.name == "html" then (builder.onHtmlTag tag).done else builder.again .inBody token
  | .endTag tag =>
    if tag.name == "html" then { builder with mode := .afterAfterBody }.done
    else builder.again .inBody token
  | .endOfText => builder.done
  | _ => builder.again .inBody token

/-- The rule behind the root element. -/
def ruleAfterAfterBody (builder : Builder) (token : Token) : Outcome :=
  match token with
  | .text true _ => builder.ruleInBody token
  | .comment content => (builder.commentIn 0 content).done
  | .startTag tag =>
    if tag.name == "html" then (builder.onHtmlTag tag).done else builder.again .inBody token
  | .endOfText => builder.done
  | _ => builder.again .inBody token

/-- The rule inside a frameset. -/
def ruleInFrameset (builder : Builder) (token : Token) : Outcome :=
  match token with
  | .text true content => (builder.appendText content).done
  | .comment content => (builder.appendComment content).done
  | .startTag tag =>
    if tag.name == "html" then (builder.onHtmlTag tag).done
    else if tag.name == "frameset" then (builder.openTag tag).done
    else if tag.name == "frame" then (builder.insertEmpty tag).done
    else if tag.name == "noframes" then (builder.onHeadTag tag).done
    else builder.done
  | .endTag tag =>
    if tag.name == "frameset" && builder.openNodes.length > 1 then
      let builder := builder.close
      if builder.currentIs "frameset" then builder.done
      else { builder with mode := .afterFrameset }.done
    else builder.done
  | _ => builder.done

/-- The rule behind a frameset. -/
def ruleAfterFrameset (builder : Builder) (token : Token) : Outcome :=
  match token with
  | .text true content => (builder.appendText content).done
  | .comment content => (builder.appendComment content).done
  | .startTag tag =>
    if tag.name == "html" then (builder.onHtmlTag tag).done
    else if tag.name == "noframes" then (builder.onHeadTag tag).done
    else builder.done
  | .endTag tag =>
    if tag.name == "html" then { builder with mode := .afterAfterFrameset }.done else builder.done
  | _ => builder.done

/-- The rule behind the root element of a frameset. -/
def ruleAfterAfterFrameset (builder : Builder) (token : Token) : Outcome :=
  match token with
  | .text true _ => builder.ruleInBody token
  | .comment content => (builder.commentIn 0 content).done
  | .startTag tag =>
    if tag.name == "html" then (builder.onHtmlTag tag).done
    else if tag.name == "noframes" then (builder.onHeadTag tag).done
    else builder.done
  | _ => builder.done

/-- The rule of the mode that the page is in. -/
def rule (builder : Builder) (token : Token) : Outcome :=
  match builder.mode with
  | .initial => builder.ruleInitial token
  | .beforeHtml => builder.ruleBeforeHtml token
  | .beforeHead => builder.ruleBeforeHead token
  | .inHead => builder.ruleInHead token
  | .afterHead => builder.ruleAfterHead token
  | .inBody => builder.ruleInBody token
  | .inText => builder.ruleInText token
  | .inTable => builder.ruleInTable token
  | .inTableText => builder.ruleInTableText token
  | .inCaption => builder.ruleInCaption token
  | .inColumnGroup => builder.ruleInColumnGroup token
  | .inTableBody => builder.ruleInTableBody token
  | .inRow => builder.ruleInRow token
  | .inCell => builder.ruleInCell token
  | .inSelect => builder.ruleInSelect token
  | .inSelectInTable => builder.ruleInSelectInTable token
  | .inTemplate => builder.ruleInTemplate token
  | .afterBody => builder.ruleAfterBody token
  | .inFrameset => builder.ruleInFrameset token
  | .afterFrameset => builder.ruleAfterFrameset token
  | .afterAfterBody => builder.ruleAfterAfterBody token
  | .afterAfterFrameset => builder.ruleAfterAfterFrameset token

end Metasearch.Markup.Builder
