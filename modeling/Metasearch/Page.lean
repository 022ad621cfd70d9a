/-
Pages and the forms on them. A page is what a server answered; its body is bytes, which are
text, which is markup. A form is read with the values its fields have on the page, and can then
be filled in.
-/
import Metasearch.Markup.Document
import Metasearch.Selector.Match
import Metasearch.Selector.Reader
import Metasearch.Text.Utf8
import Metasearch.Url.Reader

namespace Metasearch

open Markup (Document Place)

/-- What a server answered. -/
structure Page where
  /-- Where the answer came from in the end. -/
  url : Url
  status : Nat
  /-- Names in lower case. -/
  headers : List (String × String)
  body : List UInt8
  deriving Repr

namespace Page

/-- The body as text. -/
def text (page : Page) : String :=
  String.ofList (Text.decode page.body)

/-- The body as markup. -/
def document (page : Page) : Document :=
  Document.read page.text

end Page

/-- What can go wrong on the way to a page or on it. -/
inductive Browser.Error
  | timeout (url : String)
  | connectionFailed (url reason : String)
  | request (url reason : String)
  | client (reason : String)
  | noPage
  | formNotFound (selector : String)
  | fieldNotFound (name : String)
  | badSelector (selector : String)
  | badUrl (url : String) (reason : Url.Error)
  deriving DecidableEq, Repr

/-- The wording of an error. Why a selector cannot be read is not part of it. -/
def Browser.Error.message : Browser.Error → String
  | .timeout url => "Request to " ++ url ++ " timed out"
  | .connectionFailed url reason => "Connection to " ++ url ++ " failed: " ++ reason
  | .request url reason => "Request to " ++ url ++ " failed: " ++ reason
  | .client reason => "Failed to build HTTP client: " ++ reason
  | .noPage => "No page has been loaded"
  | .formNotFound selector => "No form matches " ++ Text.quoted selector
  | .fieldNotFound name => "Form has no field named " ++ Text.quoted name
  | .badSelector selector => "Invalid selector " ++ Text.quoted selector
  | .badUrl url reason => "Invalid URL " ++ Text.quoted url ++ ": " ++ reason.message

/-- How a form is sent. -/
inductive FormMethod
  | get
  | post
  deriving DecidableEq, Repr

/-- A form with the values of its fields. -/
structure Form where
  action : Url
  method : FormMethod
  fields : List (String × String)
  deriving DecidableEq, Repr

namespace Form

/-! ### Reading forms -/

/-- The text inside an element, trimmed. -/
def elementText (place : Place) : String :=
  String.ofList (Text.trim place.text)

/-- The element has a name in HTML or in whichever language it belongs to. -/
def isNamed (name : String) (place : Place) : Bool :=
  place.element.name == name

/-- The name of a field, if it has one. -/
def fieldName? (place : Place) : Option String :=
  (place.attribute? "name").filter (!·.isEmpty)

/-- The value that a field is given on the page. -/
def givenValue (place : Place) : String :=
  (place.attribute? "value").getD ""

/-- The value of an option. -/
def optionValue (place : Place) : String :=
  (place.attribute? "value").getD (elementText place)

/-- The value of a choice: that of the first option said to be selected, else of the first. -/
def choiceValue (place : Place) : String :=
  let options := place.descendants.filter (isNamed "option")
  let selected := options.find? fun option => (option.attribute? "selected").isSome
  ((selected.or options.head?).map optionValue).getD ""

/-- What a field adds to a form. -/
inductive Part
  | nothing
  | field (name value : String)
  | button (name value : String)

/-- Two words are equal but for the case of their letters. -/
def sameWord (left right : String) : Bool :=
  left.map Char.toLower == right.map Char.toLower

/-- What a field adds. Boxes that are not ticked add nothing, nor do buttons that send nothing. -/
def partOf (place : Place) : Part :=
  match fieldName? place with
  | none => .nothing
  | some name =>
    if isNamed "textarea" place then .field name (elementText place)
    else if isNamed "select" place then .field name (choiceValue place)
    else
      match ((place.attribute? "type").getD "text").map Char.toLower with
      | "submit" | "image" => .button name (givenValue place)
      | "button" | "reset" => .nothing
      | "checkbox" | "radio" =>
        if (place.attribute? "checked").isSome then .field name (givenValue place) else .nothing
      | _ => .field name (givenValue place)

/-- An element that takes a value from whoever fills in the form. -/
def isField (place : Place) : Bool :=
  isNamed "input" place || isNamed "textarea" place || isNamed "select" place

/-- The name and value that a button element sends. -/
def buttonOf (place : Place) : Option (String × String) := do
  let name ← fieldName? place
  if sameWord ((place.attribute? "type").getD "submit") "submit" then
    some (name, givenValue place)
  else none

/-- The fields of a form in document order, and behind them the button that would be pressed. -/
def fieldsOf (form : Place) : List (String × String) :=
  let inside := form.descendants
  let parts := (inside.filter isField).map partOf
  let fields := parts.filterMap fun
    | .field name value => some (name, value)
    | _ => none
  let button := parts.findSome? fun
    | .button name value => some (name, value)
    | _ => none
  let pressed := button.or ((inside.filter (isNamed "button")).findSome? buttonOf)
  fields ++ pressed.toList

/-- Reads a selector. -/
def compileSelector (selector : String) : Except Browser.Error Selector :=
  match Selector.read? selector with
  | some compiled => .ok compiled
  | none => .error (.badSelector selector)

/-- The first form on a page that a selector fits. -/
def ofDocument (url : Url) (document : Document) (selector : String) :
    Except Browser.Error Form := do
  let compiled ← compileSelector selector
  match (compiled.selectIn document).head? with
  | none => throw (.formNotFound selector)
  | some form =>
    let target := (form.attribute? "action").getD ""
    let action ← (url.join target).mapError (.badUrl target)
    let method := if ((form.attribute? "method").map (sameWord "post")).getD false
      then FormMethod.post else .get
    return ⟨action, method, fieldsOf form⟩

/-- The first form on a page that a selector fits. -/
def ofPage (page : Page) (selector : String) : Except Browser.Error Form :=
  ofDocument page.url page.document selector

/-! ### Filling in forms -/

/-- The value of the first field of a name. -/
def get? (form : Form) (name : String) : Option String :=
  (form.fields.find? fun field => field.1 == name).map (·.2)

/-- The fields with the first of a name given another value, if there is one. -/
def setFirst? (name value : String) : List (String × String) → Option (List (String × String))
  | [] => none
  | (head, old) :: rest =>
    if head == name then some ((head, value) :: rest)
    else (setFirst? name value rest).map ((head, old) :: ·)

/-- The form with a field given another value; a form has no fields but its own. -/
def set (form : Form) (name value : String) : Except Browser.Error Form :=
  match setFirst? name value form.fields with
  | some fields => .ok { form with fields }
  | none => .error (.fieldNotFound name)

end Form

end Metasearch
