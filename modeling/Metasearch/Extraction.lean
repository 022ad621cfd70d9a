/-
From result pages to items. The values of a row are selected from its elements and filtered,
and then put into an item; a value that an item cannot take is left out with a warning. Rows
are gone through in order, and a row without a title says that the page has no results. What
happens to each row is told, whatever comes of the page in the end.
-/
import Metasearch.ByteSize
import Metasearch.Definition.Basic
import Metasearch.Item
import Metasearch.Query
import Metasearch.Selector.Match

namespace Metasearch.Extraction

open Markup (Document Place Node)

/-- Why a page yields nothing. -/
inductive Error
  | definition (error : Definition.Error)
  | filter (error : Filter.Error)
  deriving DecidableEq, Repr

/-- The wording of an error. -/
def Error.message : Error → String
  | .definition error => error.message
  | .filter error => error.message

/-- Reads a selector of a definition. -/
def selectorOf (selector : String) : Except Error Selector :=
  (Definition.compile selector).mapError .definition

/-! ### Values -/

mutual

/-- The text of a node, but for the elements with one of some serial numbers. -/
def textWithout (removed : List Nat) : Node → List Char
  | .element serial _ children =>
    if removed.contains serial then [] else textOfWithout removed children
  | .fragment children => textOfWithout removed children
  | .text content => content.toList
  | _ => []

/-- The text of nodes in their order. -/
def textOfWithout (removed : List Nat) : List Node → List Char
  | [] => []
  | node :: rest => textWithout removed node ++ textOfWithout removed rest

end

/-- The elements that a block selects in a row. -/
def selection (row : Place) (block : SelectorBlock) : Except Error (List Place) :=
  if block.selector.isEmpty then .ok [row]
  else (selectorOf block.selector).map fun selector => selector.selectBelow row

/-- The value that a block selects in a row: the attribute of the first element, or the trimmed
text of all elements without what is to be removed. -/
def selectValue (row : Place) (block : SelectorBlock) : Except Error String := do
  let found ← selection row block
  match block.attributeName with
  | some name =>
    match found.head?.bind fun place => place.attribute? name with
    | some value => return value
    | none => throw (.filter (.missingAttribute name))
  | none =>
    let removed ← match block.remove with
      | some remove => do
        let selector ← selectorOf remove
        pure (found.flatMap fun place => (selector.selectBelow place).map Place.serial)
      | none => pure []
    return String.ofList (Text.trim
      (found.flatMap fun place => textOfWithout removed place.level.children))

/-- The value of a block in a row, filtered. -/
def blockValue (context : Filter.Context) (row : Place) (block : SelectorBlock) :
    Except Error String := do
  let value ← selectValue row block
  (Filter.applyAll context block.filters value).mapError .filter

/-- The values of a row under their names. -/
def rowValues (context : Filter.Context) (fields : List (String × SelectorBlock)) (row : Place) :
    Except Error (List (String × String)) :=
  fields.mapM fun (name, block) => (blockValue context row block).map fun value => (name, value)

/-! ### Items -/

/-- Why an item cannot take a value. -/
inductive Reason
  | url (error : Url.Error)
  | integer (error : Number.IntegerError)
  | byteSize
  | timestamp
  deriving DecidableEq, Repr

/-- The wording of a reason. -/
def Reason.message : Reason → String
  | .url error => error.message
  | .integer error => error.message
  | .byteSize => "unrecognised byte size"
  | .timestamp => "not a canonical timestamp"

/-- A value that an item could not take. -/
structure Warning where
  /-- Counted from one. -/
  row : Nat
  field : String
  value : String
  reason : Reason
  deriving DecidableEq, Repr

/-- The wording of a warning. -/
def Warning.message (warning : Warning) : String :=
  "Search result row #" ++ toString warning.row ++ " has malformed " ++ warning.field ++ " " ++
    Text.quoted warning.value ++ ": " ++ warning.reason.message

/-- A sum within the signed numbers of 64 bits, which stops at their ends. -/
def addWithin (left right : Int) : Int :=
  Number.clamp Number.maxSigned (left + right)

/-- The item with an address put in. -/
def withUrl (base : Url) (value : String) (put : String → Item) : Except Reason Item :=
  ((base.join value).mapError .url).map fun url => put url.write

/-- The item with a number put in. -/
def withNumber (value : String) (put : Int → Item) : Except Reason Item :=
  ((Number.readSigned value.toList).mapError .integer).map put

/-- The item with a value put in, if the name of the value is known. -/
def withValue? (base : Url) (item : Item) (name value : String) : Option (Except Reason Item) :=
  match name with
  | "download" => some (withUrl base value fun link => { item with link })
  | "details" => some (withUrl base value fun guid => { item with guid })
  | "comments" => some (withUrl base value fun comments => { item with comments })
  | "title" => some (.ok { item with title := value })
  | "description" => some (.ok { item with description := value })
  | "category" => some (withNumber value fun category => { item with category })
  | "size" =>
    some (match ByteSize.read? value with
      | some size => .ok { item with size }
      | none => .error .byteSize)
  | "leechers" =>
    some (withNumber value fun count => { item with peers := addWithin item.peers count })
  | "seeders" =>
    some (withNumber value fun seeders =>
      { item with seeders, peers := addWithin item.peers seeders })
  | "date" =>
    some (match Calendar.readCanonical? value with
      | some time => .ok { item with publishDate := some time }
      | none => .error .timestamp)
  | _ => none

/-- Puts values into an item in their order; warnings are in that order too. -/
def putValues (base : Url) (row : Nat) (item : Item) :
    List (String × String) → Except Definition.Error (Item × List Warning)
  | [] => .ok (item, [])
  | (name, value) :: rest =>
    match withValue? base item name value with
    | none => .error (.unknownField name)
    | some (.ok item) => putValues base row item rest
    | some (.error reason) => do
      let (item, warnings) ← putValues base row item rest
      return (item, ⟨row, name, value, reason⟩ :: warnings)

/-- The item of the values of a row. -/
def buildItem (site : String) (row : Nat) (values : List (String × String)) (base : Url) :
    Except Definition.Error (Item × List Warning) :=
  putValues base row (Item.ofSite site) values

/-! ### Pages -/

/-- What happens to a row. -/
inductive Event
  | warned (field : String)
  | filtered
  | emitted
  deriving DecidableEq, Repr

/-- What a page is read for. -/
structure Request where
  site : String
  search : SearchBlock
  query : Query
  base : Url
  context : Filter.Context

/-- The item of a row, and its warnings. -/
def rowItem (request : Request) (number : Nat) (row : Place) :
    Except Error (Item × List Warning) := do
  let values ← rowValues request.context request.search.fields row
  (buildItem request.site number values request.base).mapError .definition

/-- The item is of a category that was asked for. -/
def isWanted (query : Query) (item : Item) : Bool :=
  query.categories.isEmpty || query.categories.contains item.category

/-- There are as many items as were asked for. -/
def isFull (query : Query) (count : Nat) : Bool :=
  query.limit.any (· ≤ count)

/-- Goes through rows, the first of them with a number, behind the items already found. -/
def readRows (request : Request) (found : List Item) :
    Nat → List Place → List Event × Except Error (List Item)
  | _, [] => ([], .ok found)
  | number, row :: rows =>
    if isFull request.query found.length then ([], .ok found)
    else
      match rowItem request number row with
      | .error error => ([], .error error)
      | .ok (item, warnings) =>
        let warned := warnings.map fun warning => Event.warned warning.field
        if item.title.isEmpty then (warned, .ok [])
        else if isWanted request.query item then
          let (events, result) := readRows request (found ++ [item]) (number + 1) rows
          (warned ++ .emitted :: events, result)
        else
          let (events, result) := readRows request found (number + 1) rows
          (warned ++ .filtered :: events, result)

/-- The items of a page, and what happened to its rows. -/
def readPage (request : Request) (document : Document) :
    List Event × Except Error (List Item) :=
  match selectorOf request.search.rows with
  | .error error => ([], .error error)
  | .ok selector => readRows request [] 1 (selector.selectIn document)

end Metasearch.Extraction
