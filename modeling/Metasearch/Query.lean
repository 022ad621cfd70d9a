/-
Search requests, and how they are read from request parameters: of several parameters with one
key the last counts, but every category list, limit and offset among them has to be well formed.
-/
import Metasearch.Number.Integer
import Metasearch.Template.Value
import Metasearch.Text.Blank

namespace Metasearch

/-- A search request. -/
structure Query where
  mode : String
  keywords : String
  /-- Canonical categories to keep to; none asks for all. -/
  categories : List Int
  limit : Option Nat
  offset : Option Nat
  season : Option String
  episode : Option String
  imdbId : Option String
  deriving DecidableEq, Repr

namespace Query

/-- What is wrong with a parameter. -/
inductive Error
  | invalidCategory (value : String)
  | invalidLimit (value : String)
  | invalidOffset (value : String)
  deriving DecidableEq, Repr

/-- The wording of an error. -/
def Error.message : Error → String
  | .invalidCategory value => "Invalid category id: " ++ value
  | .invalidLimit value => "Invalid limit: " ++ value
  | .invalidOffset value => "Invalid offset: " ++ value

/-- A request of some mode that asks for everything. -/
def ofMode (mode : String) : Query :=
  ⟨mode, "", [], none, none, none, none, none⟩

/-- The numbers of a list of categories between commas; blanks around them and empty entries do
not count. -/
def readCategories (value : String) : Except Error (List Int) :=
  let entries := ((Text.splitAt (· == ',') value.toList).map Text.trim).filter (!·.isEmpty)
  entries.mapM fun entry =>
    (Number.readSigned entry).mapError fun _ => .invalidCategory (String.ofList entry)

/-- A number of results. -/
def readCount (malformed : String → Error) (value : String) : Except Error Nat :=
  (Number.readUnsigned Number.maxUnsigned value.toList).mapError fun _ => malformed value

/-- The request with one parameter taken in. -/
def withParam (query : Query) (param : String × String) : Except Error Query :=
  let (key, value) := param
  if key = "t" then .ok { query with mode := value }
  else if key = "q" then .ok { query with keywords := value }
  else if key = "cat" then do
    let categories ← readCategories value
    return { query with categories }
  else if key = "limit" then do
    let limit ← readCount .invalidLimit value
    return { query with limit := some limit }
  else if key = "offset" then do
    let offset ← readCount .invalidOffset value
    return { query with offset := some offset }
  else if key = "season" then .ok { query with season := some value }
  else if key = "ep" then .ok { query with episode := some value }
  else if key = "imdbid" then .ok { query with imdbId := some value }
  else .ok query

/-- The request that parameters ask for. -/
def ofParams (params : List (String × String)) : Except Error Query :=
  params.foldlM withParam (ofMode "search")

/-! ### What templates see of a request -/

open Template (Value)

/-- A list of numbers. -/
def numbers (ids : List Int) : Value :=
  .list (ids.map .int)

/-- The value of an optional field under its name, or no field. -/
def fieldOf {Item : Type} (name : String) (value : Item → Value) :
    Option Item → List (String × Value)
  | some item => [(name, value item)]
  | none => []

/-- A count as templates hold it, in a signed number of 64 bits. -/
def countValue (count : Nat) : Value :=
  .int (Number.wrapSigned count)

/-- The fields of a request, in the order of their names. -/
def toValue (query : Query) : Value :=
  .map <| [("Categories", numbers query.categories)] ++
    fieldOf "Ep" .text query.episode ++
    fieldOf "ImdbID" .text query.imdbId ++
    [("Keywords", .text query.keywords)] ++
    fieldOf "Limit" countValue query.limit ++
    fieldOf "Offset" countValue query.offset ++
    [("Q", .text query.keywords)] ++
    fieldOf "Season" .text query.season ++
    [("Type", .text query.mode)]

/-- What search inputs are written against: the request, and the site's own categories. -/
def searchContext (query : Query) (localIds : List Int) : Value :=
  .map [("Categories", numbers localIds), ("Query", query.toValue)]

end Query

end Metasearch
