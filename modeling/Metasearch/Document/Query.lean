/-
Search requests as JSON: an object that leaves out what the request leaves open.
-/
import Metasearch.Json.Shape
import Metasearch.Query

namespace Metasearch.Query

open Json (Slot)

/-- The fields of a written request. -/
def slots : List (Slot Query) :=
  [.of "mode" .required Json.asText fun mode query => { query with mode },
   .of "keywords" .defaulted Json.asText fun keywords query => { query with keywords },
   .of "categories" .defaulted (Json.asList Json.asSigned)
     fun categories query => { query with categories },
   .of "limit" .defaulted (Json.asOptional (Json.asUnsigned "usize"))
     fun limit query => { query with limit },
   .of "offset" .defaulted (Json.asOptional (Json.asUnsigned "usize"))
     fun offset query => { query with offset },
   .of "season" .defaulted (Json.asOptional Json.asText) fun season query => { query with season },
   .of "episode" .defaulted (Json.asOptional Json.asText)
     fun episode query => { query with episode },
   .of "imdb_id" .defaulted (Json.asOptional Json.asText)
     fun imdbId query => { query with imdbId }]

/-- Reads a request. -/
def ofJson (origin : Json.Origin) : Json.Reading Query :=
  Json.asRecord origin "Query" slots (ofMode "")

/-- A field that is written only when it is present. -/
def fieldIfSome {Item : Type} (name : String) (write : Item → Json) :
    Option Item → List (String × Json)
  | some item => [(name, write item)]
  | none => []

/-- Writes a request. -/
def toJson (query : Query) : Json :=
  .object <| [("mode", .text query.mode), ("keywords", .text query.keywords)] ++
    (if query.categories.isEmpty then []
      else [("categories", .list (query.categories.map .int))]) ++
    fieldIfSome "limit" (fun count => .int count) query.limit ++
    fieldIfSome "offset" (fun count => .int count) query.offset ++
    fieldIfSome "season" .text query.season ++
    fieldIfSome "episode" .text query.episode ++
    fieldIfSome "imdb_id" .text query.imdbId

end Metasearch.Query
