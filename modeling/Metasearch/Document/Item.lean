/-
Search results as JSON. The date is written in the canonical form; a description and comments
that are empty are left out.
-/
import Metasearch.Calendar.Canonical
import Metasearch.Item
import Metasearch.Json.Shape

namespace Metasearch.Item

open Json (Slot Reading Origin)

/-- A date in the canonical form, or none. -/
def readDate : Reading (Option Calendar.Timestamp) :=
  Json.asChecked (Json.asOptional Json.asText) fun text? =>
    match text? with
    | none => .ok none
    | some text =>
      match Calendar.readCanonical? text with
      | some time => .ok (some time)
      | none => .error ("invalid publish date " ++ Text.quoted text)

/-- A ratio. -/
def readRatio : Reading Ratio := fun json =>
  (Json.asReal json).map fun (negative, size) => ⟨negative, size⟩

/-- The fields of a written item. -/
def slots : List (Slot Item) :=
  [.of "site" .required Json.asText fun site item => { item with site },
   .of "title" .required Json.asText fun title item => { item with title },
   .of "description" .defaulted Json.asText fun description item => { item with description },
   .of "link" .required Json.asText fun link item => { item with link },
   .of "guid" .required Json.asText fun guid item => { item with guid },
   .of "comments" .defaulted Json.asText fun comments item => { item with comments },
   .of "category" .required Json.asSigned fun category item => { item with category },
   .of "size" .required (Json.asUnsigned "u64") fun size item => { item with size },
   .of "seeders" .required Json.asSigned fun seeders item => { item with seeders },
   .of "peers" .required Json.asSigned fun peers item => { item with peers },
   .of "publish_date" .defaulted readDate fun publishDate item => { item with publishDate },
   .of "minimum_ratio" .required readRatio fun minimumRatio item => { item with minimumRatio },
   .of "minimum_seed_time" .required (Json.asUnsigned "u64")
    fun minimumSeedTime item => { item with minimumSeedTime }]

/-- Reads an item. -/
def ofJson (origin : Origin) : Reading Item :=
  Json.asRecord origin "ResultItem" slots (ofSite "")

/-- A text that is written only when there is something in it. -/
def fieldIfNotEmpty (name text : String) : List (String × Json) :=
  if text.isEmpty then [] else [(name, .text text)]

/-- Writes an item. -/
def toJson (item : Item) : Json :=
  .object <| [("site", .text item.site), ("title", .text item.title)] ++
    fieldIfNotEmpty "description" item.description ++
    [("link", .text item.link), ("guid", .text item.guid)] ++
    fieldIfNotEmpty "comments" item.comments ++
    [("category", .int item.category), ("size", .int item.size), ("seeders", .int item.seeders),
     ("peers", .int item.peers),
     ("publish_date", match item.publishDate with
       | some time => .text (Calendar.writeCanonical time)
       | none => .null),
     ("minimum_ratio", .real item.minimumRatio.negative item.minimumRatio.size),
     ("minimum_seed_time", .int item.minimumSeedTime)]

end Metasearch.Item
