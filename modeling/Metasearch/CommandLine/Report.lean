/-
What the command line prints about a site and what it finds there, as JSON.
-/
import Metasearch.Document.Item
import Metasearch.Indexer.Basic
import Metasearch.Json.Writer

namespace Metasearch

/-- A category as JSON. -/
def Category.toJson (category : Category) : Json :=
  .object [("id", .int category.id), ("name", .text category.name)]

/-- A mode of searching as JSON. -/
def SearchMode.toJson (mode : SearchMode) : Json :=
  .object [("key", .text mode.key), ("available", .bool mode.available),
    ("supported_params", .list (mode.supportedParams.map .text))]

namespace Indexer

/-- What a site says about itself, as JSON; a description only if there is one. -/
def Info.toJson (info : Info) : Json :=
  .object ([("id", .text info.id), ("title", .text info.title)] ++
    Item.fieldIfNotEmpty "description" info.description ++ [("language", .text info.language)])

/-- What a site is and what it can do, as JSON. -/
def capsJson (indexer : Indexer) : Json :=
  let capabilities := indexer.definition.capabilities
  .object [("info", indexer.info.toJson),
    ("modes", .list (capabilities.modes.map SearchMode.toJson)),
    ("categories", .list (capabilities.categories.categories.map Category.toJson))]

end Indexer

end Metasearch
