/-
What can be wrong with the definition of a site. Some of it shows when the definition is read
(filters, patterns, category names), some only when its parts are used or checked (selectors,
links, names of fields).
-/
import Metasearch.Text.Quoted
import Metasearch.Url.Basic

namespace Metasearch.Definition

/-- A construct that a definition cannot have. -/
inductive Error
  | unknownFilter (name : String)
  | filterArguments (filter expected found : String)
  | badPattern (pattern : String)
  | unknownCategory (name : String)
  | unknownField (name : String)
  | badSelector (selector : String)
  | noLinks
  | badLink (link : String) (reason : Url.Error)
  deriving DecidableEq, Repr

/-- The wording of an error. Why a pattern or a selector cannot be read is not part of it. -/
def Error.message : Error → String
  | .unknownFilter name => "Unknown filter " ++ Text.quoted name
  | .filterArguments filter expected found =>
    "Filter " ++ filter ++ " expects " ++ expected ++ ", found " ++ found
  | .badPattern pattern => "Invalid pattern " ++ Text.quoted pattern
  | .unknownCategory name => "Unknown category " ++ Text.quoted name
  | .unknownField name => "Unknown field " ++ Text.quoted name
  | .badSelector selector => "Invalid selector " ++ Text.quoted selector
  | .noLinks => "Definition declares no links"
  | .badLink link reason => "Invalid link " ++ Text.quoted link ++ ": " ++ reason.message

end Metasearch.Definition
