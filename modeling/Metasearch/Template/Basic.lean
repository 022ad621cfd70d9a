/-
Templates are texts with actions between double braces: a field to be written out, a part to be
repeated for every item of a value, and a part that is kept when a value is not empty. This file
holds the tree of a template and what can be wrong with one.
-/
import Metasearch.Text.Quoted

namespace Metasearch.Template

/-- A field reference: the names to follow from the current value, none for the value itself. -/
abbrev Path := List String

/-- A part of a template. -/
inductive Node
  | text (content : String)
  | field (path : Path)
  /-- The body once for every item of the value, or the other part when there is none. -/
  | range (path : Path) (body otherwise : List Node)
  /-- The body when the value is not empty, else the other part. -/
  | cond (path : Path) (body otherwise : List Node)

/-- A field reference as it is written. -/
def Path.label (path : Path) : String :=
  if path.isEmpty then "." else String.join (path.map fun name => "." ++ name)

/-- What is wrong with the text of a template. An action is given as it stands between its
braces, a word as it stands in the action. -/
inductive Problem
  | unclosedAction
  | unexpectedElse
  | unexpectedEnd
  | missingEnd
  | unsupported (action : String)
  | missingField (action : String)
  | noField (word : String)
  | malformedField (word : String)
  deriving DecidableEq, Repr

/-- An action between its braces. -/
def braced (action : String) : String :=
  "\x7b\x7b" ++ action ++ "\x7d\x7d"

/-- The wording of a problem. -/
def Problem.message : Problem → String
  | .unclosedAction => "unclosed action"
  | .unexpectedElse => "unexpected " ++ braced "else"
  | .unexpectedEnd => "unexpected " ++ braced "end"
  | .missingEnd => "missing " ++ braced "end"
  | .unsupported action => "unsupported action " ++ braced action
  | .missingField action => "missing field in " ++ braced action
  | .noField word => "expected a field reference, found " ++ Text.quoted word
  | .malformedField word => "malformed field reference " ++ Text.quoted word

/-- Why a template gives no text; `name` is the name the template goes by. -/
inductive Error
  | unreadable (name : String) (problem : Problem)
  | missingField (name : String) (path : Path)
  | notIterable (name : String) (path : Path)
  deriving DecidableEq, Repr

/-- The wording of an error. -/
def Error.message : Error → String
  | .unreadable name problem =>
    "Template " ++ Text.quoted name ++ ": " ++ problem.message
  | .missingField name path =>
    "Template " ++ Text.quoted name ++ ": field " ++ Path.label path ++
      " is not present in the context"
  | .notIterable name path =>
    "Template " ++ Text.quoted name ++ ": cannot range over " ++ Path.label path

end Metasearch.Template

namespace Metasearch

/-- A template and the name it goes by in errors. -/
structure Template where
  name : String
  nodes : List Template.Node

end Metasearch
