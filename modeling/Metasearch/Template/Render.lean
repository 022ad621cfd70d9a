/-
Writing out a template. The current value starts as the root of the context and changes to each
item inside a repeated part; a field that is missing anywhere on the way is an error, never an
empty text.
-/
import Metasearch.Template.Reader
import Metasearch.Template.Value

namespace Metasearch.Template

/-- The value that a path leads to. -/
def lookup (name : String) (path : Path) (current : Value) : Except Error Value :=
  path.foldlM (fun value segment =>
    match value.field? segment with
    | some next => .ok next
    | none => .error (.missingField name path)) current

mutual

/-- The text of one node. -/
def renderNode (name : String) (current : Value) : Node → Except Error String
  | .text content => .ok content
  | .field path => do
    let value ← lookup name path current
    return value.toText
  | .range path body otherwise => do
    let value ← lookup name path current
    match value.items? with
    | none => .error (.notIterable name path)
    | some [] => renderNodes name current otherwise
    | some items => do
      let texts ← items.mapM fun item => renderNodes name item body
      return String.join texts
  | .cond path body otherwise => do
    let value ← lookup name path current
    if value.isTruthy then renderNodes name current body else renderNodes name current otherwise

/-- The text of nodes in a row. -/
def renderNodes (name : String) (current : Value) : List Node → Except Error String
  | [] => .ok ""
  | node :: rest => do
    let text ← renderNode name current node
    let texts ← renderNodes name current rest
    return text ++ texts

end

/-- The text of a template for a root value. -/
def render (template : Template) (root : Value) : Except Error String :=
  renderNodes template.name root template.nodes

/-- Reads a template and writes it out. -/
def resolve (name text : String) (root : Value) : Except Error String := do
  let template ← read name text
  template.render root

end Metasearch.Template
