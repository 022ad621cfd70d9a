/-
Reading a template. The text is first cut into pieces, plain text and actions by turns; a minus
sign at either brace of an action, with a blank or nothing beside it, takes the blanks off the
text on that side. The pieces then build the tree with a stack of the parts that are still open.
-/
import Metasearch.Template.Basic
import Metasearch.Text.Blank
import Metasearch.Text.Search

namespace Metasearch.Template

open Text (cut trim trimStart trimEnd isBlank)

/-! ### Pieces -/

/-- A piece of the text of a template. -/
inductive Piece
  | text (content : List Char)
  /-- What stands between the braces, without trim markers and outer blanks. -/
  | action (body : List Char)
  /-- Opening braces without closing ones. -/
  | unclosed
  deriving DecidableEq, Repr

/-- What an action begins with. -/
def openingBraces : List Char := ['{', '{']

/-- What an action ends with. -/
def closingBraces : List Char := ['}', '}']

/-- Whether the action begins with a trim marker, and the action without it. -/
def dropLeftMarker : List Char → Bool × List Char
  | '-' :: [] => (true, [])
  | '-' :: c :: rest => if isBlank c then (true, c :: rest) else (false, '-' :: c :: rest)
  | body => (false, body)

/-- Whether the action ends with a trim marker, and the action without it. -/
def dropRightMarker (body : List Char) : Bool × List Char :=
  let (marked, reversed) := dropLeftMarker body.reverse
  (marked, reversed.reverse)

/-- A piece of plain text, unless it is empty. -/
def textPiece (content : List Char) : List Piece :=
  if content.isEmpty then [] else [.text content]

/-- The pieces of a text; `trimmed` says that the action before it has a trim marker on its right
side. -/
def pieces (trimmed : Bool) (text : List Char) : List Piece :=
  match first : cut openingBraces text with
  | none => textPiece (if trimmed then trimStart text else text)
  | some (before, after) =>
    match second : cut closingBraces after with
    | none => [.unclosed]
    | some (body, rest) =>
      have := Text.length_of_cut first
      have := Text.length_of_cut second
      let before := if trimmed then trimStart before else before
      let (left, body) := dropLeftMarker body
      let before := if left then trimEnd before else before
      let (right, body) := dropRightMarker body
      textPiece before ++ .action (trim body) :: pieces right rest
termination_by text.length
decreasing_by
  simp only [openingBraces, closingBraces, List.length_cons, List.length_nil] at *
  omega

/-! ### Field references -/

/-- The path of a field reference, a word that should begin with a point. -/
def readPath (word : List Char) : Except Problem Path :=
  match word with
  | ['.'] => .ok []
  | '.' :: names =>
    let segments := Text.splitAt (· == '.') names
    if segments.any List.isEmpty then .error (.malformedField (String.ofList word))
    else .ok (segments.map String.ofList)
  | _ => .error (.noField (String.ofList word))

/-- The path that the first of the remaining words of an action gives. -/
def readOperand (action : List Char) : List (List Char) → Except Problem Path
  | [] => .error (.missingField (String.ofList action))
  | word :: _ => readPath word

/-! ### The tree -/

/-- What an open part will become. -/
inductive Opening
  | range (path : Path)
  | cond (path : Path)
  deriving DecidableEq, Repr

/-- A part that is still open: the nodes of its body, and those of its other part once `else` has
been met. -/
structure OpenPart where
  opening : Opening
  body : List Node
  otherwise : Option (List Node)

/-- A tree under construction: the finished nodes at the outermost level and the open parts, the
innermost first. -/
structure Builder where
  root : List Node
  openParts : List OpenPart

/-- The node that an open part becomes at its end. -/
def OpenPart.close (part : OpenPart) : Node :=
  match part.opening with
  | .range path => .range path part.body (part.otherwise.getD [])
  | .cond path => .cond path part.body (part.otherwise.getD [])

/-- The part with a node put at the end of the branch that is being filled. -/
def OpenPart.push (part : OpenPart) (node : Node) : OpenPart :=
  match part.otherwise with
  | some nodes => { part with otherwise := some (nodes ++ [node]) }
  | none => { part with body := part.body ++ [node] }

namespace Builder

/-- The tree with a node put where the text is. -/
def push (builder : Builder) (node : Node) : Builder :=
  match builder.openParts with
  | [] => { builder with root := builder.root ++ [node] }
  | part :: rest => { builder with openParts := part.push node :: rest }

/-- The tree with a new open part. -/
def enter (builder : Builder) (opening : Opening) : Builder :=
  { builder with openParts := ⟨opening, [], none⟩ :: builder.openParts }

/-- From here on the other branch of the innermost open part is filled. -/
def turn (builder : Builder) : Except Problem Builder :=
  match builder.openParts with
  | [] => .error .unexpectedElse
  | part :: rest =>
    match part.otherwise with
    | some _ => .error .unexpectedElse
    | none => .ok { builder with openParts := { part with otherwise := some [] } :: rest }

/-- The innermost open part ends. -/
def leave (builder : Builder) : Except Problem Builder :=
  match builder.openParts with
  | [] => .error .unexpectedEnd
  | part :: rest => .ok ({ builder with openParts := rest }.push part.close)

/-- Takes in one action. -/
def act (builder : Builder) (action : List Char) : Except Problem Builder :=
  match Text.words action with
  | [] => .error (.unsupported (String.ofList action))
  | word :: rest =>
    if word = ['r', 'a', 'n', 'g', 'e'] then do
      let path ← readOperand action rest
      return builder.enter (.range path)
    else if word = ['i', 'f'] then do
      let path ← readOperand action rest
      return builder.enter (.cond path)
    else if word = ['e', 'l', 's', 'e'] then builder.turn
    else if word = ['e', 'n', 'd'] then builder.leave
    else if word.head? = some '.' && rest.isEmpty then do
      let path ← readPath word
      return builder.push (.field path)
    else .error (.unsupported (String.ofList action))

/-- Takes in one piece. -/
def take (builder : Builder) : Piece → Except Problem Builder
  | .text content => .ok (builder.push (.text (String.ofList content)))
  | .action body => builder.act body
  | .unclosed => .error .unclosedAction

/-- The finished tree. -/
def finish (builder : Builder) : Except Problem (List Node) :=
  if builder.openParts.isEmpty then .ok builder.root else .error .missingEnd

end Builder

/-- The tree of a template's text. -/
def readNodes (text : List Char) : Except Problem (List Node) := do
  let builder ← (pieces false text).foldlM Builder.take ⟨[], []⟩
  builder.finish

/-- Reads a template. -/
def read (name text : String) : Except Error Template :=
  match readNodes text.toList with
  | .ok nodes => .ok ⟨name, nodes⟩
  | .error problem => .error (.unreadable name problem)

end Metasearch.Template
