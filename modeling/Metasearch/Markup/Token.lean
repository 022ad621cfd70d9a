/-
Tokens of an HTML text: tags, runs of text, comments, and the type of the document. How a text
is cut depends on where it stands: inside some elements there is only text up to the end tag,
with or without character references. A run of text is either all blanks or has none, because
blanks are treated apart in many places. A tag that the text ends in is dropped.
-/
import Metasearch.Markup.Reference
import Metasearch.Text.Search

namespace Metasearch.Markup

/-! ### Tokens -/

/-- A tag with the attributes written in it, the first of each name. -/
structure Tag where
  name : String
  attributes : List (String × String)
  selfClosing : Bool
  deriving DecidableEq, Repr, Inhabited

/-- The declared type of a document. -/
structure Doctype where
  name : Option String
  publicId : Option String
  systemId : Option String
  /-- It is written in a way that no standard document is. -/
  isBroken : Bool
  deriving DecidableEq, Repr, Inhabited

/-- A piece of a page. -/
inductive Token
  | startTag (tag : Tag)
  | endTag (tag : Tag)
  | text (isBlank : Bool) (content : List Char)
  /-- The character NUL, where it is not replaced. -/
  | nul
  | comment (content : List Char)
  | doctype (type : Doctype)
  | endOfText
  deriving DecidableEq, Repr, Inhabited

/-- What the text is, at the place where the next token begins. -/
inductive Region
  | markup
  /-- Text with references, up to the end tag of an element. -/
  | escapable (name : String)
  /-- Plain text up to the end tag of an element. -/
  | raw (name : String)
  | script
  /-- Plain text to the end. -/
  | plain
  deriving DecidableEq, Repr, Inhabited

/-! ### Characters -/

/-- The blanks of markup. -/
def isSpace (c : Char) : Bool :=
  c == ' ' || c == '\t' || c == '\n' || c == '\x0c' || c == '\r'

/-- A character that is never NUL. -/
def withoutNul (c : Char) : Char :=
  if c == '\x00' then '\uFFFD' else c

/-- Lines end in a single line feed, and a byte order mark in front does not count. -/
def normalize (text : List Char) : List Char :=
  let rec lines : List Char → List Char
    | '\r' :: '\n' :: rest => '\n' :: lines rest
    | '\r' :: rest => '\n' :: lines rest
    | c :: rest => c :: lines rest
    | [] => []
  match text with
  | '\uFEFF' :: rest => lines rest
  | text => lines text

/-- A text in lower case. -/
def lowerText (text : List Char) : String :=
  String.ofList (text.map fun c => withoutNul c.toLower)

/-! ### Tags -/

/-- A character that ends a name in a tag. -/
def endsName (c : Char) : Bool :=
  isSpace c || c == '/' || c == '>'

/-- The value behind an equals sign, and what follows it; nothing when the text ends first. -/
def readValue? (text : List Char) : Option (String × List Char) :=
  let quotedBy (quote : Char) (text : List Char) : Option (String × List Char) :=
    match text.dropWhile (· != quote) with
    | [] => none
    | _ :: rest =>
      some (String.ofList (resolveFrom true 0 (text.takeWhile (· != quote))), rest)
  match text.dropWhile isSpace with
  | [] => none
  | '"' :: rest => quotedBy '"' rest
  | '\'' :: rest => quotedBy '\'' rest
  | '>' :: rest => some ("", '>' :: rest)
  | text =>
    let ends (c : Char) : Bool := isSpace c || c == '>'
    let value := text.takeWhile fun c => !ends c
    some (String.ofList (resolveFrom true 0 value), text.drop value.length)

/-- The attributes with one more, unless its name is there already. -/
def addAttribute (attributes : List (String × String)) (name value : String) :
    List (String × String) :=
  if attributes.any fun written => written.1 == name then attributes
  else attributes ++ [(name, value)]

/-- The rest of a tag behind its name: the attributes, whether the tag closes itself, and what
follows the tag. -/
def readAttributes? (fuel : Nat) (attributes : List (String × String)) (text : List Char) :
    Option (List (String × String) × Bool × List Char) :=
  match fuel with
  | 0 => none
  | fuel + 1 =>
    match text.dropWhile isSpace with
    | [] => none
    | '>' :: rest => some (attributes, false, rest)
    | '/' :: '>' :: rest => some (attributes, true, rest)
    | '/' :: rest => readAttributes? fuel attributes rest
    | c :: rest =>
      let tail := rest.takeWhile fun c => !(endsName c || c == '=')
      let name := lowerText (c :: tail)
      let rest := rest.drop tail.length
      match rest.dropWhile isSpace with
      | '=' :: behind =>
        match readValue? behind with
        | some (value, rest) => readAttributes? fuel (addAttribute attributes name value) rest
        | none => none
      | rest => readAttributes? fuel (addAttribute attributes name "") rest

/-- A tag from its name on, and what follows it. -/
def readTag? (text : List Char) : Option (Tag × List Char) :=
  let name := text.takeWhile fun c => !endsName c
  match readAttributes? (text.length + 1) [] (text.drop name.length) with
  | some (attributes, selfClosing, rest) => some (⟨lowerText name, attributes, selfClosing⟩, rest)
  | none => none

/-! ### Comments and document types -/

/-- The content of a comment and what follows it. -/
def readComment : List Char → List Char × List Char
  | '-' :: '-' :: '>' :: rest => ([], rest)
  | '-' :: '-' :: '!' :: '>' :: rest => ([], rest)
  | c :: rest =>
    let (content, behind) := readComment rest
    (withoutNul c :: content, behind)
  | [] => ([], [])

/-- A comment that ends with the next closing bracket. -/
def readLooseComment (text : List Char) : Token × List Char :=
  (.comment ((text.takeWhile (· != '>')).map withoutNul), (text.dropWhile (· != '>')).drop 1)

/-- The rest of a text behind a word, whatever the case of its letters. -/
def dropWord? (word : String) (text : List Char) : Option (List Char) :=
  let letters := word.toList
  if (text.take letters.length).map Char.toLower == letters then some (text.drop letters.length)
  else none

/-- A quoted identifier: its text, whether its quote is closed, and what follows. -/
def readIdentifier? (text : List Char) : Option (String × Bool × List Char) :=
  let quotedBy (quote : Char) (rest : List Char) : Option (String × Bool × List Char) :=
    some (String.ofList ((rest.takeWhile (· != quote)).map withoutNul), rest.contains quote,
      (rest.dropWhile (· != quote)).drop 1)
  match text with
  | '"' :: rest => quotedBy '"' rest
  | '\'' :: rest => quotedBy '\'' rest
  | _ => none

/-- A document type from the text between its keyword and its closing bracket. -/
def readDoctype (text : List Char) : Doctype :=
  let text := text.dropWhile isSpace
  let name := text.takeWhile fun c => !isSpace c
  if name.isEmpty then ⟨none, none, none, true⟩
  else
    let name := some (lowerText name)
    let text := (text.dropWhile fun c => !isSpace c).dropWhile isSpace
    let readSystem (publicId : Option String) (needed : Bool) (text : List Char) : Doctype :=
      if text.isEmpty then ⟨name, publicId, none, needed⟩
      else match readIdentifier? text with
        | some (systemId, closed, _) => ⟨name, publicId, some systemId, !closed⟩
        | none => ⟨name, publicId, none, true⟩
    if text.isEmpty then ⟨name, none, none, false⟩
    else match dropWord? "public" text, dropWord? "system" text with
      | some rest, _ =>
        match readIdentifier? (rest.dropWhile isSpace) with
        | some (publicId, true, rest) =>
          readSystem (some publicId) false (rest.dropWhile isSpace)
        | some (publicId, false, _) => ⟨name, some publicId, none, true⟩
        | none => ⟨name, none, none, true⟩
      | none, some rest => readSystem none true (rest.dropWhile isSpace)
      | none, none => ⟨name, none, none, true⟩

/-- What stands behind an opening bracket and an exclamation mark. -/
def readDeclaration (inForeign : Bool) (text : List Char) : Token × List Char :=
  match text with
  | '-' :: '-' :: '>' :: rest => (.comment [], rest)
  | '-' :: '-' :: '-' :: '>' :: rest => (.comment [], rest)
  | '-' :: '-' :: rest =>
    let (content, rest) := readComment rest
    (.comment content, rest)
  | text =>
    match dropWord? "doctype" text with
    | some rest =>
      let closed := rest.contains '>'
      let type := readDoctype (rest.takeWhile (· != '>'))
      (.doctype { type with isBroken := type.isBroken || !closed },
        (rest.dropWhile (· != '>')).drop 1)
    | none =>
      if inForeign && "[CDATA[".toList.isPrefixOf text then
        let (content, rest) := (Text.cut "]]>".toList (text.drop 7)).getD (text.drop 7, [])
        (.text (content.all isSpace) (content.map withoutNul), rest)
      else readLooseComment text

/-! ### Text up to an end tag -/

/-- The text begins with an end tag of the element, as far as its name goes. -/
def startsEndTag (name : List Char) (text : List Char) : Bool :=
  match text with
  | '<' :: '/' :: rest =>
    (rest.take name.length).map Char.toLower == name &&
      (match rest.drop name.length with
       | c :: _ => endsName c
       | [] => false)
  | _ => false

/-- The text before the end tag of an element, and the text from there on. -/
def splitAtEndTag (name : List Char) : List Char → List Char × List Char
  | [] => ([], [])
  | c :: rest =>
    if startsEndTag name (c :: rest) then ([], c :: rest)
    else
      let (content, behind) := splitAtEndTag name rest
      (c :: content, behind)

/-- Where in a script the text is: outside a comment, in a comment, or in a script that a comment
mentions. -/
inductive ScriptState
  | plain
  | commented
  | nested
  deriving DecidableEq, Repr

/-- The letters at the beginning of a text spell `script` and end there. -/
def spellsScript (text : List Char) : Bool :=
  let letters := text.takeWhile Char.isAlpha
  letters.map Char.toLower == "script".toList &&
    (match text.drop letters.length with
     | c :: _ => endsName c
     | [] => false)

/-- The state of a script behind a character, given the text from the character on and the number
of dashes just before it. -/
def ScriptState.next (state : ScriptState) (dashes : Nat) (text : List Char) : ScriptState :=
  match state, text with
  | .commented, '>' :: _ => if dashes ≥ 2 then .plain else .commented
  | .nested, '>' :: _ => if dashes ≥ 2 then .plain else .nested
  | .commented, '<' :: rest => if spellsScript rest then .nested else .commented
  | .nested, '<' :: '/' :: rest => if spellsScript rest then .commented else .nested
  | state, _ => state

/-- The text of a script before its end tag, and the text from there on. An end tag does not count
in a script that a comment mentions; a comment opens with an exclamation mark and two dashes. -/
def splitScript (state : ScriptState) (dashes : Nat) (skip : Nat) :
    List Char → List Char × List Char
  | [] => ([], [])
  | c :: rest =>
    match skip with
    | skip + 1 =>
      let (content, behind) := splitScript state (if c == '-' then dashes + 1 else 0) skip rest
      (c :: content, behind)
    | 0 =>
      if state != .nested && startsEndTag "script".toList (c :: rest) then ([], c :: rest)
      else
        let opens := state == .plain && "<!--".toList.isPrefixOf (c :: rest)
        let (content, behind) :=
          if opens then splitScript .commented 0 3 rest
          else
            let dashes' := if c == '-' then dashes + 1 else 0
            splitScript (state.next dashes (c :: rest)) dashes' 0 rest
        (c :: content, behind)

/-! ### The next token -/

/-- A text token, or the next thing when there is no text. -/
def textThen (content rest : List Char) (next : Token × List Char) : Token × List Char :=
  if content.isEmpty then next else (.text (content.all isSpace) content, rest)

/-- The end tag that stands here. -/
def endTagHere (text : List Char) : Token × List Char :=
  match readTag? (text.drop 2) with
  | some (tag, rest) => (.endTag tag, rest)
  | none => (.endOfText, [])

/-- What stands behind an opening bracket. -/
def readBracket (inForeign : Bool) (text : List Char) : Token × List Char :=
  match text with
  | '!' :: rest => readDeclaration inForeign rest
  | '?' :: _ => readLooseComment text
  | '/' :: [] => (.text false ['<', '/'], [])
  | '/' :: '>' :: rest => (.text true [], rest)
  | '/' :: c :: rest =>
    if c.isAlpha then endTagHere ('<' :: '/' :: c :: rest) else readLooseComment (c :: rest)
  | c :: rest =>
    if c.isAlpha then
      match readTag? (c :: rest) with
      | some (tag, rest) => (.startTag tag, rest)
      | none => (.endOfText, [])
    else (.text false ['<'], text)
  | [] => (.text false ['<'], [])

/-- The next token and what follows it. -/
def nextToken (region : Region) (inForeign : Bool) (text : List Char) : Token × List Char :=
  match text with
  | [] => (.endOfText, [])
  | first :: rest =>
    match region with
    | .markup =>
      if first == '<' then readBracket inForeign rest
      else if first == '&' then
        match reference? false rest with
        | some (characters, taken) => (.text (characters.all isSpace) characters, rest.drop taken)
        | none => (.text false ['&'], rest)
      else if first == '\x00' then (.nul, rest)
      else
        let blank := isSpace first
        let tail := rest.takeWhile fun c =>
          c != '<' && c != '&' && c != '\x00' && isSpace c == blank
        (.text blank (first :: tail), rest.drop tail.length)
    | .escapable name =>
      let (content, behind) := splitAtEndTag name.toList text
      textThen (resolveFrom false 0 content) behind (endTagHere behind)
    | .raw name =>
      let (content, behind) := splitAtEndTag name.toList text
      textThen (content.map withoutNul) behind (endTagHere behind)
    | .script =>
      let (content, behind) := splitScript .plain 0 0 text
      textThen (content.map withoutNul) behind (endTagHere behind)
    | .plain => (.text false (text.map withoutNul), [])

end Metasearch.Markup
