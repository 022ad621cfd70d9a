/-
Tokens of style-sheet text, as far as selectors need them. Brackets come in pairs: what stands
between two of them is the content of one token, and a bracket that is still open at the end of
the text is closed there. A closing bracket without an opening one, and a quoted text that runs
over a line end, are tokens that no selector allows.
-/
import Metasearch.Number.Integer
import Metasearch.Text.Quoted

namespace Metasearch.Selector

/-- A kind of brackets. -/
inductive Bracket
  | round
  | square
  | curly
  deriving DecidableEq, Repr

/-- A token without content. -/
inductive Token
  | ident (name : String)
  /-- A number sign and a name; only one that could be an identifier names an element. -/
  | hash (isId : Bool) (name : String)
  | text (content : String)
  | badText
  /-- A number; its value if it is whole. -/
  | number (signed : Bool) (whole : Option Int)
  /-- A number with a unit. -/
  | dimension (whole : Option Int) (unit : String)
  | blank
  | colon
  | comma
  /-- A sign of comparison: the character before its equals sign. -/
  | compare (mark : Char)
  | mark (c : Char)
  | opening (bracket : Bracket)
  /-- A name and a round bracket. -/
  | function (name : String)
  | closing (bracket : Bracket)
  deriving DecidableEq, Repr, Inhabited

/-- A blank of ASCII. -/
def isBlank (c : Char) : Bool :=
  c == ' ' || c == '\t' || c == '\n' || c == '\x0c' || c == '\r'

/-- A character that ends a line. -/
def isNewline (c : Char) : Bool :=
  c == '\n' || c == '\x0c' || c == '\r'

/-- A character that a name can begin with, backslash and dash apart. -/
def startsNameChar (c : Char) : Bool :=
  c.isAlpha || c == '_' || c == '\x00' || c.toNat ≥ 0x80

/-- A character that a name can go on with, backslash apart. -/
def isNameChar (c : Char) : Bool :=
  startsNameChar c || c.isDigit || c == '-'

/-- An identifier begins here. -/
def startsName : List Char → Bool
  | '-' :: c :: _ => startsNameChar c || c == '-' || c == '\\'
  | '\\' :: c :: _ => !isNewline c
  | ['\\'] => true
  | c :: _ => startsNameChar c
  | [] => false

/-- The character that stands for a NUL. -/
def withoutNul (c : Char) : Char :=
  if c == '\x00' then '\uFFFD' else c

/-- The text behind a line end that stands here. -/
def dropBlank : List Char → List Char
  | '\r' :: '\n' :: rest => rest
  | c :: rest => if isBlank c then rest else c :: rest
  | [] => []

/-- What a backslash stands for, given the text behind it: up to six hexadecimal digits name a
code point, any other character is itself. -/
def readEscape (text : List Char) : Char × List Char :=
  let digits := (text.take 6).takeWhile fun c => (Text.hexDigitValue? c).isSome
  if digits.isEmpty then
    match text with
    | c :: rest => (withoutNul c, rest)
    | [] => ('\uFFFD', [])
  else
    let point := digits.foldl (fun value c => value * 16 + (Text.hexDigitValue? c).getD 0) 0
    let isChar := point != 0 && point ≤ 0x10FFFF && !(0xD800 ≤ point && point ≤ 0xDFFF)
    (if isChar then Char.ofNat point else '\uFFFD', dropBlank (text.drop digits.length))

/-- A name from here on, and what follows it. -/
def readName (fuel : Nat) (text : List Char) : List Char × List Char :=
  match fuel, text with
  | 0, text => ([], text)
  | _, [] => ([], [])
  | fuel + 1, c :: rest =>
    if isNameChar c then
      let (name, rest) := readName fuel rest
      (withoutNul c :: name, rest)
    else if c == '\\' && !(rest.head?.any isNewline) then
      let (escaped, rest) := readEscape rest
      let (name, rest) := readName fuel rest
      (escaped :: name, rest)
    else ([], c :: rest)

/-- A name from here on, as a text. -/
def nameHere (text : List Char) : String × List Char :=
  let (name, rest) := readName (text.length + 1) text
  (String.ofList name, rest)

/-- A quoted text behind its opening quote; nothing when a line ends in it. -/
def readQuoted (fuel : Nat) (quote : Char) (text : List Char) : Option (List Char) × List Char :=
  match fuel, text with
  | 0, _ => (some [], [])
  | _, [] => (some [], [])
  | fuel + 1, c :: rest =>
    if c == quote then (some [], rest)
    else if isNewline c then (none, c :: rest)
    else if c == '\\' then
      match rest with
      | [] => (some [], [])
      | next :: _ =>
        if isNewline next then readQuoted fuel quote (dropBlank rest)
        else
          let (escaped, rest) := readEscape rest
          let (content, rest) := readQuoted fuel quote rest
          (content.map (escaped :: ·), rest)
    else
      let (content, rest) := readQuoted fuel quote rest
      (content.map (withoutNul c :: ·), rest)

/-- A number begins here. -/
def startsNumber : List Char → Bool
  | '.' :: c :: _ => c.isDigit
  | c :: _ => c.isDigit
  | [] => false

/-- Brings a number into 32 bits. -/
def clamp (value : Int) : Int :=
  Number.clamp Number.maxSigned32 value

/-- A number behind its sign: it may have a unit, or be a share of a hundred, which here counts as
a number that is not whole. -/
def readNumber (signed negative : Bool) (text : List Char) : Token × List Char :=
  let digits := text.takeWhile Char.isDigit
  let rest := text.drop digits.length
  let (hasFraction, rest) := match rest with
    | '.' :: c :: more =>
      if c.isDigit then (true, (c :: more).dropWhile Char.isDigit) else (false, rest)
    | rest => (false, rest)
  let (hasExponent, rest) := match rest with
    | e :: more =>
      if e == 'e' || e == 'E' then
        match more with
        | c :: behind =>
          if c.isDigit then (true, more.dropWhile Char.isDigit)
          else if (c == '+' || c == '-') && (behind.head?.any Char.isDigit) then
            (true, behind.dropWhile Char.isDigit)
          else (false, rest)
        | [] => (false, rest)
      else (false, rest)
    | [] => (false, rest)
  let size : Int := digits.foldl (fun value c => value * 10 + (c.toNat - 48 : Nat)) 0
  let whole :=
    if hasFraction || hasExponent then none else some (clamp (if negative then -size else size))
  if rest.head? == some '%' then (.number signed none, rest.drop 1)
  else if startsName rest then
    let (unit, rest) := nameHere rest
    (.dimension whole unit, rest)
  else (.number signed whole, rest)

/-- The text behind a comment whose opening has been read. -/
def dropComment : List Char → List Char
  | '*' :: '/' :: rest => rest
  | _ :: rest => dropComment rest
  | [] => []

/-- The token that begins with an identifier. -/
def readIdent (text : List Char) : Token × List Char :=
  match nameHere text with
  | (name, '(' :: rest) => (.function name, rest)
  | (name, rest) => (.ident name, rest)

/-- The token that begins with a character that begins no name and no number. -/
def readMark (c : Char) (rest : List Char) : Token × List Char :=
  match c with
  | '(' => (.opening .round, rest)
  | '[' => (.opening .square, rest)
  | '{' => (.opening .curly, rest)
  | ')' => (.closing .round, rest)
  | ']' => (.closing .square, rest)
  | '}' => (.closing .curly, rest)
  | ':' => (.colon, rest)
  | ',' => (.comma, rest)
  | '#' =>
    if startsName rest then
      let (name, rest) := nameHere rest
      (.hash true name, rest)
    else if rest.head?.any fun next => next.isDigit || next == '-' then
      let (name, rest) := nameHere rest
      (.hash false name, rest)
    else (.mark '#', rest)
  | '"' | '\'' =>
    match readQuoted (rest.length + 1) c rest with
    | (some content, rest) => (.text (String.ofList content), rest)
    | (none, rest) => (.badText, rest)
  | c =>
    if ['~', '|', '^', '$', '*'].contains c && rest.head? == some '=' then
      (.compare c, rest.drop 1)
    else (.mark c, rest)

/-- The token that begins with a character. -/
def readToken (c : Char) (rest : List Char) : Token × List Char :=
  if isBlank c then (.blank, rest.dropWhile isBlank)
  else if startsNumber (c :: rest) then readNumber false false (c :: rest)
  else if (c == '+' || c == '-') && startsNumber rest then readNumber true (c == '-') rest
  else if c == '-' && ['-', '>'].isPrefixOf rest then (.mark '-', rest.drop 2)
  else if startsName (c :: rest) then readIdent (c :: rest)
  else readMark c rest

/-- The tokens of a text; comments are none. -/
def tokens (fuel : Nat) (text : List Char) : List Token :=
  match fuel, text with
  | 0, _ => []
  | _, [] => []
  | fuel + 1, '/' :: '*' :: rest => tokens fuel (dropComment rest)
  | fuel + 1, c :: rest =>
    let (token, rest) := readToken c rest
    token :: tokens fuel rest

/-! ### Brackets -/

/-- A token with the tokens between its brackets, if it has any. -/
inductive Part
  | plain (token : Token)
  | block (bracket : Bracket) (content : List Part)
  | function (name : String) (content : List Part)
  deriving Inhabited

/-- Puts the tokens up to a closing bracket together, and gives those behind it. -/
def group (fuel : Nat) (closer : Option Bracket) (tokens : List Token) :
    List Part × List Token :=
  match fuel, tokens with
  | 0, _ => ([], [])
  | _, [] => ([], [])
  | fuel + 1, token :: rest =>
    match token with
    | .opening bracket =>
      let (content, rest) := group fuel (some bracket) rest
      let (parts, rest) := group fuel closer rest
      (.block bracket content :: parts, rest)
    | .function name =>
      let (content, rest) := group fuel (some .round) rest
      let (parts, rest) := group fuel closer rest
      (.function name content :: parts, rest)
    | .closing bracket =>
      if closer == some bracket then ([], rest)
      else
        let (parts, rest) := group fuel closer rest
        (.plain token :: parts, rest)
    | token =>
      let (parts, rest) := group fuel closer rest
      (.plain token :: parts, rest)

/-- The parts of a text. -/
def partsOf (text : String) : List Part :=
  let found := tokens (text.length + 1) text.toList
  (group (2 * found.length + 1) none found).1

end Metasearch.Selector
