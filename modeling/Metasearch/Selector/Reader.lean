/-
Reading selectors. A selector is refused as a whole when any part of it is wrong, except inside
`:is` and `:where`, where a wrong alternative fits no element and the others still count. Names
with a namespace prefix are refused, because no prefix is ever declared.
-/
import Metasearch.Selector.Basic
import Metasearch.Selector.Token

namespace Metasearch.Selector

/-! ### Small parts -/

/-- The part is a blank. -/
def isBlankPart : Part → Bool
  | .plain .blank => true
  | _ => false

/-- The parts behind the blanks they begin with. -/
def skipBlanks (parts : List Part) : List Part :=
  parts.dropWhile isBlankPart

/-- The segments between the commas that stand in no brackets. -/
def splitAtCommas : List Part → List (List Part)
  | [] => [[]]
  | .plain .comma :: rest => [] :: splitAtCommas rest
  | part :: rest =>
    match splitAtCommas rest with
    | head :: tail => (part :: head) :: tail
    | [] => [[part]]

mutual

/-- No token is one that is always wrong. -/
def isClean : Part → Bool
  | .plain (.closing _) => false
  | .plain .badText => false
  | .plain _ => true
  | .block _ content => areClean content
  | .function _ content => areClean content

/-- `isClean` on parts one behind another. -/
def areClean : List Part → Bool
  | [] => true
  | part :: rest => isClean part && areClean rest

end

/-- The combinator that stands here: a sign, or a blank that no sign follows. -/
def readCombinator (blank : Bool) : List Part → Option (Combinator × List Part)
  | [] => none
  | .plain .blank :: rest => readCombinator true rest
  | .plain (.mark '>') :: rest => some (.child, rest)
  | .plain (.mark '+') :: rest => some (.nextSibling, rest)
  | .plain (.mark '~') :: rest => some (.laterSibling, rest)
  | parts => if blank then some (.descendant, parts) else none

/-- The element name that a compound begins with, if it begins with one. -/
def readType : List Part → Option (List Condition × List Part)
  | .plain (.ident _) :: .plain (.mark '|') :: _ => none
  | .plain (.ident name) :: rest => some ([.name name], rest)
  | .plain (.mark '*') :: .plain (.mark '|') :: .plain (.ident name) :: rest =>
    some ([.name name], rest)
  | .plain (.mark '*') :: .plain (.mark '|') :: .plain (.mark '*') :: rest =>
    some ([.anything], rest)
  | .plain (.mark '*') :: .plain (.mark '|') :: _ => none
  | .plain (.mark '*') :: rest => some ([.anything], rest)
  | .plain (.mark '|') :: .plain (.ident _) :: rest => some ([.nothing], rest)
  | .plain (.mark '|') :: .plain (.mark '*') :: rest => some ([.nothing], rest)
  | .plain (.mark '|') :: _ => none
  | parts => some ([], parts)

/-! ### Attributes -/

/-- The attributes of HTML whose values are compared without regard to case. -/
def caselessAttributes : List String :=
  ["accept", "accept-charset", "align", "alink", "axis", "bgcolor", "charset", "checked", "clear",
   "codetype", "color", "compact", "declare", "defer", "dir", "direction", "disabled", "enctype",
   "face", "frame", "hreflang", "http-equiv", "lang", "language", "link", "media", "method",
   "multiple", "nohref", "noresize", "noshade", "nowrap", "readonly", "rel", "rev", "rules",
   "scope", "scrolling", "selected", "shape", "target", "text", "type", "valign", "valuetype",
   "vlink"]

/-- The name of an attribute, and whether its namespace may be any. -/
def readAttributeName : List Part → Option (Bool × String × List Part)
  | .plain (.ident _) :: .plain (.mark '|') :: _ => none
  | .plain (.ident name) :: rest => some (false, name, rest)
  | .plain (.mark '*') :: .plain (.mark '|') :: .plain (.ident name) :: rest =>
    some (true, name, rest)
  | .plain (.mark '|') :: .plain (.ident name) :: rest => some (false, name, rest)
  | _ => none

/-- The comparison that a sign stands for. -/
def readComparison : Token → Option Comparison
  | .mark '=' => some .equal
  | .compare '~' => some .includesWord
  | .compare '|' => some .startsWithPart
  | .compare '^' => some .startsWith
  | .compare '$' => some .endsWith
  | .compare '*' => some .contains
  | _ => none

/-- What decides about case behind the value: a letter, or else the attribute's name. -/
def readCaseRule (anySpace : Bool) (name : String) (parts : List Part) : Option CaseRule :=
  match skipBlanks parts with
  | [] =>
    let lower := name.map Char.toLower
    some (if !anySpace && caselessAttributes.contains lower then .ignoredInHtml else .exact)
  | .plain (.ident flag) :: rest =>
    if !rest.all isBlankPart then none
    else if flag.map Char.toLower == "i" then some .ignored
    else if flag.map Char.toLower == "s" then some .exact
    else none
  | _ => none

/-- A condition between square brackets. -/
def readAttribute (content : List Part) : Option Condition := do
  let (anySpace, name, rest) ← readAttributeName (skipBlanks content)
  match skipBlanks rest with
  | [] => return .attribute anySpace name none
  | .plain sign :: rest =>
    let comparison ← readComparison sign
    let (value, rest) ← match skipBlanks rest with
      | .plain (.ident value) :: rest => some (value, rest)
      | .plain (.text value) :: rest => some (value, rest)
      | _ => none
    let caseRule ← readCaseRule anySpace name rest
    return .attribute anySpace name (some ⟨comparison, caseRule, value⟩)
  | _ => none

/-! ### Places among siblings -/

/-- The number at the end of a unit such as `n-3`. -/
def readDashDigits (unit : List Char) : Option Int :=
  match unit with
  | n :: '-' :: digits =>
    if n.toLower == 'n' && !digits.isEmpty && digits.all Char.isDigit then
      some (clamp (-(digits.foldl (fun value c => value * 10 + (c.toNat - 48)) 0 : Nat)))
    else none
  | _ => none

/-- An unsigned number that ends the content. -/
def readUnsignedStart (sign : Int) (parts : List Part) : Option Int :=
  match skipBlanks parts with
  | .plain (.number false (some start)) :: rest =>
    if rest.all isBlankPart then some (sign * start) else none
  | _ => none

/-- What may follow a step: nothing, a signed number, or a sign and a number. -/
def readStart (parts : List Part) : Option Int :=
  match skipBlanks parts with
  | [] => some 0
  | .plain (.mark '+') :: rest => readUnsignedStart 1 rest
  | .plain (.mark '-') :: rest => readUnsignedStart (-1) rest
  | .plain (.number true (some start)) :: rest => if rest.all isBlankPart then some start else none
  | _ => none

/-- A step given by a unit that begins with the letter n. -/
def readStep (step : Int) (unit : String) (rest : List Part) : Option (Int × Int) :=
  let lower := unit.map Char.toLower
  if lower == "n" then (readStart rest).map fun start => (step, start)
  else if lower == "n-" then (readUnsignedStart (-1) rest).map fun start => (step, start)
  else
    match readDashDigits unit.toList with
    | some start => if rest.all isBlankPart then some (step, start) else none
    | none => none

/-- The step and the start of a condition on the place among siblings. -/
def readPlace (content : List Part) : Option (Int × Int) :=
  match skipBlanks content with
  | .plain (.number _ (some start)) :: rest =>
    if rest.all isBlankPart then some (0, start) else none
  | .plain (.dimension (some step) unit) :: rest => readStep step unit rest
  | .plain (.ident name) :: rest =>
    let lower := name.map Char.toLower
    if lower == "even" then if rest.all isBlankPart then some (2, 0) else none
    else if lower == "odd" then if rest.all isBlankPart then some (2, 1) else none
    else
      match name.toList with
      | '-' :: unit => readStep (-1) (String.ofList unit) rest
      | _ => readStep 1 name rest
  | .plain (.mark '+') :: .plain (.ident name) :: rest => readStep 1 name rest
  | _ => none

/-! ### Selectors -/

/-- A condition that is a word behind a colon. -/
def readWord (word : String) : Option (List Condition) :=
  let lower := word.map Char.toLower
  if lower == "first-child" then some [.nth false false 0 1]
  else if lower == "last-child" then some [.nth true false 0 1]
  else if lower == "only-child" then some [.nth false false 0 1, .nth true false 0 1]
  else if lower == "first-of-type" then some [.nth false true 0 1]
  else if lower == "last-of-type" then some [.nth true true 0 1]
  else if lower == "only-of-type" then some [.nth false true 0 1, .nth true true 0 1]
  else if lower == "root" then some [.root]
  else if lower == "empty" then some [.empty]
  else if lower == "scope" then some [.scope]
  else none

mutual

/-- Alternatives between commas. A forgiving list takes a wrong one for one that nothing fits; the
chains of a relative list begin with the element that is being asked about. -/
def readList (fuel : Nat) (forgiving relative inHas : Bool) (parts : List Part) :
    Option (List Chain) :=
  match fuel with
  | 0 => none
  | fuel + 1 =>
    (splitAtCommas parts).mapM fun segment =>
      let start := skipBlanks segment
      let chain? :=
        if relative then
          let (combinator, rest) := (readCombinator false start).getD (.descendant, start)
          readChain fuel inHas (some (.single [.anchor], combinator)) rest
        else readChain fuel inHas none start
      match chain? with
      | some chain => some chain
      | none => if forgiving && areClean segment then some (.single [.nothing]) else none

/-- A chain, given what stands to its left. -/
def readChain (fuel : Nat) (inHas : Bool) (left : Option (Chain × Combinator))
    (parts : List Part) : Option Chain :=
  match fuel with
  | 0 => none
  | fuel + 1 => do
    let (type, rest) ← readType (skipBlanks parts)
    let (conditions, rest) ← readConditions fuel inHas rest
    let conditions := type ++ conditions
    if conditions.isEmpty then none
    else
      let chain := match left with
        | none => .single conditions
        | some (left, combinator) => .linked conditions combinator left
      match readCombinator false rest with
      | some (combinator, rest) => readChain fuel inHas (some (chain, combinator)) rest
      | none => if rest.all isBlankPart then some chain else none

/-- The conditions on one element behind its name, and what follows them. -/
def readConditions (fuel : Nat) (inHas : Bool) (parts : List Part) :
    Option (List Condition × List Part) :=
  match fuel with
  | 0 => none
  | fuel + 1 =>
    let goOn (found : List Condition) (rest : List Part) : Option (List Condition × List Part) := do
      let (conditions, rest) ← readConditions fuel inHas rest
      return (found ++ conditions, rest)
    match parts with
    | .plain (.hash true id) :: rest => goOn [.id id] rest
    | .plain (.mark '.') :: .plain (.ident name) :: rest => goOn [.hasClass name] rest
    | .plain (.mark '.') :: _ => none
    | .block .square content :: rest => do
      let condition ← readAttribute content
      goOn [condition] rest
    | .plain .colon :: .plain (.ident word) :: rest => do
      let conditions ← readWord word
      goOn conditions rest
    | .plain .colon :: .function name content :: rest => do
      let condition ← readFunction fuel inHas (name.map Char.toLower) content
      goOn [condition] rest
    | .plain .colon :: _ => none
    | parts => some ([], parts)

/-- A condition with content between round brackets. -/
def readFunction (fuel : Nat) (inHas : Bool) (name : String) (content : List Part) :
    Option Condition :=
  match fuel with
  | 0 => none
  | fuel + 1 =>
    let nth (fromEnd sameType : Bool) : Option Condition :=
      (readPlace content).map fun (step, start) => .nth fromEnd sameType step start
    if name == "nth-child" then nth false false
    else if name == "nth-of-type" then nth false true
    else if name == "nth-last-child" then nth true false
    else if name == "nth-last-of-type" then nth true true
    else if name == "is" || name == "where" then
      (readList fuel true false inHas content).map .anyOf
    else if name == "not" then (readList fuel false false inHas content).map .noneOf
    else if name == "has" && !inHas then (readList fuel false true true content).map .has
    else none

end

/-- The number of parts, those inside brackets included. -/
def sizeBound (text : String) : Nat :=
  8 * text.length + 16

end Metasearch.Selector

namespace Metasearch.Selector

/-- Reads a selector. -/
def read? (text : String) : Option Selector :=
  (readList (sizeBound text) false false false (partsOf text)).map Selector.mk

end Metasearch.Selector
