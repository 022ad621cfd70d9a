/-
Reading the text of a pattern. Flags between a question mark and the end of a group change how
the rest of the enclosing group is read: case, lines, the full stop, greed, line ends, and
whether blanks and comments between the parts count. A pattern that nests too deep or would be
too large written out is refused like any other that cannot be read.
-/
import Metasearch.Pattern.Basic
import Metasearch.Text.Blank
import Metasearch.Text.Letter
import Metasearch.Text.Quoted
import Metasearch.Text.Search
import Metasearch.Number.Integer

namespace Metasearch.Pattern

/-- The flags in force at a place. -/
structure Flags where
  folds : Bool
  lines : Bool
  dotAll : Bool
  lazyFirst : Bool
  anyLine : Bool
  spaced : Bool

/-- No flag is set. -/
def Flags.none : Flags := ⟨false, false, false, false, false, false⟩

/-- A tree and how deep it nests. -/
structure Tall where
  node : Node
  height : Nat

/-- What reading keeps: the flags, how many groups were opened, and the names they have. -/
structure Reading where
  flags : Flags
  groups : Nat
  names : List (List Char)

/-- How deep a pattern may nest. -/
def maxHeight : Nat := 50

/-- How many steps a pattern may have. -/
def maxSteps : Nat := 327680

/-! ### Blanks and comments -/

/-- The text behind blanks and comments; within a comment everything is passed over up to the
end of the line. -/
def skipSpaced : Bool → List Char → List Char
  | _, [] => []
  | true, c :: rest => skipSpaced (c != '\n') rest
  | false, c :: rest =>
    if Text.isBlank c then skipSpaced false rest
    else if c == '#' then skipSpaced true rest
    else c :: rest

/-- The text from the next character on that counts. -/
def Flags.skip (flags : Flags) (text : List Char) : List Char :=
  if flags.spaced then skipSpaced false text else text

/-! ### Escapes -/

/-- What an escape stands for. -/
inductive Escaped
  | char (c : Char)
  | ranges (ranges : CharRanges)
  | look (check : Check)

/-- Characters that a backslash makes stand for themselves: those of ASCII but for letters,
digits and angle brackets. -/
def isEscapable (c : Char) : Bool :=
  c.toNat < 0x80 && !c.isAlphanum && c != '<' && c != '>'

/-- The character of hexadecimal digits. -/
def charOfHex? (digits : List Char) : Option Char :=
  let value := digits.foldl (fun sum c =>
    min (sum * 16 + (Text.hexDigitValue? c).getD 0) 0x110000) 0
  if digits.isEmpty || 0x10FFFF < value || (0xD800 ≤ value && value ≤ 0xDFFF) then none
  else some (Char.ofNat value)

/-- A number of hexadecimal digits; blanks between them may be passed over. -/
def takeHex (flags : Flags) : Nat → List Char → Option (List Char × List Char)
  | 0, text => some ([], text)
  | count + 1, c :: rest => do
    let _ ← Text.hexDigitValue? c
    let (digits, after) ← takeHex flags count (flags.skip rest)
    return (c :: digits, after)
  | _ + 1, [] => none

/-- Hexadecimal digits up to a closing brace. -/
def takeBracedHex (flags : Flags) (fuel : Nat) (text : List Char) :
    Option (List Char × List Char) :=
  match fuel, text with
  | fuel + 1, c :: rest =>
    if c == '\x7d' then some ([], flags.skip rest)
    else do
      let _ ← Text.hexDigitValue? c
      let (digits, after) ← takeBracedHex flags fuel (flags.skip rest)
      return (c :: digits, after)
  | _, _ => none

/-- Reads a character given by its code point. -/
def readHex? (flags : Flags) (count : Nat) (text : List Char) : Option (Char × List Char) := do
  let (digits, rest) ← match flags.skip text with
    | '\x7b' :: rest => takeBracedHex flags (rest.length + 1) (flags.skip rest)
    | text => takeHex flags count text
  return (← charOfHex? digits, rest)

/-- Reads the name of a word boundary in braces. Braces that do not start like a name are left
for a count. -/
def readBoundary? (flags : Flags) (text : List Char) : Option (Check × List Char) :=
  let inName (c : Char) : Bool := c.isAlpha || c == '-'
  match text with
  | '\x7b' :: rest =>
    match flags.skip rest with
    | [] => none
    | first :: more =>
      if inName first then
        let inner := if flags.spaced then Text.splitAt (· == '\x7d') (first :: more)
          else [(first :: more).takeWhile inName]
        let name := (inner.headD []).filter (!Text.isBlank ·)
        let after := (first :: more).drop (inner.headD []).length
        match after, String.ofList name with
        | '\x7d' :: after, "start" => some (.wordStart, after)
        | '\x7d' :: after, "end" => some (.wordFinish, after)
        | '\x7d' :: after, "start-half" => some (.wordStartHalf, after)
        | '\x7d' :: after, "end-half" => some (.wordFinishHalf, after)
        | _, _ => none
      else some (.wordEdge, text)
  | _ => some (.wordEdge, text)

/-- The ranges of a named set, or all others. -/
def named (name : String) (inverted : Bool) : Escaped :=
  .ranges ⟨(namedRanges? name).getD [], inverted⟩

/-- Reads what follows a backslash. -/
def readEscape? (flags : Flags) (text : List Char) : Option (Escaped × List Char) :=
  match text with
  | [] => none
  | c :: rest =>
    match c with
    | 'x' => (readHex? flags 2 rest).map fun (c, rest) => (.char c, rest)
    | 'u' => (readHex? flags 4 rest).map fun (c, rest) => (.char c, rest)
    | 'U' => (readHex? flags 8 rest).map fun (c, rest) => (.char c, rest)
    | 'd' => some (named "digit" false, rest)
    | 'D' => some (named "digit" true, rest)
    | 's' => some (named "space" false, rest)
    | 'S' => some (named "space" true, rest)
    | 'w' => some (named "word" false, rest)
    | 'W' => some (named "word" true, rest)
    | 'a' => some (.char '\x07', rest)
    | 'f' => some (.char '\x0c', rest)
    | 't' => some (.char '\t', rest)
    | 'n' => some (.char '\n', rest)
    | 'r' => some (.char '\r', rest)
    | 'v' => some (.char '\x0b', rest)
    | 'A' => some (.look .start, rest)
    | 'z' => some (.look .finish, rest)
    | 'b' => (readBoundary? flags rest).map fun (check, rest) => (.look check, rest)
    | 'B' => some (.look .noWordEdge, rest)
    | '<' => some (.look .wordStart, rest)
    | '>' => some (.look .wordFinish, rest)
    | c => if isEscapable c then some (.char c, rest) else none

/-! ### Sets -/

/-- A part of a set between brackets: its characters, and the character itself where it can be
the end of a range. -/
structure Member where
  part : CharRanges
  single : Option Char

/-- The member of one character. -/
def Member.ofChar (c : Char) : Member :=
  ⟨⟨[(c.toNat, c.toNat)], false⟩, some c⟩

/-- Reads one member. -/
def readMember? (flags : Flags) (text : List Char) : Option (Member × List Char) :=
  match text with
  | [] => none
  | '\\' :: rest =>
    match readEscape? flags rest with
    | some (.char c, rest) =>
      if flags.folds && c.isAlpha then
        some (⟨⟨[(c.toNat, c.toNat), ((otherCase c).toNat, (otherCase c).toNat)], false⟩, none⟩,
          rest)
      else some (Member.ofChar c, rest)
    | some (.ranges part, rest) => some (⟨part, none⟩, rest)
    | _ => none
  | c :: rest => some (Member.ofChar c, rest)

/-- Reads a member or a range of characters. A hyphen before the closing bracket, or before
another hyphen, is no range. -/
def readMembers? (flags : Flags) (text : List Char) : Option (CharRanges × List Char) := do
  let (first, rest) ← readMember? flags text
  match flags.skip rest with
  | [] => none
  | '-' :: after =>
    match flags.skip after with
    | ']' :: _ | '-' :: _ => some (first.part, '-' :: after)
    | after => do
      let (last, rest) ← readMember? flags after
      let low ← first.single
      let high ← last.single
      if high < low then none else some (⟨[(low.toNat, high.toNat)], false⟩, rest)
  | rest => some (first.part, rest)

/-- Reads a set by its name between colons. -/
def readNamedSet? (text : List Char) : Option (CharRanges × List Char) := do
  let rest ← Text.dropBeginning? ['[', ':'] text
  let (inverted, rest) := match rest with
    | '^' :: rest => (true, rest)
    | rest => (false, rest)
  let name := rest.takeWhile (· != ':')
  let after ← Text.dropBeginning? [':', ']'] (rest.drop name.length)
  let ranges ← namedRanges? (String.ofList name)
  return (⟨ranges, inverted⟩, after)

/-- Reads the members of a set up to its closing bracket. -/
def readParts? (flags : Flags) (fuel : Nat) (text : List Char) :
    Option (List CharRanges × List Char) :=
  match fuel with
  | 0 => none
  | fuel + 1 =>
    match flags.skip text with
    | [] => none
    | ']' :: rest => some ([], rest)
    | '&' :: '&' :: _ => none
    | '-' :: '-' :: _ => none
    | '~' :: '~' :: _ => none
    | text => do
      let (part, rest) ← if text.head? == some '[' then readNamedSet? text
        else readMembers? flags text
      let (parts, rest) ← readParts? flags fuel rest
      return (part :: parts, rest)

/-- The hyphens a text starts with, blanks between them passed over. -/
def takeHyphens (flags : Flags) (fuel : Nat) (text : List Char) : Nat × List Char :=
  match fuel, text with
  | fuel + 1, '-' :: rest =>
    let (count, rest) := takeHyphens flags fuel (flags.skip rest)
    (count + 1, rest)
  | _, text => (0, text)

/-- Reads a set behind its opening bracket. A closing bracket that comes first is a member. -/
def readSet? (flags : Flags) (text : List Char) : Option (CharSet × List Char) := do
  let (inverted, text) := match flags.skip text with
    | '^' :: rest => (true, flags.skip rest)
    | text => (false, text)
  let (hyphens, text) := takeHyphens flags text.length text
  let (first, text) ← match hyphens, text with
    | _, [] => none
    | 0, ']' :: rest => some ([(Member.ofChar ']').part], flags.skip rest)
    | 0, text => some ([], text)
    | _, text => some ([(Member.ofChar '-').part], text)
  let (parts, rest) ← readParts? flags (text.length + 1) text
  return (⟨first ++ parts, flags.folds, inverted⟩, rest)

/-! ### Repetitions -/

/-- Reads a number of 32 bits, with blanks around it. -/
def readCount? (flags : Flags) (text : List Char) : Option (Nat × List Char) := do
  let text := text.dropWhile Text.isBlank
  let rec digits (fuel : Nat) (text : List Char) : List Char × List Char :=
    match fuel, text with
    | fuel + 1, c :: rest =>
      if c.isDigit then
        let (more, after) := digits fuel (flags.skip rest)
        (c :: more, after)
      else ([], text)
    | _, text => ([], text)
  let (found, rest) := digits text.length text
  let count ← (if found.isEmpty then none
    else (Number.readUnsigned Number.maxUnsigned32 found).toOption)
  return (count, flags.skip (rest.dropWhile Text.isBlank))

/-- Reads the bounds of a repetition behind the opening brace. -/
def readBounds? (flags : Flags) (text : List Char) :
    Option (Nat × Option Nat × List Char) := do
  let (least, rest) ← readCount? flags (flags.skip text)
  let (most, rest) ← match rest with
    | ',' :: rest =>
      match flags.skip rest with
      | '\x7d' :: rest => pure (none, '\x7d' :: rest)
      | text => do
        let (most, rest) ← readCount? flags text
        pure (some most, rest)
    | rest => pure (some least, rest)
  match rest with
  | '\x7d' :: rest =>
    if most.any (· < least) then none else some (least, most, flags.skip rest)
  | _ => none

/-- A repetition of a tree; a question mark behind it turns its greed round, and so does the
flag. -/
def repeat_ (flags : Flags) (least : Nat) (most : Option Nat) (inner : Tall)
    (text : List Char) : Tall × List Char :=
  let (greedy, rest) := match text with
    | '?' :: rest => (false, rest)
    | rest => (true, rest)
  (⟨.repeated least most (greedy != flags.lazyFirst) inner.node, inner.height + 1⟩, rest)

/-! ### Groups -/

/-- Reads the flags of a group up to its colon or its end. -/
def readFlags? : Bool → Bool → Flags → List Char → Option (Flags × List Char)
  | _, _, _, [] => none
  | clears, dangles, flags, c :: rest =>
    if c == ':' || c == ')' then if dangles then none else some (flags, c :: rest)
    else
      match c with
      | '-' => if clears then none else readFlags? true true flags rest
      | 'i' => readFlags? clears false { flags with folds := !clears } rest
      | 'm' => readFlags? clears false { flags with lines := !clears } rest
      | 's' => readFlags? clears false { flags with dotAll := !clears } rest
      | 'U' => readFlags? clears false { flags with lazyFirst := !clears } rest
      | 'R' => readFlags? clears false { flags with anyLine := !clears } rest
      | 'x' => readFlags? clears false { flags with spaced := !clears } rest
      | 'u' => readFlags? clears false flags rest
      | _ => none

/-- A character that a name may have, and as its first. -/
def inGroupName (first : Bool) (c : Char) : Bool :=
  c == '_' || if first then Text.isAlphabetic c
    else ['.', '[', ']'].contains c || Text.isAlphanumeric c

/-- Reads the name of a group up to the closing bracket. -/
def readGroupName? (text : List Char) : Option (List Char × List Char) :=
  let name := text.takeWhile (· != '>')
  match name, text.drop name.length with
  | first :: others, '>' :: rest =>
    if inGroupName true first && others.all (inGroupName false) then some (name, rest) else none
  | _, _ => none

/-- How a group starts. -/
inductive Opening
  | numbered
  | plain
  | flagsOnly

/-- Reads the start of a group, behind its parenthesis. -/
def readOpening? (reading : Reading) (text : List Char) :
    Option (Opening × Reading × List Char) :=
  let opened : Reading := { reading with groups := reading.groups + 1 }
  let withName (rest : List Char) : Option (Opening × Reading × List Char) := do
    let (name, rest) ← readGroupName? rest
    if reading.names.contains name then none
    else some (.numbered, { opened with names := name :: reading.names }, rest)
  match reading.flags.skip text with
  | '?' :: '=' :: _ | '?' :: '!' :: _ => none
  | '?' :: '<' :: '=' :: _ | '?' :: '<' :: '!' :: _ => none
  | '?' :: 'P' :: '<' :: rest => withName rest
  | '?' :: '<' :: rest => withName rest
  | '?' :: ')' :: _ => none
  | '?' :: rest => do
    match ← readFlags? false false reading.flags rest with
    | (flags, ':' :: rest) => some (.plain, { reading with flags }, rest)
    | (flags, rest) => some (.flagsOnly, { reading with flags }, rest)
  | text => some (.numbered, opened, text)

/-! ### Whole patterns -/

/-- The things read so far in one branch, last first, one behind another. -/
def sequence (items : List Tall) : Tall :=
  match items with
  | [] => ⟨.nothing, 0⟩
  | [item] => item
  | last :: others =>
    ⟨others.foldl (fun node item => .both item.node node) last.node,
      (items.map (·.height)).foldl max 0 + 1⟩

/-- The branches read so far, last first, the first to be tried first. -/
def choice (branches : List Tall) : Tall :=
  match branches with
  | [] => ⟨.nothing, 0⟩
  | [branch] => branch
  | last :: others =>
    ⟨others.foldl (fun node branch => .either branch.node node) last.node,
      (branches.map (·.height)).foldl max 0 + 1⟩

/-- The tree of an escape or a character. -/
def leaf (flags : Flags) : Escaped → Tall
  | .char c => ⟨.one (CharSet.single flags.folds c), 0⟩
  | .ranges part => ⟨.one ⟨[part], false, false⟩, 0⟩
  | .look check => ⟨.look check, 0⟩

/-- The full stop: any character, but for line ends unless the flag says so. -/
def anyChar (flags : Flags) : CharSet :=
  let ends := if flags.dotAll then [] else if flags.anyLine then [(10, 10), (13, 13)]
    else [(10, 10)]
  ⟨[⟨ends, true⟩], false, false⟩

/-- The start of the text, or of a line under the flag. -/
def startCheck (flags : Flags) : Check :=
  if !flags.lines then .start else if flags.anyLine then .anyLineStart else .lineStart

/-- The end of the text, or of a line under the flag. -/
def finishCheck (flags : Flags) : Check :=
  if !flags.lines then .finish else if flags.anyLine then .anyLineFinish else .lineFinish

/-- Reads to the end of the enclosing group or of the text: the branches finished, and the
things of the branch at hand, last first. -/
def readBranches? (fuel : Nat) (depth : Nat) (reading : Reading) (text : List Char)
    (branches items : List Tall) : Option (Tall × Reading × List Char) :=
  match fuel with
  | 0 => none
  | fuel + 1 =>
    let flags := reading.flags
    let add (item : Tall) (rest : List Char) :=
      readBranches? fuel depth reading rest branches (item :: items)
    match flags.skip text with
    | [] => some (choice (sequence items :: branches), reading, [])
    | c :: rest =>
      match c with
      | ')' =>
        if depth == 0 then none
        else some (choice (sequence items :: branches), reading, c :: rest)
      | '|' => readBranches? fuel depth reading rest (sequence items :: branches) []
      | '(' => do
        match ← readOpening? reading rest with
        | (.flagsOnly, inner, ')' :: rest) => readBranches? fuel depth inner rest branches items
        | (.flagsOnly, _, _) => none
        | (opening, inner, rest) =>
          if depth == maxHeight then none
          else
            let (sub, after, rest) ← readBranches? fuel (depth + 1) inner rest [] []
            match rest with
            | ')' :: rest =>
              let item : Tall := match opening with
                | .numbered => ⟨.group inner.groups sub.node, sub.height + 1⟩
                | _ => sub
              readBranches? fuel depth { after with flags } rest branches (item :: items)
            | _ => none
      | '[' => do
        let (set, rest) ← readSet? flags rest
        add ⟨.one set, 0⟩ rest
      | '?' | '*' | '+' =>
        match items with
        | [] => none
        | last :: others =>
          let least := if c == '+' then 1 else 0
          let most := if c == '?' then some 1 else none
          let (item, rest) := repeat_ flags least most last rest
          readBranches? fuel depth reading rest branches (item :: others)
      | '\x7b' =>
        match items with
        | [] => none
        | last :: others => do
          let (least, most, rest) ← readBounds? flags rest
          let (item, rest) := repeat_ flags least most last rest
          readBranches? fuel depth reading rest branches (item :: others)
      | '\\' => do
        let (escaped, rest) ← readEscape? flags rest
        add (leaf flags escaped) rest
      | '.' => add ⟨.one (anyChar flags), 0⟩ rest
      | '^' => add ⟨.look (startCheck flags), 0⟩ rest
      | '$' => add ⟨.look (finishCheck flags), 0⟩ rest
      | c => add (leaf flags (.char c)) rest

/-- The tree that a text stands for. -/
def readNode? (text : String) : Option Node := do
  let chars := text.toList
  let (tall, _, _) ← readBranches? (chars.length + 1) 0 ⟨Flags.none, 0, []⟩ chars [] []
  if maxHeight < tall.height || maxSteps < tall.node.steps then none else some tall.node

end Metasearch.Pattern
