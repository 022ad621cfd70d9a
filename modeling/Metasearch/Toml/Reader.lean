/-
Reading configuration files. A file is lines: headers of tables, keys with values, comments.
Values are read into the same tree as JSON values; a date or time becomes an object with one
field, which no setting takes for anything else.
-/
import Metasearch.Number.Binary64
import Metasearch.Text.Search
import Metasearch.Toml.Table

namespace Metasearch.Toml

/-! ### Blanks, comments, line ends -/

/-- Passes over spaces and tabs. -/
def skipBlanks (text : List Char) : List Char :=
  text.dropWhile fun c => c == ' ' || c == '\t'

/-- The text behind the end of a line. -/
def dropLineEnd? : List Char → Option (List Char)
  | '\n' :: rest => some rest
  | '\r' :: '\n' :: rest => some rest
  | _ => none

/-- A character that may stand in a comment or a text on one line. -/
def isPlain (c : Char) : Bool :=
  c == '\t' || (0x20 ≤ c.toNat && c.toNat != 0x7F)

/-- Passes over a comment, if there is one. -/
def skipComment (text : List Char) : List Char :=
  match text with
  | '#' :: rest => rest.dropWhile isPlain
  | _ => text

/-- The text behind a line that has nothing more on it but a comment. -/
def endLine? (text : List Char) : Option (List Char) :=
  match skipComment (skipBlanks text) with
  | [] => some []
  | rest => dropLineEnd? rest

/-- Passes over blanks, comments and line ends. -/
def skipLines (fuel : Nat) (text : List Char) : List Char :=
  match fuel with
  | 0 => text
  | fuel + 1 =>
    let rest := skipComment (skipBlanks text)
    match dropLineEnd? rest with
    | some rest => skipLines fuel rest
    | none => rest

/-! ### Texts -/

/-- Reads so many hexadecimal digits as a character. -/
def readCodePoint? (count : Nat) (text : List Char) : Option (Char × List Char) := do
  let digits := text.take count
  let values ← digits.mapM Text.hexDigitValue?
  let value := values.foldl (fun sum digit => sum * 16 + digit) 0
  if digits.length < count || 0x10FFFF < value || (0xD800 ≤ value && value ≤ 0xDFFF) then none
  else some (Char.ofNat value, text.drop count)

/-- Reads what follows a backslash. -/
def readEscape? : List Char → Option (Char × List Char)
  | 'b' :: rest => some ('\x08', rest)
  | 't' :: rest => some ('\t', rest)
  | 'n' :: rest => some ('\n', rest)
  | 'f' :: rest => some ('\x0c', rest)
  | 'r' :: rest => some ('\r', rest)
  | '"' :: rest => some ('"', rest)
  | '\\' :: rest => some ('\\', rest)
  | 'u' :: rest => readCodePoint? 4 rest
  | 'U' :: rest => readCodePoint? 8 rest
  | _ => none

/-- Reads a text between double quotes, behind the first. -/
def readBasic? (fuel : Nat) (text : List Char) : Option (List Char × List Char) :=
  match fuel, text with
  | _, '"' :: rest => some ([], rest)
  | fuel + 1, '\\' :: rest => do
    let (c, rest) ← readEscape? rest
    let (more, rest) ← readBasic? fuel rest
    return (c :: more, rest)
  | fuel + 1, c :: rest => do
    if !isPlain c then none
    let (more, rest) ← readBasic? fuel rest
    return (c :: more, rest)
  | _, _ => none

/-- Reads a text between single quotes, behind the first; nothing in it is an escape. -/
def readLiteral? (text : List Char) : Option (List Char × List Char) :=
  let inner := text.takeWhile fun c => isPlain c && c != '\''
  match text.drop inner.length with
  | '\'' :: rest => some (inner, rest)
  | _ => none

/-- The quotes that end a text of several lines: three, and up to two before them that belong to
it. -/
def readClosing? (quote : Char) (text : List Char) : Option (List Char × List Char) :=
  let quotes := text.takeWhile (· == quote)
  if quotes.length < 3 then none
  else
    let own := min (quotes.length - 3) 2
    some (List.replicate own quote, text.drop (own + 3))

/-- The text behind a line end and all blanks and line ends after it, if nothing but blanks
stands before the line end. -/
def skipFold? (text : List Char) : Option (List Char) :=
  (dropLineEnd? (skipBlanks text)).map fun rest =>
    let rec skip (fuel : Nat) (text : List Char) : List Char :=
      match fuel with
      | 0 => text
      | fuel + 1 =>
        match dropLineEnd? (skipBlanks text) with
        | some rest => skip fuel rest
        | none => skipBlanks text
    skip (rest.length + 1) rest

/-- Reads a text of several lines, behind the three quotes. A backslash at the end of a line folds
it with the next. -/
def readLongBasic? (fuel : Nat) (text : List Char) : Option (List Char × List Char) :=
  match readClosing? '"' text with
  | some found => some found
  | none =>
    match fuel, text with
    | fuel + 1, '\\' :: rest =>
      match skipFold? rest with
      | some rest => readLongBasic? fuel rest
      | none => do
        let (c, rest) ← readEscape? rest
        let (more, rest) ← readLongBasic? fuel rest
        return (c :: more, rest)
    | fuel + 1, c :: rest =>
      match dropLineEnd? (c :: rest) with
      | some rest => (readLongBasic? fuel rest).map fun (more, rest) => ('\n' :: more, rest)
      | none =>
        if isPlain c then
          (readLongBasic? fuel rest).map fun (more, rest) => (c :: more, rest)
        else none
    | _, _ => none

/-- Reads a text of several lines without escapes, behind the three quotes. -/
def readLongLiteral? (fuel : Nat) (text : List Char) : Option (List Char × List Char) :=
  match readClosing? '\'' text with
  | some found => some found
  | none =>
    match fuel, text with
    | fuel + 1, c :: rest =>
      match dropLineEnd? (c :: rest) with
      | some rest => (readLongLiteral? fuel rest).map fun (more, rest) => ('\n' :: more, rest)
      | none =>
        if isPlain c then
          (readLongLiteral? fuel rest).map fun (more, rest) => (c :: more, rest)
        else none
    | _, _ => none

/-- The text behind one line end, if it starts with one. -/
def dropFirstLineEnd (text : List Char) : List Char :=
  (dropLineEnd? text).getD text

/-- Reads a text in one of its four forms. -/
def readText? (text : List Char) : Option (List Char × List Char) :=
  let fuel := text.length + 1
  match text with
  | '"' :: '"' :: '"' :: rest => readLongBasic? fuel (dropFirstLineEnd rest)
  | '\'' :: '\'' :: '\'' :: rest => readLongLiteral? fuel (dropFirstLineEnd rest)
  | '"' :: rest => readBasic? fuel rest
  | '\'' :: rest => readLiteral? rest
  | _ => none

/-! ### Keys -/

/-- A character of a key without quotes. -/
def isKeyChar (c : Char) : Bool :=
  c.isAlphanum || c == '_' || c == '-'

/-- Reads one part of a key. -/
def readKeyPart? (text : List Char) : Option (String × List Char) :=
  match text with
  | '"' :: rest => (readBasic? text.length rest).map fun (part, rest) => (String.ofList part, rest)
  | '\'' :: rest => (readLiteral? rest).map fun (part, rest) => (String.ofList part, rest)
  | _ =>
    let part := text.takeWhile isKeyChar
    if part.isEmpty then none else some (String.ofList part, text.drop part.length)

/-- Reads a key with its parts divided by points: the parts in front, and the last. -/
def readKey? (fuel : Nat) (text : List Char) : Option ((List String × String) × List Char) := do
  let (part, rest) ← readKeyPart? (skipBlanks text)
  match fuel, skipBlanks rest with
  | fuel + 1, '.' :: rest => do
    let ((front, last), rest) ← readKey? fuel rest
    return ((part :: front, last), rest)
  | _, rest => some (([], part), rest)

/-! ### Numbers -/

/-- The digits of a number, underscores between them left out. -/
def readDigits? (isDigit : Char → Bool) (text : List Char) : Option (List Char × List Char) :=
  let run := text.takeWhile fun c => isDigit c || c == '_'
  let parts := Text.splitOn ['_'] run
  if parts.any List.isEmpty then none else some (parts.flatten, text.drop run.length)

/-- The value of digits in a base. -/
def valueOf (base : Nat) (digits : List Char) : Nat :=
  digits.foldl (fun sum c => sum * base + (Text.hexDigitValue? c).getD 0) 0

/-- Reads a whole number in hexadecimal, octal or binary. -/
def readBased? (base : Nat) (text : List Char) : Option (Json × List Char) := do
  let isDigit (c : Char) : Bool := (Text.hexDigitValue? c).any (· < base)
  let (digits, rest) ← readDigits? isDigit text
  let value := valueOf base digits
  if Number.maxSigned < value then none else some (.int value, rest)

/-- Splits off a sign. -/
def splitSign (text : List Char) : Bool × List Char :=
  match text with
  | '-' :: rest => (true, rest)
  | '+' :: rest => (false, rest)
  | _ => (false, text)

/-- Reads the fraction of a number, behind its point. -/
def readFraction? (text : List Char) : Option (List Char × List Char) :=
  match text with
  | '.' :: rest => readDigits? Char.isDigit rest
  | _ => some ([], text)

/-- Reads the exponent of a number. -/
def readExponent? (text : List Char) : Option (Int × List Char) :=
  match text with
  | 'e' :: rest | 'E' :: rest => do
    let (negative, rest) := splitSign rest
    let (digits, rest) ← readDigits? Char.isDigit rest
    let size := min (valueOf 10 digits) 100000
    return (if negative then -(size : Int) else size, rest)
  | _ => some (0, text)

/-- Reads a number in decimal: a whole number of 64 bits, or one with a fraction or an exponent. -/
def readDecimal? (text : List Char) : Option (Json × List Char) := do
  let (negative, body) := splitSign text
  let (digits, rest) ← readDigits? Char.isDigit body
  if 1 < digits.length && digits.head? == some '0' then none
  match rest with
  | '.' :: _ | 'e' :: _ | 'E' :: _ => do
    let (fraction, rest) ← readFraction? rest
    let (exponent, rest) ← readExponent? rest
    match Number.Binary64.ofDecimal (valueOf 10 (digits ++ fraction))
        (exponent - fraction.length) with
    | .infinite => none
    | size => some (.real negative size, rest)
  | _ =>
    let size := valueOf 10 digits
    if negative then if size ≤ Number.maxSigned + 1 then some (.int (-(size : Int)), rest) else none
    else if size ≤ Number.maxSigned then some (.int size, rest)
    else none

/-! ### Dates and times -/

/-- Reads so many decimal digits. -/
def readFixed? (count : Nat) (text : List Char) : Option (Nat × List Char) :=
  let digits := text.take count
  if digits.length == count && digits.all Char.isDigit then
    some (valueOf 10 digits, text.drop count)
  else none

/-- The text behind a character. -/
def dropChar? (c : Char) (text : List Char) : Option (List Char) :=
  match text with
  | first :: rest => if first == c then some rest else none
  | [] => none

/-- The days of a month. -/
def daysOf (year month : Nat) : Nat :=
  if month == 2 then
    if year % 4 == 0 && (year % 100 != 0 || year % 400 == 0) then 29 else 28
  else if [4, 6, 9, 11].contains month then 30 else 31

/-- The text behind a date. -/
def dropDate? (text : List Char) : Option (List Char) := do
  let (year, rest) ← readFixed? 4 text
  let (month, rest) ← readFixed? 2 (← dropChar? '-' rest)
  let (day, rest) ← readFixed? 2 (← dropChar? '-' rest)
  if 1 ≤ month && month ≤ 12 && 1 ≤ day && day ≤ daysOf year month then some rest else none

/-- The text behind a time of day. -/
def dropTime? (text : List Char) : Option (List Char) := do
  let (hour, rest) ← readFixed? 2 text
  let (minute, rest) ← readFixed? 2 (← dropChar? ':' rest)
  let (second, rest) ← readFixed? 2 (← dropChar? ':' rest)
  if 23 < hour || 59 < minute || 60 < second then none
  match rest with
  | '.' :: fraction =>
    let digits := fraction.takeWhile Char.isDigit
    if digits.isEmpty then some rest else some (fraction.drop digits.length)
  | _ => some rest

/-- The text behind an offset, if there is one. -/
def dropOffset? (text : List Char) : Option (List Char) :=
  match text with
  | 'Z' :: rest | 'z' :: rest => some rest
  | '+' :: rest | '-' :: rest => do
    let (hour, rest) ← readFixed? 2 rest
    let (minute, rest) ← readFixed? 2 (← dropChar? ':' rest)
    if 23 < hour || 59 < minute then none else some rest
  | _ => some text

/-- The text behind a date, a time, or both. -/
def dropMoment? (text : List Char) : Option (List Char) :=
  match dropDate? text with
  | none => dropTime? text
  | some rest =>
    match rest with
    | mark :: time =>
      if ['T', 't', ' '].contains mark then
        match dropTime? time with
        | some rest => dropOffset? rest
        | none => if mark == ' ' then some rest else none
      else some rest
    | [] => some rest

/-- Reads a date, a time, or both. -/
def readMoment? (text : List Char) : Option (Json × List Char) := do
  let rest ← dropMoment? text
  let written := String.ofList (text.take (text.length - rest.length))
  return (.object [("$__toml_private_datetime", .text written)], rest)

/-! ### Values -/

/-- Reads a word. -/
def readWord? (word : String) (value : Json) (text : List Char) : Option (Json × List Char) :=
  (Text.dropBeginning? word.toList text).map fun rest => (value, rest)

/-- Reads a number that is none, or has no bound. -/
def readSpecial? (text : List Char) : Option (Json × List Char) :=
  let (negative, body) := splitSign text
  (readWord? "inf" (.real negative .infinite) body).or
    (readWord? "nan" (.real negative .infinite) body)

/-- Reads a value without parts. -/
def readScalar? (text : List Char) : Option (Json × List Char) :=
  match text with
  | [] => none
  | '0' :: 'x' :: rest => readBased? 16 rest
  | '0' :: 'o' :: rest => readBased? 8 rest
  | '0' :: 'b' :: rest => readBased? 2 rest
  | c :: _ =>
    if c == '"' || c == '\'' then
      (readText? text).map fun (value, rest) => (.text (String.ofList value), rest)
    else if c.isDigit || c == '+' || c == '-' then
      ((readMoment? text).or (readSpecial? text)).or (readDecimal? text)
    else
      (((readWord? "true" (.bool true) text).or (readWord? "false" (.bool false) text))).or
        (readSpecial? text)

/-- How deep lists and tables may stand inside one another. -/
def maxDepth : Nat := 80

mutual

/-- Reads a value; `depth` is how deep lists and tables may still go. -/
def readValue? (fuel depth : Nat) (text : List Char) : Option (Json × List Char) :=
  match fuel, depth, text with
  | fuel + 1, depth + 1, '[' :: rest =>
    (readItems? fuel depth (skipLines text.length rest)).map fun (items, rest) =>
      (.list items, rest)
  | fuel + 1, depth + 1, '\x7b' :: rest =>
    match skipBlanks rest with
    | '\x7d' :: rest => some (.object [], rest)
    | rest => (readPairs? fuel depth [] rest).map fun (entries, rest) =>
      (.object (fieldsOf entries), rest)
  | _, _, '[' :: _ => none
  | _, _, '\x7b' :: _ => none
  | _, _, text => readScalar? text

/-- Reads the items of a list up to its end; a comma may stand behind the last. -/
def readItems? (fuel depth : Nat) (text : List Char) : Option (List Json × List Char) :=
  match fuel, text with
  | _, ']' :: rest => some ([], rest)
  | fuel + 1, text => do
    let (item, rest) ← readValue? fuel depth text
    match skipLines (rest.length + 1) rest with
    | ',' :: rest => do
      let (items, rest) ← readItems? fuel depth (skipLines (rest.length + 1) rest)
      return (item :: items, rest)
    | ']' :: rest => some ([item], rest)
    | _ => none
  | _, _ => none

/-- Reads the keys and values of a table on one line up to its end. -/
def readPairs? (fuel depth : Nat) (entries : Entries) (text : List Char) :
    Option (Entries × List Char) :=
  match fuel with
  | 0 => none
  | fuel + 1 => do
    let ((front, key), rest) ← readKey? text.length text
    let rest ← dropChar? '=' rest
    let (value, rest) ← readValue? fuel depth (skipBlanks rest)
    let entries ← within? (add? key (.value value)) front entries
    match skipBlanks rest with
    | ',' :: rest => readPairs? fuel depth entries rest
    | '\x7d' :: rest => some (entries, rest)
    | _ => none

end

/-! ### Lines -/

/-- Reads the lines of a file: the tables so far, and the header under which the next keys
stand. -/
def readLines? (fuel : Nat) (entries : Entries) (header : List String) (text : List Char) :
    Option Entries :=
  match fuel with
  | 0 => none
  | fuel + 1 =>
    let text := skipLines (text.length + 1) text
    match text with
    | [] => some entries
    | '[' :: '[' :: rest => do
      let ((front, key), rest) ← readKey? rest.length rest
      let rest ← endLine? (← Text.dropBeginning? [']', ']'] rest)
      if maxDepth < front.length then none
      readLines? fuel (← openItem? front key entries) (front ++ [key]) rest
    | '[' :: rest => do
      let ((front, key), rest) ← readKey? rest.length rest
      let rest ← endLine? (← dropChar? ']' rest)
      if maxDepth < front.length then none
      readLines? fuel (← openTable? front key entries) (front ++ [key]) rest
    | text => do
      let ((front, key), rest) ← readKey? text.length text
      let rest ← dropChar? '=' rest
      let (value, rest) ← readValue? (2 * rest.length + 2) maxDepth (skipBlanks rest)
      let rest ← endLine? rest
      if maxDepth < front.length then none
      readLines? fuel (← put? header front key value entries) header rest

/-- The value of a file: an object of its tables. -/
def read? (text : String) : Option Json := do
  let chars := match text.toList with
    | '\uFEFF' :: rest => rest
    | chars => chars
  let entries ← readLines? (chars.length + 1) [] [] chars
  return .object (fieldsOf entries)

end Metasearch.Toml
