/-
Reading addresses, on their own or relative to another. Text is read as browsers read it:
blanks and controls around it and line breaks within are dropped, backslashes count as slashes
under the schemes with rules of their own, segments `.` and `..` are carried out, and what may
not stand as itself is escaped. Only a bad host, a bad port, or a relative address with nothing
to be relative to is an error.
-/
import Metasearch.Url.Basic
import Metasearch.Url.Escape
import Metasearch.Url.Domain
import Metasearch.Number.Integer

namespace Metasearch.Url

/-! ### Hosts -/

/-- A number with one digit more behind it; nothing if it is no digit of the base. -/
def addDigit? (base sum : Nat) (c : Char) : Option Nat := do
  let digit ← Text.hexDigitValue? c
  if digit < base then some (sum * base + digit) else none

/-- Digits in a base; nothing where one is no digit of it. -/
def numberIn? (base : Nat) (digits : List Char) : Option Nat :=
  digits.foldlM (addDigit? base) 0

/-- A part of an address of four bytes: in hexadecimal behind `0x`, in octal behind `0`, else in
decimal. -/
def readPart? (part : List Char) : Option Nat :=
  match part with
  | [] => none
  | '0' :: 'x' :: digits | '0' :: 'X' :: digits => numberIn? 16 digits
  | '0' :: digit :: digits => numberIn? 8 (digit :: digits)
  | digits => numberIn? 10 digits

/-- The points-separated parts of a name, one empty part at the end left out. -/
def nameParts (name : List Char) : List (List Char) :=
  let parts := Text.splitAt (· == '.') name
  if 1 < parts.length && parts.getLast? == some [] then parts.dropLast else parts

/-- The last part of the name is a number, so that the name must be an address of four bytes. -/
def endsInNumber (name : List Char) : Bool :=
  match (nameParts name).getLast? with
  | some last => (!last.isEmpty && last.all (·.isDigit)) || (readPart? last).isSome
  | none => false

/-- The bytes behind a byte moved on by one place, and the byte put in the first. -/
def putByte (byte behind : Nat) : Nat :=
  byte * 0x1000000 + behind / 256

/-- An address of four bytes: up to four parts, of which the last stands for all bytes that the
others leave. -/
def readFour? (name : List Char) : Option Nat := do
  let numbers ← (nameParts name).mapM readPart?
  let last ← numbers.getLast?
  let bytes := numbers.dropLast
  if 3 < bytes.length || bytes.any (255 < ·) || Nat.pow 256 (4 - bytes.length) ≤ last then none
  else some (bytes.foldr putByte 0 + last)

/-- The hexadecimal digits a text starts with, four at most, and the rest. -/
def readPiece (text : List Char) : Nat × Nat × List Char :=
  let digits := (text.take 4).takeWhile fun c => (Text.hexDigitValue? c).isSome
  ((numberIn? 16 digits).getD 0, digits.length, text.drop digits.length)

/-- A byte in decimal as the last pieces of an address may have it: no leading zero, no more
than 255. -/
def readByte? (digits : List Char) : Option Nat :=
  match digits with
  | [] => none
  | '0' :: _ :: _ => none
  | digits => if digits.all (·.isDigit) then (numberIn? 10 digits).filter (· ≤ 255) else none

/-- The last two pieces written as four bytes with points between. -/
def readTail? (text : List Char) : Option (List Nat) := do
  match ← (Text.splitAt (· == '.') text).mapM readByte? with
  | [first, second, third, fourth] => some [first * 256 + second, third * 256 + fourth]
  | _ => none

/-- Reads pieces to the end of the text: the pieces so far, backwards, and how many of them stand
before the gap. A gap is allowed once, and takes the place of a piece. -/
def readPieces (fuel : Nat) (text : List Char) (pieces : List Nat) (gap : Option Nat) :
    Option (List Nat × Option Nat) :=
  match fuel with
  | 0 => none
  | fuel + 1 =>
    let places := pieces.length + gap.toList.length
    match text with
    | [] => some (pieces, gap)
    | ':' :: rest =>
      if places == 8 || gap.isSome then none
      else readPieces fuel rest pieces (some pieces.length)
    | _ =>
      if places == 8 then none
      else
        match readPiece text with
        | (_, 0, _) => none
        | (_, _, '.' :: _) =>
          if 6 < places then none
          else (readTail? text).map fun tail => (tail.reverse ++ pieces, gap)
        | (value, _, []) => some (value :: pieces, gap)
        | (_, _, [':']) => none
        | (value, _, ':' :: rest) => readPieces fuel rest (value :: pieces) gap
        | _ => none

/-- Pieces that were read backwards, in order; a gap stands for as many zeros as are missing. -/
def fillGap? (backwards : List Nat) (gap : Option Nat) : Option (List Nat) :=
  let pieces := backwards.reverse
  match gap with
  | some before =>
    some (pieces.take before ++ List.replicate (8 - pieces.length) 0 ++ pieces.drop before)
  | none => if pieces.length == 8 then some pieces else none

/-- An address of eight pieces; a gap may stand at its start too. -/
def readSix? (text : List Char) : Option (List Nat) := do
  let (backwards, gap) ← match text with
    | ':' :: ':' :: rest => readPieces (text.length + 1) rest [] (some 0)
    | ':' :: _ => none
    | _ => readPieces (text.length + 1) text [] none
  fillGap? backwards gap

/-- A host between brackets, which must be an address of eight pieces. -/
def readBracketed (text : List Char) : Except Error Host :=
  match (Text.dropEnding? [']'] text).bind readSix? with
  | some pieces => .ok (.six pieces)
  | none => .error .badSix

/-- A name of the wire as a host; if its last part is a number, it must be an address of four
bytes. -/
def hostOfName (name : List Char) : Except Error Host :=
  if endsInNumber name then
    match readFour? name with
    | some address => .ok (.four address)
    | none => .error .badFour
  else .ok (.named (String.ofList name))

/-- A host under a scheme with rules of its own. -/
def readHost (text : List Char) : Except Error Host :=
  match text with
  | '[' :: rest => readBracketed rest
  | _ =>
    match asciiName? (Text.decode (unescape (Text.encode text))) with
    | none => .error .badName
    | some [] => .error .emptyHost
    | some name => hostOfName name

/-- Characters that cannot stand in a host of any scheme. -/
def barredFromHosts (c : Char) : Bool :=
  ['\x00', '\t', '\n', '\r', ' ', '#', '/', ':', '<', '>', '?', '@', '[', '\\', ']', '^',
    '|'].contains c

/-- A host under any other scheme: any text, escaped. -/
def readPlainHost (text : List Char) : Except Error Host :=
  match text with
  | [] => .ok .empty
  | '[' :: rest => readBracketed rest
  | _ =>
    if text.any barredFromHosts then .error .badCharacter
    else .ok (.named (String.ofList (escapeText isControl text)))

/-! ### Paths -/

/-- A slash, or a backslash where it counts as one. -/
def isSlash (kind : Kind) (c : Char) : Bool :=
  c == '/' || (kind.isSpecial && c == '\\')

/-- What ends a path. -/
def endsPath (c : Char) : Bool :=
  c == '?' || c == '#'

/-- A letter and a colon (or a bar): a drive, which `..` does not leave. -/
def isDrive (segment : String) : Bool :=
  match segment.toList with
  | [letter, mark] => letter.isAlpha && (mark == ':' || mark == '|')
  | _ => false

/-- A letter and a colon. -/
def isPlainDrive (segment : String) : Bool :=
  isDrive segment && segment.endsWith ":"

/-- What a segment says about the path. -/
inductive Step
  | stay
  | up
  | down (segments : List String)

/-- The step that a segment, in its escaped form, stands for; `first` of the path it may be a
drive with more behind it in a file's address. -/
def stepOf (kind : Kind) (first : Bool) (segment : List Char) : Step :=
  let text := String.ofList segment
  let plain := String.ofList (segment.map Char.toLower)
  if plain == "." || plain == "%2e" then .stay
  else if ["..", ".%2e", "%2e.", "%2e%2e"].contains plain then .up
  else if kind == .file then
    match segment with
    | [letter, '|'] => .down [if letter.isAlpha then String.ofList [letter, ':'] else text]
    | letter :: ':' :: behind :: rest =>
      if first && letter.isAlpha then
        .down [String.ofList [letter, ':'], String.ofList (behind :: rest)]
      else .down [text]
    | _ => .down [text]
  else .down [text]

/-- The segments without the last, which stays if it is a drive. -/
def oneUp (segments : List String) : List String :=
  match segments.getLast? with
  | some last => if isDrive last then segments else segments.dropLast
  | none => segments

/-- Carries out the steps of the segments, from the segments already there. The last segment is
the page; `.` and `..` in its place leave it empty. -/
def walk (kind : Kind) : List (List Char) → List String → List String
  | [], done => done
  | [last], done =>
    match stepOf kind done.isEmpty (escapeText escapedInPath last) with
    | .stay => done ++ [""]
    | .up => oneUp done ++ [""]
    | .down segments => done ++ segments
  | segment :: rest, done =>
    match stepOf kind done.isEmpty (escapeText escapedInPath segment) with
    | .stay => walk kind rest done
    | .up => walk kind rest (oneUp done)
    | .down segments => walk kind rest (done ++ segments)

/-- The segments of a file's path do not start with empty ones. -/
def settlePath (kind : Kind) (segments : List String) : List String :=
  if kind == .file then
    match segments.dropWhile (·.isEmpty) with
    | [] => [""]
    | settled => settled
  else segments

/-- Reads segments behind those already there; `text` starts behind a slash. -/
def readSegments (kind : Kind) (done : List String) (text : List Char) :
    List String × List Char :=
  let path := text.takeWhile (!endsPath ·)
  (settlePath kind (walk kind (Text.splitAt (isSlash kind) path) done), text.drop path.length)

/-- Reads the path behind a host. Under a scheme with rules of its own there is always one. -/
def readPathStart (kind : Kind) (text : List Char) : List String × List Char :=
  match text with
  | [] => if kind.isSpecial then ([""], []) else ([], [])
  | c :: rest =>
    if isSlash kind c then readSegments kind [] rest
    else if !kind.isSpecial && endsPath c then ([], c :: rest)
    else readSegments kind [] (c :: rest)

/-! ### Queries and fragments -/

/-- The fragment that a text, from its hash on, gives. -/
def readFragment? (text : List Char) : Option String :=
  match text with
  | '#' :: fragment => some (String.ofList (escapeText escapedInFragment fragment))
  | _ => none

/-- The query and the fragment that a text, from its question mark or hash on, gives. -/
def readEnd (kind : Kind) (text : List Char) : Option String × Option String :=
  match text with
  | '?' :: rest =>
    let query := rest.takeWhile (· != '#')
    (some (String.ofList (escapeText (escapedInQuery kind.isSpecial) query)),
      readFragment? (rest.drop query.length))
  | _ => (none, readFragment? text)

/-- The address with the query and the fragment that a text gives. -/
def withEnd (kind : Kind) (url : Url) (text : List Char) : Url :=
  let (query, fragment) := readEnd kind text
  { url with query, fragment }

/-- The address with another fragment. -/
def withFragment (url : Url) (text : List Char) : Url :=
  { url with fragment := readFragment? text }

/-! ### Users, hosts and ports -/

/-- What stands in front of the last at sign, and what stands behind it. -/
def splitUser (authority : List Char) : List Char × List Char :=
  let host := (authority.reverse.takeWhile (· != '@')).reverse
  (authority.take (authority.length - host.length - 1), host)

/-- Behind this user there must be a host. -/
def needsHost (user : List Char) (goesOn : Bool) : Bool :=
  if user.isEmpty then goesOn else user != [':']

/-- The name or the password of a user as it is kept. -/
def keepUser (part : List Char) : String :=
  String.ofList (escapeText escapedInUser part)

/-- The name and the password of a user, in front of the last at sign before the host ends; and
the text behind it. -/
def readUser (kind : Kind) (text : List Char) : Except Error (String × String × List Char) :=
  let authority := text.takeWhile fun c => !(isSlash kind c || endsPath c)
  if authority.contains '@' then
    let (user, host) := splitUser authority
    let name := user.takeWhile (· != ':')
    if host.isEmpty && needsHost user (authority.length < text.length) then .error .emptyHost
    else
      .ok (keepUser name, keepUser (user.drop (name.length + 1)), text.drop (user.length + 1))
  else .ok ("", "", text)

/-- The text of the host and what follows it: a colon ends a host, unless between brackets. -/
def splitHost (kind : Kind) : Bool → List Char → List Char × List Char
  | _, [] => ([], [])
  | bracketed, c :: rest =>
    if (c == ':' && !bracketed) || isSlash kind c || endsPath c then ([], c :: rest)
    else
      let inside := if c == '[' then true else if c == ']' then false else bracketed
      let (host, after) := splitHost kind inside rest
      (c :: host, after)

/-- The number that digits make; beyond the greatest port it does not matter how far. -/
def portNumber (digits : List Char) : Nat :=
  digits.foldl (fun sum c => min (sum * 10 + Number.digitValue c) 65536) 0

/-- The text goes on with what may follow a port. -/
def endsPort (text : List Char) : Bool :=
  match text with
  | [] => true
  | c :: _ => c == '/' || c == '\\' || endsPath c

/-- The port a text starts with. -/
def readPort (scheme : String) (text : List Char) : Except Error (Option Nat × List Char) :=
  let digits := text.takeWhile (·.isDigit)
  let rest := text.drop digits.length
  let port := portNumber digits
  if 65535 < port || !endsPort rest then .error .badPort
  else .ok (if digits.isEmpty || usualPort? scheme == some port then none else some port, rest)

/-- The host that a text is; under a scheme with rules of its own there must be one. -/
def hostOf (kind : Kind) (text : List Char) : Except Error Host :=
  if kind.isSpecial then
    if text.isEmpty then .error .emptyHost else readHost text
  else readPlainHost text

/-- The port behind a host, which must not be empty to have one. -/
def portBehind (scheme : String) (host : Host) (text : List Char) :
    Except Error (Option Nat × List Char) :=
  match text with
  | ':' :: rest => if host == .empty then .error .emptyHost else readPort scheme rest
  | _ => .ok (none, text)

/-- Reads what follows the two slashes: user, host, port, path and the end. -/
def readAuthority (scheme : String) (text : List Char) : Except Error Url := do
  let kind := kindOf scheme
  let (user, password, text) ← readUser kind text
  let (hostText, text) := splitHost kind false text
  let host ← hostOf kind hostText
  let (port, text) ← portBehind scheme host text
  let (path, text) := readPathStart kind text
  return withEnd kind ⟨scheme, user, password, some host, port, .segments path, none, none⟩ text

/-! ### Files -/

/-- The text starts with a drive and nothing else in its segment. -/
def startsWithDrive (text : List Char) : Bool :=
  match text with
  | [letter, mark] => letter.isAlpha && (mark == ':' || mark == '|')
  | letter :: mark :: next :: _ =>
    letter.isAlpha && (mark == ':' || mark == '|') &&
      (next == '/' || next == '\\' || endsPath next)
  | _ => false

/-- A file's address with a path. -/
def fileAt (host : Host) (path : List String) : Url :=
  ⟨"file", "", "", some host, none, .segments path, none, none⟩

/-- The segments of an address that has them. -/
def segmentsOf (url : Url) : List String :=
  match url.path with
  | .segments list => list
  | .whole _ => []

/-- A host in a file's address: the local host is left out, and so is any host if the path names
a drive. -/
def readFileHost (text : List Char) : Except Error Url := do
  let hostText := text.takeWhile fun c => !(c == '/' || c == '\\' || endsPath c)
  let rest := text.drop hostText.length
  let alone (text : List Char) : Url :=
    let (path, text) := readSegments .file [] text
    withEnd .file (fileAt .empty path) text
  if isDrive (String.ofList hostText) then return alone text
  else if hostText.isEmpty then return alone rest
  else
    let host ← readHost hostText
    if host == .named "localhost" then return alone rest
    else
      let (path, text) := readPathStart .file rest
      return withEnd .file (fileAt (if path.any isPlainDrive then .empty else host) path) text

/-- Reads the rest of a file's address, relative to another if there is one. -/
def readFile (base : Option Url) (text : List Char) : Except Error Url :=
  match text with
  | '/' :: second :: rest | '\\' :: second :: rest =>
    if second == '/' || second == '\\' then readFileHost rest
    else .ok (below (second :: rest))
  | ['/'] | ['\\'] => .ok (below [])
  | _ =>
    match base with
    | none => .ok (fresh text)
    | some base =>
      match text with
      | [] => .ok { base with fragment := none }
      | '?' :: _ => .ok (withEnd .file base text)
      | '#' :: _ => .ok (withFragment base text)
      | _ =>
        if startsWithDrive text then .ok (fresh text)
        else
          let above := segmentsOf base
          let kept := if (above.getLast?.map isPlainDrive).getD false then above
            else above.dropLast
          let (path, text) := readSegments .file kept text
          .ok (withEnd .file { base with path := .segments path } text)
where
  /-- An address without a host. -/
  fresh (text : List Char) : Url :=
    let (path, text) := readSegments .file [] text
    withEnd .file (fileAt .empty path) text
  /-- An address behind one slash: it keeps the drive or else the host of the other. -/
  below (text : List Char) : Url :=
    match base with
    | some base =>
      if startsWithDrive text then fresh text
      else
        match segmentsOf base with
        | first :: _ =>
          if isPlainDrive first then
            let (path, text) := readSegments .file [first] text
            withEnd .file (fileAt .empty path) text
          else
            let (path, text) := readSegments .file [] text
            withEnd .file { base with path := .segments path } text
        | [] => fresh text
    | none => fresh text

/-! ### Whole addresses -/

/-- Splits off a scheme, in lower case. -/
def splitScheme? (text : List Char) : Option (String × List Char) :=
  match text with
  | first :: _ =>
    if first.isAlpha then
      let scheme := text.takeWhile fun c => c.isAlphanum || ['+', '-', '.'].contains c
      match text.drop scheme.length with
      | ':' :: rest => some (String.ofList (scheme.map Char.toLower), rest)
      | _ => none
    else none
  | [] => none

/-- Reads an address of the same scheme and host as another. -/
def readRelative (base : Url) (text : List Char) : Except Error Url :=
  let kind := kindOf base.scheme
  let behind (done : List String) (text : List Char) : Except Error Url :=
    let (path, text) := readSegments kind done text
    .ok (withEnd kind { base with path := .segments path } text)
  match text with
  | [] => .ok { base with fragment := none }
  | '?' :: _ => .ok (withEnd kind base text)
  | '#' :: _ => .ok (withFragment base text)
  | first :: rest =>
    if first == '/' || first == '\\' then
      match rest with
      | second :: more =>
        if second == '/' || second == '\\' then
          readAuthority base.scheme
            (if first == '/' && second == '/' then more
              else text.dropWhile fun c => c == '/' || c == '\\')
        else behind [] rest
      | [] => behind [] rest
    else behind (segmentsOf base).dropLast text

/-- Reads what follows a scheme. -/
def readBehindScheme (base : Option Url) (scheme : String) (text : List Char) :
    Except Error Url :=
  match kindOf scheme with
  | .file => readFile (base.filter (·.scheme == "file")) text
  | .web =>
    let slashes := text.takeWhile fun c => c == '/' || c == '\\'
    match base.filter fun base => base.scheme == scheme && slashes.length < 2 with
    | some base => readRelative base text
    | none => readAuthority scheme (text.drop slashes.length)
  | .other =>
    match text with
    | '/' :: '/' :: rest => readAuthority scheme rest
    | '/' :: rest =>
      let (path, text) := readSegments .other [] rest
      .ok (withEnd .other ⟨scheme, "", "", none, none, .segments path, none, none⟩ text)
    | _ =>
      let path := text.takeWhile (!endsPath ·)
      let whole := UrlPath.whole (String.ofList (escapeText isControl path))
      .ok (withEnd .other ⟨scheme, "", "", none, none, whole, none, none⟩
        (text.drop path.length))

/-- The text without the blanks and controls around it and the line breaks and tabs in it. -/
def tidy (text : String) : List Char :=
  let isEdge (c : Char) : Bool := c.toNat ≤ 0x20
  let inner := ((text.toList.dropWhile isEdge).reverse.dropWhile isEdge).reverse
  inner.filter (!isBreak ·)

/-- Reads an address, relative to another if there is one. -/
def readBelow (base : Option Url) (text : String) : Except Error Url :=
  let text := tidy text
  match splitScheme? text, base with
  | some (scheme, rest), _ => readBehindScheme base scheme rest
  | none, none => .error .relative
  | none, some base =>
    match text with
    | '#' :: _ => .ok (withFragment base text)
    | _ =>
      if base.isWhole then .error .relativeToWhole
      else if base.scheme == "file" then readFile (some base) text
      else readRelative base text

/-- Reads an address that stands on its own. -/
def read (text : String) : Except Error Url :=
  readBelow none text

/-- Reads an address relative to this one. -/
def join (base : Url) (text : String) : Except Error Url :=
  readBelow (some base) text

end Metasearch.Url
