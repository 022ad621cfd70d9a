/-
Addresses of pages. An address is a scheme, perhaps a host with the name and password of a
user and a port, a path, and perhaps a query and a fragment. A path is either a list of
segments, which other addresses can be read relative to, or one whole text (as in
`mailto:a@b`), which they cannot. Writing an address is all that its parts decide: two
addresses with equal parts have equal texts.
-/
import Metasearch.Text.Quoted

namespace Metasearch

/-- Who serves an address. A host may be there and empty, as in `x:///y`. -/
inductive Host
  | empty
  | named (text : String)
  | four (address : Nat)
  | six (pieces : List Nat)
  deriving DecidableEq, Repr

/-- The path of an address: segments, each behind a slash, or one whole text. -/
inductive UrlPath
  | whole (text : String)
  | segments (list : List String)
  deriving DecidableEq, Repr

/-- An address in its parts; the texts are in their escaped form. A password is written only
where there is one, a port only where it is not the usual port of the scheme. -/
structure Url where
  scheme : String
  user : String
  password : String
  host : Option Host
  port : Option Nat
  path : UrlPath
  query : Option String
  fragment : Option String
  deriving DecidableEq, Repr

namespace Url

/-- What is wrong with the text of an address. -/
inductive Error
  | emptyHost
  | badName
  | badPort
  | badFour
  | badSix
  | badCharacter
  | relative
  | relativeToWhole
  deriving DecidableEq, Repr

/-- The wording of the reason. -/
def Error.message : Error → String
  | .emptyHost => "empty host"
  | .badName => "invalid international domain name"
  | .badPort => "invalid port number"
  | .badFour => "invalid IPv4 address"
  | .badSix => "invalid IPv6 address"
  | .badCharacter => "invalid domain character"
  | .relative => "relative URL without a base"
  | .relativeToWhole => "relative URL with a cannot-be-a-base base"

/-! ### Schemes -/

/-- The schemes with rules of their own: backslashes count as slashes, there is always a host
(but for files) and always a path. -/
inductive Kind
  | file
  | web
  | other
  deriving DecidableEq, Repr

/-- The kind of a scheme. -/
def kindOf (scheme : String) : Kind :=
  if scheme == "file" then .file
  else if ["http", "https", "ws", "wss", "ftp"].contains scheme then .web
  else .other

/-- The scheme has rules of its own. -/
def Kind.isSpecial : Kind → Bool
  | .other => false
  | _ => true

/-- The port that a scheme uses when none is written. -/
def usualPort? (scheme : String) : Option Nat :=
  match scheme with
  | "http" | "ws" => some 80
  | "https" | "wss" => some 443
  | "ftp" => some 21
  | _ => none

/-- The path is one whole text, so that no address can be read relative to this one. -/
def isWhole (url : Url) : Bool :=
  match url.path with
  | .whole _ => true
  | .segments _ => false

/-! ### Writing -/

/-- The greatest run of zeros among the pieces: where it starts and how long it is; of runs
equally long, the first. -/
def zeroRun : Nat → List Nat → Nat × Nat
  | _, [] => (0, 0)
  | start, piece :: rest =>
    let run := ((piece :: rest).takeWhile (· == 0)).length
    let later := zeroRun (start + 1) rest
    if later.2 ≤ run then (start, run) else later

/-- Pieces in hexadecimal, with colons between. -/
def writePieces (pieces : List Nat) : List Char :=
  [':'].intercalate (pieces.map Text.hexDigits)

/-- An address of eight pieces; the greatest run of two zeros or more is left out. -/
def writeSix (pieces : List Nat) : List Char :=
  let (start, length) := zeroRun 0 pieces
  if length < 2 then writePieces pieces
  else writePieces (pieces.take start) ++ [':', ':'] ++ writePieces (pieces.drop (start + length))

/-- An address of four bytes, in decimal, with points between. -/
def writeFour (address : Nat) : List Char :=
  ['.'].intercalate ([address / 0x1000000, address / 0x10000 % 256, address / 0x100 % 256,
    address % 256].map fun byte => (toString byte).toList)

/-- The text of a host. -/
def writeHost : Host → String
  | .empty => ""
  | .named text => text
  | .four address => String.ofList (writeFour address)
  | .six pieces => "[" ++ String.ofList (writeSix pieces) ++ "]"

/-- The text of a path. -/
def writePath : UrlPath → String
  | .whole text => text
  | .segments list => String.join (list.map ("/" ++ ·))

/-- The name of a user, and the password where there is one. -/
def joinUser (user password : String) : String :=
  user ++ (if password.isEmpty then "" else ":" ++ password)

/-- The text of a user, with its mark; nothing where there is none. -/
def writeUser (user password : String) : String :=
  if (joinUser user password).isEmpty then "" else joinUser user password ++ "@"

/-- The text of a port, with its mark. -/
def writePort : Option Nat → String
  | some port => ":" ++ toString port
  | none => ""

/-- The text of a query, with its mark. -/
def writeQuery : Option String → String
  | some query => "?" ++ query
  | none => ""

/-- The text of a fragment, with its mark. -/
def writeFragment : Option String → String
  | some fragment => "#" ++ fragment
  | none => ""

/-- What stands between the scheme and the path: two slashes and the host, with the user in
front and the port behind. Without a host, a path that starts with an empty segment gets `/.`
in front, lest the segment behind it be taken for a host. -/
def writeAuthority (url : Url) : String :=
  match url.host with
  | some host =>
    "//" ++ writeUser url.user url.password ++ writeHost host ++ writePort url.port
  | none =>
    match url.path with
    | .segments ("" :: _ :: _) => "/."
    | _ => ""

/-- The text of an address. -/
def write (url : Url) : String :=
  url.scheme ++ ":" ++ url.writeAuthority ++ writePath url.path ++ writeQuery url.query ++
    writeFragment url.fragment

/-- The address without its query and fragment: that of the page itself, whatever it is asked. -/
def page (url : Url) : Url :=
  { url with query := none, fragment := none }

end Url

end Metasearch
