/-
Character references: a number sign with a code point, or a name. A reference gives its
characters and how far it reaches behind its ampersand; where nothing that can be referred to is
written, the ampersand stands for itself. Inside an attribute an old name without its semicolon
is left alone when a letter, a digit or an equals sign follows, as in a query string.
-/
import Metasearch.Markup.Entity
import Metasearch.Text.Quoted

namespace Metasearch.Markup

/-- What the code points 0x80 to 0x9F are taken for. -/
def oldCodePoints : List Nat :=
  [0x20AC, 0x81, 0x201A, 0x0192, 0x201E, 0x2026, 0x2020, 0x2021, 0x02C6, 0x2030, 0x0160, 0x2039,
   0x0152, 0x8D, 0x017D, 0x8F, 0x90, 0x2018, 0x2019, 0x201C, 0x201D, 0x2022, 0x2013, 0x2014,
   0x02DC, 0x2122, 0x0161, 0x203A, 0x0153, 0x9D, 0x017E, 0x0178]

/-- The character of a referenced code point. -/
def referencedChar (point : Nat) : Char :=
  if point == 0 || point > 0x10FFFF || (0xD800 ≤ point && point ≤ 0xDFFF) then '\uFFFD'
  else if 0x80 ≤ point && point ≤ 0x9F then
    Char.ofNat (oldCodePoints.getD (point - 0x80) 0xFFFD)
  else Char.ofNat point

/-- A reference by number behind its number sign: digits in a base and perhaps a semicolon. -/
def numberReference? (base : Nat) (marks : Nat) (text : List Char) : Option (List Char × Nat) :=
  let digits := text.takeWhile fun c => match Text.hexDigitValue? c with
    | some value => value < base
    | none => false
  if digits.isEmpty then none
  else
    let point := digits.foldl (fun value c =>
      min (value * base + (Text.hexDigitValue? c).getD 0) 0x110000) 0
    let semicolon := if (text.drop digits.length).head? == some ';' then 1 else 0
    some ([referencedChar point], marks + digits.length + semicolon)

/-- The reference behind an ampersand: its characters, and how many characters it takes. -/
def reference? (inAttribute : Bool) (text : List Char) : Option (List Char × Nat) :=
  match text with
  | '#' :: 'x' :: rest => numberReference? 16 2 rest
  | '#' :: 'X' :: rest => numberReference? 16 2 rest
  | '#' :: rest => numberReference? 10 1 rest
  | text =>
    match entityAt? text with
    | none => none
    | some entity =>
      let isOpen := entity.name.getLast? != some ';'
      let goesOn := match (text.drop entity.name.length).head? with
        | some c => c == '=' || c.isAlphanum
        | none => false
      if inAttribute && isOpen && goesOn then none else some (entity.text, entity.name.length)

/-- The text with its references resolved and replacement characters for its NULs; the first
`skip` characters belong to a reference already found. -/
def resolveFrom (inAttribute : Bool) (skip : Nat) : List Char → List Char
  | [] => []
  | c :: rest =>
    match skip with
    | skip + 1 => resolveFrom inAttribute skip rest
    | 0 =>
      if c == '&' then
        match reference? inAttribute rest with
        | some (characters, taken) => characters ++ resolveFrom inAttribute taken rest
        | none => '&' :: resolveFrom inAttribute 0 rest
      else if c == '\x00' then '\uFFFD' :: resolveFrom inAttribute 0 rest
      else c :: resolveFrom inAttribute 0 rest

end Metasearch.Markup
