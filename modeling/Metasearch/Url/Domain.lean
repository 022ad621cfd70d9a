/-
Domain names in the form that goes over the wire. A name is brought to lower case, label by
label between its points, and a label with characters outside ASCII is written in ASCII by the
code for labels: the characters of ASCII it has, then, as generalised integers of variable
length, where which other characters stand. A label that already has this form must be what
its characters would be written as.

Of the mapping that UTS 46 asks for, only these parts are made: letters in lower case, wide
characters of ASCII in their usual width, the full stops of other scripts as points, and ignorable
characters left out. Other characters are not mapped to the ones they are compatible with, nothing
is composed (NFC), and neither the bidi rule nor the rules for joiners are checked. So some names
with characters outside ASCII are accepted, refused or spelled here as they would not be there, and
so are names with labels that stand for such characters.
-/
import Metasearch.Number.Integer
import Metasearch.Text.Blank
import Metasearch.Text.Quoted
import Metasearch.Text.Search
import Metasearch.Text.Utf8

namespace Metasearch.Url

/-! ### The code for labels

Places of 36 digits: the letters, then the decimal digits. The thresholds adapt to the sizes
of the numbers already written. -/

/-- The first code point that is not of ASCII, where decoding starts. -/
def firstPoint : Nat := 0x80

/-- The threshold of a digit place, from the bias: between 1 and 26. -/
def threshold (place bias : Nat) : Nat :=
  if place ≤ bias then 1 else if bias + 26 ≤ place then 26 else place - bias

/-- Divides by 35 until below 456, counting. -/
def settle (fuel : Nat) (delta : Nat) (count : Nat) : Nat × Nat :=
  match fuel with
  | 0 => (delta, count)
  | fuel + 1 => if 455 < delta then settle fuel (delta / 35) (count + 36) else (delta, count)

/-- The next bias, behind a number written at a label of `length` characters. -/
def adapt (delta length : Nat) (first : Bool) : Nat :=
  let scaled := if first then delta / 700 else delta / 2
  let (settled, count) := settle 16 (scaled + scaled / length) 0
  count + 36 * settled / (settled + 38)

/-- The digit of a value below 36. -/
def labelDigit (value : Nat) : Char :=
  if value < 26 then Char.ofNat (97 + value) else Char.ofNat (22 + value)

/-- The value of a digit. -/
def labelDigitValue? (c : Char) : Option Nat :=
  if c.isLower then some (c.toNat - 97)
  else if c.isUpper then some (c.toNat - 65)
  else if c.isDigit then some (c.toNat - 22)
  else none

/-- A number in places of variable size, lowest place first. -/
def writeNumber (fuel : Nat) (value place bias : Nat) : List Char :=
  match fuel with
  | 0 => []
  | fuel + 1 =>
    let edge := threshold place bias
    if value < edge then [labelDigit value]
    else labelDigit (edge + (value - edge) % (36 - edge)) ::
      writeNumber fuel ((value - edge) / (36 - edge)) (place + 36) bias

/-- What encoding keeps between two numbers. -/
structure LabelState where
  delta : Nat
  bias : Nat
  handled : Nat
  first : Bool

/-- A number made greater, unless it would leave the 32 bits it has to fit in. -/
def grown? (number amount : Nat) : Option Nat :=
  if Number.maxUnsigned32 < number + amount then none else some (number + amount)

/-- Goes through the label once for a code point: characters below it are passed over, and
each of its own places is written. -/
def encodePoint? (point : Nat) : List Char → LabelState → Option (List Char × LabelState)
  | [], state => some ([], state)
  | c :: rest, state =>
    if c.toNat < point then do
      let delta ← grown? state.delta 1
      encodePoint? point rest { state with delta }
    else if c.toNat == point then do
      let digits := writeNumber 16 state.delta 36 state.bias
      let next : LabelState :=
        ⟨0, adapt state.delta (state.handled + 1) state.first, state.handled + 1, false⟩
      let (others, last) ← encodePoint? point rest next
      some (digits ++ others, last)
    else encodePoint? point rest state

/-- Goes through the code points of a label that are not of ASCII, in order. -/
def encodePoints? (label : List Char) : Nat → List Nat → LabelState → Option (List Char)
  | _, [], _ => some []
  | passed, point :: points, state => do
    let entered ← grown? state.delta ((point - passed) * (state.handled + 1))
    let (digits, next) ← encodePoint? point label { state with delta := entered }
    let delta ← grown? next.delta 1
    let others ← encodePoints? label (point + 1) points { next with delta }
    some (digits ++ others)

/-- A label in ASCII, without the mark in front; none for a label so long that a number leaves
its range. -/
def encodeLabel? (label : List Char) : Option (List Char) := do
  let plain := label.filter (·.toNat < firstPoint)
  let points := ((label.map (·.toNat)).filter (firstPoint ≤ ·)).mergeSort.eraseDups
  let digits ← encodePoints? label firstPoint points ⟨0, 72, plain.length, true⟩
  some (plain ++ (if plain.isEmpty then [] else ['-']) ++ digits)

/-- Reads a number: the sum so far, the weight of the next digit, its place. -/
def readNumber (bias : Nat) : List Char → Nat → Nat → Nat → Option (Nat × List Char)
  | [], _, _, _ => none
  | c :: rest, sum, weight, place => do
    let digit ← labelDigitValue? c
    let next := sum + digit * weight
    let edge := threshold place bias
    if Number.maxUnsigned32 < next then none
    else if digit < edge then some (next, rest)
    else readNumber bias rest next (weight * (36 - edge)) (place + 36)

/-- Reads numbers to the end, putting a character into the label for each. -/
def decodeNumbers (fuel : Nat) (digits : List Char) (point start bias : Nat)
    (label : List Char) : Option (List Char) :=
  match fuel with
  | 0 => none
  | fuel + 1 =>
    if digits.isEmpty then some label
    else do
      let (delta, rest) ← readNumber bias digits 0 1 36
      let length := label.length + 1
      let sum := start + delta
      let next := point + sum / length
      let place := sum % length
      if 0x10FFFF < next || (0xD800 ≤ next && next ≤ 0xDFFF) then none
      else
        decodeNumbers fuel rest next (place + 1) (adapt delta length (start == 0))
          (label.take place ++ [Char.ofNat next] ++ label.drop place)

/-- The label that a text of ASCII, without the mark in front, stands for. -/
def decodeLabel? (text : List Char) : Option (List Char) :=
  let backwards := text.reverse
  let (digits, plain) :=
    if backwards.contains '-' then
      ((backwards.takeWhile (· != '-')).reverse, ((backwards.dropWhile (· != '-')).drop 1).reverse)
    else (text, [])
  decodeNumbers (digits.length + 1) digits firstPoint 0 72 plain

/-! ### Lower case -/

/-- Upper case outside ASCII: runs of code points, each `(first, last, step, distance)`, whose
lower case is the distance away. -/
def upperRuns : List (Nat × Nat × Nat × Int) :=
  [(0xC0, 0xD6, 1, 32), (0xD8, 0xDE, 1, 32), (0x100, 0x12E, 2, 1), (0x134, 0x136, 2, 1),
   (0x139, 0x13D, 2, 1), (0x141, 0x147, 2, 1), (0x14A, 0x176, 2, 1), (0x178, 0x178, 1, -121),
   (0x179, 0x17D, 2, 1), (0x181, 0x181, 1, 210), (0x182, 0x184, 2, 1), (0x186, 0x186, 1, 206),
   (0x187, 0x187, 1, 1), (0x189, 0x18A, 1, 205), (0x18B, 0x18B, 1, 1), (0x18E, 0x18E, 1, 79),
   (0x18F, 0x18F, 1, 202), (0x190, 0x190, 1, 203), (0x191, 0x191, 1, 1), (0x193, 0x193, 1, 205),
   (0x194, 0x194, 1, 207), (0x196, 0x196, 1, 211), (0x197, 0x197, 1, 209), (0x198, 0x198, 1, 1),
   (0x19C, 0x19C, 1, 211), (0x19D, 0x19D, 1, 213), (0x19F, 0x19F, 1, 214), (0x1A0, 0x1A4, 2, 1),
   (0x1A6, 0x1A6, 1, 218), (0x1A7, 0x1A7, 1, 1), (0x1A9, 0x1A9, 1, 218), (0x1AC, 0x1AC, 1, 1),
   (0x1AE, 0x1AE, 1, 218), (0x1AF, 0x1AF, 1, 1), (0x1B1, 0x1B2, 1, 217), (0x1B3, 0x1B5, 2, 1),
   (0x1B7, 0x1B7, 1, 219), (0x1B8, 0x1B8, 1, 1), (0x1BC, 0x1BC, 1, 1), (0x1CD, 0x1DB, 2, 1),
   (0x1DE, 0x1EE, 2, 1), (0x1F4, 0x1F4, 1, 1), (0x1F6, 0x1F6, 1, -97), (0x1F7, 0x1F7, 1, -56),
   (0x1F8, 0x21E, 2, 1), (0x220, 0x220, 1, -130), (0x222, 0x232, 2, 1), (0x23A, 0x23A, 1, 10795),
   (0x23B, 0x23B, 1, 1), (0x23D, 0x23D, 1, -163), (0x23E, 0x23E, 1, 10792), (0x241, 0x241, 1, 1),
   (0x243, 0x243, 1, -195), (0x244, 0x244, 1, 69), (0x245, 0x245, 1, 71), (0x246, 0x24E, 2, 1),
   (0x370, 0x372, 2, 1), (0x376, 0x376, 1, 1), (0x37F, 0x37F, 1, 116), (0x386, 0x386, 1, 38),
   (0x388, 0x38A, 1, 37), (0x38C, 0x38C, 1, 64), (0x38E, 0x38F, 1, 63), (0x391, 0x3A1, 1, 32),
   (0x3A3, 0x3AB, 1, 32), (0x3CF, 0x3CF, 1, 8), (0x3D2, 0x3D2, 1, -13), (0x3D3, 0x3D3, 1, -6),
   (0x3D4, 0x3D4, 1, -9), (0x3D8, 0x3EE, 2, 1), (0x3F4, 0x3F4, 1, -60), (0x3F7, 0x3F7, 1, 1),
   (0x3F9, 0x3F9, 1, -54), (0x3FA, 0x3FA, 1, 1), (0x3FD, 0x3FF, 1, -130), (0x400, 0x40F, 1, 80),
   (0x410, 0x42F, 1, 32), (0x460, 0x480, 2, 1), (0x48A, 0x4BE, 2, 1), (0x4C0, 0x4C0, 1, 15),
   (0x4C1, 0x4CD, 2, 1), (0x4D0, 0x52E, 2, 1), (0x531, 0x556, 1, 48), (0x10A0, 0x10C5, 1, 7264),
   (0x10C7, 0x10C7, 1, 7264), (0x10CD, 0x10CD, 1, 7264), (0x1C90, 0x1CBA, 1, -3008),
   (0x1CBD, 0x1CBF, 1, -3008), (0x1E00, 0x1E94, 2, 1), (0x1EA0, 0x1EFE, 2, 1),
   (0x1F08, 0x1F0F, 1, -8), (0x1F18, 0x1F1D, 1, -8), (0x1F28, 0x1F2F, 1, -8),
   (0x1F38, 0x1F3F, 1, -8), (0x1F48, 0x1F4D, 1, -8), (0x1F59, 0x1F5F, 2, -8),
   (0x1F68, 0x1F6F, 1, -8), (0x1FB8, 0x1FB9, 1, -8), (0x1FBA, 0x1FBA, 1, -74),
   (0x1FBB, 0x1FBB, 1, -7183), (0x1FC8, 0x1FC8, 1, -86), (0x1FC9, 0x1FC9, 1, -7196),
   (0x1FCA, 0x1FCA, 1, -86), (0x1FCB, 0x1FCB, 1, -7197), (0x1FD8, 0x1FD9, 1, -8),
   (0x1FDA, 0x1FDA, 1, -100), (0x1FDB, 0x1FDB, 1, -7212), (0x1FE8, 0x1FE9, 1, -8),
   (0x1FEA, 0x1FEA, 1, -112), (0x1FEB, 0x1FEB, 1, -7198), (0x1FEC, 0x1FEC, 1, -7),
   (0x1FF8, 0x1FF8, 1, -128), (0x1FF9, 0x1FF9, 1, -7213), (0x1FFA, 0x1FFA, 1, -126),
   (0x1FFB, 0x1FFB, 1, -7213), (0x2102, 0x2102, 1, -8351), (0x2107, 0x2107, 1, -7852),
   (0x210B, 0x210B, 1, -8355), (0x210C, 0x210C, 1, -8356), (0x210D, 0x210D, 1, -8357),
   (0x2110, 0x2110, 1, -8359), (0x2111, 0x2111, 1, -8360), (0x2112, 0x2112, 1, -8358),
   (0x2115, 0x2115, 1, -8359), (0x2119, 0x211B, 1, -8361), (0x211C, 0x211C, 1, -8362),
   (0x211D, 0x211D, 1, -8363), (0x2124, 0x2124, 1, -8362), (0x2126, 0x2126, 1, -7517),
   (0x2128, 0x2128, 1, -8366), (0x212A, 0x212A, 1, -8383), (0x212B, 0x212B, 1, -8262),
   (0x212C, 0x212D, 1, -8394), (0x2130, 0x2131, 1, -8395), (0x2132, 0x2132, 1, 28),
   (0x2133, 0x2133, 1, -8390), (0x213E, 0x213E, 1, -7563), (0x213F, 0x213F, 1, -7551),
   (0x2145, 0x2145, 1, -8417), (0x2183, 0x2183, 1, 1), (0x2C00, 0x2C2F, 1, 48),
   (0x2C60, 0x2C60, 1, 1), (0x2C62, 0x2C62, 1, -10743), (0x2C63, 0x2C63, 1, -3814),
   (0x2C64, 0x2C64, 1, -10727), (0x2C67, 0x2C6B, 2, 1), (0x2C6D, 0x2C6D, 1, -10780),
   (0x2C6E, 0x2C6E, 1, -10749), (0x2C6F, 0x2C6F, 1, -10783), (0x2C70, 0x2C70, 1, -10782),
   (0x2C72, 0x2C72, 1, 1), (0x2C75, 0x2C75, 1, 1), (0x2C7E, 0x2C7F, 1, -10815),
   (0x2C80, 0x2CE2, 2, 1), (0x2CEB, 0x2CED, 2, 1), (0x2CF2, 0x2CF2, 1, 1), (0xA640, 0xA66C, 2, 1),
   (0xA680, 0xA69A, 2, 1), (0xA722, 0xA72E, 2, 1), (0xA732, 0xA76E, 2, 1), (0xA779, 0xA77B, 2, 1),
   (0xA77D, 0xA77D, 1, -35332), (0xA77E, 0xA786, 2, 1), (0xA78B, 0xA78B, 1, 1),
   (0xA78D, 0xA78D, 1, -42280), (0xA790, 0xA792, 2, 1), (0xA796, 0xA7A8, 2, 1),
   (0xA7AA, 0xA7AA, 1, -42308), (0xA7AB, 0xA7AB, 1, -42319), (0xA7AC, 0xA7AC, 1, -42315),
   (0xA7AD, 0xA7AD, 1, -42305), (0xA7AE, 0xA7AE, 1, -42308), (0xA7B0, 0xA7B0, 1, -42258),
   (0xA7B1, 0xA7B1, 1, -42282), (0xA7B2, 0xA7B2, 1, -42261), (0xA7B3, 0xA7B3, 1, 928),
   (0xA7B4, 0xA7C2, 2, 1), (0xA7C4, 0xA7C4, 1, -48), (0xA7C5, 0xA7C5, 1, -42307),
   (0xA7C6, 0xA7C6, 1, -35384), (0xA7C7, 0xA7C9, 2, 1), (0xA7D0, 0xA7D0, 1, 1),
   (0xA7D6, 0xA7D8, 2, 1), (0xA7F5, 0xA7F5, 1, 1),
   (0x10400, 0x10427, 1, 40), (0x104B0, 0x104D3, 1, 40), (0x10570, 0x1057A, 1, 39),
   (0x1057C, 0x1058A, 1, 39), (0x1058C, 0x10592, 1, 39), (0x10594, 0x10595, 1, 39),
   (0x10C80, 0x10CB2, 1, 64), (0x118A0, 0x118BF, 1, 32), (0x16E40, 0x16E5F, 1, 32),
   (0x1D400, 0x1D419, 1, -119711), (0x1D434, 0x1D44D, 1, -119763), (0x1D468, 0x1D481, 1, -119815),
   (0x1D49C, 0x1D49E, 2, -119867), (0x1D49F, 0x1D49F, 1, -119867), (0x1D4A2, 0x1D4A2, 1, -119867),
   (0x1D4A5, 0x1D4A6, 1, -119867), (0x1D4A9, 0x1D4AC, 1, -119867), (0x1D4AE, 0x1D4B5, 1, -119867),
   (0x1D4D0, 0x1D4E9, 1, -119919), (0x1D504, 0x1D505, 1, -119971), (0x1D507, 0x1D50A, 1, -119971),
   (0x1D50D, 0x1D514, 1, -119971), (0x1D516, 0x1D51C, 1, -119971), (0x1D538, 0x1D539, 1, -120023),
   (0x1D53B, 0x1D53E, 1, -120023), (0x1D540, 0x1D544, 1, -120023), (0x1D546, 0x1D546, 1, -120023),
   (0x1D54A, 0x1D550, 1, -120023), (0x1D56C, 0x1D585, 1, -120075), (0x1D5A0, 0x1D5B9, 1, -120127),
   (0x1D5D4, 0x1D5ED, 1, -120179), (0x1D608, 0x1D621, 1, -120231), (0x1D63C, 0x1D655, 1, -120283),
   (0x1D670, 0x1D689, 1, -120335), (0x1D6A8, 0x1D6B8, 1, -119543), (0x1D6B9, 0x1D6B9, 1, -119553),
   (0x1D6BA, 0x1D6C0, 1, -119543), (0x1D6E2, 0x1D6F2, 1, -119601), (0x1D6F3, 0x1D6F3, 1, -119611),
   (0x1D6F4, 0x1D6FA, 1, -119601), (0x1D71C, 0x1D72C, 1, -119659), (0x1D72D, 0x1D72D, 1, -119669),
   (0x1D72E, 0x1D734, 1, -119659), (0x1D756, 0x1D766, 1, -119717), (0x1D767, 0x1D767, 1, -119727),
   (0x1D768, 0x1D76E, 1, -119717), (0x1D790, 0x1D7A0, 1, -119775), (0x1D7A1, 0x1D7A1, 1, -119785),
   (0x1D7A2, 0x1D7A8, 1, -119775), (0x1D7CA, 0x1D7CA, 1, -119789), (0x1E900, 0x1E921, 1, 34)]

/-- A character as it stands in a name: letters in lower case, the full stops of other scripts
as points, wide characters of ASCII in their usual width, and nothing for the characters that
only say how others are to be shown. -/
def foldNameChar (c : Char) : List Char :=
  let point := c.toNat
  if point < firstPoint then [c.toLower]
  else if point == 0x3002 || point == 0xFF61 then ['.']
  else if [0xAD, 0x200B, 0x2060, 0x2064, 0xFEFF].contains point ||
      (0xFE00 ≤ point && point ≤ 0xFE0F) then []
  else if 0xFF01 ≤ point && point ≤ 0xFF5E then [(Char.ofNat (point - 0xFEE0)).toLower]
  else
    match upperRuns.find? fun (first, last, step, _) =>
      first ≤ point && point ≤ last && (point - first) % step == 0 with
    | some (_, _, _, distance) => [Char.ofNat ((point : Int) + distance).toNat]
    | none => [c]

/-- Characters of ASCII that cannot stand in a name. -/
def barredFromNames (c : Char) : Bool :=
  c.toNat ≤ 0x20 || c.toNat == 0x7F ||
    ['%', '#', '/', ':', '<', '>', '?', '@', '[', '\\', ']', '^', '|'].contains c

/-- Characters that may stand in a label outside ASCII. What stands for bytes that are no text
is none of them. -/
def standsInLabel (c : Char) : Bool :=
  Text.isShown c && !barredFromNames c && c != Text.replacement && foldNameChar c == [c]

/-- What stands in front of a label written by the code for labels. -/
def labelMark : List Char := ['x', 'n', '-', '-']

/-- A label in ASCII. -/
def asciiLabel? (label : List Char) : Option (List Char) :=
  if label.all (·.toNat < firstPoint) then
    match Text.dropBeginning? labelMark label with
    | some code => do
      let meant ← decodeLabel? code
      if meant.all (·.toNat < firstPoint) || !meant.all standsInLabel then none
      else if encodeLabel? meant == some code then some label
      else none
    | none => if label.any barredFromNames then none else some label
  else if label.all standsInLabel then (encodeLabel? label).map (labelMark ++ ·)
  else none

/-- A name in ASCII. -/
def asciiName? (name : List Char) : Option (List Char) :=
  ((Text.splitAt (· == '.') (name.flatMap foldNameChar)).mapM asciiLabel?).map
    ['.'].intercalate

end Metasearch.Url
