/-
Text as bytes. Encoding gives a character its one to four bytes; decoding never fails, and
puts the replacement character in the place of what is no character. What one replacement
character stands for is the longest beginning of a character that the bytes still allow, or a
single byte where no character can begin.
-/

namespace Metasearch.Text

/-- The bytes of one character. -/
def charBytes (c : Char) : List UInt8 :=
  let point := c.toNat
  if point < 0x80 then [UInt8.ofNat point]
  else if point < 0x800 then
    [UInt8.ofNat (0xC0 + point / 0x40), UInt8.ofNat (0x80 + point % 0x40)]
  else if point < 0x10000 then
    [UInt8.ofNat (0xE0 + point / 0x1000), UInt8.ofNat (0x80 + point / 0x40 % 0x40),
      UInt8.ofNat (0x80 + point % 0x40)]
  else
    [UInt8.ofNat (0xF0 + point / 0x40000), UInt8.ofNat (0x80 + point / 0x1000 % 0x40),
      UInt8.ofNat (0x80 + point / 0x40 % 0x40), UInt8.ofNat (0x80 + point % 0x40)]

/-- The bytes of a text. -/
def encode (text : List Char) : List UInt8 :=
  text.flatMap charBytes

/-- The number of bytes of a text. -/
def byteLength (text : List Char) : Nat :=
  (encode text).length

/-- Stands where the bytes are no character. -/
def replacement : Char := '\uFFFD'

/-- A byte that continues a character. -/
def continues (byte : UInt8) : Bool :=
  0x80 ≤ byte && byte ≤ 0xBF

/-- The second bytes allowed behind the first byte of a character of three bytes: no longer form
than needed, and no surrogate. -/
def secondOfThree (first second : UInt8) : Bool :=
  if first == 0xE0 then 0xA0 ≤ second && second ≤ 0xBF
  else if first == 0xED then 0x80 ≤ second && second ≤ 0x9F
  else continues second

/-- The second bytes allowed behind the first byte of a character of four bytes: no longer form
than needed, and nothing above the last code point. -/
def secondOfFour (first second : UInt8) : Bool :=
  if first == 0xF0 then 0x90 ≤ second && second ≤ 0xBF
  else if first == 0xF4 then 0x80 ≤ second && second ≤ 0x8F
  else continues second

/-- The text of the bytes, with a replacement character for what is no character. -/
def decode : List UInt8 → List Char
  | [] => []
  | first :: rest =>
    if first < 0x80 then Char.ofNat first.toNat :: decode rest
    else if 0xC2 ≤ first && first ≤ 0xDF then
      match rest with
      | second :: rest₂ =>
        if continues second then
          Char.ofNat ((first.toNat - 0xC0) * 0x40 + (second.toNat - 0x80)) :: decode rest₂
        else replacement :: decode (second :: rest₂)
      | [] => [replacement]
    else if 0xE0 ≤ first && first ≤ 0xEF then
      match rest with
      | second :: rest₂ =>
        if secondOfThree first second then
          match rest₂ with
          | third :: rest₃ =>
            if continues third then
              Char.ofNat ((first.toNat - 0xE0) * 0x1000 + (second.toNat - 0x80) * 0x40 +
                (third.toNat - 0x80)) :: decode rest₃
            else replacement :: decode (third :: rest₃)
          | [] => [replacement]
        else replacement :: decode (second :: rest₂)
      | [] => [replacement]
    else if 0xF0 ≤ first && first ≤ 0xF4 then
      match rest with
      | second :: rest₂ =>
        if secondOfFour first second then
          match rest₂ with
          | third :: rest₃ =>
            if continues third then
              match rest₃ with
              | fourth :: rest₄ =>
                if continues fourth then
                  Char.ofNat ((first.toNat - 0xF0) * 0x40000 + (second.toNat - 0x80) * 0x1000 +
                    (third.toNat - 0x80) * 0x40 + (fourth.toNat - 0x80)) :: decode rest₄
                else replacement :: decode (fourth :: rest₄)
              | [] => [replacement]
            else replacement :: decode (third :: rest₃)
          | [] => [replacement]
        else replacement :: decode (second :: rest₂)
      | [] => [replacement]
    else replacement :: decode rest

end Metasearch.Text
