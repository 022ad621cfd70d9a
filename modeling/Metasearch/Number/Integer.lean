/-
Reading whole numbers of a bounded range from decimal text. A sign may stand in front; the
first character that is no digit, or the first digit that carries the number out of the range,
whichever comes first from the left, decides what is wrong with the text.
-/

namespace Metasearch.Number

/-- What is wrong with the text of a whole number. -/
inductive IntegerError
  | empty
  | invalidDigit
  | tooLarge
  | tooSmall
  deriving DecidableEq, Repr

/-- The wording of the reason. -/
def IntegerError.message : IntegerError → String
  | .empty => "cannot parse integer from empty string"
  | .invalidDigit => "invalid digit found in string"
  | .tooLarge => "number too large to fit in target type"
  | .tooSmall => "number too small to fit in target type"

/-! ### Ranges -/

/-- A power of two. -/
def twoTo (exponent : Nat) : Nat := Nat.pow 2 exponent

/-- A power of ten. -/
def tenTo (exponent : Nat) : Nat := Nat.pow 10 exponent

/-- The greatest signed number of 64 bits. -/
def maxSigned : Nat := twoTo 63 - 1

/-- The greatest unsigned number of 64 bits. -/
def maxUnsigned : Nat := twoTo 64 - 1

/-- The greatest signed number of 32 bits. -/
def maxSigned32 : Nat := twoTo 31 - 1

/-- The greatest unsigned number of 32 bits. -/
def maxUnsigned32 : Nat := twoTo 32 - 1

/-- A number is among the signed ones up to `limit`: there is one more below zero than above. -/
def isWithin (limit : Nat) (value : Int) : Bool :=
  -(limit : Int) - 1 ≤ value && value ≤ limit

/-- The nearest of the signed numbers up to `limit`. -/
def clamp (limit : Nat) (value : Int) : Int :=
  if value < -(limit : Int) - 1 then -(limit : Int) - 1
  else if (limit : Int) < value then limit
  else value

/-! ### Reading -/

/-- The value of a decimal digit. -/
def digitValue (c : Char) : Nat :=
  c.toNat - 48

/-- Reads decimal digits behind those that made `whole`; the number may not pass `limit`. -/
def readDigits (limit : Nat) (whole : Nat) (beyond : IntegerError) :
    List Char → Except IntegerError Nat
  | [] => .ok whole
  | c :: rest =>
    if c.isDigit then
      let next := whole * 10 + digitValue c
      if next ≤ limit then readDigits limit next beyond rest else .error beyond
    else .error .invalidDigit

/-- Reads an unsigned number up to `limit`; a plus sign may stand in front. -/
def readUnsigned (limit : Nat) : List Char → Except IntegerError Nat
  | [] => .error .empty
  | ['+'] => .error .invalidDigit
  | '+' :: digits => readDigits limit 0 .tooLarge digits
  | digits => readDigits limit 0 .tooLarge digits

/-- Reads a signed number of 64 bits; a plus or minus sign may stand in front. -/
def readSigned : List Char → Except IntegerError Int
  | [] => .error .empty
  | ['+'] => .error .invalidDigit
  | ['-'] => .error .invalidDigit
  | '+' :: digits => (readDigits maxSigned 0 .tooLarge digits).map Int.ofNat
  | '-' :: digits => (readDigits (maxSigned + 1) 0 .tooSmall digits).map fun size => -(size : Int)
  | digits => (readDigits maxSigned 0 .tooLarge digits).map Int.ofNat

/-- The number brought into the range of signed numbers of 64 bits by wrapping around. -/
def wrapSigned (value : Int) : Int :=
  Int.bmod value (maxUnsigned + 1)

end Metasearch.Number
