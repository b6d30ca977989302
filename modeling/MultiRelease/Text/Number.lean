/-!
# Reading a sixteen-bit number

Release numbers are written in decimal and have sixteen bits.  A single plus sign may stand in
front, and leading zeros are allowed.  The reader goes from left to right and stops at the first
character that is no digit or at the first digit that leaves the range, whichever comes first.
-/

set_option autoImplicit false

namespace MultiRelease.Text

/-- Why a text is not a sixteen-bit number. -/
inductive NumberFault where
  | noDigits
  | notADigit
  | tooLarge
deriving Repr, DecidableEq

/-- The wording of a number fault. -/
def NumberFault.message : NumberFault → String
  | .noDigits => "cannot parse integer from empty string"
  | .notADigit => "invalid digit found in string"
  | .tooLarge => "number too large to fit in target type"

/-- Whether a character is one of the ten ASCII digits. -/
def isDecimalDigit (c : Char) : Bool := '0' ≤ c && c ≤ '9'

/-- The value of an ASCII digit. -/
def digitValue (c : Char) : Nat := c.toNat - 48

/-- Appends decimal digits to a number that is already in range. -/
def appendDigits : Nat → List Char → Except NumberFault Nat
  | n, [] => .ok n
  | n, c :: rest =>
    if isDecimalDigit c then
      if n * 10 + digitValue c < 65536 then appendDigits (n * 10 + digitValue c) rest
      else .error .tooLarge
    else .error .notADigit

/-- The number that the characters write. -/
def number16Chars : List Char → Except NumberFault UInt16
  | [] => .error .noDigits
  | '+' :: [] => .error .notADigit
  | '+' :: digits => (appendDigits 0 digits).map Nat.toUInt16
  | digits => (appendDigits 0 digits).map Nat.toUInt16

/-- The number that a text writes. -/
def number16 (text : String) : Except NumberFault UInt16 := number16Chars text.toList

/-- The number that a text writes, if it writes one. -/
def number16? (text : String) : Option UInt16 := (number16 text).toOption

end MultiRelease.Text
