/-!
# Decimal numerals of 64-bit numbers

A numeral is one or more decimal digits, with at most one plus sign before them; leading zeros are
allowed.  It is read from the left, and the first character that cannot be read decides the error:
one that is no digit, or one with which the number no longer fits in 64 bits.
-/

namespace ZeroTail
namespace Text
namespace Numeral

/-- Why a text is not a numeral. A text with nothing after its sign lacks a digit. -/
inductive Defect
  | empty
  | invalidDigit
  | overflow
  deriving DecidableEq

/-- The sentence that reports a defect. -/
def Defect.message : Defect → String
  | .empty => "cannot parse integer from empty string"
  | .invalidDigit => "invalid digit found in string"
  | .overflow => "number too large to fit in target type"

/-- The first number that does not fit. -/
def bound : Nat := UInt64.size

/-- The value of a decimal digit. -/
def digitValue (digit : Char) : Nat :=
  digit.toNat - '0'.toNat

/-- Read digits after the digits of a number. -/
def readDigits : Nat → List Char → Except Defect Nat
  | number, [] => .ok number
  | number, digit :: later =>
      if digit.isDigit then
        let longer := number * 10 + digitValue digit
        if longer < bound then readDigits longer later else .error .overflow
      else
        .error .invalidDigit

/-- Read a numeral. A minus sign is not a digit. -/
def parse : List Char → Except Defect Nat
  | [] => .error .empty
  | ['+'] => .error .invalidDigit
  | '+' :: digits => readDigits 0 digits
  | digits => readDigits 0 digits

end Numeral
end Text
end ZeroTail
