/-! # Decimal numerals

Reading: a numeral is an optional sign and ASCII digits, and it is refused when its value does not
fit the range asked for. Writing: `decimal` gives the digits without leading zeros.
-/

namespace FarmScript.Text
set_option autoImplicit false

/-- Whether a character is one of the ASCII digits. -/
def isDigit (c : Char) : Bool := '0' ≤ c && c ≤ '9'

/-- The number that a digit stands for. -/
def digitValue (c : Char) : Nat := c.toNat - '0'.toNat

/-- The value of a run of digits, most significant first. -/
def digitsValue (digits : List Char) : Nat :=
  digits.foldl (fun value d => 10 * value + digitValue d) 0

/-- The decimal digits of a number. -/
def decimal (n : Nat) : List Char := Nat.toDigits 10 n

/-- The decimal numeral of an integer, with a minus sign when it is negative. -/
def signedDecimal (n : Int) : List Char :=
  if n < 0 then '-' :: decimal n.natAbs else decimal n.natAbs

/-- A number as text. -/
def numeral (n : Nat) : String := String.ofList (decimal n)

/-- An integer as text. -/
def signedNumeral (n : Int) : String := String.ofList (signedDecimal n)

/-! ## Reading -/

/-- The value of a nonempty run of digits and nothing else. -/
def unsigned? (text : List Char) : Option Nat :=
  if text ≠ [] ∧ text.all isDigit then some (digitsValue text) else none

/-- The value of a numeral that may carry a plus sign. -/
def natural? : List Char → Option Nat
  | '+' :: digits => unsigned? digits
  | digits => unsigned? digits

/-- The value of a numeral that may carry a plus or a minus sign. -/
def integer? : List Char → Option Int
  | '-' :: digits => (unsigned? digits).map fun n => -(n : Int)
  | text => (natural? text).map Int.ofNat

/-! ## Words of fixed width -/

/-- The 32-bit word of a number that fits. -/
def word32? (n : Nat) : Option UInt32 := if n < UInt32.size then some (UInt32.ofNat n) else none

/-- The 64-bit word of a number that fits. -/
def word64? (n : Nat) : Option UInt64 := if n < UInt64.size then some (UInt64.ofNat n) else none

/-- The signed 64-bit word of an integer that fits. -/
def signed64? (n : Int) : Option Int64 :=
  if Int64.minValue.toInt ≤ n ∧ n ≤ Int64.maxValue.toInt then some (Int64.ofInt n) else none

end FarmScript.Text
