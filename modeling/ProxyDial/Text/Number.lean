set_option autoImplicit false

/-! Reading unsigned numbers from their digits. -/

namespace ProxyDial.Text

def isDigit (c : Char) : Bool := '0' ≤ c && c ≤ '9'

def digitValue (c : Char) : Nat := c.toNat - '0'.toNat

/-- The number that decimal digits write, without a bound. -/
def decimalValue (digits : List Char) : Nat :=
  digits.foldl (fun value digit => 10 * value + digitValue digit) 0

/-- A number below `bound` from its digits, of which there is at least one. -/
def readDigits? (bound : Nat) (digits : List Char) : Option Nat :=
  if !digits.isEmpty && digits.all isDigit && decimalValue digits < bound then
    some (decimalValue digits)
  else none

/-- The same, where a plus sign may stand before the digits. -/
def readUnsigned? (bound : Nat) : List Char → Option Nat
  | '+' :: digits => readDigits? bound digits
  | digits => readDigits? bound digits

/-- A number of sixteen bits. -/
def readUInt16? (text : List Char) : Option UInt16 :=
  (readUnsigned? 65536 text).map UInt16.ofNat

/-- The value of a hexadecimal digit of either case. -/
def hexDigitValue? (c : Char) : Option Nat :=
  if '0' ≤ c ∧ c ≤ '9' then some (c.toNat - '0'.toNat)
  else if 'a' ≤ c ∧ c ≤ 'f' then some (c.toNat - 'a'.toNat + 10)
  else if 'A' ≤ c ∧ c ≤ 'F' then some (c.toNat - 'A'.toNat + 10)
  else none

end ProxyDial.Text
