/-!
# Decimal and hexadecimal digits

Whole numbers as digit texts and back. A number is written without leading zeros, and reading a
digit text gives the value it denotes.
-/

set_option autoImplicit false

namespace GatewayOperator.Text

/-- The character of a digit below sixteen, in lower case. -/
def digitChar (d : Nat) : Char :=
  if d < 10 then Char.ofNat (48 + d) else Char.ofNat (87 + d)

/-- The decimal digits of a number, without leading zeros. -/
def decimal (n : Nat) : List Char :=
  if n < 10 then [digitChar n] else decimal (n / 10) ++ [digitChar (n % 10)]
termination_by n
decreasing_by omega

/-- The decimal digits of a whole number, with a minus sign if it is negative. -/
def decimalInt (n : Int) : List Char :=
  if n < 0 then '-' :: decimal n.natAbs else decimal n.natAbs

/-- Whether a character is an ASCII decimal digit. -/
def isDigit (c : Char) : Bool :=
  48 ≤ c.toNat && c.toNat ≤ 57

/-- The value of a decimal digit. -/
def digitValue (c : Char) : Nat :=
  c.toNat - 48

/-- The number that a list of decimal digits denotes; the empty list denotes zero. -/
def decimalValue (cs : List Char) : Nat :=
  cs.foldl (fun n c => n * 10 + digitValue c) 0

/-- The value of a hexadecimal digit in either case. -/
def hexValue? (c : Char) : Option Nat :=
  let n := c.toNat
  if 48 ≤ n ∧ n ≤ 57 then some (n - 48)
  else if 97 ≤ n ∧ n ≤ 102 then some (n - 87)
  else if 65 ≤ n ∧ n ≤ 70 then some (n - 55)
  else none

/-- The hexadecimal digits of a number in lower case, without leading zeros. -/
def hex (n : Nat) : List Char :=
  if n < 16 then [digitChar n] else hex (n / 16) ++ [digitChar (n % 16)]
termination_by n
decreasing_by omega

/-- A byte as two hexadecimal digits in lower case. -/
def hexByte (b : UInt8) : List Char :=
  [digitChar (b.toNat / 16), digitChar (b.toNat % 16)]

/-- A byte as two hexadecimal digits in upper case. -/
def upperHexByte (b : UInt8) : List Char :=
  (hexByte b).map Char.toUpper

/-- A number in decimal with at least `width` digits, filled with zeros in front. -/
def padded (width n : Nat) : List Char :=
  let ds := decimal n
  List.replicate (width - ds.length) '0' ++ ds

/-- The value of a text that is a non-empty run of decimal digits. -/
def readNat? (cs : List Char) : Option Nat :=
  if cs ≠ [] ∧ cs.all isDigit then some (decimalValue cs) else none

end GatewayOperator.Text
