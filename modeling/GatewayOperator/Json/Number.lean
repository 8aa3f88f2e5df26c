import GatewayOperator.Json.Shortest

/-!
# Numbers in JSON texts

A numeral without fraction and exponent that fits in 64 bits, signed or unsigned, is an integer, but
for minus zero. Every other numeral is a 64-bit binary number: its digits, as far as they fit in 64
bits, are scaled by a power of ten in floating point. Integers are written in decimal, other numbers
as their shortest decimal: positional with at least one place for exponents from -5 to 15, and
otherwise with a signed exponent.
-/

set_option autoImplicit false

namespace GatewayOperator.Json

/-- A number: an integer, or a 64-bit binary number by its bits. -/
inductive Number where
  | int (n : Int)
  | float (bits : UInt64)
  deriving DecidableEq, Repr

/-- A numeral as written. -/
structure Numeral where
  negative : Bool
  whole : List Char
  fraction : List Char
  /-- Sign (true for minus) and digits, if there is an exponent. -/
  exponent : Option (Bool × List Char)
  /-- Whether a fraction is written. -/
  pointed : Bool
  deriving DecidableEq, Repr

namespace Number

/-- The greatest unsigned integer of 64 bits. -/
def greatest : Nat := 18446744073709551615

/-- The leading digits that fit in 64 bits, with the number of digits taken. -/
def leadingDigits : List Char → Nat → Nat → Nat × Nat
  | [], sum, taken => (sum, taken)
  | c :: rest, sum, taken =>
    let next := sum * 10 + Text.digitValue c
    if greatest < next then (sum, taken) else leadingDigits rest next (taken + 1)

/-- A 64-bit number of digits scaled by a power of ten. A result that overflows is no number; one
that is too small is zero. -/
def scale? (digits : Nat) (e : Int) : Option Float :=
  let f := Float.ofScientific digits false 0
  if 308 < e then
    if digits = 0 then some f else none
  else if 0 ≤ e then
    let g := f * Float.ofScientific 1 false e.toNat
    if g.isInf then none else some g
  else if -308 ≤ e then some (f / Float.ofScientific 1 false (-e).toNat)
  else if -616 ≤ e then
    some (f / Float.ofScientific 1 false 308 / Float.ofScientific 1 false (-e - 308).toNat)
  else some 0

/-- The number that a numeral denotes, or nothing if it is too great. -/
def ofNumeral? (n : Numeral) : Option Number :=
  let whole := Text.decimalValue n.whole
  if !n.pointed && n.exponent.isNone && !n.negative && whole ≤ greatest then
    some (.int whole)
  else if !n.pointed && n.exponent.isNone && n.negative && whole ≠ 0 && whole ≤ 9223372036854775808 then
    some (.int (-(whole : Int)))
  else
    let (digits, taken) := leadingDigits (n.whole ++ n.fraction) 0 0
    let shift : Int := (n.whole.length : Int) - taken
    let written : Int := match n.exponent with
      | none => 0
      | some (true, ds) => -(Text.decimalValue ds : Int)
      | some (false, ds) => Text.decimalValue ds
    (scale? digits (shift + written)).map fun f =>
      .float (if n.negative then (-f).toBits else f.toBits)

/-- The text of a positive decimal number that is not whole-numbered by type. -/
def decimalText (d : Shortest.Decimal) : List Char :=
  let ds := Text.decimal d.digits
  let point : Int := (ds.length : Int) + d.exponent
  if 0 ≤ d.exponent ∧ point ≤ 16 then
    ds ++ List.replicate d.exponent.toNat '0' ++ ['.', '0']
  else if 0 < point ∧ point ≤ 16 then
    ds.take point.toNat ++ '.' :: ds.drop point.toNat
  else if -5 < point ∧ point ≤ 0 then
    '0' :: '.' :: (List.replicate (-point).toNat '0' ++ ds)
  else
    let e := point - 1
    let mantissa := match ds with
      | [] => []
      | [c] => [c]
      | c :: rest => c :: '.' :: rest
    mantissa ++ 'e' :: (if e < 0 then '-' else '+') :: Text.decimal e.natAbs

/-- The text of a 64-bit binary number. Infinities and NaN have no numeral and read `null`. -/
def floatText (bits : UInt64) : List Char :=
  let sign := if 9223372036854775808 ≤ bits.toNat then ['-'] else []
  if bits.toNat % 9223372036854775808 = 0 then sign ++ ['0', '.', '0']
  else match Shortest.Binary.ofBits? bits with
    | none => "null".toList
    | some b => sign ++ decimalText b.shortest

/-- The text of a number. -/
def chars : Number → List Char
  | .int n => Text.decimalInt n
  | .float bits => floatText bits

/-- Whether two numbers are equal as values: integers by value, others as floating-point numbers. -/
def same : Number → Number → Bool
  | .int a, .int b => a == b
  | .float a, .float b => Float.ofBits a == Float.ofBits b
  | _, _ => false

end Number

end GatewayOperator.Json
