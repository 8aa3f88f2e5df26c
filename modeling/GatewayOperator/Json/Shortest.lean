import GatewayOperator.Text.Decimal

/-!
# The shortest decimal of a binary number

A 64-bit binary number is m · 2 ^ q. The reals that round to it form an interval around it, with its
ends included exactly when m is even. Its shortest decimal has as few digits as a decimal in that
interval can have, and is the nearest of those. The search is in exact arithmetic: for each number of
digits it tests the two neighbours of the value on the decimal grid of that width.
-/

set_option autoImplicit false

namespace GatewayOperator.Json.Shortest

/-- A finite positive 64-bit binary number: mantissa and binary exponent. -/
structure Binary where
  mantissa : Nat
  exponent : Int
  deriving DecidableEq, Repr

/-- The parts of a bit pattern without its sign bit, or nothing for zero, infinity and NaN. -/
def Binary.ofBits? (bits : UInt64) : Option Binary :=
  let n : Nat := bits.toNat % 9223372036854775808
  let biased : Nat := n / 4503599627370496
  let fraction : Nat := n % 4503599627370496
  if biased = 2047 ∨ n = 0 then none
  else if biased = 0 then some ⟨fraction, -1074⟩
  else some ⟨4503599627370496 + fraction, (biased : Int) - 1075⟩

/-- A positive decimal: its digits as a number, and the power of ten they are multiplied with. -/
structure Decimal where
  digits : Nat
  exponent : Int
  deriving DecidableEq, Repr

/-- The exponent of the first digit of the positive fraction num / den. -/
def leadingExponent (num den : Nat) : Int :=
  if den ≤ num then ((Text.decimal (num / den)).length : Int) - 1
  else -((Text.decimal ((den + num - 1) / num - 1)).length : Int)

/-- The fraction num / den divided by a power of ten. -/
def scaleDown (num den : Nat) (e : Int) : Nat × Nat :=
  if 0 ≤ e then (num, den * Nat.pow 10 e.toNat) else (num * Nat.pow 10 (-e).toNat, den)

/-- Take trailing zeros off the digits, at most `fuel` of them. -/
def Decimal.strip : Nat → Decimal → Decimal
  | 0, d => d
  | fuel + 1, d =>
    if d.digits ≠ 0 ∧ d.digits % 10 = 0 then Decimal.strip fuel ⟨d.digits / 10, d.exponent + 1⟩
    else d

/-- The decimal of `n` digits that rounds to the number and is nearest to it, if one does. The
fraction `value / den` is four times the number; `low` and `high` are the ends of the interval. -/
def onGrid? (value low high den : Nat) (closed : Bool) (lead : Int) (n : Nat) : Option Decimal :=
  let e := lead - (n : Int) + 1
  let (v, d) := scaleDown value den e
  let (l, _) := scaleDown low den e
  let (h, _) := scaleDown high den e
  let below := v / d
  let above := below + 1
  let inside (c : Nat) : Bool :=
    if closed then l ≤ c * d && c * d ≤ h else l < c * d && c * d < h
  if inside below && inside above then
    let first := v - below * d
    let second := above * d - v
    if first < second || (first == second && below % 2 == 0) then some ⟨below, e⟩
    else some ⟨above, e⟩
  else if inside below then some ⟨below, e⟩
  else if inside above then some ⟨above, e⟩
  else none

/-- The shortest decimal that rounds to a binary number. -/
def Binary.shortest (b : Binary) : Decimal :=
  let lowStep := if b.mantissa = 4503599627370496 ∧ -1074 < b.exponent then 1 else 2
  let unit : Nat × Nat :=
    if 2 ≤ b.exponent then (Nat.pow 2 (b.exponent - 2).toNat, 1) else (1, Nat.pow 2 (2 - b.exponent).toNat)
  let value := 4 * b.mantissa * unit.1
  let low := (4 * b.mantissa - lowStep) * unit.1
  let high := (4 * b.mantissa + 2) * unit.1
  let lead := leadingExponent value unit.2
  let found := (List.range 17).findSome? fun i =>
    onGrid? value low high unit.2 (b.mantissa % 2 == 0) lead (i + 1)
  Decimal.strip 17 (found.getD ⟨b.mantissa, b.exponent⟩)

end GatewayOperator.Json.Shortest
