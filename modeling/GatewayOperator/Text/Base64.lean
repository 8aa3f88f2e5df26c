/-!
# Base64

The standard alphabet with padding. Reading is strict: every text that is read is the one that writing
gives back. A text that is refused names the first thing wrong with it: a symbol outside the alphabet
or in the wrong place, a length that no bytes have, bits after the last byte, or missing padding.
-/

set_option autoImplicit false

namespace GatewayOperator.Text.Base64

/-- Why a text is no Base64. -/
inductive Fault where
  | symbol (offset : Nat) (byte : UInt8)
  | length (n : Nat)
  | lastSymbol (offset : Nat) (byte : UInt8)
  | padding
  deriving DecidableEq, Repr

/-- The wording of a fault. -/
def Fault.message : Fault → String
  | .symbol offset byte => s!"Invalid symbol {byte.toNat}, offset {offset}."
  | .length n => s!"Invalid input length: {n}"
  | .lastSymbol offset byte => s!"Invalid last symbol {byte.toNat}, offset {offset}."
  | .padding => "Invalid padding"

/-- The value of a symbol. -/
def value? (b : UInt8) : Option Nat :=
  let n := b.toNat
  if 65 ≤ n ∧ n ≤ 90 then some (n - 65)
  else if 97 ≤ n ∧ n ≤ 122 then some (n - 71)
  else if 48 ≤ n ∧ n ≤ 57 then some (n + 4)
  else if n = 43 then some 62
  else if n = 47 then some 63
  else none

/-- The symbol of a value below 64. -/
def symbol (v : Nat) : Char :=
  if v < 26 then Char.ofNat (65 + v)
  else if v < 52 then Char.ofNat (71 + v)
  else if v < 62 then Char.ofNat (v - 4)
  else if v = 62 then '+'
  else '/'

/-- The text of bytes. -/
def encode : List UInt8 → List Char
  | [] => []
  | [a] =>
    let n := a.toNat
    [symbol (n / 4), symbol (n % 4 * 16), '=', '=']
  | [a, b] =>
    let n := a.toNat * 256 + b.toNat
    [symbol (n / 1024), symbol (n / 16 % 64), symbol (n % 16 * 4), '=']
  | a :: b :: c :: rest =>
    let n := (a.toNat * 256 + b.toNat) * 256 + c.toNat
    symbol (n / 262144) :: symbol (n / 4096 % 64) :: symbol (n / 64 % 64) :: symbol (n % 64) ::
      encode rest

/-- The value of a symbol that stands at an offset. -/
def symbolAt (offset : Nat) (b : UInt8) : Except Fault Nat :=
  match value? b with
  | some v => .ok v
  | none => .error (.symbol offset b)

/-- The symbols of the last group and the number of pads after them. -/
def lastGroup : Nat → List UInt8 → Nat → List (UInt8 × Nat) → Nat → Except Fault (List (UInt8 × Nat) × Nat)
  | _, [], _, symbols, pads => .ok (symbols.reverse, pads)
  | start, b :: rest, i, symbols, pads =>
    if b = 61 then
      if i < 2 then .error (.symbol (start + i) b)
      else lastGroup start rest (i + 1) symbols (pads + 1)
    else if 0 < pads then .error (.symbol (start + i - pads) 61)
    else do
      let v ← symbolAt (start + i) b
      lastGroup start rest (i + 1) ((b, v) :: symbols) pads

/-- The bytes of the last group, which starts at an offset and holds at most four symbols. -/
def decodeLast (start : Nat) (group : List UInt8) : Except Fault (List UInt8) := do
  let (symbols, pads) ← lastGroup start group 0 [] 0
  let count := symbols.length
  if count < 2 then .error (.length (start + count))
  else if (count + pads) % 4 ≠ 0 then .error .padding
  else
    let sum : Nat := symbols.foldl (fun n s => n * 64 + s.2) 0
    let spare : Nat := if count = 2 then 16 else if count = 3 then 4 else 1
    let n : Nat := sum / spare
    if sum % spare ≠ 0 then
      .error (.lastSymbol (start + count - 1) ((symbols.getLast?.map Prod.fst).getD 0))
    else if count = 2 then .ok [UInt8.ofNat n]
    else if count = 3 then .ok [UInt8.ofNat (n / 256), UInt8.ofNat (n % 256)]
    else .ok [UInt8.ofNat (n / 65536), UInt8.ofNat (n / 256 % 256), UInt8.ofNat (n % 256)]

/-- The bytes of symbols from an offset on. A group with another one after it is complete and has no
pads. -/
def decodeFrom (start : Nat) : List UInt8 → Except Fault (List UInt8)
  | a :: b :: c :: d :: e :: rest => do
    let p ← symbolAt start a
    let q ← symbolAt (start + 1) b
    let r ← symbolAt (start + 2) c
    let s ← symbolAt (start + 3) d
    let n := ((p * 64 + q) * 64 + r) * 64 + s
    let tail ← decodeFrom (start + 4) (e :: rest)
    pure (UInt8.ofNat (n / 65536) :: UInt8.ofNat (n / 256 % 256) :: UInt8.ofNat (n % 256) :: tail)
  | [] => .ok []
  | group => decodeLast start group

/-- The bytes of a text. A stray symbol that alone follows complete groups is named first, as it is
most often a line end. -/
def decode (text : List UInt8) : Except Fault (List UInt8) :=
  match text.length % 4, text.getLast? with
  | 1, some b =>
    if b ≠ 61 ∧ (value? b).isNone then .error (.symbol (text.length - 1) b) else decodeFrom 0 text
  | _, _ => decodeFrom 0 text

/-- The bytes of a text, if it is Base64. -/
def decode? (text : List UInt8) : Option (List UInt8) := (decode text).toOption

end GatewayOperator.Text.Base64
