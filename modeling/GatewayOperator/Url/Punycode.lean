/-!
# Punycode

The ASCII form of a host label with characters outside ASCII (RFC 3492): the ASCII characters first,
then for each other character, in ascending order, the distance to the previous insertion as a number
with a threshold per digit. The thresholds adapt to the size of the distances seen so far.
-/

set_option autoImplicit false

namespace GatewayOperator.Url.Punycode

/-- The letter or decimal digit that stands for a value below 36. -/
def digitChar (d : Nat) : Char :=
  if d < 26 then Char.ofNat (0x61 + d) else Char.ofNat (0x30 + d - 26)

/-- The value of a letter or decimal digit. -/
def digitValue? (c : Char) : Option Nat :=
  let n := c.toNat
  if 0x61 ≤ n ∧ n ≤ 0x7A then some (n - 0x61)
  else if 0x41 ≤ n ∧ n ≤ 0x5A then some (n - 0x41)
  else if 0x30 ≤ n ∧ n ≤ 0x39 then some (n - 0x30 + 26)
  else none

/-- The threshold of the digit at position `k`, counted in steps of 36. -/
def threshold (k bias : Nat) : Nat :=
  if k ≤ bias then 1 else if bias + 26 ≤ k then 26 else k - bias

/-- The threshold of a place is positive, so what is left of a distance gets smaller with each digit. -/
theorem threshold_pos (k bias : Nat) : 1 ≤ threshold k bias := by
  unfold threshold
  split
  · omega
  · split <;> omega

/-- The bias for distances of this size. -/
def skewed (distance k : Nat) : Nat :=
  if 455 < distance then skewed (distance / 35) (k + 36) else k + 36 * distance / (distance + 38)
termination_by distance
decreasing_by exact Nat.div_lt_self (by omega) (by omega)

/-- The bias after a distance, given the number of characters placed so far. -/
def adapt (distance placed : Nat) (first : Bool) : Nat :=
  let scaled := if first then distance / 700 else distance / 2
  skewed (scaled + scaled / placed) 0

/-- The digits of a distance. -/
def digits (bias k q : Nat) : List Char :=
  let t := threshold k bias
  if q < t then [digitChar q]
  else digitChar (t + (q - t) % (36 - t)) :: digits bias (k + 36) ((q - t) / (36 - t))
termination_by q
decreasing_by
  have := threshold_pos k bias
  have := Nat.div_le_self (q - threshold k bias) (36 - threshold k bias)
  omega

/-- A label under encoding: the text so far, the pending distance, the bias and the number of
characters placed. -/
structure Writing where
  text : List Char
  distance : Nat
  bias : Nat
  placed : Nat

/-- The writing after a look at one character of the label while the characters equal to `code` are
placed; `basic` is the number of ASCII characters. -/
def Writing.visit (basic code : Nat) (w : Writing) (c : Char) : Writing :=
  if c.toNat < code then { w with distance := w.distance + 1 }
  else if c.toNat = code then
    { text := w.text ++ digits w.bias 36 w.distance
      distance := 0
      bias := adapt w.distance (w.placed + 1) (w.placed = basic)
      placed := w.placed + 1 }
  else w

/-- The writing after all characters with the given codes, in ascending order from `next` on. -/
def Writing.placeAll (label : List Char) (basic : Nat) : List Nat → Nat → Writing → Writing
  | [], _, w => w
  | code :: codes, next, w =>
    let w := { w with distance := w.distance + (code - next) * (w.placed + 1) }
    let w := label.foldl (Writing.visit basic code) w
    placeAll label basic codes (code + 1) { w with distance := w.distance + 1 }

/-- The encoding of a label, without the mark that announces it. -/
def encode (label : List Char) : List Char :=
  let basic := label.filter fun c => c.toNat < 0x80
  let codes := ((label.filter fun c => 0x80 ≤ c.toNat).map Char.toNat).mergeSort.eraseDups
  let start := if basic.isEmpty then [] else basic ++ ['-']
  (Writing.placeAll label basic.length codes 0x80 ⟨start, 0, 72, basic.length⟩).text

/-- The first number that distances and weights may not reach. -/
def numberBound : Nat := 4294967296

/-- The reading of one distance from position `k` on: the sum and the rest of the text. -/
def readDistance (bias : Nat) : List Char → Nat → Nat → Nat → Option (Nat × List Char)
  | [], _, _, _ => none
  | c :: rest, k, weight, sum =>
    match digitValue? c with
    | none => none
    | some d =>
      let t := threshold k bias
      if numberBound ≤ sum + d * weight then none
      else if d < t then some (sum + d * weight, rest)
      else if numberBound ≤ weight * (36 - t) then none
      else readDistance bias rest (k + 36) (weight * (36 - t)) (sum + d * weight)

/-- The insertions that a text of distances describes. The fuel bounds their number. -/
def insertAll : Nat → Nat → Nat → Nat → List Char → List Char → Option (List Char)
  | _, _, _, _, placed, [] => some placed
  | 0, _, _, _, _, _ :: _ => none
  | fuel + 1, bias, code, sum, placed, rest =>
    match readDistance bias rest 36 1 sum with
    | none => none
    | some (sum', rest') =>
      let size := placed.length + 1
      let code' := code + sum' / size
      let position := sum' % size
      if code'.isValidChar then
        insertAll fuel (adapt (sum' - sum) size (sum = 0)) code' (position + 1)
          (placed.insertIdx position (Char.ofNat code')) rest'
      else none

/-- The label that a text without its mark encodes. -/
def decode? (cs : List Char) : Option (List Char) :=
  let back := cs.reverse
  let tail := back.takeWhile (· ≠ '-')
  let basic := (back.drop (tail.length + 1)).reverse
  insertAll cs.length 72 0x80 0 basic tail.reverse

end GatewayOperator.Url.Punycode
