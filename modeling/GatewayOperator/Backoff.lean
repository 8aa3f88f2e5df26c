import GatewayOperator.Dict
import GatewayOperator.PassFailure

/-!
# Growing delays

The n-th failure in a row of a key waits the base delay times 2^n, but never longer than the greatest
delay, and no more than 31 doublings count. A success, or a failure that awaits a change, ends the row
of its key. Delays are counted in nanoseconds; a product beyond the greatest span of time counts as the
greatest delay.
-/

set_option autoImplicit false

namespace GatewayOperator

/-- A span of time in nanoseconds. -/
structure Span where
  nanos : Nat
  deriving DecidableEq, Repr

namespace Span

/-- A number of milliseconds. -/
def millis (n : Nat) : Span := ⟨n * 1000000⟩

/-- A number of seconds. -/
def seconds (n : Nat) : Span := ⟨n * 1000000000⟩

/-- No time at all. -/
def zero : Span := ⟨0⟩

/-- The greatest span of time, in nanoseconds. -/
def greatest : Nat := 18446744073709551615 * 1000000000 + 999999999

/-- A span several times over, unless no span is that long. -/
def times? (s : Span) (factor : Nat) : Option Span :=
  if greatest < s.nanos * factor then none else some ⟨s.nanos * factor⟩

end Span

/-- What the controller does with an object next. -/
inductive Action where
  /-- Look at it again after a delay. -/
  | requeue (delay : Span)
  /-- Wait for it to change. -/
  | awaitChange
  deriving DecidableEq, Repr

/-- The delays of a controller and the failures in a row of each key. -/
structure Backoff where
  base : Span
  most : Span
  failures : Dict Nat
  deriving Repr

namespace Backoff

/-- Delays between a base and a greatest delay, which is at least the base, and no failures. -/
def new (base most : Span) : Backoff :=
  ⟨base, ⟨max most.nanos base.nanos⟩, Dict.empty⟩

/-- The greatest number that a count or a factor can be: they are words of 32 bits. -/
def countLimit : Nat := 4294967295

/-- How many times the base delay is waited after a number of earlier failures. A power that is too great
for a word is the greatest word. -/
def factor (earlier : Nat) : Nat := min (Nat.pow 2 (min earlier 31)) countLimit

/-- No power is too great for a word. -/
theorem factor_eq (earlier : Nat) : factor earlier = Nat.pow 2 (min earlier 31) := by
  have hpower : Nat.pow 2 (min earlier 31) ≤ Nat.pow 2 31 :=
    Nat.pow_le_pow_right (by decide) (Nat.min_le_right earlier 31)
  exact Nat.min_eq_left (Nat.le_trans hpower (by decide))

/-- The delay after a number of earlier failures. -/
def delay (b : Backoff) (earlier : Nat) : Span :=
  match b.base.times? (factor earlier) with
  | some product => ⟨min product.nanos b.most.nanos⟩
  | none => b.most

/-- Record a failure of a key, and the delay before its next attempt. -/
def next (b : Backoff) (key : String) : Span × Backoff :=
  let earlier := (b.failures.find? key).getD 0
  (b.delay earlier, { b with failures := b.failures.insert key (min (earlier + 1) countLimit) })

/-- Forget the failures of a key. -/
def reset (b : Backoff) (key : String) : Backoff :=
  { b with failures := b.failures.erase key }

/-- The follow-up on a failure of a key. -/
def actionFor (b : Backoff) (key : String) (failure : PassFailure) : Action × Backoff :=
  match failure.requeue with
  | .immediately => (.requeue Span.zero, b)
  | .withBackoff =>
    let (delay, b) := b.next key
    (.requeue delay, b)
  | .awaitChange => (.awaitChange, b.reset key)

end Backoff

end GatewayOperator
