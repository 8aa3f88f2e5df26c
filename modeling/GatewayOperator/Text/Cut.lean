import GatewayOperator.Text.Utf8

/-!
# Cutting texts

A text of several fields is cut at each occurrence of a separator.

A text that is too long in bytes is cut where a character ends. The place is found from the limit
backwards, one byte at a time. Two things could go wrong on the way: the search could step below the
start of the text, and the text could be cut inside of a character. Both are kept apart from every text
here, and neither happens.
-/

set_option autoImplicit false

namespace GatewayOperator.Text

/-! ## Fields between separators -/

/-- A text cut at each occurrence of a character. -/
def splitAt (separator : Char) : List Char → List (List Char)
  | [] => [[]]
  | c :: rest =>
    if c = separator then [] :: splitAt separator rest
    else
      match splitAt separator rest with
      | [] => [[c]]
      | first :: others => (c :: first) :: others

/-- Texts joined by a character. -/
def joinWith (separator : Char) : List (List Char) → List Char
  | [] => []
  | [x] => x
  | x :: rest => x ++ separator :: joinWith separator rest

/-! ## Texts that are too long -/

/-- Whether a byte starts a character. The others continue one. -/
def isLeading (b : UInt8) : Bool := b.toNat < 0x80 || 0xC0 ≤ b.toNat

/-- Whether an offset into the bytes of a text is one of its ends or stands before a character. -/
def isBoundary (bytes : List UInt8) (offset : Nat) : Bool :=
  offset = 0 ||
    match bytes[offset]? with
    | some b => isLeading b
    | none => offset = bytes.length

/-- The first boundary from an offset backwards. Nothing if the search would step below the start. -/
def boundaryFrom? (bytes : List UInt8) : Nat → Option Nat
  | 0 => if isBoundary bytes 0 then some 0 else none
  | offset + 1 =>
    if isBoundary bytes (offset + 1) then some (offset + 1) else boundaryFrom? bytes offset

/-- The text before an offset into its bytes. Nothing if the offset is no boundary; all of it if the
offset lies behind its end. -/
def truncate? (s : String) (offset : Nat) : Option String :=
  let bytes := utf8 s
  if bytes.length < offset then some s
  else if isBoundary bytes offset then some (Utf8.readLossy (bytes.take offset))
  else none

/-- A text cut to a number of bytes. -/
def cut? (limit : Nat) (s : String) : Option String :=
  if limit < (utf8 s).length then (boundaryFrom? (utf8 s) limit).bind (truncate? s) else some s

/-- Every text has a boundary at its start, where the search for one ends at the latest. -/
theorem isBoundary_zero (bytes : List UInt8) : isBoundary bytes 0 = true := rfl

/-- The search ends at the greatest boundary that is not behind the offset. The start is a boundary, so there
is always one. -/
theorem exists_boundaryFrom? (bytes : List UInt8) (offset : Nat) :
    ∃ stop, boundaryFrom? bytes offset = some stop ∧ stop ≤ offset ∧ isBoundary bytes stop = true ∧
      ∀ k, stop < k → k ≤ offset → isBoundary bytes k = false := by
  induction offset with
  | zero => exact ⟨0, rfl, Nat.le_refl 0, isBoundary_zero bytes, fun k hlow hhigh => by omega⟩
  | succ offset ih =>
    by_cases h : isBoundary bytes (offset + 1) = true
    · exact ⟨offset + 1, by rw [boundaryFrom?, if_pos h], Nat.le_refl _, h, fun k hlow hhigh => by omega⟩
    · obtain ⟨stop, hstop, hle, hboundary, hnone⟩ := ih
      refine ⟨stop, by rw [boundaryFrom?, if_neg h, hstop], by omega, hboundary, fun k hlow hhigh => ?_⟩
      rcases Nat.lt_or_eq_of_le hhigh with hlt | rfl
      · exact hnone k hlow (by omega)
      · exact Bool.eq_false_iff.mpr h

/-- Every text can be cut. -/
theorem isSome_cut? (limit : Nat) (s : String) : (cut? limit s).isSome = true := by
  unfold cut?
  split
  · obtain ⟨stop, hstop, -, hboundary, -⟩ := exists_boundaryFrom? (utf8 s) limit
    simp only [hstop, Option.bind_some, truncate?, hboundary, if_true]
    split <;> rfl
  · rfl

/-- The longest start of a text that takes at most some number of bytes. -/
def cut (limit : Nat) (s : String) : String := (cut? limit s).get (isSome_cut? limit s)

/-- The search for a boundary never fails, so cutting is what the search gives. -/
theorem cut?_eq_some (limit : Nat) (s : String) : cut? limit s = some (cut limit s) :=
  (Option.some_get (isSome_cut? limit s)).symm

end GatewayOperator.Text
