/-!
# UTF-8

Text leaves the operator as bytes and comes back as bytes. Writing is total. Reading is given once,
in the loose form that keeps every byte accounted for: each character that can be read stands as
itself, and each maximal run of bytes that no character starts with stands as a hole. The strict
reading refuses a text with a hole, the lossy one fills each hole with U+FFFD, and a reader that
only skims a stretch of text may pass over its holes.
-/

set_option autoImplicit false

namespace GatewayOperator.Text

/-- The UTF-8 bytes of a text. -/
def utf8 (s : String) : List UInt8 :=
  s.toList.flatMap String.utf8EncodeChar

/-- The number of UTF-8 bytes of a list of characters. -/
def utf8Length (cs : List Char) : Nat :=
  cs.foldr (fun c n => c.utf8Size + n) 0

namespace Utf8

/-- A character whose first bytes were read: the bits so far, the number of bytes still owed, and
the range in which the next one lies. -/
structure Partial where
  bits : Nat
  owed : Nat
  least : Nat
  greatest : Nat
  deriving DecidableEq, Repr

/-- What one byte does to a reading. -/
inductive Step where
  /-- The byte completes this character. -/
  | complete (c : Char)
  /-- The byte leaves a character that still owes bytes. -/
  | more (p : Partial)
  /-- No character starts with this byte. -/
  | stray
  deriving DecidableEq, Repr

/-- The step of a byte that starts a character. The ranges exclude overlong forms, surrogates and
values above U+10FFFF. -/
def Step.first (b : Nat) : Step :=
  if b < 0x80 then .complete (Char.ofNat b)
  else if b < 0xC2 then .stray
  else if b < 0xE0 then .more ⟨b - 0xC0, 1, 0x80, 0xBF⟩
  else if b = 0xE0 then .more ⟨0, 2, 0xA0, 0xBF⟩
  else if b = 0xED then .more ⟨0xD, 2, 0x80, 0x9F⟩
  else if b < 0xF0 then .more ⟨b - 0xE0, 2, 0x80, 0xBF⟩
  else if b = 0xF0 then .more ⟨0, 3, 0x90, 0xBF⟩
  else if b < 0xF4 then .more ⟨b - 0xF0, 3, 0x80, 0xBF⟩
  else if b = 0xF4 then .more ⟨4, 3, 0x80, 0x8F⟩
  else .stray

/-- The step of a byte that continues a character, or nothing if it does not continue it. -/
def Partial.push (p : Partial) (b : Nat) : Option Step :=
  if p.least ≤ b ∧ b ≤ p.greatest then
    let bits := p.bits * 64 + (b - 0x80)
    if p.owed ≤ 1 then some (.complete (Char.ofNat bits))
    else some (.more ⟨bits, p.owed - 1, 0x80, 0xBF⟩)
  else none

/-- The loose reading of bytes after a character that may be under way. -/
def readAfter : Option Partial → List UInt8 → List (Option Char)
  | none, [] => []
  | some _, [] => [none]
  | none, b :: rest =>
    match Step.first b.toNat with
    | .complete c => some c :: readAfter none rest
    | .more p => readAfter (some p) rest
    | .stray => none :: readAfter none rest
  | some p, b :: rest =>
    match p.push b.toNat with
    | some (.complete c) => some c :: readAfter none rest
    | some (.more q) => readAfter (some q) rest
    | some .stray => none :: readAfter none rest
    | none =>
      match Step.first b.toNat with
      | .complete c => none :: some c :: readAfter none rest
      | .more q => none :: readAfter (some q) rest
      | .stray => none :: none :: readAfter none rest

/-- The loose reading: every character as itself, every maximal ill-formed run as a hole. -/
def readLoose (bytes : List UInt8) : List (Option Char) :=
  readAfter none bytes

/-- The strict reading: nothing if any byte belongs to no character. -/
def read? (bytes : List UInt8) : Option String :=
  ((readLoose bytes).mapM id).map String.ofList

/-- The lossy reading: U+FFFD for each ill-formed run. -/
def readLossy (bytes : List UInt8) : String :=
  String.ofList ((readLoose bytes).map fun c => c.getD (Char.ofNat 0xFFFD))

end Utf8

end GatewayOperator.Text
