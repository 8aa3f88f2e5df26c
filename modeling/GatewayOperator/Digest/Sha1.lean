/-!
# SHA-1

The digest of a list of bytes: the message is padded to blocks of 64 bytes, each block is expanded to
80 words and mixed into five words of state, and the digest is the final state in big-endian order.
-/

set_option autoImplicit false

namespace GatewayOperator.Digest

/-- The five words of state. -/
structure Sha1 where
  a : UInt32
  b : UInt32
  c : UInt32
  d : UInt32
  e : UInt32
  deriving DecidableEq, Repr

namespace Sha1

/-- The state before the first block. -/
def initial : Sha1 := ⟨0x67452301, 0xEFCDAB89, 0x98BADCFE, 0x10325476, 0xC3D2E1F0⟩

/-- Rotate a word to the left. -/
def rotl (n : UInt32) (x : UInt32) : UInt32 := (x <<< n) ||| (x >>> (32 - n))

/-- The bytes of a number in big-endian order, `width` of them. -/
def bigEndian (width n : Nat) : List UInt8 :=
  (List.range width).map fun i => UInt8.ofNat (n / Nat.pow 256 (width - 1 - i) % 256)

/-- The message followed by a one bit, zeros, and its length in bits. -/
def pad (message : List UInt8) : List UInt8 :=
  let zeros := (119 - message.length % 64) % 64
  message ++ 0x80 :: (List.replicate zeros 0 ++ bigEndian 8 (message.length * 8))

/-- Four bytes as a word. -/
def word (a b c d : UInt8) : UInt32 :=
  UInt32.ofNat (((a.toNat * 256 + b.toNat) * 256 + c.toNat) * 256 + d.toNat)

/-- Bytes as big-endian words; fewer than four bytes at the end are left out. -/
def words : List UInt8 → List UInt32
  | a :: b :: c :: d :: rest => word a b c d :: words rest
  | _ => []

/-- The schedule in reverse, grown by `n` words from its first sixteen. -/
def expand : Nat → List UInt32 → List UInt32
  | 0, rev => rev
  | n + 1, rev =>
    let x := rev.getD 2 0 ^^^ rev.getD 7 0 ^^^ rev.getD 13 0 ^^^ rev.getD 15 0
    expand n (rotl 1 x :: rev)

/-- The choice function and the constant of a round. -/
def round (t : Nat) (s : Sha1) : UInt32 × UInt32 :=
  if t < 20 then ((s.b &&& s.c) ||| ((~~~ s.b) &&& s.d), 0x5A827999)
  else if t < 40 then (s.b ^^^ s.c ^^^ s.d, 0x6ED9EBA1)
  else if t < 60 then ((s.b &&& s.c) ||| (s.b &&& s.d) ||| (s.c &&& s.d), 0x8F1BBCDC)
  else (s.b ^^^ s.c ^^^ s.d, 0xCA62C1D6)

/-- Mix the words of a schedule into the state, counting rounds from `t`. -/
def mix : Nat → List UInt32 → Sha1 → Sha1
  | _, [], s => s
  | t, w :: rest, s =>
    let (f, k) := round t s
    let x := rotl 5 s.a + f + s.e + k + w
    mix (t + 1) rest ⟨x, s.a, rotl 30 s.b, s.c, s.d⟩

/-- The state after a block of sixteen words. -/
def compress (block : List UInt32) (s : Sha1) : Sha1 :=
  let m := mix 0 (expand 64 block.reverse).reverse s
  ⟨s.a + m.a, s.b + m.b, s.c + m.c, s.d + m.d, s.e + m.e⟩

/-- The state after all blocks of sixteen words, at most `fuel` of them. -/
def absorb : Nat → List UInt32 → Sha1 → Sha1
  | 0, _, s => s
  | _ + 1, [], s => s
  | fuel + 1, ws, s => absorb fuel (ws.drop 16) (compress (ws.take 16) s)

/-- The state as twenty bytes. -/
def bytes (s : Sha1) : List UInt8 :=
  [s.a, s.b, s.c, s.d, s.e].flatMap fun w => bigEndian 4 w.toNat

end Sha1

/-- The SHA-1 digest of a message, twenty bytes. -/
def sha1 (message : List UInt8) : List UInt8 :=
  let ws := Sha1.words (Sha1.pad message)
  (Sha1.absorb ws.length ws Sha1.initial).bytes

end GatewayOperator.Digest
