/-!
# DER elements

An element is a tag, a length and contents of that length. The length is definite: one byte below 128,
or a count of bytes that hold it. An element is read from the front of a list of bytes, and what follows
it is given back. Where the wider rules of BER are admitted, the length may be indefinite, and the
contents are elements up to an end mark.
-/

set_option autoImplicit false

namespace GatewayOperator.Tls.Der

/-- The number of a tag and whether its contents are elements. -/
structure Tag where
  number : Nat
  constructed : Bool
  deriving DecidableEq, Repr

/-- An element with its contents. -/
structure Element where
  /-- The two bits that say where the tag is defined; 2 stands for the surrounding element. -/
  scope : Nat
  tag : Tag
  contents : List UInt8
  deriving DecidableEq, Repr

/-- The number of a tag in further bytes, seven bits each; `left` is how many may still come. -/
def readLongTag? : Nat → Nat → List UInt8 → Option (Nat × List UInt8)
  | 0, _, _ => none
  | _ + 1, _, [] => none
  | left + 1, number, b :: rest =>
    let number := (number * 128 + b.toNat % 128) % 4294967296
    if b.toNat < 128 then some (number, rest) else readLongTag? left number rest

/-- The value of a list of bytes, the first one being the highest. -/
def valueOf (bytes : List UInt8) : Nat :=
  bytes.foldl (fun n b => n * 256 + b.toNat) 0

/-- The greatest length that is read. -/
def greatestLength : Nat := 4294967295

/-- A length. The value 128 of the first byte would announce an indefinite one, which DER excludes. -/
def readLength? : List UInt8 → Option (Nat × List UInt8)
  | [] => none
  | b :: rest =>
    let n := b.toNat
    if n < 128 then some (n, rest)
    else if n = 128 ∨ n = 255 ∨ rest.length < n - 128 then none
    else
      let length := valueOf (rest.take (n - 128))
      if length ≤ greatestLength then some (length, rest.drop (n - 128)) else none

/-- The greatest number of bytes behind the first one of a tag. -/
def greatestTagLength : Nat := 5

/-- The scope and tag at the front of a list of bytes, and what follows them. -/
def readTag? : List UInt8 → Option (Nat × Tag × List UInt8)
  | [] => none
  | b :: rest =>
    let n := b.toNat
    let constructed : Bool := n / 32 % 2 = 1
    if n % 32 = 31 then
      (readLongTag? greatestTagLength 0 rest).map fun r => (n / 64, ⟨r.1, constructed⟩, r.2)
    else some (n / 64, ⟨n % 32, constructed⟩, rest)

/-- The scope, tag and length at the front of a list of bytes, and what follows them. -/
def readHeader? (bytes : List UInt8) : Option (Nat × Tag × Nat × List UInt8) :=
  (readTag? bytes).bind fun t => (readLength? t.2.2).map fun l => (t.1, t.2.1, l.1, l.2)

/-- The element at the front of a list of bytes, and what follows it. -/
def read? (bytes : List UInt8) : Option (Element × List UInt8) :=
  (readHeader? bytes).bind fun h =>
    if h.2.2.1 ≤ h.2.2.2.length then
      some (⟨h.1, h.2.1, h.2.2.2.take h.2.2.1⟩, h.2.2.2.drop h.2.2.1)
    else none

/-- Whether the bytes end before the length at their front does. -/
def isLengthCut : List UInt8 → Bool
  | [] => true
  | b :: rest => 128 < b.toNat && b.toNat < 255 && rest.length < b.toNat - 128

/-- Whether the bytes end before the element at their front does, so that more of them might complete it.
A tag that is not read from as many bytes as it may have is no tag. -/
def isCut (bytes : List UInt8) : Bool :=
  match readTag? bytes with
  | none => bytes.length ≤ greatestTagLength
  | some (_, _, behindTag) =>
    match readLength? behindTag with
    | none => isLengthCut behindTag
    | some (length, rest) => rest.length < length

/-- A long tag uses up bytes. -/
theorem readLongTag?_length {left number : Nat} {bytes : List UInt8} {r : Nat × List UInt8}
    (h : readLongTag? left number bytes = some r) : r.2.length < bytes.length := by
  induction left generalizing number bytes with
  | zero => simp [readLongTag?] at h
  | succ left ih =>
    cases bytes with
    | nil => simp [readLongTag?] at h
    | cons b rest =>
      simp only [readLongTag?] at h
      split at h
      · cases h
        simp
      · have := ih h
        simp only [List.length_cons]
        omega

/-- A length uses up bytes. -/
theorem readLength?_length {bytes : List UInt8} {r : Nat × List UInt8}
    (h : readLength? bytes = some r) : r.2.length < bytes.length := by
  cases bytes with
  | nil => simp [readLength?] at h
  | cons b rest =>
    simp only [readLength?] at h
    split at h
    · cases h
      simp
    · split at h
      · cases h
      · split at h
        · rw [← Option.some.inj h]
          simp only [List.length_drop, List.length_cons]
          omega
        · exact absurd h (by simp)

/-- A tag uses up bytes. -/
theorem readTag?_length {bytes : List UInt8} {r : Nat × Tag × List UInt8}
    (h : readTag? bytes = some r) : r.2.2.length < bytes.length := by
  cases bytes with
  | nil => simp [readTag?] at h
  | cons b rest =>
    simp only [readTag?] at h
    split at h
    · obtain ⟨t, ht, rfl⟩ := Option.map_eq_some_iff.1 h
      have := readLongTag?_length ht
      simp only [List.length_cons]
      omega
    · cases h
      simp

/-- A tag and a length use up bytes. -/
theorem readHeader?_length {bytes : List UInt8} {r : Nat × Tag × Nat × List UInt8}
    (h : readHeader? bytes = some r) : r.2.2.2.length < bytes.length := by
  obtain ⟨t, ht, h⟩ := Option.bind_eq_some_iff.1 h
  obtain ⟨l, hl, rfl⟩ := Option.map_eq_some_iff.1 h
  have := readTag?_length ht
  have := readLength?_length hl
  simp only
  omega

/-- Reading an element consumes bytes. -/
theorem read?_length {bytes : List UInt8} {r : Element × List UInt8}
    (h : read? bytes = some r) : r.2.length < bytes.length := by
  obtain ⟨s, hs, hr⟩ := Option.bind_eq_some_iff.1 h
  have := readHeader?_length hs
  split at hr
  · cases hr
    simp only [List.length_drop]
    omega
  · cases hr

/-- The element at the front, if its tag has the given number. -/
def expect? (number : Nat) (bytes : List UInt8) : Option (Element × List UInt8) :=
  (read? bytes).bind fun r => if r.1.tag.number = number then some r else none

/-- The element at the front, if its tag has the given number and its contents are no elements. -/
def expectPlain? (number : Nat) (bytes : List UInt8) : Option (Element × List UInt8) :=
  (expect? number bytes).bind fun r => if r.1.tag.constructed then none else some r

/-- The element at the front, if its contents are no elements. -/
def plain? (bytes : List UInt8) : Option (Element × List UInt8) :=
  (read? bytes).bind fun r => if r.1.tag.constructed then none else some r

/-- The number of the tag that ends an element of indefinite length. -/
def endTag : Nat := 0

/-- How many elements of indefinite length may lie within one another. -/
def greatestDepth : Nat := 49

/-- What follows the end of so many open elements of indefinite length. The fuel bounds the number of
elements that are passed. -/
def skipOpen? : Nat → Nat → List UInt8 → Option (List UInt8)
  | 0, _, _ => none
  | _ + 1, 0, bytes => some bytes
  | fuel + 1, depth + 1, bytes =>
    (readTag? bytes).bind fun (_, tag, behindTag) =>
      if behindTag.head? = some 0x80 then
        if tag.constructed ∧ depth + 1 < greatestDepth then skipOpen? fuel (depth + 2) behindTag.tail
        else none
      else
        (readLength? behindTag).bind fun (length, rest) =>
          if length = 0 ∧ tag.number = endTag then skipOpen? fuel depth rest
          else if length ≤ rest.length then skipOpen? fuel (depth + 1) (rest.drop length)
          else none

/-- The number of the tag at the front, and what follows its element, whose length may be indefinite. -/
def skipAny? (bytes : List UInt8) : Option (Nat × List UInt8) :=
  (readTag? bytes).bind fun (_, tag, behindTag) =>
    if behindTag.head? = some 0x80 then
      if tag.constructed then
        (skipOpen? (bytes.length + 1) 1 behindTag.tail).map fun rest => (tag.number, rest)
      else none
    else (read? bytes).map fun r => (tag.number, r.2)

/-- The number of the tag of an integer. -/
def integerTag : Nat := 2

/-- The number of the tag of a bit string. -/
def bitStringTag : Nat := 3

/-- The number of the tag of a byte string. -/
def octetStringTag : Nat := 4

/-- The number of the tag of a sequence. -/
def sequenceTag : Nat := 16

/-- The contents of the sequence at the front, and what follows it. -/
def sequence? (bytes : List UInt8) : Option (List UInt8 × List UInt8) :=
  (expect? sequenceTag bytes).map fun r => (r.1.contents, r.2)

/-- Whether contents are those of a bit string: the number of unused bits, then the bytes, whose unused
bits are zero. -/
def areBits (contents : List UInt8) : Bool :=
  match contents with
  | [] => false
  | [unused] => unused = 0
  | unused :: bytes =>
    let last := (bytes.getLast?.getD 0).toNat
    if last = 0 then unused.toNat ≤ 8 else last % Nat.pow 2 unused.toNat = 0

/-- What follows the bit string at the front. -/
def skipBits? (bytes : List UInt8) : Option (List UInt8) :=
  (expectPlain? bitStringTag bytes).bind fun r => if areBits r.1.contents then some r.2 else none

end GatewayOperator.Tls.Der
