import GatewayOperator.Text.Decimal
import GatewayOperator.Text.Utf8

/-!
# Percent-encoding

Text in a URL is written byte by byte: a byte that could be mistaken for a delimiter is written as a
percent sign and two upper-case hexadecimal digits, any other byte as itself. Which characters are
written in this way depends on the part of the URL, so each part has its set. Bytes outside ASCII are
escaped in every part.
-/

set_option autoImplicit false

namespace GatewayOperator.Url

/-- Characters that are escaped everywhere: controls, DEL and all that is not ASCII. -/
def isControl (c : Char) : Bool :=
  c.toNat < 0x20 || 0x7E < c.toNat

/-- Characters escaped in a fragment. -/
def inFragmentSet (c : Char) : Bool :=
  isControl c || c ∈ [' ', '"', '<', '>', '\x60']

/-- Characters escaped in the path of a URL that is read as a whole. A percent sign stays, since it may
already belong to an escape. -/
def inPathSet (c : Char) : Bool :=
  inFragmentSet c || c ∈ ['#', '?', '\x7b', '\x7d']

/-- Characters escaped in one path segment that is given as plain text. -/
def inSegmentSet (c : Char) : Bool :=
  inPathSet c || c ∈ ['/', '%', '\\']

/-- Characters escaped in user names and passwords. -/
def inUserinfoSet (c : Char) : Bool :=
  inPathSet c || c ∈ ['/', ':', ';', '=', '@', '[', '\\', ']', '^', '|']

/-- Characters escaped in the query of a web URL. -/
def inQuerySet (c : Char) : Bool :=
  isControl c || c ∈ [' ', '"', '#', '<', '>', '\'']

/-- A byte as an escape. -/
def escape (b : UInt8) : List Char :=
  '%' :: Text.upperHexByte b

/-- Text with the characters of a set escaped. -/
def encode (escaped : Char → Bool) (cs : List Char) : List Char :=
  cs.flatMap fun c => if escaped c then (String.utf8EncodeChar c).flatMap escape else [c]

/-- The bytes of a text whose escapes are resolved. A percent sign that no two hexadecimal digits
follow stands for itself. -/
def decodeBytes : List Char → List UInt8
  | [] => []
  | '%' :: a :: b :: rest =>
    match Text.hexValue? a, Text.hexValue? b with
    | some high, some low => UInt8.ofNat (high * 16 + low) :: decodeBytes rest
    | _, _ => 0x25 :: decodeBytes (a :: b :: rest)
  | c :: rest => String.utf8EncodeChar c ++ decodeBytes rest

/-- Bytes that stand for themselves in a form-encoded text. -/
def isFormPlain (n : Nat) : Bool :=
  (48 ≤ n && n ≤ 57) || (65 ≤ n && n ≤ 90) || (97 ≤ n && n ≤ 122) || n ∈ [0x2A, 0x2D, 0x2E, 0x5F]

/-- One byte of a form-encoded text: a blank becomes a plus sign. -/
def formByte (b : UInt8) : List Char :=
  if isFormPlain b.toNat then [Char.ofNat b.toNat]
  else if b = 0x20 then ['+']
  else escape b

/-- The form encoding of a query name or value. -/
def formEncode (s : String) : List Char :=
  (Text.utf8 s).flatMap formByte

/-- The text that a form-encoded name or value stands for. -/
def formDecode (cs : List Char) : String :=
  Text.Utf8.readLossy (decodeBytes (cs.map fun c => if c = '+' then ' ' else c))

end GatewayOperator.Url
