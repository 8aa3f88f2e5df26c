import GatewayOperator.Text.Utf8
import GatewayOperator.Json.Basic

/-!
# Reading JSON texts

A text is read in two steps. The first finds its structure and leaves strings and numerals unread, so
that a part nobody asks for is only skimmed: there a string may hold ill-formed bytes or half a
surrogate pair, and a numeral may be out of range. The second step reads what is asked for.

The grammar is strict: only space, tab, line feed and carriage return separate tokens, control
characters do not stand in strings, numerals have no leading zeros, and nothing follows the value.
-/

set_option autoImplicit false

namespace GatewayOperator.Json

/-- A text that may have holes, where bytes belong to no character. -/
abbrev Loose := List (Option Char)

/-- A text without holes. -/
def Loose.ofString (s : String) : Loose := s.toList.map some

/-- The structure of a JSON text, with strings and numerals as written. -/
inductive Raw where
  | null
  | bool (b : Bool)
  | number (n : Numeral)
  | string (body : Loose)
  | array (items : List Raw)
  | object (members : List (Loose × Raw))
  deriving Repr

namespace Raw

/-- Whether a character separates tokens. -/
def isSpace (c : Char) : Bool := c == ' ' || c == '\t' || c == '\n' || c == '\r'

/-- The text after its leading separators. -/
def skipSpace : Loose → Loose
  | some c :: rest => if isSpace c then skipSpace rest else some c :: rest
  | rest => rest

/-- The leading digits of a text, and the rest. -/
def spanDigits : Loose → List Char × Loose
  | some c :: rest =>
    if Text.isDigit c then
      let (ds, r) := spanDigits rest
      (c :: ds, r)
    else ([], some c :: rest)
  | rest => ([], rest)

/-- The text after a word, if it starts with it. -/
def afterWord? : List Char → Loose → Option Loose
  | [], rest => some rest
  | w :: ws, some c :: rest => if w = c then afterWord? ws rest else none
  | _ :: _, _ => none

/-- A fraction: a point and digits. Without a point there is none. -/
def fraction? : Loose → Option (List Char × Bool × Loose)
  | some '.' :: rest =>
    let (ds, r) := spanDigits rest
    if ds = [] then none else some (ds, true, r)
  | rest => some ([], false, rest)

/-- The sign of an exponent, true for minus. -/
def exponentSign : Loose → Bool × Loose
  | some '-' :: rest => (true, rest)
  | some '+' :: rest => (false, rest)
  | rest => (false, rest)

/-- An exponent: the letter, a sign or none, and digits. Without the letter there is none. -/
def exponent? : Loose → Option (Option (Bool × List Char) × Loose)
  | some c :: rest =>
    if c = 'e' ∨ c = 'E' then
      let (negative, r) := exponentSign rest
      let (ds, r) := spanDigits r
      if ds = [] then none else some (some (negative, ds), r)
    else some (none, some c :: rest)
  | rest => some (none, rest)

/-- A numeral after its sign. -/
def numeralAfterSign? (negative : Bool) (s : Loose) : Option (Numeral × Loose) :=
  let (whole, s) := spanDigits s
  if whole = [] ∨ (whole.head? = some '0' ∧ 1 < whole.length) then none
  else do
    let (fraction, pointed, s) ← fraction? s
    let (exponent, s) ← exponent? s
    pure (⟨negative, whole, fraction, exponent, pointed⟩, s)

/-- A numeral at the start of a text. -/
def numeral? : Loose → Option (Numeral × Loose)
  | some '-' :: rest => numeralAfterSign? true rest
  | rest => numeralAfterSign? false rest

/-- Whether a character after a backslash stands for one character. -/
def isShortEscape (c : Char) : Bool :=
  c == '"' || c == '\\' || c == '/' || c == 'b' || c == 'f' || c == 'n' || c == 'r' || c == 't'

/-- Whether four characters are hexadecimal digits. -/
def isHex4 (a b c d : Char) : Bool :=
  (Text.hexValue? a).isSome && (Text.hexValue? b).isSome && (Text.hexValue? c).isSome &&
    (Text.hexValue? d).isSome

/-- The body of a string up to its closing quote, and the rest. -/
def stringBody? : Loose → Option (Loose × Loose)
  | [] => none
  | some '"' :: rest => some ([], rest)
  | some '\\' :: some 'u' :: some a :: some b :: some c :: some d :: rest =>
    if isHex4 a b c d then
      (stringBody? rest).map fun p =>
        (some '\\' :: some 'u' :: some a :: some b :: some c :: some d :: p.1, p.2)
    else none
  | some '\\' :: some e :: rest =>
    if isShortEscape e then
      (stringBody? rest).map fun p => (some '\\' :: some e :: p.1, p.2)
    else none
  | some '\\' :: _ => none
  | some c :: rest =>
    if c.toNat < 32 then none else (stringBody? rest).map fun p => (some c :: p.1, p.2)
  | none :: rest => (stringBody? rest).map fun p => (none :: p.1, p.2)

mutual
/-- A value at the start of a text, and the rest. The fuel bounds the depth of the reading. -/
def value? : Nat → Loose → Option (Raw × Loose)
  | 0, _ => none
  | fuel + 1, s =>
    match skipSpace s with
    | some '"' :: rest => (stringBody? rest).map fun p => (.string p.1, p.2)
    | some '[' :: rest =>
      match skipSpace rest with
      | some ']' :: rest => some (.array [], rest)
      | rest => (items? fuel rest).map fun p => (.array p.1, p.2)
    | some '{' :: rest =>
      match skipSpace rest with
      | some '}' :: rest => some (.object [], rest)
      | rest => (members? fuel rest).map fun p => (.object p.1, p.2)
    | some 'n' :: rest => (afterWord? ['u', 'l', 'l'] rest).map fun r => (.null, r)
    | some 't' :: rest => (afterWord? ['r', 'u', 'e'] rest).map fun r => (.bool true, r)
    | some 'f' :: rest => (afterWord? ['a', 'l', 's', 'e'] rest).map fun r => (.bool false, r)
    | rest => (numeral? rest).map fun p => (.number p.1, p.2)

/-- The items of an array up to its closing bracket. -/
def items? : Nat → Loose → Option (List Raw × Loose)
  | 0, _ => none
  | fuel + 1, s =>
    match value? fuel s with
    | none => none
    | some (x, rest) =>
      match skipSpace rest with
      | some ',' :: rest => (items? fuel rest).map fun p => (x :: p.1, p.2)
      | some ']' :: rest => some ([x], rest)
      | _ => none

/-- The members of an object up to its closing brace. -/
def members? : Nat → Loose → Option (List (Loose × Raw) × Loose)
  | 0, _ => none
  | fuel + 1, s =>
    match skipSpace s with
    | some '"' :: rest =>
      match stringBody? rest with
      | none => none
      | some (key, rest) =>
        match skipSpace rest with
        | some ':' :: rest =>
          match value? fuel rest with
          | none => none
          | some (x, rest) =>
            match skipSpace rest with
            | some ',' :: rest => (members? fuel rest).map fun p => ((key, x) :: p.1, p.2)
            | some '}' :: rest => some ([(key, x)], rest)
            | _ => none
        | _ => none
    | _ => none
end

/-- The structure of a text that holds one value and nothing else. -/
def ofText? (s : Loose) : Option Raw :=
  match value? (2 * s.length + 2) s with
  | some (x, rest) => if skipSpace rest = [] then some x else none
  | none => none

/-- A piece of a string: a character, or a code unit written with `\u`. -/
inductive Piece where
  | char (c : Char)
  | unit (n : Nat)
  deriving DecidableEq, Repr

/-- The character that a short escape stands for. -/
def shortEscape (c : Char) : Char :=
  if c = 'b' then Char.ofNat 8
  else if c = 'f' then Char.ofNat 12
  else if c = 'n' then '\n'
  else if c = 'r' then '\r'
  else if c = 't' then '\t'
  else c

/-- The value of four hexadecimal digits. -/
def hex4 (a b c d : Char) : Nat :=
  let v (x : Char) : Nat := (Text.hexValue? x).getD 0
  ((v a * 16 + v b) * 16 + v c) * 16 + v d

/-- The pieces of a string body, or nothing if it has a hole. -/
def pieces? : Loose → Option (List Piece)
  | [] => some []
  | none :: _ => none
  | some '\\' :: some 'u' :: some a :: some b :: some c :: some d :: rest =>
    (pieces? rest).map (.unit (hex4 a b c d) :: ·)
  | some '\\' :: some e :: rest => (pieces? rest).map (.char (shortEscape e) :: ·)
  | some c :: rest => (pieces? rest).map (.char c :: ·)

/-- The characters of pieces, or nothing if half a surrogate pair is among them. -/
def joinPieces? : List Piece → Option (List Char)
  | [] => some []
  | .char c :: rest => (joinPieces? rest).map (c :: ·)
  | .unit n :: rest =>
    if 0xD800 ≤ n ∧ n ≤ 0xDBFF then
      match rest with
      | .unit m :: rest =>
        if 0xDC00 ≤ m ∧ m ≤ 0xDFFF then
          (joinPieces? rest).map
            (Char.ofNat (0x10000 + (n - 0xD800) * 0x400 + (m - 0xDC00)) :: ·)
        else none
      | _ => none
    else if 0xDC00 ≤ n ∧ n ≤ 0xDFFF then none
    else (joinPieces? rest).map (Char.ofNat n :: ·)

/-- The text of a string body. -/
def text? (body : Loose) : Option String :=
  ((pieces? body).bind joinPieces?).map String.ofList

mutual
/-- The value of a structure, or nothing if some string or numeral in it cannot be read. Of several
members with one key the last counts. -/
def read? : Raw → Option Json
  | .null => some .null
  | .bool b => some (.bool b)
  | .number n => (Number.ofNumeral? n).map .number
  | .string body => (text? body).map .string
  | .array xs => (readItems? xs).map .array
  | .object ms => (readMembers? ms).map fun es => .object (Entries.ofList es)

/-- The values of the items of an array. -/
def readItems? : List Raw → Option (List Json)
  | [] => some []
  | x :: xs => (read? x).bind fun v => (readItems? xs).map (v :: ·)

/-- The values of the members of an object. -/
def readMembers? : List (Loose × Raw) → Option (List (String × Json))
  | [] => some []
  | (k, x) :: ms =>
    (text? k).bind fun key => (read? x).bind fun v => (readMembers? ms).map ((key, v) :: ·)
end

end Raw

/-- The value of a text that may have holes. -/
def ofLoose? (s : Loose) : Option Json := (Raw.ofText? s).bind Raw.read?

/-- The value of a text. -/
def parse? (s : String) : Option Json := ofLoose? (Loose.ofString s)

end GatewayOperator.Json
