import GatewayOperator.Instant
import GatewayOperator.Json.Basic
import GatewayOperator.Text.Base64
import GatewayOperator.Text.Shown
import GatewayOperator.Text.Utf8

/-!
# Decoding JSON values

A decoder turns a JSON value into a value of a domain type, or says what is wrong and where. The place
is a path from the root, from which the column in the compact text of the whole value follows.

A record is given by its members in any order, where unknown ones are ignored; some records may also be
given as the list of their fields in declaration order. A field is required, optional or defaulted. A
null counts as the absence of an optional field only. Of several faults in a record, the one that a reader
of its text meets first is reported.
-/

set_option autoImplicit false

namespace GatewayOperator.Json

/-- What is wrong with a value. -/
inductive Mismatch where
  | missingField (name : String)
  | wrongType (found : Json) (expected : String)
  | wrongValue (found : Json) (expected : String)
  | wrongLength (length : Nat) (expected : String)
  | unknownVariant (found : String) (known : List String)
  /-- Something else stands where a name should. -/
  | noName
  /-- A list goes on after the last field of its record. -/
  | surplus
  | malformed (message : String)
  deriving Repr

/-- A step from a value to a part of it. -/
inductive Step where
  | key (name : String)
  | index (i : Nat)
  deriving DecidableEq, Repr

/-- Where a reader of the compact text stands when it notices a fault: some bytes after the start of the
part at fault, or some bytes after its end. -/
inductive Spot where
  | start (after : Nat)
  | finish (after : Nat)
  deriving DecidableEq, Repr

/-- What is wrong with a value, and where. -/
structure Fault where
  path : List Step
  spot : Spot
  mismatch : Mismatch
  deriving Repr

/-- The outcome of decoding. -/
abbrev Decoded (α : Type) := Except Fault α

/-- A value as a message names it. -/
def noun : Json → String
  | .null => "null"
  | .bool b => "boolean \x60" ++ (if b then "true" else "false") ++ "\x60"
  | .number (.int n) => "integer \x60" ++ String.ofList (Text.decimalInt n) ++ "\x60"
  | .number (.float bits) =>
    "floating point \x60" ++ String.ofList (Number.floatText bits) ++ "\x60"
  | .string s => "string " ++ Text.quote s
  | .array _ => "sequence"
  | .object _ => "map"

/-- A list of alternatives as a message names it. -/
def alternatives (known : List String) : String :=
  let marked := known.map fun k => "\x60" ++ k ++ "\x60"
  match marked with
  | [a, b] => a ++ " or " ++ b
  | [a] => a
  | _ => "one of " ++ String.intercalate ", " marked

/-- The wording of a mismatch. -/
def Mismatch.message : Mismatch → String
  | .missingField name => "missing field \x60" ++ name ++ "\x60"
  | .wrongType found expected => "invalid type: " ++ found.noun ++ ", expected " ++ expected
  | .wrongValue found expected => "invalid value: " ++ found.noun ++ ", expected " ++ expected
  | .wrongLength n expected =>
    "invalid length " ++ String.ofList (Text.decimal n) ++ ", expected " ++ expected
  | .unknownVariant found known =>
    "unknown variant \x60" ++ found ++ "\x60, expected " ++ alternatives known
  | .noName => "expected value"
  | .surplus => "trailing characters"
  | .malformed message => message

/-- The number of bytes of the compact text of a value. -/
def width (j : Json) : Nat := Text.utf8Length j.chars

/-- Where a member's value starts in the compact text of its object, and the value. -/
def memberStart (name : String) : Nat → List (String × Json) → Nat × Json
  | at', [] => (at', .null)
  | at', (k, v) :: rest =>
    let start := at' + Text.utf8Length (quoted k.toList) + 1
    if k = name then (start, v) else memberStart name (start + v.width + 1) rest

/-- Where an item starts in the compact text of its array, and the item. -/
def itemStart : Nat → Nat → List Json → Nat × Json
  | _, at', [] => (at', .null)
  | 0, at', v :: _ => (at', v)
  | i + 1, at', v :: rest => itemStart i (at' + v.width + 1) rest

/-- The part of a value at a path, and where it starts in the compact text of the value. -/
def locate : List Step → Nat → Json → Nat × Json
  | [], start, j => (start, j)
  | .key name :: rest, start, .object members =>
    let (s, v) := memberStart name (start + 1) members
    locate rest s v
  | .index i :: rest, start, .array items =>
    let (s, v) := itemStart i (start + 1) items
    locate rest s v
  | _ :: _, start, j => (start, j)

/-- The column at which a reader of the compact text notices a fault. -/
def Fault.column (whole : Json) (f : Fault) : Nat :=
  let (start, part) := locate f.path 0 whole
  match f.spot with
  | .start after => start + after
  | .finish after => start + part.width + after

/-- The wording of a fault in the compact text of a value. -/
def Fault.message (whole : Json) (f : Fault) : String :=
  f.mismatch.message ++ " at line 1 column " ++ String.ofList (Text.decimal (f.column whole))

/-- What came of reading the fields of one record: a value, or the fault that a reader of the text meets
first, with its place. Fields that stand in the text are met in the order of the text, and absent ones are
noticed at its end, in the order of declaration. -/
inductive Reading (α : Type) where
  | value (a : α)
  | faulty (place : Nat) (fault : Fault)

namespace Reading

/-- Two readings of the same record: of two faults, the first one counts. -/
def both {α β γ : Type} (combine : α → β → γ) : Reading α → Reading β → Reading γ
  | .value a, .value b => .value (combine a b)
  | .value _, .faulty q g => .faulty q g
  | .faulty p f, .value _ => .faulty p f
  | .faulty p f, .faulty q g => if q < p then .faulty q g else .faulty p f

instance : Applicative Reading where
  pure := .value
  seq readFunction readArgument := both (fun g a => g a) readFunction (readArgument ())

/-- The outcome of decoding a record whose fields have been read. -/
def decoded {α : Type} : Reading α → Decoded α
  | .value a => .ok a
  | .faulty _ fault => .error fault

/-- The reading of a field at a place. -/
def ofDecoded {α : Type} (place : Nat) : Decoded α → Reading α
  | .ok a => .value a
  | .error fault => .faulty place fault

end Reading

namespace Decode

/-- Refuse a value at its end. -/
def refuse {α : Type} (m : Mismatch) : Decoded α := .error ⟨[], .finish 0, m⟩

/-- Refuse a value of the wrong type. An array or an object is refused before it is read. -/
def refuseType {α : Type} (expected : String) (j : Json) : Decoded α :=
  match j with
  | .array _ | .object _ => .error ⟨[], .start 0, .wrongType j expected⟩
  | _ => refuse (.wrongType j expected)

/-- A fault in a part as a fault in the whole. -/
def under {α : Type} (step : Step) : Decoded α → Decoded α
  | .ok a => .ok a
  | .error f => .error { f with path := step :: f.path }

/-- A text. -/
def text : Json → Decoded String
  | .string s => .ok s
  | j => refuseType "a string" j

/-- A truth value. -/
def bool : Json → Decoded Bool
  | .bool b => .ok b
  | j => refuseType "a boolean" j

/-- Any value. -/
def any (j : Json) : Decoded Json := .ok j

/-- An integer of a range, which a message calls `expected`. -/
def intBetween (least greatest : Int) (expected : String) : Json → Decoded Int
  | .number (.int n) =>
    if least ≤ n ∧ n ≤ greatest then .ok n
    else refuse (.wrongValue (.number (.int n)) expected)
  | j => refuseType expected j

/-- A signed integer of 64 bits. -/
def int64 : Json → Decoded Int :=
  intBetween (-9223372036854775808) 9223372036854775807 "i64"

/-- A signed integer of 32 bits. -/
def int32 : Json → Decoded Int := intBetween (-2147483648) 2147483647 "i32"

/-- An instant, written as a text. -/
def instant : Json → Decoded Instant
  | .string s =>
    match Instant.read s with
    | .ok t => .ok t
    | .error f => refuse (.malformed f.message)
  | j => refuseType "an RFC 3339 formatted date and time string" j

/-- Bytes, written in Base64; null stands for no bytes. -/
def bytes : Json → Decoded (List UInt8)
  | .null => .ok []
  | .string s =>
    match Text.Base64.decode (Text.utf8 s) with
    | .ok b => .ok b
    | .error f => refuse (.malformed f.message)
  | j => refuseType "a base64-encoded string" j

/-- The items of a list from an index on. -/
def itemsFrom {α : Type} (item : Json → Decoded α) : Nat → List Json → Decoded (List α)
  | _, [] => .ok []
  | i, x :: xs => do
    let a ← under (.index i) (item x)
    let rest ← itemsFrom item (i + 1) xs
    pure (a :: rest)

/-- A list. -/
def list {α : Type} (item : Json → Decoded α) : Json → Decoded (List α)
  | .array xs => itemsFrom item 0 xs
  | j => refuseType "a sequence" j

/-- The entries of a dictionary. -/
def entries {α : Type} (value : Json → Decoded α) :
    List (String × Json) → Decoded (List (String × α))
  | [] => .ok []
  | (k, x) :: rest => do
    let a ← under (.key k) (value x)
    let more ← entries value rest
    pure ((k, a) :: more)

/-- A dictionary. -/
def dict {α : Type} (value : Json → Decoded α) : Json → Decoded (Dict α)
  | .object ms => (entries value ms).map Dict.ofList
  | j => refuseType "a map" j

/-- The fault of a name that is none of the known ones. -/
def unknownName {α : Type} (spot : Spot) (known : List (String × α)) (name : String) : Fault :=
  ⟨[], spot, .unknownVariant name (known.map Prod.fst)⟩

/-- One of several names, given as a text or as the only member of an object, whose value is null. -/
def variant {α : Type} (known : List (String × α)) : Json → Decoded α
  | .string name =>
    match known.lookup name with
    | some a => .ok a
    | none => .error (unknownName (.finish 0) known name)
  | .object [] => .error ⟨[], .start 2, .noName⟩
  | .object ((name, v) :: rest) =>
    match known.lookup name, v with
    | none, _ => .error (unknownName (.start (1 + (Json.string name).width)) known name)
    | some a, .null => if rest.isEmpty then .ok a else .error ⟨[.key name], .finish 0, .noName⟩
    | some _, v => under (.key name) (refuseType "unit" v)
  | _ => .error ⟨[], .start 1, .noName⟩

/-- A record's fields, by name or in declaration order. -/
inductive Fields where
  | named (members : List (String × Json))
  | listed (items : List Json) (expected : String)

/-- A record that is given by its members only. -/
def object {α : Type} (expected : String) (read : Fields → Reading α) : Json → Decoded α
  | .object ms => (read (.named ms)).decoded
  | .array items =>
    .error ⟨[], .start (if items.isEmpty then 2 else 1), .wrongType (.array items) expected⟩
  | j => refuseType expected j

/-- A record of some number of fields, given by its members or as a list. -/
def record {α : Type} (expected : String) (count : Nat) (read : Fields → Reading α) :
    Json → Decoded α
  | .object ms => (read (.named ms)).decoded
  | .array items => do
    let inFull := expected ++ " with " ++ String.ofList (Text.decimal count) ++ " elements"
    let a ← (read (.listed items inFull)).decoded
    if count < items.length then .error ⟨[.index count], .start 1, .surplus⟩ else pure a
  | j => refuseType expected j

namespace Fields

/-- The value of the field with this position and name, with its place in the text and the step to it. -/
def get? (f : Fields) (position : Nat) (name : String) : Option (Nat × Step × Json) :=
  match f with
  | .named ms => (Entries.find? name ms).map fun v => (ms.findIdx fun m => m.1 = name, .key name, v)
  | .listed items _ => items[position]?.map fun v => (position, .index position, v)

/-- A field that must be there. -/
def required {α : Type} (f : Fields) (position : Nat) (name : String)
    (decode : Json → Decoded α) : Reading α :=
  match f.get? position name with
  | some (place, step, v) => .ofDecoded place (under step (decode v))
  | none =>
    match f with
    | .named ms => .ofDecoded (ms.length + position) (refuse (.missingField name))
    | .listed _ expected => .ofDecoded position (refuse (.wrongLength position expected))

/-- A field with a value for its absence. -/
def defaulted {α : Type} (f : Fields) (position : Nat) (name : String) (absent : α)
    (decode : Json → Decoded α) : Reading α :=
  match f.get? position name with
  | some (place, step, v) => .ofDecoded place (under step (decode v))
  | none => .value absent

/-- A decoder that reads null as absence. -/
def nullable {α : Type} (decode : Json → Decoded α) : Json → Decoded (Option α)
  | .null => .ok none
  | v => (decode v).map some

/-- A field that may be absent or null. -/
def optional {α : Type} (f : Fields) (position : Nat) (name : String)
    (decode : Json → Decoded α) : Reading (Option α) :=
  f.defaulted position name none (nullable decode)

/-- A named field that may be absent or null. -/
def member {α : Type} (f : Fields) (name : String) (decode : Json → Decoded α) :
    Reading (Option α) :=
  f.optional 0 name decode

/-- A named field that may be absent or null, and then has a default. -/
def memberOr {α : Type} (f : Fields) (name : String) (absent : α) (decode : Json → Decoded α) :
    Reading α :=
  (fun v => v.getD absent) <$> f.member name decode

/-- The text of a value that must be exactly this one. It is compared when the reader stands after the
value, or after its whole record if nothing follows. -/
def exactly (expected : String) (isLast : Bool) (v : Json) : Decoded Unit := do
  let s ← text v
  if s = expected then pure ()
  else .error ⟨[], .finish (if isLast then 1 else 0), .wrongValue v expected⟩

/-- A named field that, if present, must hold exactly this text. -/
def constant (f : Fields) (name expected : String) : Reading Unit :=
  match f, f.get? 0 name with
  | .named ms, some (place, step, v) =>
    .ofDecoded place (under step (exactly expected (place + 1 = ms.length) v))
  | _, _ => .value ()

end Fields

end Decode

end GatewayOperator.Json
