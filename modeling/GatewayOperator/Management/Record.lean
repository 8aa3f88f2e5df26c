import GatewayOperator.Json.Reader
import GatewayOperator.Json.Decode

/-!
# Records of the backend

What the operator relies on in the backend's record of an API: its id, and if given its cross ID and
name. A record is decoded from a JSON value or from the body of an answer. In a body the other members
are only skimmed, and a known member that stands twice is refused.
-/

set_option autoImplicit false

namespace GatewayOperator.Management

open GatewayOperator.Json

/-- The backend's record of an API. -/
structure Record where
  id : String
  crossId : Option String
  name : Option String
  deriving DecidableEq, Repr

namespace Record

/-- Decode a record. -/
def decode : Json → Decoded Record :=
  Decode.record "struct ApiRecord" 3 fun f =>
    mk <$> f.required 0 "id" Decode.text <*> f.optional 1 "crossId" Decode.text
      <*> f.optional 2 "name" Decode.text

/-- Encode a record. Absent parts are written as null. -/
def encode (r : Record) : Json :=
  .object [("id", .string r.id), ("crossId", orNull (r.crossId.map .string)),
    ("name", orNull (r.name.map .string))]

/-- The names of the members that a record has. -/
def known : List String := ["id", "crossId", "name"]

/-- The known members of an object in a text, each at most once, with their values read. -/
def knownMembers? : List (Loose × Raw) → Option (List (String × Json))
  | [] => some []
  | (k, x) :: rest => do
    let key ← Raw.text? k
    let more ← knownMembers? rest
    if known.contains key then
      if (Entries.find? key more).isSome then none
      else
        let v ← x.read?
        pure ((key, v) :: more)
    else pure more

/-- The record that a structure holds. -/
def ofRaw? : Raw → Option Record
  | .object ms => (knownMembers? ms).bind fun es => (decode (.object es)).toOption
  | x => x.read?.bind fun j => (decode j).toOption

/-- The record that a body holds. -/
def ofBody? (body : List UInt8) : Option Record :=
  (Raw.ofText? (Text.Utf8.readLoose body)).bind ofRaw?

/-- The records that a body holds. -/
def listOfBody? (body : List UInt8) : Option (List Record) :=
  match Raw.ofText? (Text.Utf8.readLoose body) with
  | some (.array xs) => xs.mapM ofRaw?
  | _ => none

end Record

end GatewayOperator.Management
