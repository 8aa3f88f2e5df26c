import GatewayOperator.Digest.Sha1
import GatewayOperator.Text.Blank
import GatewayOperator.Text.Decimal
import GatewayOperator.Text.Utf8

/-!
# Cross IDs

A cross ID identifies an API across environments. It is pinned by the definition, or else derived from
the namespace and name of the definition, as the name-based identifier of version 5 in the URL
namespace. A pinned value counts without the blanks around it, and a blank one does not count.
-/

set_option autoImplicit false

namespace GatewayOperator.Management.CrossId

/-- The bytes of the URL namespace. -/
def urlNamespace : List UInt8 :=
  [0x6b, 0xa7, 0xb8, 0x11, 0x9d, 0xad, 0x11, 0xd1, 0x80, 0xb4, 0x00, 0xc0, 0x4f, 0xd4, 0x30, 0xc8]

/-- The sixteen bytes of a name-based identifier: the digest with the version and variant bits set. -/
def identifierBytes (digest : List UInt8) : List UInt8 :=
  ((digest.take 16).modify 6 fun b => (b &&& 0x0F) ||| 0x50).modify 8
    fun b => (b &&& 0x3F) ||| 0x80

/-- The text of sixteen bytes in groups of 8, 4, 4, 4 and 12 hexadecimal digits. -/
def hyphenated (bytes : List UInt8) : List Char :=
  let digits (from' count : Nat) : List Char := ((bytes.drop from').take count).flatMap Text.hexByte
  digits 0 4 ++ '-' :: (digits 4 2 ++ '-' :: (digits 6 2 ++ '-' :: (digits 8 2 ++ '-' :: digits 10 6)))

/-- The identifier derived from a text. -/
def derive (input : String) : String :=
  String.ofList (hyphenated (identifierBytes (Digest.sha1 (urlNamespace ++ Text.utf8 input))))

/-- The cross ID of a definition: the pinned value if there is one, else the derived identifier. -/
def resolve (ns name : String) (pinned : Option String) : String :=
  match pinned.bind Text.nonBlank? with
  | some value => value
  | none => derive (ns ++ "/" ++ name)

end GatewayOperator.Management.CrossId
