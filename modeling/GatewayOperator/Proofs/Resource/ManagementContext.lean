import GatewayOperator.Proofs.Json.Records
import GatewayOperator.Resource.ManagementContext

/-!
# Contexts that are read back

The specification of a context is read back as it was written. Its scope and its authentication are always
written, so their defaults only count in a specification that somebody else wrote.
-/

set_option autoImplicit false

namespace GatewayOperator.Resource

open Json Json.Decode Json.Decode.Fields

namespace BasicAuth

/-- The fields of a user name with its password. -/
def fields (b : BasicAuth) : List (String × Option Json) :=
  [("username", some (.string b.username)), ("password", some (.string b.password))]

/-- A pair of user name and password is written by its fields. -/
theorem encode_eq (b : BasicAuth) : encode b = .object (present b.fields) := rfl

/-- The text of a pair can be read back. -/
theorem isFitting_encode (b : BasicAuth) : (encode b).IsFitting := by
  rw [encode_eq]
  refine isFitting_present ?_
  simp [fields, isFitting_text]

/-- A pair is one level deep. -/
theorem depth_encode_le (b : BasicAuth) : (encode b).depth ≤ 1 := by
  rw [encode_eq]
  refine depth_present_le ?_
  simp [fields, depth]

/-- A pair is read back. -/
theorem readsBack (b : BasicAuth) : ReadsBack decode (encode b) b := by
  have hnames : (b.fields.map Prod.fst).Nodup := by simp [fields]
  rw [encode_eq]
  refine readsBack_record ?_
  rw [required_returned hnames rfl (readsBack_text b.username),
    required_returned hnames rfl (readsBack_text b.password)]
  rfl

end BasicAuth

namespace SecretReference

/-- The fields of a reference to a secret. -/
def fields (r : SecretReference) : List (String × Option Json) :=
  [("name", some (.string r.name)), ("namespace", r.namespace.map .string)]

/-- A reference to a secret is written by its fields. -/
theorem encode_eq (r : SecretReference) : encode r = .object (present r.fields) := by
  simp [encode, fields, present, member?]

/-- The text of a reference to a secret can be read back. -/
theorem isFitting_encode (r : SecretReference) : (encode r).IsFitting := by
  rw [encode_eq]
  refine isFitting_present ?_
  simp [fields, isFitting_text]

/-- A reference to a secret is one level deep. -/
theorem depth_encode_le (r : SecretReference) : (encode r).depth ≤ 1 := by
  rw [encode_eq]
  refine depth_present_le ?_
  simp [fields, depth]

/-- A reference to a secret is read back. -/
theorem readsBack (r : SecretReference) : ReadsBack decode (encode r) r := by
  have hnames : (r.fields.map Prod.fst).Nodup := by simp [fields]
  rw [encode_eq]
  refine readsBack_record ?_
  rw [required_returned hnames rfl (readsBack_text r.name),
    optional_text hnames rfl]
  rfl

end SecretReference

namespace ContextAuth

/-- The fields of authentication. -/
def fields (a : ContextAuth) : List (String × Option Json) :=
  [("bearerToken", a.bearerToken.map .string), ("credentials", a.credentials.map BasicAuth.encode),
    ("secretRef", a.secretRef.map SecretReference.encode)]

/-- Credentials are written by their fields. -/
theorem encode_eq (a : ContextAuth) : encode a = .object (present a.fields) := by
  simp [encode, fields, present]

/-- The text of credentials can be read back. -/
theorem isFitting_encode (a : ContextAuth) : (encode a).IsFitting := by
  rw [encode_eq]
  refine isFitting_present ?_
  simp [fields, isFitting_text, BasicAuth.isFitting_encode, SecretReference.isFitting_encode]

/-- Credentials are two levels deep. -/
theorem depth_encode_le (a : ContextAuth) : (encode a).depth ≤ 2 := by
  rw [encode_eq]
  refine depth_present_le ?_
  simp [fields, depth, BasicAuth.depth_encode_le, SecretReference.depth_encode_le]

/-- Credentials are read back. -/
theorem readsBack (a : ContextAuth) : ReadsBack decode (encode a) a := by
  have hnames : (a.fields.map Prod.fst).Nodup := by simp [fields]
  rw [encode_eq]
  refine readsBack_record ?_
  rw [optional_text hnames rfl,
    optional_returned hnames rfl (fun b _ => b.readsBack) (fun b _ => settled_object_ne_null _),
    optional_returned hnames rfl (fun r _ => r.readsBack) (fun r _ => settled_object_ne_null _)]
  rfl

end ContextAuth

namespace ContextSpec

/-- The fields of the specification of a context. -/
def fields (s : ContextSpec) : List (String × Option Json) :=
  [("baseUrl", some (.string s.baseUrl)), ("organizationId", some (.string s.organizationId)),
    ("environmentId", some (.string s.environmentId)), ("auth", some s.auth.encode)]

/-- The specification of a context is written by its fields. -/
theorem encode_eq (s : ContextSpec) : encode s = .object (present s.fields) := rfl

/-- The text of the specification of a context can be read back. -/
theorem isFitting_encode (s : ContextSpec) : (encode s).IsFitting := by
  rw [encode_eq]
  refine isFitting_present ?_
  simp [fields, isFitting_text, ContextAuth.isFitting_encode]

/-- The specification of a context is three levels deep. -/
theorem depth_encode_le (s : ContextSpec) : (encode s).depth ≤ 3 := by
  rw [encode_eq]
  refine depth_present_le ?_
  simp [fields, depth, ContextAuth.depth_encode_le]

/-- The specification of a context is read back. -/
theorem readsBack (s : ContextSpec) : ReadsBack decode (encode s) s := by
  have hnames : (s.fields.map Prod.fst).Nodup := by simp [fields]
  rw [encode_eq]
  refine readsBack_record ?_
  rw [required_returned hnames rfl (readsBack_text s.baseUrl),
    defaulted_written hnames rfl (readsBack_text s.organizationId),
    defaulted_written hnames rfl (readsBack_text s.environmentId),
    defaulted_written hnames rfl s.auth.readsBack]
  rfl

end ContextSpec

end GatewayOperator.Resource
