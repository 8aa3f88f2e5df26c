import GatewayOperator.Management.Record
import GatewayOperator.Proofs.Resource.ApiDefinition
import GatewayOperator.Proofs.Resource.ManagementContext

/-!
# Values that are written again

Specifications, statuses and records of the backend are read from JSON, and what was read is written again.
A reader of that text finds the same value in it, whatever the first text looked like: with fields that are
missing, null, unknown, given as a list or spelled in another way. So the second text stays as it is.
-/

set_option autoImplicit false

namespace GatewayOperator.Management

open Resource Json Json.Decode Json.Decode.Fields

namespace Record

/-- The fields of a record. -/
def fields (r : Record) : List (String × Option Json) :=
  [("id", some (.string r.id)), ("crossId", some (orNull (r.crossId.map .string))),
    ("name", some (orNull (r.name.map .string)))]

/-- A record is written by its fields. -/
theorem encode_eq (r : Record) : encode r = .object (present r.fields) := rfl

/-- A text or null can be read back, and nothing nests in it. -/
theorem orNull_text (t : Option String) :
    (orNull (t.map Json.string)).IsFitting ∧ (orNull (t.map Json.string)).depth = 0 := by
  cases t with
  | none => exact ⟨rfl, rfl⟩
  | some s => exact ⟨rfl, rfl⟩

/-- The text of a record can be read back. -/
theorem isFitting_encode (r : Record) : (encode r).IsFitting := by
  rw [encode_eq]
  refine isFitting_present ?_
  simp [fields, isFitting_text, orNull_text]

/-- A record is one level deep. -/
theorem depth_encode_le (r : Record) : (encode r).depth ≤ 1 := by
  rw [encode_eq]
  refine depth_present_le ?_
  simp [fields, depth, orNull_text]

/-- A record is read back. -/
theorem readsBack (r : Record) : ReadsBack decode (encode r) r := by
  have hnames : (r.fields.map Prod.fst).Nodup := by simp [fields]
  rw [encode_eq]
  refine readsBack_record ?_
  rw [required_returned hnames rfl (readsBack_text r.id),
    optional_returned_orNull hnames rfl (fun s _ => readsBack_text s) (fun s _ h => by cases h),
    optional_returned_orNull hnames rfl (fun s _ => readsBack_text s) (fun s _ h => by cases h)]
  rfl

/-- Members with known names, each once, are all read. -/
theorem knownMembers?_of_readMembers? {rs : List (Loose × Raw)} {es : List (String × Json)}
    (h : Raw.readMembers? rs = some es) (hknown : ∀ e ∈ es, e.1 ∈ known)
    (hnodup : (es.map Prod.fst).Nodup) : knownMembers? rs = some es := by
  induction rs generalizing es with
  | nil => exact h
  | cons m rs ih =>
    obtain ⟨k, x⟩ := m
    rw [Raw.readMembers?, Option.bind_eq_some_iff] at h
    obtain ⟨key, hkey, h⟩ := h
    obtain ⟨v, hv, h⟩ := Option.bind_eq_some_iff.mp h
    obtain ⟨more, hmore, rfl⟩ := Option.map_eq_some_iff.mp h
    obtain ⟨hfirst, hrest⟩ := List.forall_mem_cons.mp hknown
    obtain ⟨hnew, hnodup⟩ := List.nodup_cons.mp hnodup
    have hfirst : key ∈ known := hfirst
    have hfind : Entries.find? key more = none := Entries.find?_eq_none hnew
    simp [knownMembers?, hkey, ih hmore hrest hnodup, hfirst, hfind, hv]

/-- A record is read from its text as it was written. -/
theorem ofRaw?_written (r : Record) :
    (Raw.ofText? (Loose.ofString (encode r).render)).bind ofRaw? = some r := by
  obtain ⟨rs, hstructure, hmembers⟩ := ofText?_render_object (isFitting_encode r)
  have hread := knownMembers?_of_readMembers? hmembers (by simp [known]) (by simp)
  have hdecode : decode (.object ([("id", .string r.id), ("crossId", orNull (r.crossId.map .string)),
      ("name", orNull (r.name.map .string))].map fun m => (m.1, m.2.settled))) = .ok r := by
    obtain ⟨id, crossId, name⟩ := r
    cases crossId <;> cases name <;> rfl
  rw [encode, hstructure, Option.bind_some, ofRaw?, hread, Option.bind_some, hdecode]
  rfl

end Record

/-- A decoder with its encoder. -/
inductive Codec where
  | apiSpec
  | apiStatus
  | contextSpec
  | record

namespace Codec

/-- The values that it is for. -/
def Value : Codec → Type
  | .apiSpec => ApiSpec
  | .apiStatus => ApiStatus
  | .contextSpec => ContextSpec
  | .record => Record

/-- Its decoder. -/
def decode : (c : Codec) → Json → Decoded c.Value
  | .apiSpec => ApiSpec.decode
  | .apiStatus => ApiStatus.decode
  | .contextSpec => ContextSpec.decode
  | .record => Record.decode

/-- Its encoder. -/
def encode : (c : Codec) → c.Value → Json
  | .apiSpec => ApiSpec.encode
  | .apiStatus => ApiStatus.encode
  | .contextSpec => ContextSpec.encode
  | .record => Record.encode

/-- What it reads from a text: a record is read member by member, and all else from the whole value. -/
def ofText? : (c : Codec) → String → Option c.Value
  | .apiSpec, text => (parse? text).bind fun j => (ApiSpec.decode j).toOption
  | .apiStatus, text => (parse? text).bind fun j => (ApiStatus.decode j).toOption
  | .contextSpec, text => (parse? text).bind fun j => (ContextSpec.decode j).toOption
  | .record, text => (Raw.ofText? (Loose.ofString text)).bind Record.ofRaw?

/-- Whether the numbers in the parts of a value that are kept as JSON are integers. -/
def IsIntegral : (c : Codec) → c.Value → Prop
  | .apiSpec => ApiSpec.IsIntegral
  | .apiStatus => fun _ => True
  | .contextSpec => fun _ => True
  | .record => fun _ => True

variable {c : Codec} {j : Json} {a : c.Value}

/-- What was decoded is read back. -/
theorem readsBack_of_decode (hj : j.IsCanonical) (h : c.decode j = .ok a) :
    ReadsBack c.decode (c.encode a) a := by
  cases c with
  | apiSpec => exact ApiSpec.readsBack (ApiSpec.isKept_of_decode hj h)
  | apiStatus => exact ApiStatus.readsBack (ApiStatus.isCounted_of_decode h)
  | contextSpec => exact ContextSpec.readsBack a
  | record => exact Record.readsBack a

/-- What was decoded has a text. -/
theorem isFitting_of_decode (hj : j.IsCanonical) (h : c.decode j = .ok a) (hints : c.IsIntegral a) :
    (c.encode a).IsFitting := by
  cases c with
  | apiSpec => exact ApiSpec.isFitting_encode (ApiSpec.isKept_of_decode hj h) hints
  | apiStatus => exact ApiStatus.isFitting_encode (ApiStatus.isCounted_of_decode h)
  | contextSpec => exact ContextSpec.isFitting_encode a
  | record => exact Record.isFitting_encode a

/-- What was decoded nests no deeper when it is written, up to a depth that every reader allows. -/
theorem depth_encode_le_of_decode (h : c.decode j = .ok a) : (c.encode a).depth ≤ max 3 j.depth := by
  cases c with
  | apiSpec =>
    have hparts : ∀ part ∈ ApiSpec.keptParts a, ∀ v ∈ part, v.depth ≤ max 2 (j.depth - 1) := by
      intro part hpart v hv
      have hlt := depth_lt_of_mem_parts (ApiSpec.mem_parts_of_decode h part hpart v hv).2
      omega
    have hdepth := ApiSpec.depth_encode_le (by omega) hparts
    show (ApiSpec.encode a).depth ≤ _
    omega
  | apiStatus => exact Nat.le_trans (ApiStatus.depth_encode_le a) (by omega)
  | contextSpec => exact Nat.le_trans (ContextSpec.depth_encode_le a) (by omega)
  | record => exact Nat.le_trans (Record.depth_encode_le a) (by omega)

/-- What was decoded is read from its text. -/
theorem ofText?_of_decode (hj : j.IsCanonical) (h : c.decode j = .ok a) (hints : c.IsIntegral a) :
    c.ofText? (c.encode a).render = some a := by
  have hread := readsBack_of_decode hj h
  have hfits := isFitting_of_decode hj h hints
  cases c with
  | apiSpec => exact hread.of_text hfits
  | apiStatus => exact hread.of_text hfits
  | contextSpec => exact hread.of_text hfits
  | record => exact Record.ofRaw?_written a

/-- What was decoded and is written again is read from the text as the same value, and so the text stays
the same from then on. The text gives the same value by way of JSON, too. A reader that bounds how deep
values nest accepts the text if it accepted the first value. -/
theorem decode_written (hj : j.IsCanonical) (h : c.decode j = .ok a) (hints : c.IsIntegral a) :
    c.ofText? (c.encode a).render = some a ∧
      (∀ b, c.ofText? (c.encode a).render = some b → (c.encode b).render = (c.encode a).render) ∧
      ∃ again, parse? (c.encode a).render = some again ∧ c.decode again = .ok a ∧
        again.depth ≤ max 3 j.depth := by
  have htext := ofText?_of_decode hj h hints
  refine ⟨htext, fun b hb => ?_, (c.encode a).settled, ?_, readsBack_of_decode hj h, ?_⟩
  · rw [htext] at hb
    cases hb
    rfl
  · exact parse?_render (isFitting_of_decode hj h hints)
  · exact Nat.le_trans (depth_settled_le _) (depth_encode_le_of_decode h)

/-- A specification with an unknown field, one of null, a list that is empty, a reference given as a list,
and a state given as an object. -/
def strewn : Json :=
  .object [("contextRef", .array [.string "dev", .null]), ("description", .null),
    ("name", .string "orders"),
    ("proxy", .object [("paths", .array [.string "/\n", .number (.int 7)])]),
    ("since", .number (.float 4602678819172646912)), ("state", .object [("STOPPED", .null)]),
    ("tags", .array []), ("version", .string "1.0")]

/-- What is read from it. -/
def gathered : ApiSpec where
  name := "orders"
  version := "1.0"
  description := none
  crossId := none
  contextRef := some ⟨"dev", none⟩
  state := .stopped
  lifecycleState := .created
  visibility := .private
  tags := []
  labels := []
  proxy := some (.object [("paths", .array [.string "/\n", .number (.int 7)])])
  plans := none
  flows := none
  resources := none
  properties := none
  primaryOwner := none
  metadata := none
  responseTemplates := none

/-- A specification with unknown fields is read, and what was read of it is written and read again. -/
theorem strewn_written_again :
    strewn.IsCanonical ∧ apiSpec.decode strewn = .ok gathered ∧ apiSpec.IsIntegral gathered ∧
      apiSpec.ofText? (ApiSpec.encode gathered).render = some gathered := by
  have hcanonical : strewn.IsCanonical := by decide
  have hread : apiSpec.decode strewn = .ok gathered := rfl
  have hints : apiSpec.IsIntegral gathered := by
    simp [IsIntegral, ApiSpec.IsIntegral, ApiSpec.keptParts, gathered]
    decide
  exact ⟨hcanonical, hread, hints, (decode_written hcanonical hread hints).1⟩

end Codec

end GatewayOperator.Management
