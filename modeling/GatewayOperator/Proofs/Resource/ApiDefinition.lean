import GatewayOperator.Proofs.Json.Records
import GatewayOperator.Resource.ApiDefinition

/-!
# Definitions that are read back

The specification and the status of a definition are read back as they were written. The parts of a
specification that are kept as JSON are read back if they are canonical and not null, which holds of
every specification that was decoded from a canonical value.
-/

set_option autoImplicit false

namespace GatewayOperator.Resource

open Json Json.Decode Json.Decode.Fields

namespace ContextReference

/-- The fields of a reference to a context. -/
def fields (r : ContextReference) : List (String × Option Json) :=
  [("name", some (.string r.name)), ("namespace", r.namespace.map .string)]

/-- A reference to a context is written by its fields. -/
theorem encode_eq (r : ContextReference) : encode r = .object (present r.fields) := by
  simp [encode, fields, present, member?]

/-- The text of a reference to a context can be read back. -/
theorem isFitting_encode (r : ContextReference) : (encode r).IsFitting := by
  rw [encode_eq]
  refine isFitting_present ?_
  simp [fields, isFitting_text]

/-- A reference to a context is one level deep. -/
theorem depth_encode_le (r : ContextReference) : (encode r).depth ≤ 1 := by
  rw [encode_eq]
  refine depth_present_le ?_
  simp [fields, depth]

/-- A reference to a context is read back. -/
theorem readsBack (r : ContextReference) : ReadsBack decode (encode r) r := by
  have hnames : (r.fields.map Prod.fst).Nodup := by simp [fields]
  rw [encode_eq]
  refine readsBack_record ?_
  rw [required_returned hnames rfl (readsBack_text r.name),
    optional_text hnames rfl]
  rfl

end ContextReference

/-- Every state of an API is known by its name. -/
theorem lookup_apiState (a : ApiState) : ApiState.names.lookup a.name = some a := by
  cases a <;> decide

/-- Every lifecycle state is known by its name. -/
theorem lookup_lifecycleState (a : LifecycleState) : LifecycleState.names.lookup a.name = some a := by
  cases a <;> decide

/-- Every visibility is known by its name. -/
theorem lookup_visibility (a : Visibility) : Visibility.names.lookup a.name = some a := by
  cases a <;> decide

/-- Every processing status is known by its name. -/
theorem lookup_processingStatus (a : ProcessingStatus) :
    ProcessingStatus.names.lookup a.name = some a := by
  cases a <;> decide

namespace ApiSpec

/-- The parts of a specification that are kept as JSON. -/
def keptParts (s : ApiSpec) : List (Option Json) :=
  [s.proxy, s.plans, s.flows, s.resources, s.properties, s.primaryOwner, s.metadata,
    s.responseTemplates]

/-- Whether each part that is kept as JSON is one that a text can give, and not null. -/
def IsKept (s : ApiSpec) : Prop := ∀ part ∈ s.keptParts, ∀ v ∈ part, v ≠ .null ∧ v.IsCanonical

/-- Whether the numbers in the parts that are kept as JSON are integers. -/
def IsIntegral (s : ApiSpec) : Prop := ∀ part ∈ s.keptParts, ∀ v ∈ part, v.IsIntegral

/-- The fields of a specification. -/
def fields (s : ApiSpec) : List (String × Option Json) :=
  [("name", some (.string s.name)), ("version", some (.string s.version)),
    ("description", s.description.map .string), ("crossId", s.crossId.map .string),
    ("contextRef", s.contextRef.map ContextReference.encode),
    ("state", some (.string s.state.name)), ("lifecycleState", some (.string s.lifecycleState.name)),
    ("visibility", some (.string s.visibility.name)), ("tags", nonEmpty? s.tags),
    ("labels", nonEmpty? s.labels), ("proxy", s.proxy), ("plans", s.plans), ("flows", s.flows),
    ("resources", s.resources), ("properties", s.properties), ("primaryOwner", s.primaryOwner),
    ("metadata", s.metadata), ("responseTemplates", s.responseTemplates)]

/-- A specification is written by its fields. -/
theorem encode_eq (s : ApiSpec) : encode s = .object (present s.fields) := by
  simp [encode, fields, present, member?]

/-- A list that is written is written as its texts. -/
theorem eq_strings_of_nonEmpty? {xs : List String} {v : Json} (h : nonEmpty? xs = some v) :
    v = strings xs := by
  unfold nonEmpty? at h
  split at h
  · cases h
  · exact (Option.some.inj h).symm

/-- A list that is left out is empty. -/
theorem eq_nil_of_nonEmpty? {xs : List String} (h : nonEmpty? xs = none) : xs = [] := by
  unfold nonEmpty? at h
  split at h
  · assumption
  · cases h

/-- A part that is kept as JSON is read back if it is there. -/
theorem optional_kept {fields : List (String × Option Json)} {name : String} {part : Option Json}
    (h : (fields.map Prod.fst).Nodup) (hfield : Entries.find? name fields = some part)
    (hkept : ∀ v ∈ part, v ≠ .null ∧ v.IsCanonical) (i : Nat) :
    (Fields.named (returned fields)).optional i name any = .value part := by
  have hsame : part.map id = part := Option.map_id_apply
  rw [← hsame] at hfield
  refine optional_returned h hfield (fun v hv => ?_) (fun v hv => ?_) i
  · exact readsBack_any (hkept v hv).2
  · rw [id, settled_of_isCanonical (hkept v hv).2]
    exact (hkept v hv).1

/-- A list is read back, also if it was left out because it is empty. -/
theorem defaulted_nonEmpty {fields : List (String × Option Json)} {name : String} {xs : List String}
    (h : (fields.map Prod.fst).Nodup) (hfield : Entries.find? name fields = some (nonEmpty? xs))
    (i : Nat) : (Fields.named (returned fields)).defaulted i name [] (list text) = .value xs := by
  refine defaulted_returned h hfield (fun v hv => ?_) eq_nil_of_nonEmpty? i
  rw [eq_strings_of_nonEmpty? hv]
  exact readsBack_strings xs

/-- A specification is read back if its opaque parts are kept. -/
theorem readsBack {s : ApiSpec} (h : s.IsKept) : ReadsBack decode (encode s) s := by
  have hnames : (s.fields.map Prod.fst).Nodup := by simp [fields]
  simp only [IsKept, keptParts, List.forall_mem_cons] at h
  obtain ⟨hproxy, hplans, hflows, hresources, hproperties, howner, hmetadata, htemplates, -⟩ := h
  rw [encode_eq]
  refine readsBack_record ?_
  rw [required_returned hnames rfl (readsBack_text s.name),
    required_returned hnames rfl (readsBack_text s.version), optional_text hnames rfl,
    optional_text hnames rfl,
    optional_returned hnames rfl (fun r _ => r.readsBack) (fun r _ => settled_object_ne_null _),
    defaulted_written hnames rfl (readsBack_variant (lookup_apiState s.state)),
    defaulted_written hnames rfl (readsBack_variant (lookup_lifecycleState s.lifecycleState)),
    defaulted_written hnames rfl (readsBack_variant (lookup_visibility s.visibility)),
    defaulted_nonEmpty hnames rfl, defaulted_nonEmpty hnames rfl, optional_kept hnames rfl hproxy,
    optional_kept hnames rfl hplans, optional_kept hnames rfl hflows,
    optional_kept hnames rfl hresources, optional_kept hnames rfl hproperties,
    optional_kept hnames rfl howner, optional_kept hnames rfl hmetadata,
    optional_kept hnames rfl htemplates]
  rfl

/-- The text of a specification with integers can be read back. -/
theorem isFitting_encode {s : ApiSpec} (h : s.IsKept) (hints : s.IsIntegral) :
    (encode s).IsFitting := by
  have hparts : ∀ part ∈ s.keptParts, ∀ v ∈ part, v.IsFitting :=
    fun part hpart v hv => (h part hpart v hv).2.isFitting (hints part hpart v hv)
  have hlist (xs : List String) (v : Json) (hv : nonEmpty? xs = some v) : v.IsFitting := by
    rw [eq_strings_of_nonEmpty? hv]
    exact isFitting_strings xs
  simp only [keptParts, List.forall_mem_cons, Option.mem_def] at hparts
  rw [encode_eq]
  refine isFitting_present ?_
  simp only [fields, List.forall_mem_cons]
  simpa [isFitting_text, ContextReference.isFitting_encode]
    using And.intro (hlist s.tags) (And.intro (hlist s.labels) hparts)

/-- A specification nests one deeper than the parts that are kept, or than its lists. -/
theorem depth_encode_le {s : ApiSpec} {n : Nat} (hn : 1 ≤ n)
    (h : ∀ part ∈ s.keptParts, ∀ v ∈ part, v.depth ≤ n) : (encode s).depth ≤ n + 1 := by
  have htext (t : String) : (Json.string t).depth ≤ n := Nat.zero_le n
  have hlist (xs : List String) (v : Json) (hv : nonEmpty? xs = some v) : v.depth ≤ n := by
    rw [eq_strings_of_nonEmpty? hv]
    exact Nat.le_trans (depth_strings_le xs) hn
  have hreference (r : ContextReference) : r.encode.depth ≤ n := Nat.le_trans r.depth_encode_le hn
  simp only [keptParts, List.forall_mem_cons, Option.mem_def] at h
  rw [encode_eq]
  refine depth_present_le ?_
  simp only [fields, List.forall_mem_cons]
  simpa [htext, hreference] using And.intro (hlist s.tags) (And.intro (hlist s.labels) h)

/-- The parts of a specification that was decoded are parts of the value. -/
theorem mem_parts_of_decode {j : Json} {s : ApiSpec} (h : decode j = .ok s) :
    ∀ part ∈ s.keptParts, ∀ v ∈ part, v ≠ .null ∧ v ∈ j.parts := by
  obtain ⟨f, hf, hread⟩ := exists_fields h
  have hpart (i : Nat) (name : String) :
      (f.optional i name any).Always fun part => ∀ v ∈ part, v ≠ .null ∧ v ∈ j.parts := by
    refine always_optional f i fun place step w v hget hnull hv => ?_
    cases hv
    exact ⟨hnull, mem_parts_of_get? hf hget⟩
  clear h
  revert s
  show Reading.Always (fun s : ApiSpec => ∀ part ∈ s.keptParts, ∀ v ∈ part, v ≠ .null ∧ v ∈ j.parts) _
  -- the last eight fields are the parts that are kept
  iterate 8 refine .seq ?_ (hpart _ _)
  iterate 9 refine .seq ?_ (Reading.always_true _)
  refine .map ?_ (Reading.always_true _)
  intro name _ version _ description _ crossId _ contextRef _ state _ lifecycleState _ visibility _
    tags _ labels _ proxy hproxy plans hplans flows hflows resources hresources properties hproperties
    primaryOwner hprimaryOwner metadata hmetadata responseTemplates hresponseTemplates
  simp only [keptParts, List.forall_mem_cons]
  exact ⟨hproxy, hplans, hflows, hresources, hproperties, hprimaryOwner, hmetadata,
    hresponseTemplates, List.forall_mem_nil _⟩

/-- The opaque parts of a specification that was read are kept. -/
theorem isKept_of_decode {j : Json} {s : ApiSpec} (hj : j.IsCanonical) (h : decode j = .ok s) :
    s.IsKept := by
  intro part hpart v hv
  obtain ⟨hnull, hmem⟩ := mem_parts_of_decode h part hpart v hv
  exact ⟨hnull, all_of_mem_parts hj hmem⟩

end ApiSpec

namespace ApiStatus

/-- The fields of a status. -/
def fields (s : ApiStatus) : List (String × Option Json) :=
  [("id", s.id.map .string), ("crossId", s.crossId.map .string),
    ("processingStatus", some (.string s.processingStatus.name)),
    ("message", s.message.map .string), ("observedGeneration", s.observedGeneration.map Json.int)]

/-- Whether the generation fits in 64 bits. -/
def IsCounted (s : ApiStatus) : Prop :=
  ∀ n ∈ s.observedGeneration, -9223372036854775808 ≤ n ∧ n ≤ 9223372036854775807

/-- A status is written by its fields. -/
theorem encode_eq (s : ApiStatus) : encode s = .object (present s.fields) := by
  simp [encode, fields, present, member?]

/-- A status is read back if its counts fit. -/
theorem readsBack {s : ApiStatus} (h : s.IsCounted) : ReadsBack decode (encode s) s := by
  have hnames : (s.fields.map Prod.fst).Nodup := by simp [fields]
  rw [encode_eq]
  refine readsBack_record ?_
  rw [optional_text hnames rfl, optional_text hnames rfl,
    required_returned hnames rfl (readsBack_variant (lookup_processingStatus s.processingStatus)),
    optional_text hnames rfl,
    optional_returned hnames rfl (fun n hn => readsBack_int64 (h n hn)) (fun n _ h => by cases h)]
  rfl

/-- The text of a status can be read back. -/
theorem isFitting_encode {s : ApiStatus} (h : s.IsCounted) : (encode s).IsFitting := by
  have hgeneration : ∀ n ∈ s.observedGeneration, (Json.int n).IsFitting := by
    intro n hn
    obtain ⟨hleast, hgreatest⟩ := h n hn
    exact decide_eq_true ⟨by omega, by omega⟩
  rw [encode_eq]
  refine isFitting_present ?_
  simp only [fields, List.forall_mem_cons]
  simp_all [isFitting_text]

/-- A status is one level deep. -/
theorem depth_encode_le (s : ApiStatus) : (encode s).depth ≤ 1 := by
  rw [encode_eq]
  refine depth_present_le ?_
  simp [fields, depth, Json.int]

/-- The counts of a status that was read fit. -/
theorem isCounted_of_decode {j : Json} {s : ApiStatus} (h : decode j = .ok s) : s.IsCounted := by
  obtain ⟨f, -, hread⟩ := exists_fields h
  have hgeneration : (f.optional 4 "observedGeneration" int64).Always fun o =>
      ∀ n ∈ o, -9223372036854775808 ≤ n ∧ n ≤ 9223372036854775807 :=
    always_optional f 4 fun place step v n _ _ hn => bounds_of_int64 hn
  clear h
  revert s
  show Reading.Always IsCounted _
  refine .seq ?_ hgeneration
  iterate 3 refine .seq ?_ (Reading.always_true _)
  refine .map ?_ (Reading.always_true _)
  intro id _ crossId _ processingStatus _ message _ observedGeneration hcounted
  exact hcounted

end ApiStatus

end GatewayOperator.Resource
