import GatewayOperator.Management.Payload
import GatewayOperator.Proofs.Resource.ApiDefinition

/-!
# Payloads mirror specifications

The text of a payload determines the cross ID, the id of the record and everything in the specification but
the context and the pinned cross ID. What a specification keeps as JSON stands in the payload as it is, under
the names of the backend.
-/

set_option autoImplicit false

namespace GatewayOperator.Management.Payload

open Resource Json Json.Decode

/-- The payload of a specification for a known id of a record, addressed to another record if one is given. -/
def addressed (s : ApiSpec) (crossId : String) (known given : Option String) : Payload :=
  match given with
  | none => ofSpec s crossId known
  | some id => (ofSpec s crossId known).withId id

/-- A payload that is addressed has the given id, or else the known one. -/
theorem addressed_eq (s : ApiSpec) (crossId : String) (known given : Option String) :
    addressed s crossId known given = ofSpec s crossId (given.or known) := by
  cases given with
  | none => rfl
  | some id => rfl

/-- A payload holds everything in the specification but the context and the pinned cross ID. -/
theorem ofSpec_eq_iff {s s' : ApiSpec} {crossId crossId' : String} {id id' : Option String} :
    ofSpec s crossId id = ofSpec s' crossId' id' ↔
      crossId = crossId' ∧ id = id' ∧
        { s with contextRef := s'.contextRef, crossId := s'.crossId } = s' := by
  cases s with
  | mk => cases s' with
    | mk =>
      simp only [ofSpec, Payload.mk.injEq, ApiSpec.mk.injEq, true_and]
      exact ⟨fun ⟨hid, hcross, hrest⟩ => ⟨hcross, hid, hrest⟩,
        fun ⟨hcross, hid, hrest⟩ => ⟨hid, hcross, hrest⟩⟩

/-! ## Fields of a payload -/

/-- The parts of a specification that are kept as JSON, under their names in a payload. -/
def keptFields (s : ApiSpec) : List (String × Option Json) :=
  [("proxy", s.proxy), ("plans", s.plans), ("flows", s.flows), ("resources", s.resources),
    ("properties", s.properties), ("primaryOwner", s.primaryOwner), ("metadata", s.metadata),
    ("response_templates", s.responseTemplates)]

/-- The fields of the payload of a specification. -/
def fields (s : ApiSpec) (crossId : String) (id : Option String) : List (String × Option Json) :=
  [("id", id.map .string), ("crossId", some (.string crossId)), ("name", some (.string s.name)),
    ("version", some (.string s.version)), ("description", s.description.map .string),
    ("state", some (.string s.state.name)), ("lifecycle_state", some (.string s.lifecycleState.name)),
    ("visibility", some (.string s.visibility.name)), ("tags", some (strings s.tags)),
    ("labels", some (strings s.labels))]
    ++ (keptFields s ++ [("definition_context", some definitionContext)])

section

variable {s s' : ApiSpec} {crossId crossId' : String} {id id' : Option String}

/-- A payload is written by its fields. -/
theorem encode_ofSpec (s : ApiSpec) (crossId : String) (id : Option String) :
    (ofSpec s crossId id).encode = .object (present (fields s crossId id)) := by
  simp [encode, ofSpec, fields, keptFields, present, member?]

/-- The fields of a payload have distinct names. -/
theorem nodup_fields : ((fields s crossId id).map Prod.fst).Nodup := by simp [fields, keptFields]

/-- A payload can be read back if the specification can. -/
theorem isFitting_encode_ofSpec (crossId : String) (id : Option String) (hkept : s.IsKept)
    (hints : s.IsIntegral) : (ofSpec s crossId id).encode.IsFitting := by
  have hparts : ∀ f ∈ keptFields s, ∀ v ∈ f.2, v.IsFitting := by
    intro f hf v hv
    have hpart : f.2 ∈ s.keptParts := List.mem_map_of_mem hf
    exact (hkept f.2 hpart v hv).2.isFitting (hints f.2 hpart v hv)
  have hmark : definitionContext.IsFitting := rfl
  rw [encode_ofSpec]
  refine isFitting_present (List.forall_mem_append.mpr ⟨?_, List.forall_mem_append.mpr ⟨hparts, ?_⟩⟩)
  · simp [isFitting_text, isFitting_strings]
  · simp [hmark]

/-- A payload nests one deeper than the parts that are kept as JSON, or than its lists. -/
theorem depth_encode_ofSpec_le (crossId : String) (id : Option String) {n : Nat} (hn : 1 ≤ n)
    (h : ∀ part ∈ s.keptParts, ∀ v ∈ part, v.depth ≤ n) : (ofSpec s crossId id).encode.depth ≤ n + 1 := by
  have htext (t : String) : (Json.string t).depth ≤ n := Nat.zero_le n
  have hlist (xs : List String) : (strings xs).depth ≤ n := Nat.le_trans (depth_strings_le xs) hn
  have hmark : definitionContext.depth ≤ n := hn
  have hparts : ∀ f ∈ keptFields s, ∀ v ∈ f.2, v.depth ≤ n :=
    fun f hf => h f.2 (List.mem_map_of_mem hf)
  rw [encode_ofSpec]
  refine depth_present_le (List.forall_mem_append.mpr ⟨?_, List.forall_mem_append.mpr ⟨hparts, ?_⟩⟩)
  · simp [htext, hlist]
  · simp [hmark]

/-! ## Reading a payload back -/

/-- What a specification keeps as JSON is found under its name. -/
theorem find?_fields_of_kept : ∀ f ∈ keptFields s,
    Entries.find? f.1 (fields s crossId id) = some f.2 := by
  simp only [keptFields, List.forall_mem_cons]
  exact ⟨rfl, rfl, rfl, rfl, rfl, rfl, rfl, rfl, List.forall_mem_nil _⟩

/-- The parts that are kept as JSON are read back as they are. -/
theorem map_settled_of_kept (hkept : s.IsKept) : ∀ part ∈ s.keptParts, part.map settled = part := by
  intro part hpart
  cases part with
  | none => rfl
  | some v => exact congrArg some (settled_of_isCanonical (hkept _ hpart v rfl).2)

/-- The parts that are kept as JSON are found in the payload under their names. -/
theorem get?_settled_of_kept (hkept : s.IsKept) : ∀ f ∈ keptFields s,
    (ofSpec s crossId id).encode.settled.get? f.1 = f.2 := by
  intro f hf
  rw [encode_ofSpec, settled_present]
  show Entries.find? f.1 (returned (fields s crossId id)) = f.2
  rw [find?_returned nodup_fields, find?_fields_of_kept f hf, Option.join_some]
  exact map_settled_of_kept hkept f.2 (List.mem_map_of_mem hf)

/-- Optional texts that are read back alike are equal. -/
theorem text_inj {t t' : Option String}
    (h : (t.map Json.string).map settled = (t'.map Json.string).map settled) : t = t' := by
  rw [Option.map_map, Option.map_map] at h
  exact Option.map_injective (fun _ _ heq => Json.string.inj heq) h

/-- Lists of texts that are read back alike are equal. -/
theorem list_inj {xs xs' : List String} (h : (strings xs).settled = (strings xs').settled) : xs = xs' := by
  rw [settled_strings, settled_strings] at h
  exact (List.map_inj_right fun _ _ heq => Json.string.inj heq).mp (Json.array.inj h)

/-- Names that are looked up are different for different values. -/
theorem name_inj {α : Type} {names : List (String × α)} {name : α → String}
    (hlookup : ∀ a, names.lookup (name a) = some a) {a a' : α}
    (h : (Json.string (name a)).settled = (Json.string (name a')).settled) : a = a' := by
  have hname : name a = name a' := Json.string.inj h
  have hfound := hlookup a
  rw [hname, hlookup a'] at hfound
  exact (Option.some.inj hfound).symm

/-- Payloads that are read back as the same value are the same. -/
theorem ofSpec_eq_of_settled_eq (hkept : s.IsKept) (hkept' : s'.IsKept)
    (h : (ofSpec s crossId id).encode.settled = (ofSpec s' crossId' id').encode.settled) :
    ofSpec s crossId id = ofSpec s' crossId' id' := by
  have hparts : ∀ f ∈ keptFields s, ∀ f' ∈ keptFields s', f.1 = f'.1 → f.2 = f'.2 := by
    intro f hf f' hf' hname
    rw [← get?_settled_of_kept hkept f hf, ← get?_settled_of_kept hkept' f' hf', h, hname]
  rw [encode_ofSpec, encode_ofSpec, settled_present, settled_present, Json.object.injEq] at h
  have hfield (name : String) : (Entries.find? name (fields s crossId id)).join.map settled =
      (Entries.find? name (fields s' crossId' id')).join.map settled := by
    rw [← find?_returned nodup_fields, ← find?_returned nodup_fields, h]
  have hid : id = id' := text_inj (hfield "id")
  have hcross : crossId = crossId' := Json.string.inj (Option.some.inj (hfield "crossId"))
  have hname : s.name = s'.name := Json.string.inj (Option.some.inj (hfield "name"))
  have hversion : s.version = s'.version := Json.string.inj (Option.some.inj (hfield "version"))
  have hdescription : s.description = s'.description := text_inj (hfield "description")
  have hstate : s.state = s'.state := name_inj lookup_apiState (Option.some.inj (hfield "state"))
  have hlifecycle : s.lifecycleState = s'.lifecycleState :=
    name_inj lookup_lifecycleState (Option.some.inj (hfield "lifecycle_state"))
  have hvisibility : s.visibility = s'.visibility :=
    name_inj lookup_visibility (Option.some.inj (hfield "visibility"))
  have htags : s.tags = s'.tags := list_inj (Option.some.inj (hfield "tags"))
  have hlabels : s.labels = s'.labels := list_inj (Option.some.inj (hfield "labels"))
  have hkeptFields : keptFields s = keptFields s' := by
    simpa [keptFields] using hparts
  simp only [keptFields, List.cons.injEq, Prod.mk.injEq, true_and, and_true] at hkeptFields
  obtain ⟨hproxy, hplans, hflows, hresources, hproperties, howner, hmetadata, htemplates⟩ := hkeptFields
  simp only [ofSpec, hid, hcross, hname, hversion, hdescription, hstate, hlifecycle, hvisibility, htags,
    hlabels, hproxy, hplans, hflows, hresources, hproperties, howner, hmetadata, htemplates]

end

/-! ## The text of a payload -/

/-- Two payloads have the same text exactly if they have the same cross ID and the same id, and their
specifications agree beyond the context and the pinned cross ID. The text is read back with all parts that are
kept as JSON as they were, the absent ones absent, and nests no deeper than the specification did. -/
theorem render_eq_iff_and_kept {j j' : Json} {s s' : ApiSpec} (hj : j.IsCanonical)
    (hj' : j'.IsCanonical) (hread : ApiSpec.decode j = .ok s) (hread' : ApiSpec.decode j' = .ok s')
    (hints : s.IsIntegral) (hints' : s'.IsIntegral) (crossId crossId' : String)
    (known known' given given' : Option String) :
    ((addressed s crossId known given).encode.render =
        (addressed s' crossId' known' given').encode.render ↔
      crossId = crossId' ∧ given.or known = given'.or known' ∧
        { s with contextRef := s'.contextRef, crossId := s'.crossId } = s') ∧
    ∃ body, parse? (addressed s crossId known given).encode.render = some body ∧
      body.depth ≤ max 2 j.depth ∧ ∀ f ∈ keptFields s, body.get? f.1 = f.2 := by
  have hkept := ApiSpec.isKept_of_decode hj hread
  have hkept' := ApiSpec.isKept_of_decode hj' hread'
  rw [addressed_eq, addressed_eq, ← ofSpec_eq_iff]
  have hfits := isFitting_encode_ofSpec crossId (given.or known) hkept hints
  have hfits' := isFitting_encode_ofSpec crossId' (given'.or known') hkept' hints'
  refine ⟨⟨fun h => ?_, fun h => by rw [h]⟩, _, parse?_render hfits, ?_, get?_settled_of_kept hkept⟩
  · exact ofSpec_eq_of_settled_eq hkept hkept' (settled_eq_of_render_eq hfits hfits' h)
  · have hparts : ∀ part ∈ s.keptParts, ∀ v ∈ part, v.depth ≤ max 1 (j.depth - 1) := by
      intro part hpart v hv
      have hlt := depth_lt_of_mem_parts (ApiSpec.mem_parts_of_decode hread part hpart v hv).2
      omega
    have hdepth := depth_encode_ofSpec_le crossId (given.or known) (by omega) hparts
    have hsettled := depth_settled_le (ofSpec s crossId (given.or known)).encode
    omega

/-- A specification of an API behind a context, with a part that is kept as JSON. -/
def behind (context : String) : Json :=
  .object [("contextRef", .object [("name", .string context)]), ("name", .string "orders"),
    ("proxy", .object [("paths", .array [.string "/orders", .number (.int 1)])]),
    ("version", .string "1.0")]

/-- What is read from it. -/
def served (context : String) : ApiSpec where
  name := "orders"
  version := "1.0"
  description := none
  crossId := none
  contextRef := some ⟨context, none⟩
  state := .started
  lifecycleState := .created
  visibility := .private
  tags := []
  labels := []
  proxy := some (.object [("paths", .array [.string "/orders", .number (.int 1)])])
  plans := none
  flows := none
  resources := none
  properties := none
  primaryOwner := none
  metadata := none
  responseTemplates := none

/-- The same specification behind two contexts gives one text, and its opaque part is read back from it. -/
theorem context_not_in_text :
    (addressed (served "dev") "c-1" (some "1") none).encode.render =
        (addressed (served "live") "c-1" none (some "1")).encode.render ∧
      ∃ body, parse? (addressed (served "dev") "c-1" (some "1") none).encode.render = some body ∧
        body.get? "proxy" = (served "dev").proxy ∧ body.get? "plans" = none := by
  have hints (context : String) : (served context).IsIntegral := by
    intro part hpart v hv
    simp only [ApiSpec.keptParts, served, List.mem_cons, List.not_mem_nil, or_false] at hpart
    obtain rfl | hnone := hpart
    · cases hv
      decide
    · simp_all
  have hdev : ApiSpec.decode (behind "dev") = .ok (served "dev") := rfl
  have hlive : ApiSpec.decode (behind "live") = .ok (served "live") := rfl
  obtain ⟨hsame, body, hread, -, hkept⟩ := render_eq_iff_and_kept (by decide) (by decide) hdev hlive
    (hints "dev") (hints "live") "c-1" "c-1" (some "1") none none (some "1")
  refine ⟨hsame.mpr ⟨rfl, rfl, rfl⟩, body, hread, hkept ("proxy", _) ?_, hkept ("plans", _) ?_⟩
  · exact List.mem_cons_self
  · exact List.mem_cons_of_mem _ List.mem_cons_self

end GatewayOperator.Management.Payload
