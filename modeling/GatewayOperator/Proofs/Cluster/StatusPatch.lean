import GatewayOperator.Cluster.Wire
import GatewayOperator.Kube.Store
import GatewayOperator.Proofs.Json.MergePatch
import GatewayOperator.Proofs.Program.Conversation
import GatewayOperator.Proofs.Resource.ApiDefinition

/-!
# What a status write leaves

The status of a definition is written as a merge patch that names every field of a status, with null for what is
unset. It is written out by hand, beside the encoder that leaves unset fields out. The patch names the same fields
as the decoder, so it leaves exactly the status that is meant, whatever status was there before, and touches
nothing else but the version.
-/

set_option autoImplicit false

namespace GatewayOperator.Cluster

open GatewayOperator.Resource GatewayOperator.Json
open Kube.Store (metadata?)
open Program.Pass (asks_bind)
open Decode.Fields (optional_found required_found)

/-- The value of a member of an object's status. -/
def status? (object : Json) (name : String) : Option Json :=
  (object.get? "status").bind fun s => s.get? name

/-- The names of the fields of a status. -/
def statusNames : List String := ["id", "crossId", "processingStatus", "message", "observedGeneration"]

/-- Whether two objects are the same, the fields of a status and the version apart. -/
structure Untouched (before after : Json) : Prop where
  status : ∀ name, name ∉ statusNames → status? after name = status? before name
  metadata : ∀ name, name ≠ "resourceVersion" → metadata? after name = metadata? before name
  outside : ∀ name, name ≠ "status" → name ≠ "metadata" → after.get? name = before.get? name

/-- Whether an object has a status and a version: its status is read as that one, of the fields of a status it has
just those that the encoder would write, and the version is there if it is known. -/
structure Written (version : Option String) (s : ApiStatus) (after : Json) : Prop where
  read : (after.get? "status").map ApiStatus.decode = some (.ok s)
  fields : ∀ f ∈ s.fields, status? after f.1 = f.2
  version : metadata? after "resourceVersion" = version.map .string

/-- An object after some status writes, each given by its version and its status. -/
def rewritten (object : Json) (writes : List (Option String × ApiStatus)) : Json :=
  writes.foldl (fun o w => o.merged (statusPatch w.1 w.2)) object

variable {object : Json} {version : Option String} {s : ApiStatus} {name : String}

/-! ## The patch -/

/-- The status part of the patch. -/
def statusMembers (s : ApiStatus) : List (String × Json) :=
  [("crossId", orNull (s.crossId.map .string)), ("id", orNull (s.id.map .string)),
    ("message", orNull (s.message.map .string)),
    ("observedGeneration", orNull (s.observedGeneration.map Json.int)),
    ("processingStatus", .string s.processingStatus.name)]

/-- The parts of the patch. -/
def patchMembers (version : Option String) (s : ApiStatus) : List (String × Json) :=
  [("metadata", .object [versionMember version]), ("status", .object (statusMembers s))]

/-- The patch is an object with metadata and status. -/
theorem statusPatch_eq (version : Option String) (s : ApiStatus) :
    statusPatch version s = .object (patchMembers version s) := rfl

/-- The patch names each of its parts once. -/
theorem nodup_patchMembers : ((patchMembers version s).map Prod.fst).Nodup := by simp [patchMembers]

/-- The patch names each field of the status once. -/
theorem nodup_statusMembers : ((statusMembers s).map Prod.fst).Nodup := by simp [statusMembers]

/-- The patch names the fields of a status and no others. -/
theorem find?_statusMembers (s : ApiStatus) (name : String) :
    Entries.find? name (statusMembers s) = (Entries.find? name s.fields).map orNull := by
  by_cases hname : name ∈ s.fields.map Prod.fst
  · simp only [ApiStatus.fields, List.map_cons, List.map_nil, List.mem_cons, List.not_mem_nil, or_false] at hname
    rcases hname with rfl | rfl | rfl | rfl | rfl <;> rfl
  · have hother : name ∉ (statusMembers s).map Prod.fst := by
      intro h
      apply hname
      simp only [statusMembers, List.map_cons, List.map_nil, List.mem_cons, List.not_mem_nil, or_false] at h
      rcases h with rfl | rfl | rfl | rfl | rfl <;> simp [ApiStatus.fields]
    rw [Entries.find?_eq_none hname, Entries.find?_eq_none hother]
    rfl

/-- The value of each field takes the place of what was there. -/
theorem isPlain_of_mem_fields : ∀ f ∈ s.fields, ∀ v ∈ f.2, v.IsPlain := by
  simp [ApiStatus.fields, isPlain_string, isPlain_int]

/-- The fields of a status are those of the list of names. -/
theorem names_fields (s : ApiStatus) : s.fields.map Prod.fst = statusNames := rfl

/-- Every field of a status is found under its name. -/
theorem find?_fields : ∀ f ∈ s.fields, Entries.find? f.1 s.fields = some f.2 := by
  have hnames : (s.fields.map Prod.fst).Nodup := by simp [ApiStatus.fields]
  intro f hf
  exact Entries.find?_of_mem hnames hf

/-! ## The object afterwards -/

/-- Under the name of a field the status has what is meant, and under any other name what it had before. -/
theorem status?_merged (object : Json) (version : Option String) (s : ApiStatus) (name : String) :
    status? (object.merged (statusPatch version s)) name =
      (Entries.find? name s.fields).getD (status? object name) := by
  unfold status?
  rw [statusPatch_eq, get?_get?_merged nodup_patchMembers nodup_statusMembers rfl, find?_statusMembers]
  cases hfield : Entries.find? name s.fields with
  | none => rfl
  | some field =>
    -- the patch has a text, a number or null there, so nothing of the old value stays
    exact mergedMember_orNull (isPlain_of_mem_fields _ (Entries.mem_of_find? hfield)) _

/-- In the metadata nothing but the version changes. -/
theorem metadata?_merged (object : Json) (version : Option String) (s : ApiStatus) (name : String) :
    metadata? (object.merged (statusPatch version s)) name =
      if name = "resourceVersion" then version.map .string else metadata? object name := by
  have hversion : ∀ v ∈ version.map Json.string, v.IsPlain := by simp [isPlain_string]
  have hnames : ([versionMember version].map Prod.fst).Nodup := by simp
  unfold metadata?
  rw [statusPatch_eq, get?_get?_merged nodup_patchMembers hnames rfl]
  by_cases hname : name = "resourceVersion"
  · rw [if_pos hname, hname]
    exact mergedMember_orNull hversion _
  · rw [if_neg hname, Entries.find?_eq_none (by simpa [versionMember] using hname), mergedMember_none]

/-- Outside of status and metadata nothing changes. -/
theorem get?_merged_statusPatch (hstatus : name ≠ "status") (hmetadata : name ≠ "metadata") :
    (object.merged (statusPatch version s)).get? name = object.get? name := by
  have hname : name ∉ (patchMembers version s).map Prod.fst := by simp [patchMembers, hstatus, hmetadata]
  rw [statusPatch_eq, get?_merged nodup_patchMembers, Entries.find?_eq_none hname, mergedMember_none]

/-- Where the members of a status are what is meant, it is read as what is meant. -/
theorem decode_of_fields {ms : List (String × Json)} (h : ∀ f ∈ s.fields, Entries.find? f.1 ms = f.2)
    (hs : s.IsCounted) : ApiStatus.decode (.object ms) = .ok s := by
  simp only [ApiStatus.fields, List.forall_mem_cons] at h
  obtain ⟨hid, hcrossId, hprocessingStatus, hmessage, hobservedGeneration, -⟩ := h
  have htext (o : Option String) : ∀ t ∈ o, Decode.text (.string t) = .ok t := fun t _ => rfl
  have hstring (o : Option String) : ∀ t ∈ o, Json.string t ≠ .null := fun t _ heq => by cases heq
  refine Decode.record_object ?_
  rw [optional_found hid (htext s.id) (hstring s.id),
    optional_found hcrossId (htext s.crossId) (hstring s.crossId),
    required_found hprocessingStatus
      (Decode.readsBack_variant (lookup_processingStatus s.processingStatus)),
    optional_found hmessage (htext s.message) (hstring s.message),
    optional_found hobservedGeneration (fun n hn => Decode.readsBack_int64 (hs n hn)) (fun n _ heq => by cases heq)]
  rfl

/-- The patch leaves everything but status fields and version. -/
theorem untouched_merged (object : Json) (version : Option String) (s : ApiStatus) :
    Untouched object (object.merged (statusPatch version s)) where
  status name hname := by
    rw [← names_fields s] at hname
    rw [status?_merged, Entries.find?_eq_none hname, Option.getD_none]
  metadata name hname := by rw [metadata?_merged, if_neg hname]
  outside name hstatus hmetadata := get?_merged_statusPatch hstatus hmetadata

/-- The patch leaves the status that is meant. -/
theorem written_merged (object : Json) (version : Option String) (hs : s.IsCounted) :
    Written version s (object.merged (statusPatch version s)) := by
  have hfields : ∀ f ∈ s.fields, status? (object.merged (statusPatch version s)) f.1 = f.2 := by
    intro f hf
    rw [status?_merged, find?_fields f hf, Option.getD_some]
  -- there is a status now, even if there was none or something else in its place
  obtain ⟨ms, hstatus⟩ : ∃ ms, (object.merged (statusPatch version s)).get? "status" = some (.object ms) := by
    rw [statusPatch_eq, get?_merged nodup_patchMembers]
    exact ⟨_, rfl⟩
  refine ⟨?_, hfields, ?_⟩
  · rw [hstatus, Option.map_some, decode_of_fields ?_ hs]
    intro f hf
    have hfield := hfields f hf
    unfold status? at hfield
    rw [hstatus] at hfield
    exact hfield
  · rw [metadata?_merged, if_pos rfl]

/-! ## Several writes -/

/-- An object is the same as itself. -/
theorem Untouched.refl (object : Json) : Untouched object object := by
  constructor <;> intros <;> rfl

/-- What two writes in a row leave untouched stays the same. -/
theorem Untouched.trans {between after : Json} (h : Untouched object between) (h' : Untouched between after) :
    Untouched object after where
  status name hname := (h'.status name hname).trans (h.status name hname)
  metadata name hname := (h'.metadata name hname).trans (h.metadata name hname)
  outside name hstatus hmetadata :=
    (h'.outside name hstatus hmetadata).trans (h.outside name hstatus hmetadata)

/-- However many statuses are written, the rest of the object stays. -/
theorem untouched_rewritten (object : Json) (writes : List (Option String × ApiStatus)) :
    Untouched object (rewritten object writes) := by
  unfold rewritten
  induction writes generalizing object with
  | nil => exact .refl object
  | cons w rest ih =>
    rw [List.foldl_cons]
    exact (untouched_merged object w.1 w.2).trans (ih _)

/-- The last of several writes leaves what it would leave alone. -/
theorem written_rewritten (object : Json) (earlier : List (Option String × ApiStatus)) (version : Option String)
    (hs : s.IsCounted) : Written version s (rewritten object (earlier ++ [(version, s)])) := by
  unfold rewritten
  rw [List.foldl_append, List.foldl_cons, List.foldl_nil]
  exact written_merged _ version hs

/-! ## The request -/

/-- All that the write of a status sends is the patch. -/
theorem asks_writeStatus (ns name : String) (version : Option String) (s : ApiStatus) :
    (Call.writeStatus ns name version s).perform.Asks fun c => ∃ a, c = .mergePatch a (statusPatch version s) := by
  unfold Call.perform Call.wire merge
  refine asks_bind (asks_bind trivial ?_) fun _ => trivial
  intro a
  exact asks_bind (Program.asks_call ⟨a, rfl⟩) fun _ => trivial

/-- A status write sends one patch. Merged into an object, whatever status it has and whatever was written
before, the patch leaves exactly the status that is meant and the version that it names, and nothing else of the
object changes. -/
theorem status_written_exactly (version : Option String) (s : ApiStatus) (hs : s.IsCounted) :
    (∀ ns name, (Call.writeStatus ns name version s).perform.Asks fun c =>
      ∃ a, c = .mergePatch a (statusPatch version s)) ∧
    ∀ object : Json,
      Untouched object (object.merged (statusPatch version s)) ∧
      Written version s (object.merged (statusPatch version s)) ∧
      ∀ earlier : List (Option String × ApiStatus),
        Untouched object (rewritten object (earlier ++ [(version, s)])) ∧
        Written version s (rewritten object (earlier ++ [(version, s)])) ∧
        ((rewritten object (earlier ++ [(version, s)])).get? "status").map ApiStatus.decode =
          ((object.merged (statusPatch version s)).get? "status").map ApiStatus.decode := by
  constructor
  · intro ns name
    exact asks_writeStatus ns name version s
  · intro object
    have honce := written_merged object version hs
    refine ⟨untouched_merged object version s, honce, ?_⟩
    intro earlier
    have hlast := written_rewritten object earlier version hs
    exact ⟨untouched_rewritten object _, hlast, hlast.read.trans honce.read.symm⟩

section Sample

/-- An object with a status of which a message and a member unknown to the operator are left. -/
def partlyWritten : Json :=
  .object [("metadata", .object [("name", .string "orders"), ("resourceVersion", .string "6")]),
    ("spec", .object [("name", .string "orders")]),
    ("status", .object [("message", .string "timed out"), ("phase", .string "cached")])]

/-- The status of a pass that succeeded. -/
def finished : ApiStatus := ⟨some "api-1", some "orders", .completed, none, some 3⟩

/-- The message is gone, and what is unknown stays. -/
theorem message_cleared :
    finished.IsCounted ∧ status? partlyWritten "message" = some (.string "timed out") ∧
      status? (partlyWritten.merged (statusPatch (some "7") finished)) "message" = none ∧
      status? (partlyWritten.merged (statusPatch (some "7") finished)) "phase" = some (.string "cached") ∧
      metadata? (partlyWritten.merged (statusPatch (some "7") finished)) "resourceVersion" = some (.string "7") ∧
      ((partlyWritten.merged (statusPatch (some "7") finished)).get? "status").map ApiStatus.decode =
        some (.ok finished) := by
  have hcounted : finished.IsCounted := by
    intro n hn
    cases hn
    decide
  obtain ⟨-, hobject⟩ := status_written_exactly (some "7") finished hcounted
  obtain ⟨hkept, hwritten, -⟩ := hobject partlyWritten
  refine ⟨hcounted, rfl, ?_, ?_, hwritten.version, hwritten.read⟩
  · exact hwritten.fields ("message", none) (by simp [ApiStatus.fields, finished])
  · exact hkept.status "phase" (by decide)

end Sample

end GatewayOperator.Cluster
