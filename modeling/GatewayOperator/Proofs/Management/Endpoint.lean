import GatewayOperator.Management.Endpoint
import GatewayOperator.Proofs.Url.Path
import Mathlib.Data.List.Basic

/-!
# Where requests go

The collection of an organization and an environment stands at a place below the base that the two of them choose:
each of them hangs on a fixed word, which it leaves as it is, replaces by nothing, or is followed by. The base is
kept but for its path.
-/

set_option autoImplicit false

namespace GatewayOperator.Management.Endpoint

open Url

/-! ## The collection -/

/-- The base as a client reads it, and its collection. -/
theorem collection_eq_ok_iff {base organization environment : String} {c : Url} :
    collection base organization environment = .ok c ↔
      ∃ u, Url.read (trimSlashes base) = .ok u ∧
        c = u.dropEmptyEnd.extend
          ["management", "organizations", organization, "environments", environment, "apis"] := by
  unfold collection
  cases Url.read (trimSlashes base) with
  | error fault => simp
  | ok u => simp [eq_comm]

/-- The place of an organization and an environment below the base. -/
def place (organization environment : Slot) : List (List Char) :=
  organization.under "organizations".toList ++ environment.under "environments".toList

/-- Where the places of all clients of a base begin. -/
def root (u : Url) : List (List Char) := rootless u.path ++ ["management".toList]

/-- The path of a client, without the last word. -/
def front (u : Url) (organization environment : String) : List (List Char) :=
  root u ++ place (slot organization) (slot environment)

/-- A word with what follows it leaves something of a path. -/
theorem under_ne_nil (name : List Char) (s : Slot) : s.under name ≠ [] := by
  cases s <;> exact List.cons_ne_nil _ _

/-- A place is not empty. -/
theorem place_ne_nil (a b : Slot) : place a b ≠ [] :=
  List.append_ne_nil_of_right_ne_nil _ (under_ne_nil _ b)

/-- The path of a client is not empty. -/
theorem front_ne_nil (u : Url) (organization environment : String) : front u organization environment ≠ [] :=
  List.append_ne_nil_of_right_ne_nil _ (place_ne_nil _ _)

/-- A fixed word becomes a segment as it is. -/
theorem appendTo_word {word : String} (hword : slot word = .part word.toList)
    (hencode : encode inSegmentSet word.toList = word.toList) (path : List (List Char)) :
    (slot word).appendTo path = rootless path ++ [word.toList] := by
  rw [hword, Slot.appendTo, hencode]

/-- The path of a client leads to its place below the base and ends in the last word. -/
theorem path_extend_client (u : Url) (organization environment : String) :
    (u.extend ["management", "organizations", organization, "environments", environment, "apis"]).path =
      front u organization environment ++ ["apis".toList] := by
  have hmanagement (path) : (slot "management").appendTo path = rootless path ++ ["management".toList] :=
    appendTo_word (by decide) (by decide) path
  have horganizations (path) : (slot "organizations").appendTo path = rootless path ++ ["organizations".toList] :=
    appendTo_word (by decide) (by decide) path
  have henvironments (path) : (slot "environments").appendTo path = rootless path ++ ["environments".toList] :=
    appendTo_word (by decide) (by decide) path
  have hapis (path) : (slot "apis").appendTo path = rootless path ++ ["apis".toList] :=
    appendTo_word (by decide) (by decide) path
  have hroot : root u ≠ [] := List.append_ne_nil_of_right_ne_nil _ (List.cons_ne_nil _ _)
  rw [path_extend]
  simp only [List.foldl_cons, List.foldl_nil]
  rw [hmanagement, ← root, horganizations, root, rootless_append (by decide), ← root,
    Slot.appendTo_concat _ (by decide), henvironments, rootless_of_append hroot (under_ne_nil _ _),
    Slot.appendTo_concat _ (by decide), List.append_assoc (root u), ← place, ← front, hapis]
  rw [front, rootless_of_append hroot (place_ne_nil _ _)]

/-- The collection of a client is the base with the path of the client. -/
theorem exists_base {base organization environment : String} {c : Url}
    (h : collection base organization environment = .ok c) :
    ∃ u, Url.read (trimSlashes base) = .ok u ∧
      c = { u with path := front u.dropEmptyEnd organization environment ++ ["apis".toList] } := by
  obtain ⟨u, hread, rfl⟩ := collection_eq_ok_iff.mp h
  refine ⟨u, hread, ?_⟩
  rw [← path_extend_client]
  unfold dropEmptyEnd
  split <;> rfl

/-- The collection of an installation whose base is a host. -/
def installation : Url :=
  ⟨.https, none, .name "apim.example.com".toList, none,
    ["management", "organizations", "DEFAULT", "environments", "DEFAULT", "apis"].map String.toList, none, none⟩

/-- The collection of the installation is the one that is written out. -/
theorem collection_installation :
    collection "https://apim.example.com" "DEFAULT" "DEFAULT" = .ok installation := by
  decide +kernel

/-! ## Records -/

section Records

variable (u : Url) {path : List (List Char)}

/-- An id below the last word makes of the path what its slot says. -/
theorem path_extend_id (path : List (List Char)) (id : String) :
    (Url.extend { u with path := path ++ ["apis".toList] } [id]).path = path ++ (slot id).under "apis".toList := by
  rw [path_extend, List.foldl_cons, List.foldl_nil, Slot.appendTo_concat _ (by decide)]

/-- The word for a replacement comes behind whatever an id has made of the path. -/
theorem path_extend_import (hpath : path ≠ []) (ids : List String) (s : Slot)
    (h : (Url.extend { u with path := path ++ ["apis".toList] } ids).path = path ++ s.under "apis".toList) :
    (Url.extend { u with path := path ++ ["apis".toList] } (ids ++ ["import"])).path =
      path ++ s.under "apis".toList ++ ["import".toList] := by
  rw [path_extend] at h ⊢
  rw [List.foldl_append, h, List.foldl_cons, List.foldl_nil, appendTo_word (by decide) (by decide),
    rootless_of_append hpath (under_ne_nil _ s)]

/-- The address of a record. -/
theorem record_eq (path : List (List Char)) (id : String) :
    record { u with path := path ++ ["apis".toList] } id =
      { u with path := path ++ (slot id).under "apis".toList } :=
  congrArg (fun path => { u with path := path }) (path_extend_id u path id)

/-- The address under which a record is replaced. -/
theorem change_eq (hpath : path ≠ []) (id : String) :
    change { u with path := path ++ ["apis".toList] } id =
      { u.appendPair "definitionVersion" definitionVersion with
        path := path ++ (slot id).under "apis".toList ++ ["import".toList] } :=
  congrArg (fun path => { u.appendPair "definitionVersion" definitionVersion with path := path })
    (path_extend_import u hpath [id] _ (path_extend_id u path id))

/-- The address under which a record is created. -/
theorem creation_eq (hpath : path ≠ []) :
    creation { u with path := path ++ ["apis".toList] } =
      { u.appendPair "definitionVersion" definitionVersion with
        path := path ++ Slot.skipped.under "apis".toList ++ ["import".toList] } :=
  congrArg (fun path => { u.appendPair "definitionVersion" definitionVersion with path := path })
    (path_extend_import u hpath [] .skipped rfl)

end Records

end GatewayOperator.Management.Endpoint
