import GatewayOperator.Kube.Store
import GatewayOperator.Proofs.Json.MergePatch

/-!
# What a write leaves in the store

A write changes the object of its target and no other. The target has the object as it was written, but for the
version, unless that finished an object that is going away: then it has none. How often an object lists a finalizer
is told apart from whether it does, since a list may have repeats.
-/

set_option autoImplicit false

namespace GatewayOperator

namespace Json

variable {object after : Json} {name : String}

/-- A key leads to the member under it. -/
theorem part?_key (name : String) (object : Json) : object.part? (.key name) = object.get? name := by
  cases object <;> rfl

/-- A value is the same as a text only if it is that text. -/
theorem eq_string_of_same {j : Json} {s : String} (h : j.same (.string s) = true) : j = .string s := by
  cases j with
  | string t => rw [eq_of_beq h]
  | _ => cases h

/-- A change below a key is a change of the member under it, and that is where the changed member is. -/
theorem get?_of_modify? {change : Json → Option Json} {rest : List Step}
    (h : object.modify? change (.key name :: rest) = some after) :
    ∃ part changed, object.get? name = some part ∧ part.modify? change rest = some changed ∧
      after.get? name = some changed := by
  obtain ⟨changed, hchanged, rfl⟩ := Option.map_eq_some_iff.mp h
  obtain ⟨part, hpart, hchanged⟩ := Option.bind_eq_some_iff.mp hchanged
  rw [part?_key] at hpart
  refine ⟨part, changed, hpart, hchanged, ?_⟩
  cases object with
  | object members => exact (Entries.find?_insert name name changed members).trans (if_pos rfl)
  | _ => cases hpart

end Json

namespace Kube.Store

variable {s : Store} {t : Target} {object : Json}

/-! ## Places -/

/-- What was put in its place is found there. -/
theorem lookup_place (t : Target) (object : Json) (objects : List (Target × Json)) :
    (place t object objects).lookup t = some object := by
  induction objects with
  | nil => simp [place]
  | cons e rest ih =>
    obtain ⟨u, other⟩ := e
    simp only [place]
    split
    · simp
    · next hne =>
      split
      · simp
      · rw [List.lookup_cons, beq_false_of_ne (Ne.symm hne)]
        exact ih

/-- Nothing is found in the place of an object that was removed. -/
theorem find?_remove (s : Store) (t : Target) : (s.remove t).find? t = none := by
  refine List.lookup_eq_none_iff.mpr fun e he => ?_
  have hne : e.1 ≠ t := of_decide_eq_true (List.mem_filter.mp he).2
  exact bne_iff_ne.mpr hne.symm

/-- A write removes what it finished. -/
theorem write_snd (s : Store) (t : Target) (object : Json) :
    (s.write t object).2 =
      if isFinished (withVersion object (s.version + 1)) then (s.save t object).2.remove t
      else (s.save t object).2 := rfl

/-- What a write leaves under its target. -/
theorem find?_write (s : Store) (t : Target) (object : Json) :
    (s.write t object).2.find? t =
      if isFinished (withVersion object (s.version + 1)) then none
      else some (withVersion object (s.version + 1)) := by
  rw [write_snd]
  by_cases hfinished : isFinished (withVersion object (s.version + 1)) = true
  · rw [if_pos hfinished, if_pos hfinished]
    exact find?_remove _ t
  · rw [if_neg hfinished, if_neg hfinished]
    exact lookup_place t _ _

/-- A new version is all that changes in the metadata. -/
theorem metadata?_withVersion {name : String} (h : name ≠ "resourceVersion") (object : Json) (version : Nat) :
    metadata? (withVersion object version) name = metadata? object name := by
  unfold metadata? withVersion
  rw [Json.get?_get?_merged (by simp) (by simp) rfl, Entries.find?_eq_none (by simpa using h),
    Json.mergedMember_none]

/-! ## Finalizers -/

/-- The finalizers that an object lists, in order. -/
def finalizersOf (object : Json) : List Json := ((metadata? object "finalizers").bind Json.items?).getD []

/-- How often an object lists a finalizer. -/
def listingsIn (finalizer : String) (object : Json) : Nat :=
  (finalizersOf object).countP fun f => f.text? = some finalizer

/-- How often the object that is stored under a target lists a finalizer. -/
def listings (s : Store) (t : Target) (finalizer : String) : Nat :=
  ((s.find? t).map (listingsIn finalizer)).getD 0

/-- A finished object lists no finalizers. -/
theorem finalizersOf_of_isFinished (h : isFinished object = true) : finalizersOf object = [] := by
  simp only [isFinished, Bool.and_eq_true] at h
  exact List.isEmpty_iff.mp h.2

/-- A new version leaves the finalizers as they are. -/
theorem finalizersOf_withVersion (object : Json) (version : Nat) :
    finalizersOf (withVersion object version) = finalizersOf object := by
  rw [finalizersOf, metadata?_withVersion (by decide), finalizersOf]

/-- After a write its target lists a finalizer as often as what was written, even if that was the end of it. -/
theorem listings_write (s : Store) (t : Target) (object : Json) (finalizer : String) :
    (s.write t object).2.listings t finalizer = listingsIn finalizer object := by
  have hsame : listingsIn finalizer (withVersion object (s.version + 1)) = listingsIn finalizer object := by
    rw [listingsIn, finalizersOf_withVersion, listingsIn]
  rw [listings, find?_write]
  split
  · next hfinished =>
    rw [← hsame, listingsIn, finalizersOf_of_isFinished hfinished]
    rfl
  · exact hsame

/-- An accepted update found its object, changed it and wrote the result. -/
theorem update_eq_ok {change : Json → Except Failure Json} {answer : Json} {s' : Store}
    (h : s.update t change = (.ok answer, s')) :
    ∃ stored object, s.find? t = some stored ∧ change stored = .ok object ∧ s' = (s.write t object).2 := by
  unfold update at h
  cases hfind : s.find? t with
  | none =>
    simp only [hfind] at h
    cases h
  | some stored =>
    simp only [hfind] at h
    cases hchange : change stored with
    | error failure =>
      simp only [hchange] at h
      cases h
    | ok object =>
      simp only [hchange] at h
      exact ⟨stored, object, rfl, hchange, (congrArg Prod.snd h).symm⟩

end Kube.Store

end GatewayOperator
