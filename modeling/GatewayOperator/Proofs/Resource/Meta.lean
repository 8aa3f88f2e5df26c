import GatewayOperator.Proofs.Instant
import GatewayOperator.Proofs.Json.Width
import GatewayOperator.Resource.Core

/-!
# Sizes of objects that were read

A generation is read as a signed word of 64 bits, and an instant only if its year is one of the calendar. So the
numbers of every object that was read are words. And an object has no more parts than the text that it was read from
has bytes.
-/

set_option autoImplicit false

namespace GatewayOperator.Resource

open Json

/-- Whether a number is a signed word of 64 bits. -/
def IsSigned (n : Int) : Prop := -9223372036854775808 ≤ n ∧ n ≤ 9223372036854775807

instance (n : Int) : Decidable (IsSigned n) := inferInstanceAs (Decidable (_ ∧ _))

/-- Whether the generation of an object and the second of its deletion are words. -/
structure Meta.IsNumbered (m : Meta) : Prop where
  generation : ∀ n ∈ m.generation, IsSigned n
  deletion : ∀ t ∈ m.deletionTimestamp, IsSigned t.seconds

/-- Empty metadata has no number that could be out of range. -/
theorem Meta.isNumbered_empty : Meta.empty.IsNumbered :=
  ⟨by rintro n ⟨⟩, by rintro t ⟨⟩⟩

/-- The seconds of an instant that was read are in range. -/
theorem isSigned_of_instant {v : Json} {t : Instant} (h : Decode.instant v = .ok t) : IsSigned t.seconds := by
  unfold Decode.instant at h
  split at h
  · next s =>
    cases hread : Instant.read s with
    | error fault =>
      rw [hread] at h
      cases h
    | ok u =>
      rw [hread] at h
      cases h
      obtain ⟨hlow, hhigh⟩ := Instant.bounds_of_read hread
      exact ⟨by omega, by omega⟩
  · unfold Decode.refuseType at h
    split at h <;> cases h

/-- Whether metadata has words for numbers, and no more labels, annotations or finalizers than so many. -/
structure Meta.Within (width : Nat) (m : Meta) : Prop where
  numbers : m.IsNumbered
  labels : m.labelDict.entries.length ≤ width
  annotations : m.annotationDict.entries.length ≤ width
  finalizers : m.finalizerList.length ≤ width

/-- Metadata that was read has no more parts than its text has bytes. -/
theorem Meta.within_of_decode {j : Json} {m : Meta} (h : Meta.decode j = .ok m) : m.Within j.width := by
  obtain ⟨ms, rfl, hread⟩ := Decode.exists_members h
  have hof : (Decode.Fields.named ms).Of (.object ms) := rfl
  obtain ⟨-, hparts⟩ := bounds_parts (.object ms)
  have hdict (name : String) : ((Decode.Fields.named ms).member name (Decode.dict Decode.text)).Always fun o =>
      (o.getD Dict.empty).entries.length ≤ (Json.object ms).width :=
    Decode.Fields.always_getD (P := fun d : Dict String => d.entries.length ≤ (Json.object ms).width) hof
      (Nat.zero_le _) (fun v hv d hd => Nat.le_trans (Decode.length_of_dict hd) (hparts v hv)) 0
  have hfinalizers : ((Decode.Fields.named ms).member "finalizers" (Decode.list Decode.text)).Always fun o =>
      (o.getD []).length ≤ (Json.object ms).width :=
    Decode.Fields.always_getD (P := fun xs : List String => xs.length ≤ (Json.object ms).width) hof
      (Nat.zero_le _) (fun v hv xs hxs => Nat.le_trans (Decode.length_of_list hxs) (hparts v hv)) 0
  have hgeneration : ((Decode.Fields.named ms).member "generation" Decode.int64).Always fun o =>
      ∀ n ∈ o, IsSigned n :=
    Decode.Fields.always_optional _ 0 fun place step v n _ _ hn => Decode.bounds_of_int64 hn
  have hdeletion : ((Decode.Fields.named ms).member "deletionTimestamp" Decode.instant).Always fun o =>
      ∀ t ∈ o, IsSigned t.seconds :=
    Decode.Fields.always_optional _ 0 fun place step v t _ _ ht => isSigned_of_instant ht
  clear h
  revert m
  show Reading.Always (Within _) _
  -- the fields are read in the order of declaration, and the last one stands outermost
  iterate 7 refine .seq ?_ (Reading.always_true _)
  refine .seq ?_ (hdict "labels")
  refine .seq ?_ hgeneration
  refine .seq ?_ (Reading.always_true _)
  refine .seq ?_ hfinalizers
  refine .seq ?_ hdeletion
  iterate 2 refine .seq ?_ (Reading.always_true _)
  refine .map ?_ (hdict "annotations")
  intro annotations hannotations created _ grace _ deletion hdeletion finalizers hfinalizers generated _ generation
    hgeneration labels hlabels
  intros
  exact ⟨⟨hgeneration, hdeletion⟩, hlabels, hannotations, hfinalizers⟩

/-- Whether a secret has words for numbers, and no part of its material is longer than so many bytes. -/
structure Secret.Within (width : Nat) (s : Secret) : Prop where
  numbers : s.metadata.IsNumbered
  material : ∀ e ∈ (s.data.getD Dict.empty).entries, e.2.length ≤ width

/-- A secret that was read holds no longer material than its text. -/
theorem Secret.within_of_decode {j : Json} {s : Secret} (h : Secret.decode j = .ok s) : s.Within j.width := by
  obtain ⟨ms, rfl, hread⟩ := Decode.exists_members h
  have hof : (Decode.Fields.named ms).Of (.object ms) := rfl
  have hmetadata : ((Decode.Fields.named ms).memberOr "metadata" Meta.empty Meta.decode).Always Meta.IsNumbered :=
    .map (fun _ hnumbered => hnumbered) <| Decode.Fields.always_getD hof Meta.isNumbered_empty
      (fun v _ m hm => (Meta.within_of_decode hm).numbers) 0
  have hdata : ((Decode.Fields.named ms).member "data" (Decode.dict Decode.bytes)).Always fun o =>
      ∀ e ∈ (o.getD Dict.empty).entries, e.2.length ≤ (Json.object ms).width := by
    refine Decode.Fields.always_getD (P := fun d : Dict (List UInt8) =>
      ∀ e ∈ d.entries, e.2.length ≤ (Json.object ms).width) hof (fun e he => absurd he List.not_mem_nil)
      (fun v hv d hd e he => ?_) 0
    obtain ⟨w, hw, hbytes⟩ := Decode.exists_of_mem_dict hd e he
    exact Nat.le_trans (Decode.length_of_bytes hbytes)
      (Nat.le_trans ((bounds_parts v).2 w hw) ((bounds_parts (.object ms)).2 v hv))
  clear h
  revert s
  show Reading.Always (Secret.Within _) _
  refine .seqRight _ ?_
  refine .seq ?_ (Reading.always_true _)
  refine .seq ?_ hdata
  refine .map ?_ hmetadata
  intro metadata hnumbered data hmaterial
  intros
  exact ⟨hnumbered, hmaterial⟩

end GatewayOperator.Resource
