import GatewayOperator.Proofs.Instant
import GatewayOperator.Trust.Registry

/-!
# When a gateway loads its trust store again

A gateway loads its trust store again when the time of the last update changes. Every write to a registry
puts that time there, in whole seconds. So of writes one after the other none is overlooked as long as no two
of them fall into one second, and of two writes in one second the later one is.
-/

set_option autoImplicit false

namespace GatewayOperator.Trust.Registry

open GatewayOperator.Resource

/-- A write to an entry at an instant: its value is set, or it is removed. -/
structure Update where
  key : String
  value : Option String
  now : Instant
  deriving DecidableEq, Repr

/-- A registry after a write. -/
def Update.apply (u : Update) (r : ConfigMap) : ConfigMap := setEntry r u.key u.value u.now

/-- The time of the last update that a gateway finds. -/
def lastUpdate? (r : ConfigMap) : Option String := r.metadata.annotationDict.find? updateAnnotation

/-- The time of the last update as each of several writes leaves it. -/
def marks : ConfigMap → List Update → List (Option String)
  | _, [] => []
  | r, u :: us => lastUpdate? (u.apply r) :: marks (u.apply r) us

/-- Writes one after the other, in years that a stamp shows with four digits. -/
structure Timely (us : List Update) : Prop where
  hasStamp : ∀ u ∈ us, u.now.HasStamp
  increasing : us.Pairwise fun u v => u.now < v.now

/-- Every write leaves a mark that is greater than those of the writes before it. -/
def Noticed (r : ConfigMap) (us : List Update) : Prop :=
  ∃ texts : List String, marks r us = texts.map some ∧ texts.Pairwise fun old new => old < new

/-- A write leaves its own stamp. -/
theorem lastUpdate?_apply (u : Update) (r : ConfigMap) : lastUpdate? (u.apply r) = some u.now.stamp := by
  unfold lastUpdate? Update.apply setEntry Meta.annotationDict
  simp

/-- Each write leaves the stamp of its own instant, whatever was there before. -/
theorem marks_eq (r : ConfigMap) (us : List Update) :
    marks r us = us.map fun u => some u.now.stamp := by
  induction us generalizing r with
  | nil => rfl
  | cons u rest ih =>
    unfold marks
    rw [lastUpdate?_apply, ih, List.map_cons]

/-- The marks of a run are the stamps of its writes. -/
theorem marks_eq_map_some (r : ConfigMap) (us : List Update) :
    marks r us = (us.map fun u => u.now.stamp).map some := by
  rw [marks_eq, List.map_map]
  rfl

/-- The texts of the marks are the stamps of the writes. -/
theorem noticed_iff (r : ConfigMap) (us : List Update) :
    Noticed r us ↔ us.Pairwise fun u v => u.now.stamp < v.now.stamp := by
  constructor
  · rintro ⟨texts, htexts, hlt⟩
    rw [marks_eq_map_some, List.map_inj_right fun _ _ => Option.some.inj] at htexts
    rw [← htexts, List.pairwise_map] at hlt
    exact hlt
  · intro hlt
    exact ⟨_, marks_eq_map_some r us, List.pairwise_map.mpr hlt⟩

namespace Timely

variable {us : List Update}

/-- Between two writes, the earlier of which comes first, the stamp does not go back. -/
theorem stamps_le (h : Timely us) : us.Pairwise fun u v => u.now.stamp ≤ v.now.stamp := by
  refine h.increasing.imp_of_mem fun {u v} hu hv hnow => String.not_lt.mp fun hback => ?_
  rw [(h.hasStamp v hv).stamp_lt_stamp_iff (h.hasStamp u hu)] at hback
  exact Instant.not_wholeSecond_lt hnow hback

/-- The stamps grow from write to write exactly if no two writes fall into one second. -/
theorem stamps_lt_iff (h : Timely us) : (us.Pairwise fun u v => u.now.stamp < v.now.stamp) ↔
    us.Pairwise fun u v => u.now.wholeSecond ≠ v.now.wholeSecond := by
  constructor
  · intro hstamps
    refine hstamps.imp_of_mem fun {u v} hu hv hstamp => ?_
    rw [(h.hasStamp u hu).stamp_lt_stamp_iff (h.hasStamp v hv)] at hstamp
    exact Instant.ne_of_lt hstamp
  · intro hseconds
    refine (h.increasing.and hseconds).imp_of_mem fun {u v} hu hv hboth => ?_
    rw [(h.hasStamp u hu).stamp_lt_stamp_iff (h.hasStamp v hv)]
    exact Instant.wholeSecond_lt hboth.1 hboth.2

end Timely

/-- Marks never go back, and each is greater than those before it exactly if no two writes fall into one
second. -/
theorem noticed_iff_seconds_apart {us : List Update} (h : Timely us) (r : ConfigMap) :
    (∃ texts : List String, marks r us = texts.map some ∧ texts.Pairwise fun old new => old ≤ new) ∧
      (Noticed r us ↔ us.Pairwise fun u v => u.now.wholeSecond ≠ v.now.wholeSecond) := by
  constructor
  · exact ⟨_, marks_eq_map_some r us, List.pairwise_map.mpr h.stamps_le⟩
  · rw [noticed_iff, h.stamps_lt_iff]

/-- A registry without entries. -/
def bare : ConfigMap :=
  ⟨{ Meta.empty with
      «namespace» := some "apim"
      name := some "pem" },
    none, none, none⟩

/-- Three entries set around a leap second. -/
def spread : List Update :=
  [⟨"shop-a", some "v", ⟨1483228799, 999999999⟩⟩, ⟨"shop-b", some "w", ⟨1483228799, 1000000000⟩⟩,
    ⟨"shop-a", none, ⟨1483228800, 0⟩⟩]

/-- The spread writes come one after the other. -/
theorem timely_spread : Timely spread where
  hasStamp := by
    unfold spread
    simp only [List.forall_mem_cons]
    refine ⟨⟨rfl, by decide⟩, ⟨rfl, by decide⟩, ⟨rfl, by decide⟩, by simp⟩
  increasing := by
    unfold spread
    simp [Instant.lt_iff]

/-- The spread writes are all noticed. -/
theorem spread_noticed : Timely spread ∧ Noticed bare spread :=
  ⟨timely_spread, (noticed_iff_seconds_apart timely_spread bare).2.mpr (by decide)⟩

/-- Two entries set within one second. -/
def burst : List Update :=
  [⟨"shop-a", some "v", ⟨1709967901, 0⟩⟩, ⟨"shop-b", some "w", ⟨1709967901, 500000000⟩⟩]

/-- The writes of the burst come one after the other. -/
theorem timely_burst : Timely burst where
  hasStamp := by
    unfold burst
    simp only [List.forall_mem_cons]
    refine ⟨⟨rfl, by decide⟩, ⟨rfl, by decide⟩, by simp⟩
  increasing := by
    unfold burst
    simp [Instant.lt_iff]

/-- The second of two entries set within one second is overlooked. -/
theorem burst_overlooked : ¬ ∀ (r : ConfigMap) (us : List Update), Timely us → Noticed r us := by
  intro h
  have hstamps := (noticed_iff bare burst).mp (h bare burst timely_burst)
  have hseconds := timely_burst.stamps_lt_iff.mp hstamps
  revert hseconds
  decide

end GatewayOperator.Trust.Registry
