import GatewayOperator.Proofs.Trust.Resumption

/-!
# Withdrawals that are cut off

A withdrawal releases the secrets of an ingress before it removes the first entry that lists them. So as
long as some secret is not released all entries are there to find it by, and once an entry is gone nothing
is left to release. Wherever a withdrawal is cut off, it ends as it would have when it is run again, and a
withdrawal after a successful one changes nothing.
-/

set_option autoImplicit false

namespace GatewayOperator.Trust

open GatewayOperator.Resource

namespace Withdrawal

open Program.Pass (perform)
open Resumption (classPlaces classPlaces_of_plain entryAt_nil finalizers? finalizers?_eq)

variable {stamps : Stamps} {cls : String} {x : Ingress} {s t u : Cluster}

/-- Whether a cluster lies between another one and what that one is to become by a withdrawal: each secret
is as it was or as it is to be, and if an entry is removed then all secrets are as they are to be. -/
structure Underway (stamps : Stamps) (cls : String) (x : Ingress) (s t : Cluster) : Prop where
  ingresses : t.ingresses = s.ingresses
  contents : ∀ q, t.content? q = s.content? q ∨
    t.content? q = (s.withdrawn stamps cls x).content? q
  registries : ∃ places ⊆ classPlaces cls s, t.registries.map plain =
    (s.registries.map plain).map (entryAt places (entryKeyOf x) none)
  releases_first : t.registries.map plain = s.registries.map plain ∨
    ∀ q, t.content? q = (s.withdrawn stamps cls x).content? q

/-- A cluster lies between itself and what it is to become. -/
theorem Underway.refl (s : Cluster) : Underway stamps cls x s s := by
  refine ⟨rfl, fun q => .inl rfl, ⟨[], List.nil_subset _, ?_⟩, .inl rfl⟩
  rw [entryAt_nil, List.map_id]

/-! ## What is still to be done -/

/-- As long as no entry is removed the same secrets are to be released. -/
theorem candidates_of_plain (h : t.registries.map plain = s.registries.map plain) :
    t.candidates cls x = s.candidates cls x := by
  have hlisting : t.listing cls x = s.listing cls x := by
    rw [Cluster.listing_eq_plain, h, ← Cluster.listing_eq_plain]
  unfold Cluster.candidates
  rw [hlisting]

/-- A secret that is to be released later was to be released at the start. -/
theorem Underway.mem_candidates (h : Underway stamps cls x s t) {name : String}
    (hname : name ∈ t.candidates cls x) : name ∈ s.candidates cls x := by
  obtain ⟨places, -, hplain⟩ := h.registries
  unfold Cluster.candidates at hname ⊢
  simp only [mem_distinct, List.mem_append, List.not_mem_nil, or_false] at hname ⊢
  rcases hname with hlisted | hnamed
  · left
    obtain ⟨r, hr, hname⟩ := (Cluster.mem_listing_of_plain cls hplain name).mp hlisted
    have hkept : name ∈ Registry.entrySecrets r (entryKeyOf x) x.metadata.anyNamespace := by
      split at hname
      · rw [Registry.listedIn_none] at hname
        cases hname
      · exact hname
    exact (Cluster.mem_listing cls x s name).mpr ⟨r, hr, hkept⟩
  · right
    exact hnamed

/-- A withdrawal from in between leads each secret to what it was to become. -/
theorem Underway.content?_withdrawn (h : Underway stamps cls x s t) (q : Place) :
    (t.withdrawn stamps cls x).content? q = (s.withdrawn stamps cls x).content? q := by
  have husers : t.users x cls = s.users x cls := Cluster.users_congr h.ingresses x cls
  have hend : (s.withdrawn stamps cls x).content? q = _ := Cluster.content?_withdrawn s q
  rw [Cluster.content?_withdrawn, husers]
  by_cases hnow : q.ns = x.metadata.anyNamespace ∧ q.name ∈ t.candidates cls x ∧
      isUsed (s.users x cls) q.name = false
  · -- it was to be released at the start, and to release it twice is to release it once
    have hthen : q.ns = x.metadata.anyNamespace ∧ q.name ∈ s.candidates cls x ∧
        isUsed (s.users x cls) q.name = false :=
      ⟨hnow.1, h.mem_candidates hnow.2.1, hnow.2.2⟩
    rw [if_pos hthen] at hend
    rw [if_pos hnow, hend]
    rcases h.contents q with hq | hq
    · rw [hq]
    · rw [hq, hend, cleared_cleared]
  · rw [if_neg hnow]
    rcases h.releases_first with hplain | hreleased
    · have hthen : ¬ (q.ns = x.metadata.anyNamespace ∧ q.name ∈ s.candidates cls x ∧
          isUsed (s.users x cls) q.name = false) := by
        rwa [candidates_of_plain hplain] at hnow
      rw [if_neg hthen] at hend
      rcases h.contents q with hq | hq
      · rw [hq, hend]
      · exact hq
    · exact hreleased q

/-- A withdrawal from in between ends with the registries that it was to end with. -/
theorem Underway.plain_withdrawn (h : Underway stamps cls x s t) :
    (t.withdrawn stamps cls x).registries.map plain =
      (s.withdrawn stamps cls x).registries.map plain := by
  obtain ⟨places, hsubset, hplain⟩ := h.registries
  have hplaces : classPlaces cls t = classPlaces cls s := classPlaces_of_plain hplain
  unfold classPlaces at hplaces hsubset
  rw [Cluster.plain_withdrawn, Cluster.plain_withdrawn, hplaces, hplain, List.map_map]
  refine List.map_congr_left fun r _ => ?_
  rw [Function.comp_apply, entryAt_entryAt]
  have hmem : placeOf r.metadata ∈ places ++ (ofClass cls s.registries).map (fun r => placeOf r.metadata) ↔
      placeOf r.metadata ∈ (ofClass cls s.registries).map fun r => placeOf r.metadata := by
    rw [List.mem_append]
    exact or_iff_right_of_imp fun hplace => hsubset hplace
  simp only [entryAt, hmem]

/-- What lies between later lies between as a whole. -/
theorem Underway.trans (h : Underway stamps cls x s t) (h' : Underway stamps cls x t u) :
    Underway stamps cls x s u := by
  obtain ⟨places, hsubset, hplain⟩ := h.registries
  obtain ⟨more, hmore, hplain'⟩ := h'.registries
  refine ⟨h'.ingresses.trans h.ingresses, ?_, ⟨places ++ more, ?_, ?_⟩, ?_⟩
  · intro q
    rcases h'.contents q with hq | hq
    · rw [hq]
      exact h.contents q
    · right
      rw [hq, h.content?_withdrawn]
  · have hplaces : classPlaces cls t = classPlaces cls s := classPlaces_of_plain hplain
    rw [hplaces] at hmore
    exact List.append_subset.mpr ⟨hsubset, hmore⟩
  · rw [hplain', hplain, List.map_map]
    exact List.map_congr_left fun r _ => entryAt_entryAt places more _ _ r
  · rcases h'.releases_first with hsame | hreleased
    · rcases h.releases_first with hfirst | hfirst
      · left
        rw [hsame, hfirst]
      · right
        intro q
        rcases h'.contents q with hq | hq
        · rw [hq, hfirst]
        · rw [hq, h.content?_withdrawn]
    · right
      intro q
      rw [hreleased, h.content?_withdrawn]

/-! ## Interruptions -/

/-- On its way a withdrawal has released some of its first candidates, or has released them all and removed
some of its first entries. -/
theorem visits_withdraw (h : (withdraw x cls).run.Visits (Cluster.serve stamps) s t) :
    (∃ k, t = Cluster.released stamps x.metadata.anyNamespace (s.users x cls) s
        ((s.candidates cls x).take k)) ∨
      ∃ k, t = Cluster.entered stamps (entryKeyOf x) none (s.relinquished stamps cls x)
        ((ofClass cls s.registries).take k) := by
  rw [run_withdraw] at h
  rcases h with rfl | h
  · exact .inl ⟨0, rfl⟩
  · -- the listing was answered with all registries
    change (withdrawFrom x cls (ofClass cls s.registries)).run.Visits (Cluster.serve stamps) s t at h
    unfold withdrawFrom at h
    rw [Program.Pass.visits_bind] at h
    rcases h with h | ⟨u, mid, hrelease, h⟩
    · exact .inl (Cluster.visits_release h)
    · -- all candidates are released from here on
      have hreleased := (Cluster.perform_release x cls (s.candidates cls x) s).symm.trans hrelease
      cases hreleased
      exact .inr (Cluster.visits_writeEntries h)

/-- To release some of the candidates leads on the way. -/
theorem underway_released {names : List String} (h : ∀ name ∈ names, name ∈ s.candidates cls x) :
    Underway stamps cls x s
      (Cluster.released stamps x.metadata.anyNamespace (s.users x cls) s names) := by
  obtain ⟨hregistries, hingresses⟩ := Cluster.else_released stamps x.metadata.anyNamespace
    (s.users x cls) s names
  refine ⟨hingresses, ?_, ⟨[], List.nil_subset _, ?_⟩, ?_⟩
  · intro q
    have hend : (s.withdrawn stamps cls x).content? q = _ := Cluster.content?_withdrawn s q
    rw [Cluster.content?_released]
    by_cases hq : q.ns = x.metadata.anyNamespace ∧ q.name ∈ names ∧ isUsed (s.users x cls) q.name = false
    · right
      rw [if_pos hq, hend, if_pos ⟨hq.1, h q.name hq.2.1, hq.2.2⟩]
    · left
      rw [if_neg hq]
  · rw [entryAt_nil, List.map_id, hregistries]
  · left
    rw [hregistries]

/-- Wherever a withdrawal is on its way, the cluster lies between its start and its end. -/
theorem underway_of_visits (h : (withdraw x cls).run.Visits (Cluster.serve stamps) s t) :
    Underway stamps cls x s t := by
  rcases visits_withdraw h with ⟨k, rfl⟩ | ⟨k, rfl⟩
  · exact underway_released fun name hname => List.mem_of_mem_take hname
  · obtain ⟨-, hingresses⟩ := Cluster.else_entered stamps (entryKeyOf x) none
      (s.relinquished stamps cls x) ((ofClass cls s.registries).take k)
    obtain ⟨hregistries, hingresses'⟩ := Cluster.else_released stamps x.metadata.anyNamespace
      (s.users x cls) s (s.candidates cls x)
    have hcontent (q : Place) : (Cluster.entered stamps (entryKeyOf x) none
        (s.relinquished stamps cls x) ((ofClass cls s.registries).take k)).content? q =
        (s.withdrawn stamps cls x).content? q := by
      unfold Cluster.withdrawn
      rw [Cluster.content?_entered, Cluster.content?_entered]
    refine ⟨hingresses.trans hingresses', fun q => .inr (hcontent q),
      ⟨((ofClass cls s.registries).take k).map fun r => placeOf r.metadata, ?_, ?_⟩,
      .inr hcontent⟩
    · rw [List.map_take]
      exact List.take_subset k _
    · rw [Cluster.plain_entered]
      unfold Cluster.relinquished
      rw [hregistries]

/-- The cluster after withdrawals of an ingress that were all cut off. -/
def cutOffBy (stamps : Stamps) (cls : String) (x : Ingress) (s : Cluster)
    (is : List Interruption) : Cluster :=
  is.foldl (fun t i => t.cutOff stamps (withdraw x cls) i) s

/-- Where a withdrawal is cut off it leaves the cluster between its start and its end. If it is told that there
are no registries, it goes on and releases what the ingress names. -/
theorem underway_cutOff (s : Cluster) (i : Interruption) :
    Underway stamps cls x s (s.cutOff stamps (withdraw x cls) i) := by
  obtain ⟨calls, fault⟩ := i
  cases calls with
  | zero =>
    have hleft : (Cluster.respond stamps (some fault) .listRegistries s).2 = s := by
      rcases respond_fault stamps fault .listRegistries s with heq | heq
      · rw [heq]
      · rw [heq]
        rfl
    unfold Cluster.cutOff
    rw [run_withdraw]
    show Underway stamps cls x s ((withdrawAnswered x cls (.error fault.failure)).run.run (Cluster.serve stamps)
      (Cluster.respond stamps (some fault) .listRegistries s).2).2
    rw [hleft]
    by_cases hnone : fault.failure = .registryNotFound
    · rw [hnone]
      show Underway stamps cls x s (perform (Cluster.serve stamps) (withdrawFrom x cls []) s).2
      rw [Cluster.perform_withdrawFrom cls x (List.forall_mem_nil _)]
      refine underway_released fun name hname => ?_
      have hnamed : name ∈ secretNames x := by
        rcases (mem_distinct name _ []).mp hname with hname | hname
        · exact hname
        · cases hname
      exact (mem_distinct name _ []).mpr (.inl (List.mem_append_right _ hnamed))
    · rw [withdrawAnswered_error x cls hnone]
      exact Underway.refl s
  | succ n =>
    -- the listing was answered, and nothing comes after the call that fails
    refine underway_of_visits ?_
    unfold Cluster.cutOff
    rw [run_withdraw]
    exact .inr (visits_cutOff stamps (fun _ => stops_withdrawFrom x cls _) s ⟨n, fault⟩)

/-- However often a withdrawal is cut off, the cluster lies between its start and its end. -/
theorem underway_cutOffBy (s : Cluster) (is : List Interruption) :
    Underway stamps cls x s (cutOffBy stamps cls x s is) := by
  suffices hstep : ∀ t, Underway stamps cls x s t →
      Underway stamps cls x s (cutOffBy stamps cls x t is) from hstep s (Underway.refl s)
  induction is with
  | nil => exact fun t ht => ht
  | cons i rest ih => exact fun t ht => ih _ (ht.trans (underway_cutOff t i))

/-! ## Withdrawals that are run again -/

/-- Whether two clusters have the same finalizers on every secret, and the same registries apart from
versions and annotations. -/
def Agree (s t : Cluster) : Prop :=
  (∀ p, finalizers? t p = finalizers? s p) ∧ t.registries.map plain = s.registries.map plain

/-- From wherever a withdrawal goes on, it ends the same. -/
theorem Underway.agree (h : Underway stamps cls x s t) :
    Agree (s.withdrawn stamps cls x) (t.withdrawn stamps cls x) := by
  refine ⟨fun p => ?_, h.plain_withdrawn⟩
  rw [finalizers?_eq, finalizers?_eq, h.content?_withdrawn]

/-- A withdrawal succeeds, and however often it is cut off before, once it is run again it ends with the
finalizers and the registries that it would have ended with at first. One more withdrawal changes
neither. -/
theorem withdrawal_resumes (stamps : Stamps) (cls : String) (x : Ingress) (s : Cluster)
    (is : List Interruption) :
    ∃ whole again once_more,
      perform (Cluster.serve stamps) (withdraw x cls) s = (.ok (), whole) ∧
      perform (Cluster.serve stamps) (withdraw x cls) (cutOffBy stamps cls x s is) =
        (.ok (), again) ∧
      perform (Cluster.serve stamps) (withdraw x cls) whole = (.ok (), once_more) ∧
      Agree whole again ∧ Agree whole once_more := by
  have hwhole : perform (Cluster.serve stamps) (withdraw x cls) s = _ :=
    Cluster.perform_withdraw cls x s
  have hend : Underway stamps cls x s (s.withdrawn stamps cls x) :=
    underway_of_visits (Program.Pass.visits_of_perform hwhole)
  exact ⟨_, _, _, hwhole, Cluster.perform_withdraw cls x _, Cluster.perform_withdraw cls x _,
    (underway_cutOffBy s is).agree, hend.agree⟩

end Withdrawal

end GatewayOperator.Trust
