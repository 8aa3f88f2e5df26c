import GatewayOperator.Proofs.Trust.Publishing

/-!
# What a withdrawal leaves behind

A withdrawal succeeds on every cluster, also without registries. It releases the secrets that the ingress names
and those that a registry of the class lists for it, but for those that another ingress in use names, and it
removes the entry of the ingress. Everything else stays as it was.
-/

set_option autoImplicit false

namespace GatewayOperator.Trust

open GatewayOperator.Resource

namespace Cluster

open Program.Pass (perform)

variable {stamps : Stamps} {cls : String} {x : Ingress}

/-- Whether a cluster is another one after an ingress was withdrawn. -/
structure FullyWithdrawn (cls : String) (x : Ingress) (s t : Cluster) : Prop where
  /-- Every registry of the class has lost the entry, and every other one is as it was. -/
  registries : ∃ after : ConfigMap → ConfigMap, t.registries = s.registries.map after ∧
    ∀ r ∈ s.registries,
      (Registry.serves r cls = true → Rewritten (entryKeyOf x) none r (after r)) ∧
        (Registry.serves r cls = false → after r = r)
  /-- A secret that is named or was listed lacks the finalizer if nobody shares it. -/
  released : ∀ name, name ∈ tlsSecrets x ∨ s.IsListed cls x name → ¬ s.IsShared cls x name →
    ¬ t.Carries (secretPlace x name)
  /-- If somebody shares it, it is as it was. -/
  shared : ∀ name, s.IsShared cls x name →
    t.secret? (secretPlace x name) = s.secret? (secretPlace x name)
  /-- A secret that is neither named nor was listed is as it was. -/
  others : ∀ q, (q.ns = x.metadata.anyNamespace → q.name ∉ tlsSecrets x ∧ ¬ s.IsListed cls x q.name) →
    t.secret? q = s.secret? q
  /-- No secret comes up. -/
  absent : ∀ q, s.secret? q = none → t.secret? q = none
  /-- Of no secret that is still there anything but the keypair finalizer and the version is changed. -/
  kept : ∀ q before after, s.secret? q = some before → t.secret? q = some after →
    unclaimed after = unclaimed before
  /-- Only a secret that was going away and had no other finalizer is gone. -/
  gone : ∀ q before, s.secret? q = some before → t.secret? q = none →
    before.metadata.isDeleting = true ∧ releasedFinalizers before = []
  ingresses : t.ingresses = s.ingresses

/-- What a withdrawal may release is named by the ingress or listed for it. -/
theorem mem_candidates_iff (s : Cluster) (name : String) :
    name ∈ s.candidates cls x ↔ name ∈ tlsSecrets x ∨ s.IsListed cls x name := by
  rw [isListed_iff, ← secretNames_eq, candidates, mem_distinct, List.mem_append]
  simp only [List.not_mem_nil, or_false]
  exact or_comm

/-- A withdrawal leaves a secret as it is unless the secret is a candidate that nobody uses. -/
theorem secret?_withdrawn_of_kept {s : Cluster} {q : Place}
    (h : q.ns = x.metadata.anyNamespace → q.name ∈ s.candidates cls x →
      isUsed (s.users x cls) q.name = true) :
    (s.withdrawn stamps cls x).secret? q = s.secret? q := by
  unfold withdrawn relinquished
  rw [secret?_entered]
  refine secret?_released_of_kept fun hns hname hunused => ?_
  rw [h hns hname] at hunused
  cases hunused

variable (stamps cls x) in
/-- A withdrawal claims or releases every secret at most. -/
theorem handled_withdrawn (s : Cluster) (q : Place) : Handled s (s.withdrawn stamps cls x) q := by
  unfold Handled
  rw [content?_withdrawn]
  split
  · exact .inr (.inr rfl)
  · exact .inl rfl

/-- The registries are not touched before all secrets are released. -/
theorem registries_relinquished (s : Cluster) :
    (s.relinquished stamps cls x).registries = s.registries := (else_released _ _ _ s _).1

variable (stamps cls x) in
/-- What a withdrawal leaves behind, whatever the registries and the ingress are. -/
theorem fullyWithdrawn_withdrawn {s : Cluster}
    (hplaces : s.registries.Pairwise fun r r' => placeOf r.metadata ≠ placeOf r'.metadata) :
    FullyWithdrawn cls x s (s.withdrawn stamps cls x) where
  registries := by
    have hrewritten := exists_rewritten stamps cls (s := s.relinquished stamps cls x)
      (by rwa [registries_relinquished]) (entryKeyOf x) none
    rwa [registries_relinquished] at hrewritten
  released := by
    intro name hcandidate hunshared hcarries
    have hunused : isUsed (s.users x cls) name = false := by
      rw [Bool.eq_false_iff, ne_eq, isUsed_users_iff]
      exact hunshared
    rw [isListed_iff, ← secretNames_eq, or_comm] at hcandidate
    exact ((carries_withdrawn_iff cls x s _).mp hcarries).2 ⟨rfl, hcandidate, hunused⟩
  shared := by
    intro name hshared
    exact secret?_withdrawn_of_kept fun _ _ => (isUsed_users_iff s name).mpr hshared
  others := by
    intro q hother
    refine secret?_withdrawn_of_kept fun hns hname => ?_
    obtain ⟨hunnamed, hunlisted⟩ := hother hns
    rcases (mem_candidates_iff s q.name).mp hname with hnamed | hlisted
    · exact absurd hnamed hunnamed
    · exact absurd hlisted hunlisted
  absent := fun q => (handled_withdrawn stamps cls x s q).absent
  kept := fun q _ _ => (handled_withdrawn stamps cls x s q).unclaimed_eq
  gone := fun q _ => (handled_withdrawn stamps cls x s q).vanishes
  ingresses := ingresses_withdrawn s

/-- A withdrawal succeeds when no call fails, and it withdraws the ingress fully. -/
theorem fullyWithdrawn_of_served (stamps : Stamps) (cls : String) (x : Ingress) {s : Cluster}
    (hplaces : s.registries.Pairwise fun r r' => placeOf r.metadata ≠ placeOf r'.metadata) :
    (perform (serve stamps) (withdraw x cls) s).1 = .ok () ∧
      FullyWithdrawn cls x s (perform (serve stamps) (withdraw x cls) s).2 := by
  rw [perform_withdraw]
  exact ⟨rfl, fullyWithdrawn_withdrawn stamps cls x hplaces⟩

end Cluster

/-! ## A last ingress -/

section Closing

open Trust.Sample

/-- An ingress that is going away. It names a secret that does not exist. -/
def booth : Ingress := ingress "booth" (some ⟨0, 0⟩) ["booth-tls", "lost-tls", "shared-tls"]

/-- Its cluster. One of its secrets is going away too and has only the keypair finalizer left. Another one is
named by a second ingress. A registry lists a secret that it no longer names, and a registry of another class
has an entry under its key that cannot be read. -/
def fairground : Cluster where
  stored := fun p =>
    if p = ⟨"shop", "booth-tls"⟩ then
      some { keypair with
        metadata := { Meta.empty with
          deletionTimestamp := some ⟨0, 0⟩
          finalizers := some [keypairFinalizer] } }
    else if p.ns = "shop" ∧ p.name ∈ ["old-tls", "shared-tls"] then
      some (withFinalizers keypair ["example.com/backup", keypairFinalizer])
    else none
  ingresses := [booth, ingress "kiosk" none ["shared-tls"]]
  distinct := by decide
  registries :=
    [{ registry with
        data := some (Dict.ofList [("shop-booth", Registry.entryValue "shop" ["old-tls", "booth-tls"]),
          ("shop-kiosk", Registry.entryValue "shop" ["shared-tls"])]) },
      { registry with
        metadata := { Meta.empty with
          «namespace» := some "gateway"
          name := some "other-registry"
          labels := some (Dict.ofList [(classKey, "other")]) }
        data := some (Dict.ofList [("shop-booth", "not json")]) }]
  writes := 0

/-- The withdrawal of the ingress and what it leaves. -/
def evening : Except PassFailure Unit × Cluster :=
  Program.Pass.perform (Cluster.serve Stamps.counting) (withdraw booth cls) fairground

/-- The withdrawal of the booth succeeds, and its postcondition holds. -/
theorem booth_fully_withdrawn :
    (fairground.registries.Pairwise fun r r' => placeOf r.metadata ≠ placeOf r'.metadata) ∧
      evening.1 = .ok () ∧ Cluster.FullyWithdrawn cls booth fairground evening.2 := by
  have hplaces : fairground.registries.Pairwise fun r r' => placeOf r.metadata ≠ placeOf r'.metadata := by
    decide
  exact ⟨hplaces, Cluster.fullyWithdrawn_of_served Stamps.counting cls booth hplaces⟩

end Closing

end GatewayOperator.Trust
