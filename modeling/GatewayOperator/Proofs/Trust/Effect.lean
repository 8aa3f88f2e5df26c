import GatewayOperator.Proofs.Program.Conversation
import GatewayOperator.Proofs.Program.Visits
import GatewayOperator.Proofs.Trust.Cluster
import GatewayOperator.Proofs.Trust.Registry

/-!
# What whole passes do

On a cluster that answers every call and that nobody else changes, the effect of a pass is the effect of
its parts in turn: secrets are claimed one by one, entries are written registry by registry, and secrets
are released one by one. Each part either is done or is not, so a pass that is cut short has done the
first few of them. Secrets are compared apart from their versions, and registries apart from their versions
and annotations.
-/

set_option autoImplicit false

namespace GatewayOperator.Trust

open GatewayOperator.Resource

/-! ## Secrets and registries as they are compared -/

/-- A secret apart from its version. -/
def unversioned (secret : Secret) : Secret :=
  { secret with metadata := { secret.metadata with resourceVersion := none } }

/-- A secret with other finalizers. -/
def withFinalizers (secret : Secret) (finalizers : List String) : Secret :=
  { secret with metadata := { secret.metadata with finalizers := some finalizers } }

/-- What becomes of a secret that is claimed. -/
def marked (secret : Secret) : Secret :=
  if secret.metadata.hasFinalizer keypairFinalizer then secret
  else withFinalizers secret (claimedFinalizers secret)

/-- What becomes of a secret that is released. If it is going away and has no other finalizer it
vanishes. -/
def cleared (secret : Secret) : Option Secret :=
  if secret.metadata.hasFinalizer keypairFinalizer then
    if secret.metadata.isDeleting && (releasedFinalizers secret).isEmpty then none
    else some (withFinalizers secret (releasedFinalizers secret))
  else some secret

/-- A secret with other finalizers has just these. -/
@[simp]
theorem hasFinalizer_withFinalizers (secret : Secret) (finalizers : List String) (finalizer : String) :
    (withFinalizers secret finalizers).metadata.hasFinalizer finalizer = finalizers.contains finalizer :=
  rfl

/-- A claimed secret has the finalizer. -/
theorem hasFinalizer_marked (secret : Secret) :
    (marked secret).metadata.hasFinalizer keypairFinalizer = true := by
  unfold marked
  split
  · assumption
  · simp [claimedFinalizers]

/-- A claim keeps no secret from going away, and makes none go. -/
@[simp]
theorem isDeleting_marked (secret : Secret) :
    (marked secret).metadata.isDeleting = secret.metadata.isDeleting := by
  unfold marked
  split <;> rfl

/-- A claim leaves the verdict on the keypair. -/
@[simp]
theorem validate_marked (secret : Secret) : Tls.validate (marked secret) = Tls.validate secret := by
  unfold marked
  split <;> rfl

/-- A secret that is released does not carry the keypair finalizer. -/
theorem hasFinalizer_cleared {secret rest : Secret} (h : cleared secret = some rest) :
    rest.metadata.hasFinalizer keypairFinalizer = false := by
  unfold cleared at h
  split at h
  · split at h
    · cases h
    · cases h
      simp [releasedFinalizers]
  · next hhas =>
    cases h
    exact Bool.eq_false_iff.mpr hhas

/-- A secret without the keypair finalizer is released as it is. -/
theorem cleared_of_not_hasFinalizer {secret : Secret}
    (h : secret.metadata.hasFinalizer keypairFinalizer = false) : cleared secret = some secret := by
  unfold cleared
  rw [if_neg (by rw [h]; decide)]

/-- A second claim changes nothing. -/
theorem marked_marked (secret : Secret) : marked (marked secret) = marked secret :=
  if_pos (hasFinalizer_marked secret)

/-- A second release changes nothing. -/
theorem cleared_cleared (secret : Option Secret) :
    (secret.bind cleared).bind cleared = secret.bind cleared := by
  cases secret with
  | none => rfl
  | some secret =>
    show (cleared secret).bind cleared = cleared secret
    cases h : cleared secret with
    | none => rfl
    | some rest => exact cleared_of_not_hasFinalizer (hasFinalizer_cleared h)

/-- The entries of a registry after one is set or removed. -/
def entriesAfter (key : String) (value : Option String) (data : Option (Dict String)) :
    Option (Dict String) :=
  match value with
  | some v => some ((data.getD Dict.empty).insert key v)
  | none => data.map fun d => d.erase key

/-- A registry apart from its version and its annotations. -/
def plain (registry : ConfigMap) : ConfigMap :=
  { registry with
    metadata := { registry.metadata with annotations := none, resourceVersion := none } }

/-- A registry with an entry set or removed, apart from version and annotations. -/
def withEntry (key : String) (value : Option String) (registry : ConfigMap) : ConfigMap :=
  { registry with data := entriesAfter key value registry.data }

/-- To set or remove an entry twice is to do it once. -/
theorem withEntry_withEntry (key : String) (value : Option String) (registry : ConfigMap) :
    withEntry key value (withEntry key value registry) = withEntry key value registry := by
  have hdata : entriesAfter key value (entriesAfter key value registry.data) =
      entriesAfter key value registry.data := by
    cases value with
    | some v =>
      exact congrArg some (Dict.ext_entries (Entries.insert_insert key v _))
    | none =>
      cases registry.data with
      | none => rfl
      | some d => exact congrArg some (Dict.ext_entries (Entries.erase_erase key d.entries))
  unfold withEntry
  rw [hdata]

/-- A registry with an entry set or removed if it is at one of some places. -/
def entryAt (places : List Place) (key : String) (value : Option String) (registry : ConfigMap) :
    ConfigMap :=
  if placeOf registry.metadata ∈ places then withEntry key value registry else registry

/-- An entry is written at more and more places. -/
theorem entryAt_entryAt (places more : List Place) (key : String) (value : Option String)
    (registry : ConfigMap) :
    entryAt more key value (entryAt places key value registry) =
      entryAt (places ++ more) key value registry := by
  have hplace : placeOf (withEntry key value registry).metadata = placeOf registry.metadata := rfl
  unfold entryAt
  by_cases hmem : placeOf registry.metadata ∈ places
  · simp [hmem, hplace, withEntry_withEntry]
  · simp [hmem]

/-! ## What a claim asks -/

section Asks

variable {sort : Call → Prop}

/-- A pass of one call asks it. -/
theorem asks_perform {c : Call} (h : sort c) : c.perform.run.Asks sort := Program.asks_call h

/-- A claim reads its secret and perhaps adds the finalizer, nothing else. -/
theorem asks_claim {ns ingress name : String} (hread : sort (.getSecret ns name))
    (hadd : ∀ secret, sort (.addFinalizer secret)) : (claim ns ingress name).run.Asks sort := by
  refine Program.Pass.asks_bind (asks_perform hread) fun found => ?_
  cases found with
  | none => trivial
  | some secret =>
    cases hdeleting : secret.metadata.isDeleting with
    | true =>
      simp only [hdeleting, if_true]
      trivial
    | false =>
      have hattach : (attach secret).run.Asks sort := by
        unfold attach
        cases secret.metadata.hasFinalizer keypairFinalizer with
        | true => trivial
        | false => exact asks_perform (hadd secret)
      simp only [hdeleting]
      refine Program.Pass.asks_bind hattach fun _ => ?_
      cases Tls.validate secret <;> trivial

end Asks

namespace Cluster

/-- The secret at a place apart from its version. -/
def content? (s : Cluster) (p : Place) : Option Secret := (s.secret? p).map unversioned

/-- A secret carries the keypair finalizer whatever its version is. -/
theorem carries_iff_content (s : Cluster) (p : Place) :
    s.Carries p ↔ ∃ secret, s.content? p = some secret ∧
      secret.metadata.hasFinalizer keypairFinalizer = true := by
  unfold Carries content?
  cases s.secret? p with
  | none => simp
  | some secret => simp [unversioned, Meta.hasFinalizer, Meta.finalizerList]

/-- A secret that does not carry the keypair finalizer is released as it is. -/
theorem bind_cleared_of_not_carries {s : Cluster} {p : Place} (h : ¬ s.Carries p) :
    (s.content? p).bind cleared = s.content? p := by
  rw [carries_iff_content] at h
  cases hread : s.content? p with
  | none => rfl
  | some secret =>
    refine cleared_of_not_hasFinalizer (Bool.eq_false_iff.mpr fun hhas => ?_)
    exact h ⟨secret, hread, hhas⟩

/-- Whether a secret can be claimed: it exists, stays, and holds a usable keypair. -/
def Claimable (s : Cluster) (p : Place) : Prop :=
  ∃ secret, s.content? p = some secret ∧ secret.metadata.isDeleting = false ∧
    Tls.validate secret = .ok ()

section Parts

variable (stamps : Stamps)

/-- The cluster after a secret was claimed. -/
def attached (s : Cluster) (p : Place) : Cluster :=
  match s.secret? p with
  | none => s
  | some secret =>
    if secret.metadata.hasFinalizer keypairFinalizer then s
    else s.saveFinalizers stamps p secret (claimedFinalizers secret)

/-- The cluster after a secret was released. -/
def detached (s : Cluster) (p : Place) : Cluster :=
  match s.secret? p with
  | none => s
  | some secret =>
    if secret.metadata.hasFinalizer keypairFinalizer then
      s.saveFinalizers stamps p secret (releasedFinalizers secret)
    else s

/-- The cluster after secrets of a namespace were claimed. -/
def claimed (ns : String) (s : Cluster) (names : List String) : Cluster :=
  names.foldl (fun t name => t.attached stamps ⟨ns, name⟩) s

/-- The cluster after a secret of a namespace was released, unless it is used. -/
def relieved (ns : String) (users : List Ingress) (s : Cluster) (name : String) : Cluster :=
  if isUsed users name then s else s.detached stamps ⟨ns, name⟩

/-- The cluster after secrets of a namespace were released, but for those that are used. -/
def released (ns : String) (users : List Ingress) (s : Cluster) (names : List String) : Cluster :=
  names.foldl (relieved stamps ns users) s

/-- The cluster after an entry was written to some of its registries. -/
def entered (key : String) (value : Option String) (s : Cluster) (registries : List ConfigMap) :
    Cluster :=
  registries.foldl (fun t registry => (t.enter stamps registry key value).2) s

end Parts

/-! ## One part at a time -/

section Part

variable {stamps : Stamps}

/-- A secret that was read has its place already. -/
theorem secretAt_of_read {s : Cluster} {p : Place} {secret : Secret} (h : s.secret? p = some secret) :
    secretAt p secret = secret := by
  obtain ⟨kept, -, rfl⟩ := Option.map_eq_some_iff.mp h
  rfl

/-- Finalizers are written at one place. -/
theorem content?_saveFinalizers {s : Cluster} {p : Place} {secret : Secret}
    (h : s.secret? p = some secret) (finalizers : List String) (q : Place) :
    (s.saveFinalizers stamps p secret finalizers).content? q =
      if q = p then
        if secret.metadata.isDeleting && finalizers.isEmpty then none
        else some (withFinalizers (unversioned secret) finalizers)
      else s.content? q := by
  unfold content?
  rw [secret?_saveFinalizers]
  by_cases hq : q = p
  · rw [if_pos hq, if_pos hq]
    unfold refinalized
    split
    · rfl
    · show some (unversioned (secretAt p (written secret finalizers _))) = _
      have hread := secretAt_of_read h
      rw [← hread]
      rfl
  · rw [if_neg hq, if_neg hq]

/-- Claiming a secret changes no other. -/
theorem content?_attached (s : Cluster) (p q : Place) :
    (s.attached stamps p).content? q =
      if q = p then (s.content? p).map marked else s.content? q := by
  unfold attached
  cases hread : s.secret? p with
  | none =>
    by_cases hq : q = p
    · simp [hq, content?, hread]
    · rw [if_neg hq]
  | some secret =>
    have hcontent : s.content? p = some (unversioned secret) := by simp [content?, hread]
    by_cases hhas : secret.metadata.hasFinalizer keypairFinalizer = true
    · have hmarked : marked (unversioned secret) = unversioned secret := if_pos hhas
      by_cases hq : q = p
      · simp [hq, hhas, hcontent, hmarked]
      · simp [hq, hhas]
    · have hmarked : marked (unversioned secret) =
          withFinalizers (unversioned secret) (claimedFinalizers secret) := if_neg hhas
      simp only [hhas]
      show (s.saveFinalizers stamps p secret (claimedFinalizers secret)).content? q = _
      rw [content?_saveFinalizers hread, hcontent, Option.map_some, hmarked]
      simp [claimedFinalizers]

/-- Releasing a secret changes no other. -/
theorem content?_detached (s : Cluster) (p q : Place) :
    (s.detached stamps p).content? q =
      if q = p then (s.content? p).bind cleared else s.content? q := by
  unfold detached
  cases hread : s.secret? p with
  | none =>
    by_cases hq : q = p
    · simp [hq, content?, hread]
    · rw [if_neg hq]
  | some secret =>
    have hcontent : s.content? p = some (unversioned secret) := by simp [content?, hread]
    by_cases hhas : secret.metadata.hasFinalizer keypairFinalizer = true
    · have hcleared : cleared (unversioned secret) =
          if secret.metadata.isDeleting && (releasedFinalizers secret).isEmpty then none
          else some (withFinalizers (unversioned secret) (releasedFinalizers secret)) := if_pos hhas
      simp only [hhas, if_true]
      rw [content?_saveFinalizers hread, hcontent, Option.bind_some, hcleared]
    · have hcleared : cleared (unversioned secret) = some (unversioned secret) := if_neg hhas
      by_cases hq : q = p
      · simp [hq, hhas, hcontent, hcleared]
      · simp [hq, hhas]

variable (stamps) in
/-- A claim of one secret leaves registries and ingresses. -/
theorem else_attached (s : Cluster) (p : Place) :
    (s.attached stamps p).registries = s.registries ∧
      (s.attached stamps p).ingresses = s.ingresses := by
  unfold attached
  cases s.secret? p with
  | none => exact ⟨rfl, rfl⟩
  | some secret =>
    simp only
    split <;> exact ⟨rfl, rfl⟩

variable (stamps) in
/-- A release of one secret leaves registries and ingresses. -/
theorem else_detached (s : Cluster) (p : Place) :
    (s.detached stamps p).registries = s.registries ∧
      (s.detached stamps p).ingresses = s.ingresses := by
  unfold detached
  cases s.secret? p with
  | none => exact ⟨rfl, rfl⟩
  | some secret =>
    simp only
    split <;> exact ⟨rfl, rfl⟩

variable (stamps) in
/-- A write of an entry leaves secrets and ingresses. -/
theorem else_enter (s : Cluster) (registry : ConfigMap) (key : String) (value : Option String) :
    (s.enter stamps registry key value).2.stored = s.stored ∧
      (s.enter stamps registry key value).2.ingresses = s.ingresses := by
  unfold enter
  split <;> exact ⟨rfl, rfl⟩

/-- An entry is written to every registry at its place, apart from versions and annotations. -/
theorem plain_enter (s : Cluster) (registry : ConfigMap) (key : String) (value : Option String) :
    (s.enter stamps registry key value).2.registries.map plain =
      (s.registries.map plain).map (entryAt [placeOf registry.metadata] key value) := by
  unfold enter
  split
  · rw [List.map_map, List.map_map]
    refine List.map_congr_left fun r _ => ?_
    by_cases hplace : placeOf r.metadata = placeOf registry.metadata
    · have hentry : entryAt [placeOf registry.metadata] key value (plain r) =
          withEntry key value (plain r) := if_pos (List.mem_singleton.mpr hplace)
      simp only [Function.comp_apply, if_pos hplace, hentry]
      rfl
    · have hentry : entryAt [placeOf registry.metadata] key value (plain r) = plain r :=
        if_neg fun hmem => hplace (List.mem_singleton.mp hmem)
      simp only [Function.comp_apply, if_neg hplace, hentry]
  · next hany =>
    rw [List.map_map]
    refine List.map_congr_left fun r hr => ?_
    have hne : placeOf r.metadata ∉ [placeOf registry.metadata] := by
      rw [List.mem_singleton]
      intro hplace
      apply hany
      exact List.any_eq_true.mpr ⟨r, hr, by simpa using hplace⟩
    exact (if_neg hne).symm

/-- A change of the finalizers of a secret that was just read is accepted. -/
theorem changeFinalizers_of_read {s : Cluster} {p : Place} {secret : Secret}
    (h : s.secret? p = some secret) (finalizers : List String) :
    s.changeFinalizers stamps secret finalizers =
      (.ok (), s.saveFinalizers stamps p secret finalizers) := by
  have hplace := placeOf_secret? h
  have hcurrent : isOutdated secret secret = false := by simp [isOutdated]
  unfold changeFinalizers
  rw [hplace, h]
  simp only [hcurrent]
  rfl

end Part

/-! ## Claims -/

section Claims

open Program.Pass (perform)

variable {stamps : Stamps}

/-- A pass of one call does what the server does. -/
theorem perform_call (c : Call) (s : Cluster) :
    perform (serve stamps) c.perform s = s.serve stamps c := rfl

/-- A secret that was just read is claimed by what it lacks. -/
theorem perform_attach {s : Cluster} {p : Place} {secret : Secret} (h : s.secret? p = some secret) :
    perform (serve stamps) (attach secret) s = (.ok (), s.attached stamps p) := by
  unfold attach attached
  rw [h]
  by_cases hhas : secret.metadata.hasFinalizer keypairFinalizer = true
  · simp only [hhas, if_true]
    rfl
  · simp only [hhas]
    exact changeFinalizers_of_read h (claimedFinalizers secret)

/-- A secret that was just read is released by what it has. -/
theorem perform_detach {s : Cluster} {p : Place} {secret : Secret} (h : s.secret? p = some secret) :
    perform (serve stamps) (detach secret) s = (.ok (), s.detached stamps p) := by
  unfold detach detached
  rw [h]
  by_cases hhas : secret.metadata.hasFinalizer keypairFinalizer = true
  · simp only [hhas, if_true]
    exact changeFinalizers_of_read h (releasedFinalizers secret)
  · simp only [hhas]
    rfl

/-- A pass of one call is before it or behind it. -/
theorem visits_call {c : Call} {s t : Cluster} (h : c.perform.run.Visits (serve stamps) s t) :
    t = s ∨ t = (s.serve stamps c).2 := h

/-- On the way of a claim that has read its secret, the secret is claimed or not yet claimed. -/
theorem visits_attach {s t : Cluster} {p : Place} {secret : Secret} (hread : s.secret? p = some secret)
    (h : (attach secret).run.Visits (serve stamps) s t) : t = s ∨ t = s.attached stamps p := by
  have hend : (perform (serve stamps) (attach secret) s).2 = s.attached stamps p := by
    rw [perform_attach hread]
  unfold attach at h hend
  split at h
  · exact .inl h
  · next hhas =>
    rw [if_neg hhas] at hend
    rw [← hend]
    exact visits_call h

/-- On the way of a release that has read its secret, the secret is released or not yet released. -/
theorem visits_detach {s t : Cluster} {p : Place} {secret : Secret} (hread : s.secret? p = some secret)
    (h : (detach secret).run.Visits (serve stamps) s t) : t = s ∨ t = s.detached stamps p := by
  have hend : (perform (serve stamps) (detach secret) s).2 = s.detached stamps p := by
    rw [perform_detach hread]
  unfold detach at h hend
  split at h
  · next hhas =>
    rw [if_pos hhas] at hend
    rw [← hend]
    exact visits_call h
  · exact .inl h

/-- What a claim does once it has read its secret. -/
def claimRead (ns ingress name : String) : Option Secret → Publication Unit
  | none => throw (.secretNotFound (Registry.fullName ns name))
  | some secret =>
    if secret.metadata.isDeleting then
      throw (.secretReferenced (Registry.fullName ns name) ingress)
    else do
      attach secret
      match Tls.validate secret with
      | .ok () => return ()
      | .error fault => throw (.invalidTlsSecret fault)

/-- A claim reads its secret, and then does what it finds. -/
theorem claim_eq (ns ingress name : String) :
    claim ns ingress name =
      (Call.getSecret ns name).perform >>= claimRead ns ingress name := by
  unfold claim
  congr 1
  funext secret
  cases secret <;> rfl

/-- The finalizer is put on a secret before its keypair is looked at. -/
theorem claimRead_of_live {ns ingress name : String} {secret : Secret}
    (h : secret.metadata.isDeleting = false) :
    claimRead ns ingress name (some secret) =
      (attach secret >>= fun _ =>
        match Tls.validate secret with
        | .ok () => return ()
        | .error fault => throw (.invalidTlsSecret fault)) := by
  simp only [claimRead, h]
  rfl

/-- A claim succeeds if its secret can be claimed, and then the secret is claimed. -/
theorem perform_claim_ok_iff (ns ingress name : String) (s t : Cluster) :
    perform (serve stamps) (claim ns ingress name) s = (.ok (), t) ↔
      s.Claimable ⟨ns, name⟩ ∧ t = s.attached stamps ⟨ns, name⟩ := by
  rw [claim_eq, Program.Pass.perform_bind_of_ok (perform_call (Call.getSecret ns name) s)]
  -- the claim fails if the secret is missing, is going away, or holds no usable keypair
  show perform _ (claimRead ns ingress name (s.secret? ⟨ns, name⟩)) s = _ ↔ _
  unfold Claimable content?
  cases hread : s.secret? ⟨ns, name⟩ with
  | none =>
    refine iff_of_false (fun h => ?_) fun h => ?_
    · cases h
    · obtain ⟨⟨secret, hsecret, -⟩, -⟩ := h
      cases hsecret
  | some secret =>
    cases hdeleting : secret.metadata.isDeleting with
    | true =>
      refine iff_of_false (fun h => ?_) fun h => ?_
      · simp only [claimRead, hdeleting, if_true] at h
        cases h
      · obtain ⟨⟨other, hother, hlive, -⟩, -⟩ := h
        cases hother
        have hsame : (unversioned secret).metadata.isDeleting = secret.metadata.isDeleting := rfl
        rw [hsame, hdeleting] at hlive
        cases hlive
    | false =>
      rw [claimRead_of_live hdeleting, Program.Pass.perform_bind_of_ok (perform_attach hread)]
      have hsame : Tls.validate (unversioned secret) = Tls.validate secret := rfl
      cases hvalid : Tls.validate secret with
      | ok u =>
        constructor
        · intro h
          cases h
          exact ⟨⟨unversioned secret, rfl, hdeleting, hvalid⟩, rfl⟩
        · rintro ⟨-, rfl⟩
          rfl
      | error fault =>
        refine iff_of_false (fun h => ?_) fun h => ?_
        · cases h
        · obtain ⟨⟨other, hother, -, hok⟩, -⟩ := h
          cases hother
          rw [hsame, hvalid] at hok
          cases hok

/-- On the way of a claim the secret is claimed or not yet claimed. -/
theorem visits_claim {ns ingress name : String} {s t : Cluster}
    (h : (claim ns ingress name).run.Visits (serve stamps) s t) :
    t = s ∨ t = s.attached stamps ⟨ns, name⟩ := by
  rw [claim_eq, Program.Pass.visits_bind] at h
  rcases h with h | ⟨secret, u, hread, h⟩
  · rcases visits_call h with rfl | rfl <;> exact .inl rfl
  · cases hread
    cases hread : s.secret? ⟨ns, name⟩ with
    | none =>
      rw [hread] at h
      exact .inl h
    | some secret =>
      rw [hread] at h
      unfold claimRead at h
      simp only at h
      split at h
      · exact .inl h
      · rw [Program.Pass.visits_bind] at h
        rcases h with h | ⟨u, v, hattach, h⟩
        · exact visits_attach hread h
        · cases (perform_attach hread).symm.trans hattach
          right
          split at h <;> exact h

/-- What can be claimed does not depend on what was claimed before. -/
theorem claimable_attached (s : Cluster) (p q : Place) :
    (s.attached stamps p).Claimable q ↔ s.Claimable q := by
  unfold Claimable
  rw [content?_attached]
  by_cases hq : q = p
  · subst hq
    rw [if_pos rfl]
    cases s.content? q with
    | none => simp
    | some secret => simp
  · rw [if_neg hq]

/-- Claims succeed if all their secrets can be claimed, and then they are claimed. -/
theorem perform_claims_ok_iff (ns ingress : String) (names : List String) (s t : Cluster) :
    perform (serve stamps) (names.forM (claim ns ingress)) s = (.ok (), t) ↔
      (∀ name ∈ names, s.Claimable ⟨ns, name⟩) ∧ t = claimed stamps ns s names := by
  induction names generalizing s with
  | nil =>
    constructor
    · intro h
      cases h
      exact ⟨List.forall_mem_nil _, rfl⟩
    · rintro ⟨-, rfl⟩
      rfl
  | cons name rest ih =>
    show perform _ (claim ns ingress name >>= fun _ => rest.forM (claim ns ingress)) s = _ ↔ _
    rw [Program.Pass.perform_bind_ok_iff]
    constructor
    · rintro ⟨u, mid, hfirst, hrest⟩
      obtain ⟨hname, rfl⟩ := (perform_claim_ok_iff ns ingress name s mid).mp hfirst
      obtain ⟨hall, rfl⟩ := (ih _).mp hrest
      refine ⟨fun other hother => ?_, rfl⟩
      rcases List.mem_cons.mp hother with rfl | hother
      · exact hname
      · exact (claimable_attached s _ _).mp (hall other hother)
    · rintro ⟨hall, rfl⟩
      refine ⟨(), _, (perform_claim_ok_iff ns ingress name s _).mpr
        ⟨hall name List.mem_cons_self, rfl⟩, (ih _).mpr ⟨fun other hother => ?_, rfl⟩⟩
      exact (claimable_attached s _ _).mpr (hall other (List.mem_cons_of_mem name hother))

/-- On the way of claims some of the first secrets are claimed. -/
theorem visits_claims {ns ingress : String} {names : List String} {s t : Cluster}
    (h : (names.forM (claim ns ingress)).run.Visits (serve stamps) s t) :
    ∃ k, t = claimed stamps ns s (names.take k) := by
  refine Program.Pass.visits_forM (fun t name => t.attached stamps ⟨ns, name⟩)
    (fun name s t hvisits => visits_claim hvisits) (fun name s t hok => ?_) names h
  exact ((perform_claim_ok_iff ns ingress name s t).mp hok).2

end Claims

/-! ## Releases -/

section Releases

open Program.Pass (perform)

variable {stamps : Stamps}

/-- What a release does once it has read its secret. -/
def releaseRead : Option Secret → Publication Unit
  | none => pure ()
  | some secret => detach secret

/-- A release reads its secret unless it is used, and then does what it finds. -/
theorem releaseOne_eq (ns : String) (users : List Ingress) (name : String) :
    releaseOne ns users name =
      if isUsed users name then pure () else (Call.getSecret ns name).perform >>= releaseRead := by
  unfold releaseOne
  congr 2
  funext secret
  cases secret <;> rfl

/-- A release of one secret succeeds, and then the secret is released unless it is used. -/
theorem perform_releaseOne (ns : String) (users : List Ingress) (name : String) (s : Cluster) :
    perform (serve stamps) (releaseOne ns users name) s =
      (.ok (), relieved stamps ns users s name) := by
  rw [releaseOne_eq]
  unfold relieved
  split
  · rfl
  · rw [Program.Pass.perform_bind_of_ok (perform_call (Call.getSecret ns name) s)]
    show perform _ (releaseRead (s.secret? ⟨ns, name⟩)) s = _
    cases hread : s.secret? ⟨ns, name⟩ with
    | none =>
      unfold detached
      rw [hread]
      rfl
    | some secret => exact perform_detach hread

/-- On the way of a release of one secret it is released or not yet released. -/
theorem visits_releaseOne {ns : String} {users : List Ingress} {name : String} {s t : Cluster}
    (h : (releaseOne ns users name).run.Visits (serve stamps) s t) :
    t = s ∨ t = relieved stamps ns users s name := by
  rw [releaseOne_eq] at h
  unfold relieved
  by_cases hused : isUsed users name = true
  · rw [if_pos hused] at h
    exact .inl h
  · rw [if_neg hused, Program.Pass.visits_bind] at h
    rw [if_neg hused]
    rcases h with h | ⟨secret, u, hanswer, h⟩
    · -- reading changes nothing
      rcases visits_call h with rfl | rfl <;> exact .inl rfl
    · cases hanswer
      cases hread : s.secret? ⟨ns, name⟩ with
      | none =>
        rw [hread] at h
        exact .inl h
      | some secret =>
        rw [hread] at h
        exact visits_detach hread h

/-- The users of the secrets of a namespace apart from an ingress. -/
def users (s : Cluster) (x : Ingress) (cls : String) : List Ingress :=
  otherUsers x cls
    (s.ingresses.filter fun ingress => ingress.metadata.anyNamespace = x.metadata.anyNamespace)

/-- A release succeeds, and then its candidates are released unless they are used. -/
theorem perform_release (x : Ingress) (cls : String) (candidates : List String) (s : Cluster) :
    perform (serve stamps) (release x cls candidates) s =
      (.ok (), released stamps x.metadata.anyNamespace (s.users x cls) s candidates) := by
  cases candidates with
  | nil => rfl
  | cons name more =>
    unfold release
    rw [Program.Pass.perform_bind_of_ok
      (perform_call (Call.listIngresses x.metadata.anyNamespace) s)]
    exact Program.Pass.perform_forM (relieved stamps x.metadata.anyNamespace (s.users x cls))
      (fun _ => True) (fun name _ t _ => ⟨perform_releaseOne _ _ name t, trivial⟩) trivial

/-- On the way of a release some of the first candidates are released, unless they are used. -/
theorem visits_release {x : Ingress} {cls : String} {candidates : List String} {s t : Cluster}
    (h : (release x cls candidates).run.Visits (serve stamps) s t) :
    ∃ k, t = released stamps x.metadata.anyNamespace (s.users x cls) s (candidates.take k) := by
  cases candidates with
  | nil => exact ⟨0, h⟩
  | cons name more =>
    unfold release at h
    rw [Program.Pass.visits_bind] at h
    rcases h with h | ⟨ingresses, u, hlist, h⟩
    · rcases visits_call h with rfl | rfl <;> exact ⟨0, rfl⟩
    · cases hlist
      refine Program.Pass.visits_forM (relieved stamps x.metadata.anyNamespace (s.users x cls))
        (fun name u v hvisits => visits_releaseOne hvisits) (fun name u v hok => ?_) (name :: more) h
      have hround := (perform_releaseOne _ _ name u).symm.trans hok
      exact (Prod.mk.inj hround).2.symm

end Releases

/-! ## Entries -/

section Entries

open Program.Pass (perform)

variable {stamps : Stamps}

/-- Whether a registry is stored. -/
def IsStored (s : Cluster) (registry : ConfigMap) : Prop :=
  ∃ r ∈ s.registries, placeOf r.metadata = placeOf registry.metadata

/-- A registry stays stored when entries are written. -/
theorem isStored_enter {s : Cluster} {registry : ConfigMap} (h : s.IsStored registry)
    (other : ConfigMap) (key : String) (value : Option String) :
    (s.enter stamps other key value).2.IsStored registry := by
  obtain ⟨r, hr, hplace⟩ := h
  unfold enter
  split
  · refine ⟨_, List.mem_map.mpr ⟨r, hr, rfl⟩, ?_⟩
    split
    · exact hplace
    · exact hplace
  · exact ⟨r, hr, hplace⟩

/-- Writing an entry to a registry that is stored succeeds. -/
theorem enter_of_isStored {s : Cluster} {registry : ConfigMap} (h : s.IsStored registry)
    (key : String) (value : Option String) : (s.enter stamps registry key value).1 = .ok () := by
  obtain ⟨r, hr, hplace⟩ := h
  have hany : (s.registries.any fun r => placeOf r.metadata = placeOf registry.metadata) = true :=
    List.any_eq_true.mpr ⟨r, hr, by simpa using hplace⟩
  unfold enter
  rw [if_pos hany]

/-- Writing entries to registries that are stored succeeds. -/
theorem perform_writeEntries (x : Ingress) (value : Option String) {registries : List ConfigMap}
    {s : Cluster} (h : ∀ registry ∈ registries, s.IsStored registry) :
    perform (serve stamps) (writeEntries x value registries) s =
      (.ok (), entered stamps (entryKeyOf x) value s registries) := by
  refine Program.Pass.perform_forM
    (fun (t : Cluster) registry => (t.enter stamps registry (entryKeyOf x) value).2)
    (fun (t : Cluster) => ∀ registry ∈ registries, t.IsStored registry) (fun registry hregistry t ht => ?_) h
  constructor
  · exact Prod.ext (enter_of_isStored (ht registry hregistry) _ _) rfl
  · exact fun other hother => isStored_enter (ht other hother) registry _ _

/-- On the way of writing entries the first few are written. -/
theorem visits_writeEntries {x : Ingress} {value : Option String} {registries : List ConfigMap}
    {s t : Cluster} (h : (writeEntries x value registries).run.Visits (serve stamps) s t) :
    ∃ k, t = entered stamps (entryKeyOf x) value s (registries.take k) := by
  refine Program.Pass.visits_forM (fun t registry => (t.enter stamps registry (entryKeyOf x) value).2)
    (fun registry u v hvisits => visits_call hvisits) (fun registry u v hok => ?_) registries h
  exact (congrArg Prod.snd hok).symm

end Entries

/-! ## Effects -/

section Effects

variable {stamps : Stamps}

variable (stamps) in
/-- Claims leave registries and ingresses. -/
theorem else_claimed (ns : String) (s : Cluster) (names : List String) :
    (claimed stamps ns s names).registries = s.registries ∧
      (claimed stamps ns s names).ingresses = s.ingresses := by
  induction names generalizing s with
  | nil => exact ⟨rfl, rfl⟩
  | cons name rest ih =>
    obtain ⟨hregistries, hingresses⟩ := ih (s.attached stamps ⟨ns, name⟩)
    obtain ⟨hregistries', hingresses'⟩ := else_attached stamps s ⟨ns, name⟩
    exact ⟨hregistries.trans hregistries', hingresses.trans hingresses'⟩

variable (stamps) in
/-- Releases leave registries and ingresses. -/
theorem else_released (ns : String) (users : List Ingress) (s : Cluster) (names : List String) :
    (released stamps ns users s names).registries = s.registries ∧
      (released stamps ns users s names).ingresses = s.ingresses := by
  induction names generalizing s with
  | nil => exact ⟨rfl, rfl⟩
  | cons name rest ih =>
    obtain ⟨hregistries, hingresses⟩ := ih (relieved stamps ns users s name)
    rw [released, List.foldl_cons]
    refine ⟨hregistries.trans ?_, hingresses.trans ?_⟩
    · unfold relieved
      split
      · rfl
      · exact (else_detached stamps s _).1
    · unfold relieved
      split
      · rfl
      · exact (else_detached stamps s _).2

variable (stamps) in
/-- Writes of an entry leave secrets and ingresses. -/
theorem else_entered (key : String) (value : Option String) (s : Cluster)
    (registries : List ConfigMap) :
    (entered stamps key value s registries).stored = s.stored ∧
      (entered stamps key value s registries).ingresses = s.ingresses := by
  induction registries generalizing s with
  | nil => exact ⟨rfl, rfl⟩
  | cons registry rest ih =>
    obtain ⟨hstored, hingresses⟩ := ih (s.enter stamps registry key value).2
    obtain ⟨hstored', hingresses'⟩ := else_enter stamps s registry key value
    exact ⟨hstored.trans hstored', hingresses.trans hingresses'⟩

/-- Writing entries changes no secret. -/
theorem content?_entered (key : String) (value : Option String) (s : Cluster)
    (registries : List ConfigMap) (q : Place) :
    (entered stamps key value s registries).content? q = s.content? q := by
  have hstored := (else_entered stamps key value s registries).1
  unfold content? secret?
  rw [hstored]

/-- The secrets after claims. -/
theorem content?_claimed (ns : String) (s : Cluster) (names : List String) (q : Place) :
    (claimed stamps ns s names).content? q =
      if q.ns = ns ∧ q.name ∈ names then (s.content? q).map marked else s.content? q := by
  induction names generalizing s with
  | nil => simp [claimed]
  | cons name rest ih =>
    show (claimed stamps ns (s.attached stamps ⟨ns, name⟩) rest).content? q = _
    rw [ih, content?_attached]
    by_cases hq : q = ⟨ns, name⟩
    · subst hq
      by_cases hrest : name ∈ rest <;> simp [hrest, Function.comp_def, marked_marked]
    · have hne : q.ns = ns → q.name ≠ name := fun hns hname => hq (by rw [← hns, ← hname])
      by_cases hns : q.ns = ns
      · simp [hq, hns, hne hns]
      · simp [hq, hns]

/-- The secrets after releases. -/
theorem content?_released (ns : String) (users : List Ingress) (s : Cluster) (names : List String)
    (q : Place) :
    (released stamps ns users s names).content? q =
      if q.ns = ns ∧ q.name ∈ names ∧ isUsed users q.name = false then
        (s.content? q).bind cleared
      else s.content? q := by
  induction names generalizing s with
  | nil => simp [released]
  | cons name rest ih =>
    show (released stamps ns users (relieved stamps ns users s name) rest).content? q = _
    rw [ih]
    by_cases hused : isUsed users name = true
    · -- a secret that is used is passed over, here and later
      have hsame : relieved stamps ns users s name = s := if_pos hused
      have hname : isUsed users q.name = false → q.name ≠ name := by
        rintro hunused rfl
        rw [hused] at hunused
        cases hunused
      rw [hsame]
      by_cases hunused : isUsed users q.name = false
      · simp [hunused, hname hunused]
      · simp [hunused]
    · have hdetached : relieved stamps ns users s name = s.detached stamps ⟨ns, name⟩ := if_neg hused
      rw [hdetached, content?_detached]
      by_cases hq : q = ⟨ns, name⟩
      · -- released now, and perhaps once more later
        subst hq
        have hunused : isUsed users name = false := Bool.eq_false_iff.mpr hused
        by_cases hrest : name ∈ rest
        · simp only [hrest, hunused, if_true, and_self, List.mem_cons, true_or]
          exact cleared_cleared _
        · simp [hrest, hunused]
      · have hne : q.ns = ns → q.name ≠ name := fun hns hname => hq (by rw [← hns, ← hname])
        by_cases hns : q.ns = ns
        · simp [hq, hns, hne hns]
        · simp [hq, hns]

/-- The registries after writes, apart from versions and annotations. -/
theorem plain_entered (key : String) (value : Option String) (s : Cluster)
    (registries : List ConfigMap) :
    (entered stamps key value s registries).registries.map plain =
      (s.registries.map plain).map
        (entryAt (registries.map fun r => placeOf r.metadata) key value) := by
  induction registries generalizing s with
  | nil =>
    have hnone : entryAt [] key value = id := funext fun r => if_neg List.not_mem_nil
    rw [List.map_nil, hnone, List.map_id]
    rfl
  | cons registry rest ih =>
    show (entered stamps key value (s.enter stamps registry key value).2 rest).registries.map plain = _
    rw [ih, plain_enter, List.map_map]
    refine List.map_congr_left fun r _ => ?_
    exact entryAt_entryAt [placeOf registry.metadata] (rest.map fun r => placeOf r.metadata) key value r

end Effects

end Cluster

end GatewayOperator.Trust
