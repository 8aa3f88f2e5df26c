import GatewayOperator.Proofs.Trust.Isolation

/-!
# What a publication leaves behind

A publication that succeeds has its secrets claimed and listed, and what it listed before and no longer names
released. Everything else stays as it was, to the version: the secrets of other ingresses, the registries of
other classes, the other entries. The effects on secrets and registries are stated apart from versions
elsewhere; here it is added where no write happens at all.
-/

set_option autoImplicit false

namespace GatewayOperator.Trust

open GatewayOperator.Resource

/-! ## Names in their order -/

/-- Texts that are listed once are in the order of their first mention. -/
theorem distinct_eq (names seen : List String) :
    distinct names seen = seen ++ (names.filter fun name => !seen.contains name).eraseDups := by
  induction names generalizing seen with
  | nil => simp [distinct]
  | cons first rest ih =>
    rw [distinct, ih]
    by_cases hmem : seen.contains first = true
    · rw [if_pos hmem, List.filter_cons_of_neg (by simpa using hmem)]
    · rw [if_neg hmem, List.filter_cons_of_pos (by simpa using hmem), List.eraseDups_cons,
        List.filter_filter, List.append_assoc, List.singleton_append]
      congr 3
      refine List.filter_congr fun name _ => ?_
      by_cases hname : name = first <;> simp [hname]

/-- The secrets of the TLS section of an ingress, each at its first mention. -/
def tlsSecrets (x : Ingress) : List String :=
  ((x.tls.filterMap id).filter fun name => name ≠ "").eraseDups

/-- The secrets of an ingress are those of its TLS section. -/
theorem secretNames_eq (x : Ingress) : secretNames x = tlsSecrets x := by
  simp [secretNames, tlsSecrets, distinct_eq]

/-- The JSON array of namespace and name of each secret of an ingress. -/
def tlsArray (x : Ingress) : String :=
  (Json.strings ((tlsSecrets x).map fun name => x.metadata.anyNamespace ++ "/" ++ name)).render

/-- What is published of an ingress is the array of its secrets. -/
theorem valueOf_eq (x : Ingress) : Cluster.valueOf x = tlsArray x := by
  unfold Cluster.valueOf
  rw [secretNames_eq]
  rfl

/-! ## Secrets but for the keypair finalizer -/

/-- A secret apart from its version and the keypair finalizer. -/
def unclaimed (secret : Secret) : Secret :=
  withFinalizers (unversioned secret) (releasedFinalizers secret)

/-- A secret stays the same, but for the finalizer, if its other finalizers do. -/
theorem unclaimed_withFinalizers {secret : Secret} {finalizers : List String}
    (h : (finalizers.filter fun f => f ≠ keypairFinalizer) = releasedFinalizers secret) :
    unclaimed (withFinalizers secret finalizers) = unclaimed secret := by
  have hreleased : releasedFinalizers (withFinalizers secret finalizers) = releasedFinalizers secret := h
  unfold unclaimed
  rw [hreleased]
  rfl

/-- A claim changes no more of a secret than the keypair finalizer. -/
theorem unclaimed_marked (secret : Secret) : unclaimed (marked secret) = unclaimed secret := by
  unfold marked
  split
  · rfl
  · exact unclaimed_withFinalizers (by simp [claimedFinalizers, releasedFinalizers])

/-- A release changes no more of a secret that stays than the keypair finalizer. -/
theorem unclaimed_cleared {secret rest : Secret} (h : cleared secret = some rest) :
    unclaimed rest = unclaimed secret := by
  unfold cleared at h
  split at h
  · split at h
    · cases h
    · cases h
      exact unclaimed_withFinalizers (by simp [releasedFinalizers])
  · cases h
    rfl

/-- Only a secret that is going away and has no other finalizer vanishes when it is released. -/
theorem cleared_eq_none {secret : Secret} (h : cleared secret = none) :
    secret.metadata.isDeleting = true ∧ releasedFinalizers secret = [] := by
  unfold cleared at h
  split at h
  · split at h
    · next hgone => simpa using hgone
    · cases h
  · cases h

namespace Cluster

variable {stamps : Stamps} {cls : String} {x : Ingress}

/-! ## Secrets that no write reaches -/

/-- To claim a secret that carries the finalizer is to do nothing. -/
theorem attached_of_carries {s : Cluster} {p : Place} (h : s.Carries p) : s.attached stamps p = s := by
  obtain ⟨secret, hread, hhas⟩ := h
  unfold attached
  simp only [hread, hhas, if_true]

/-- A claim leaves every other secret. -/
theorem secret?_attached_of_ne (s : Cluster) {p q : Place} (h : q ≠ p) :
    (s.attached stamps p).secret? q = s.secret? q := by
  unfold attached
  split
  · rfl
  · split
    · rfl
    · rw [secret?_saveFinalizers, if_neg h]

/-- To release a secret that lacks the finalizer is to do nothing. -/
theorem detached_of_not_carries {s : Cluster} {p : Place} (h : ¬ s.Carries p) :
    s.detached stamps p = s := by
  unfold detached
  split
  · rfl
  · next secret hread => exact if_neg fun hhas => h ⟨secret, hread, hhas⟩

/-- A release leaves every other secret. -/
theorem secret?_detached_of_ne (s : Cluster) {p q : Place} (h : q ≠ p) :
    (s.detached stamps p).secret? q = s.secret? q := by
  unfold detached
  split
  · rfl
  · split
    · rw [secret?_saveFinalizers, if_neg h]
    · rfl

/-- Whether a secret carries the finalizer depends on that secret only. -/
theorem carries_congr {s t : Cluster} {q : Place} (h : t.secret? q = s.secret? q) :
    t.Carries q ↔ s.Carries q := by
  unfold Carries
  rw [h]

/-- Claims leave a secret as it is if it is none of theirs or carries the finalizer. -/
theorem secret?_claimed_of_kept {ns : String} {s : Cluster} {names : List String} {q : Place}
    (h : q.ns = ns → q.name ∈ names → s.Carries q) : (claimed stamps ns s names).secret? q = s.secret? q := by
  induction names generalizing s with
  | nil => rfl
  | cons name rest ih =>
    have hfirst : (s.attached stamps ⟨ns, name⟩).secret? q = s.secret? q := by
      by_cases hq : q = ⟨ns, name⟩
      · subst hq
        rw [attached_of_carries (h rfl List.mem_cons_self)]
      · exact secret?_attached_of_ne s hq
    refine (ih fun hns hname => ?_).trans hfirst
    exact (carries_congr hfirst).mpr (h hns (List.mem_cons_of_mem name hname))

/-- Releases leave a secret as it is if it is none of theirs, is used, or lacks the finalizer. -/
theorem secret?_released_of_kept {ns : String} {users : List Ingress} {s : Cluster}
    {names : List String} {q : Place}
    (h : q.ns = ns → q.name ∈ names → isUsed users q.name = false → ¬ s.Carries q) :
    (released stamps ns users s names).secret? q = s.secret? q := by
  induction names generalizing s with
  | nil => rfl
  | cons name rest ih =>
    have hfirst : (relieved stamps ns users s name).secret? q = s.secret? q := by
      unfold relieved
      split
      · rfl
      · next hunused =>
        by_cases hq : q = ⟨ns, name⟩
        · subst hq
          rw [detached_of_not_carries (h rfl List.mem_cons_self (Bool.eq_false_iff.mpr hunused))]
        · exact secret?_detached_of_ne s hq
    refine (ih fun hns hname hunused => ?_).trans hfirst
    rw [carries_congr hfirst]
    exact h hns (List.mem_cons_of_mem name hname) hunused

/-- Writes of an entry leave every secret, its version included. -/
theorem secret?_entered (key : String) (value : Option String) (s : Cluster)
    (registries : List ConfigMap) (q : Place) :
    (entered stamps key value s registries).secret? q = s.secret? q := by
  unfold secret?
  rw [(else_entered stamps key value s registries).1]

/-- A publication leaves a secret as it is if the secret carries the finalizer in case the ingress names it,
and lacks it in case it is released. -/
theorem secret?_published_of_kept {s : Cluster} {q : Place} (hnamed : Names x q → s.Carries q)
    (hdropped : q.ns = x.metadata.anyNamespace → q.name ∈ s.dropped cls x →
      isUsed (s.users x cls) q.name = false → ¬ s.Carries q) :
    (s.published stamps cls x).secret? q = s.secret? q := by
  have hlisted : (s.listed stamps cls x).secret? q = s.secret? q := by
    unfold listed held
    rw [secret?_entered, secret?_claimed_of_kept fun hns hname => hnamed ⟨hns, hname⟩]
  unfold published
  rw [secret?_released_of_kept fun hns hname hunused => ?_, hlisted]
  rw [carries_congr hlisted]
  exact hdropped hns hname hunused

/-! ## Registries -/

variable (stamps) in
/-- A registry that is written to gets the entry, and every other one stays as it is. -/
theorem exists_map_enter (s : Cluster) (registry : ConfigMap) (key : String) (value : Option String) :
    ∃ after : ConfigMap → ConfigMap,
      (s.enter stamps registry key value).2.registries = s.registries.map after ∧
      ∀ r ∈ s.registries,
        plain (after r) = entryAt [placeOf registry.metadata] key value (plain r) ∧
        (placeOf r.metadata ≠ placeOf registry.metadata → after r = r) := by
  unfold enter
  split
  · refine ⟨_, rfl, fun r _ => ?_⟩
    by_cases hplace : placeOf r.metadata = placeOf registry.metadata
    · have hentry : entryAt [placeOf registry.metadata] key value (plain r) =
          withEntry key value (plain r) := if_pos (List.mem_singleton.mpr hplace)
      rw [if_pos hplace, hentry]
      exact ⟨rfl, fun hne => absurd hplace hne⟩
    · have hentry : entryAt [placeOf registry.metadata] key value (plain r) = plain r :=
        if_neg fun hmem => hplace (List.mem_singleton.mp hmem)
      rw [if_neg hplace, hentry]
      exact ⟨rfl, fun _ => rfl⟩
  · next hnone =>
    refine ⟨id, (List.map_id _).symm, fun r hr => ⟨(if_neg fun hmem => hnone ?_).symm, fun _ => rfl⟩⟩
    exact List.any_eq_true.mpr ⟨r, hr, decide_eq_true (List.mem_singleton.mp hmem)⟩

variable (stamps) in
/-- Each registry is changed on its own when entries are written, and not at all if it is at none of the
places. -/
theorem exists_map_entered (key : String) (value : Option String) (s : Cluster)
    (registries : List ConfigMap) :
    ∃ after : ConfigMap → ConfigMap,
      (entered stamps key value s registries).registries = s.registries.map after ∧
      ∀ r ∈ s.registries,
        plain (after r) = entryAt (registries.map fun r => placeOf r.metadata) key value (plain r) ∧
        (placeOf r.metadata ∉ registries.map (fun r => placeOf r.metadata) → after r = r) := by
  induction registries generalizing s with
  | nil =>
    refine ⟨id, (List.map_id _).symm, fun r _ => ⟨?_, fun _ => rfl⟩⟩
    exact (if_neg List.not_mem_nil).symm
  | cons registry rest ih =>
    obtain ⟨first, hfirst, heach⟩ := exists_map_enter stamps s registry key value
    obtain ⟨later, hlater, hother⟩ := ih (s.enter stamps registry key value).2
    refine ⟨later ∘ first, hlater.trans (by rw [hfirst, List.map_map]), fun r hr => ?_⟩
    obtain ⟨hplain, hsame⟩ := heach r hr
    have hmem : first r ∈ (s.enter stamps registry key value).2.registries := by
      rw [hfirst]
      exact List.mem_map_of_mem hr
    obtain ⟨hplain', hsame'⟩ := hother (first r) hmem
    constructor
    · rw [Function.comp_apply, hplain', hplain]
      exact entryAt_entryAt [placeOf registry.metadata] (rest.map fun r => placeOf r.metadata) _ _ _
    · intro hplace
      rw [List.map_cons, List.mem_cons, not_or] at hplace
      rw [hsame hplace.1] at hsame'
      rw [Function.comp_apply, hsame hplace.1]
      exact hsame' hplace.2

/-- Whether a registry is another one with the value of an entry set or removed. -/
structure Rewritten (key : String) (value : Option String) (before after : ConfigMap) : Prop where
  place : placeOf after.metadata = placeOf before.metadata
  labels : after.metadata.labels = before.metadata.labels
  entry : Registry.entry? after key = value
  others : ∀ other, other ≠ key → Registry.entry? after other = Registry.entry? before other

/-- A registry that differs in an entry only was rewritten. -/
theorem rewritten_of_plain {places : List Place} {key : String} {value : Option String}
    {before after : ConfigMap} (hplace : placeOf before.metadata ∈ places)
    (h : plain after = entryAt places key value (plain before)) : Rewritten key value before after := by
  have hentry (other : String) : Registry.entry? after other =
      if key = other then value else Registry.entry? before other := by
    have hplain : Registry.entry? after other = Registry.entry? (plain after) other := rfl
    rw [hplain, h, entry?_entryAt]
    simp only [show placeOf (plain before).metadata = placeOf before.metadata from rfl, hplace, true_and]
    rfl
  have hwritten : plain after = withEntry key value (plain before) := h.trans (if_pos hplace)
  constructor
  · exact congrArg (fun r => placeOf r.metadata) hwritten
  · exact congrArg (fun r => r.metadata.labels) hwritten
  · rw [hentry, if_pos rfl]
  · intro other hother
    rw [hentry, if_neg hother.symm]

/-- No two registries are at one place. -/
theorem eq_of_place {registries : List ConfigMap}
    (hplaces : registries.Pairwise fun r r' => placeOf r.metadata ≠ placeOf r'.metadata) {r r' : ConfigMap}
    (hr : r ∈ registries) (hr' : r' ∈ registries) (hsame : placeOf r.metadata = placeOf r'.metadata) :
    r = r' := by
  induction registries with
  | nil => cases hr
  | cons first rest ih =>
    obtain ⟨hfirst, hrest⟩ := List.pairwise_cons.mp hplaces
    rcases List.mem_cons.mp hr with rfl | hmem
    · rcases List.mem_cons.mp hr' with rfl | hmem'
      · rfl
      · exact absurd hsame (hfirst r' hmem')
    · rcases List.mem_cons.mp hr' with rfl | hmem'
      · exact absurd hsame.symm (hfirst r hmem)
      · exact ih hrest hmem hmem'

variable (stamps cls) in
/-- When an entry is written to the registries of a class, these are rewritten and the others stay as they
are. -/
theorem exists_rewritten {s : Cluster}
    (hplaces : s.registries.Pairwise fun r r' => placeOf r.metadata ≠ placeOf r'.metadata) (key : String)
    (value : Option String) :
    ∃ after : ConfigMap → ConfigMap,
      (entered stamps key value s (ofClass cls s.registries)).registries = s.registries.map after ∧
      ∀ r ∈ s.registries, (Registry.serves r cls = true → Rewritten key value r (after r)) ∧
        (Registry.serves r cls = false → after r = r) := by
  obtain ⟨after, hafter, heach⟩ := exists_map_entered stamps key value s (ofClass cls s.registries)
  refine ⟨after, hafter, fun r hr => ⟨fun hserves => ?_, fun hserves => ?_⟩⟩
  · have hclass : r ∈ ofClass cls s.registries := List.mem_filter.mpr ⟨hr, hserves⟩
    exact rewritten_of_plain (List.mem_map.mpr ⟨r, hclass, rfl⟩) (heach r hr).1
  · refine (heach r hr).2 fun hplace => ?_
    obtain ⟨r', hclass, hsame⟩ := List.mem_map.mp hplace
    obtain ⟨hr', hserves'⟩ := List.mem_filter.mp hclass
    rw [eq_of_place hplaces hr hr' hsame.symm, hserves'] at hserves
    cases hserves

/-! ## What becomes of a secret -/

/-- The content of a secret that was read is the secret apart from its version. -/
theorem content?_of_read {s : Cluster} {q : Place} {secret : Secret} (h : s.secret? q = some secret) :
    s.content? q = some (unversioned secret) := by
  rw [content?, h]
  rfl

/-- Whether a secret is at most claimed or released from one cluster to another. -/
def Handled (s t : Cluster) (q : Place) : Prop :=
  t.content? q = s.content? q ∨ t.content? q = (s.content? q).map marked ∨
    t.content? q = (s.content? q).bind cleared

namespace Handled

variable {s t : Cluster} {q : Place}

/-- A secret that is there before and after differs in the keypair finalizer at most. -/
theorem unclaimed_eq (h : Handled s t q) {before after : Secret} (hbefore : s.secret? q = some before)
    (hafter : t.secret? q = some after) : unclaimed after = unclaimed before := by
  have hunversioned (secret : Secret) : unclaimed (unversioned secret) = unclaimed secret := rfl
  unfold Handled at h
  rw [content?_of_read hbefore, content?_of_read hafter] at h
  rw [← hunversioned after, ← hunversioned before]
  rcases h with hsame | hmarked | hcleared
  · rw [Option.some.inj hsame]
  · rw [Option.some.inj hmarked, unclaimed_marked]
  · exact unclaimed_cleared hcleared.symm

/-- A secret that vanishes was going away and had no other finalizer. -/
theorem vanishes (h : Handled s t q) {before : Secret} (hbefore : s.secret? q = some before)
    (hafter : t.secret? q = none) :
    before.metadata.isDeleting = true ∧ releasedFinalizers before = [] := by
  have hgone : t.content? q = none := by
    rw [content?, hafter]
    rfl
  unfold Handled at h
  rw [content?_of_read hbefore, hgone] at h
  rcases h with hsame | hmarked | hcleared
  · cases hsame
  · cases hmarked
  · obtain ⟨hdeleting, hothers⟩ := cleared_eq_none hcleared.symm
    exact ⟨hdeleting, hothers⟩

/-- What is claimed or released was there before. -/
theorem absent (h : Handled s t q) (hbefore : s.secret? q = none) : t.secret? q = none := by
  have hnone : s.content? q = none := by
    rw [content?, hbefore]
    rfl
  unfold Handled at h
  rw [hnone] at h
  simpa [content?] using h

end Handled

/-! ## The whole effect -/

/-- Whether a registry of a class lists a secret for an ingress. -/
def IsListed (cls : String) (x : Ingress) (s : Cluster) (name : String) : Prop :=
  ∃ r ∈ s.registries, Registry.serves r cls = true ∧
    name ∈ Registry.entrySecrets r (entryKeyOf x) x.metadata.anyNamespace

/-- Whether an ingress other than this one is in use and names a secret of the namespace. -/
def IsShared (cls : String) (x : Ingress) (s : Cluster) (name : String) : Prop :=
  ∃ y ∈ s.ingresses, placeOf y.metadata ≠ placeOf x.metadata ∧ IsServed cls y ∧
    Names y (secretPlace x name)

/-- A secret is listed if it is among those that the registries list. -/
theorem isListed_iff (s : Cluster) (name : String) : s.IsListed cls x name ↔ name ∈ s.listing cls x := by
  rw [mem_listing]
  simp only [IsListed, ofClass, List.mem_filter, and_assoc]

/-- A secret is used if another ingress shares it. -/
theorem isUsed_users_iff (s : Cluster) (name : String) :
    isUsed (s.users x cls) name = true ↔ s.IsShared cls x name := by
  simp only [isUsed, users, otherUsers, List.any_eq_true, List.mem_filter, Bool.and_eq_true,
    Bool.not_eq_true', decide_eq_true_eq, List.contains_iff_mem]
  constructor
  · rintro ⟨y, ⟨⟨hy, hns⟩, ⟨hother, hlive⟩, htracked⟩, hname⟩
    exact ⟨y, hy, fun hplace => hother (congrArg Place.name hplace), ⟨hlive, htracked⟩, hns.symm, hname⟩
  · rintro ⟨y, hy, hplace, ⟨hlive, htracked⟩, hns, hname⟩
    have hother : y.metadata.anyName ≠ x.metadata.anyName := by
      intro hsame
      have hns : x.metadata.anyNamespace = y.metadata.anyNamespace := hns
      apply hplace
      rw [placeOf, placeOf, hsame, hns]
    exact ⟨y, ⟨⟨hy, hns.symm⟩, ⟨hother, hlive⟩, htracked⟩, hname⟩

/-- Whether a registry is another one with the entry of an ingress written. -/
structure Written (x : Ingress) (before after : ConfigMap) : Prop where
  place : placeOf after.metadata = placeOf before.metadata
  labels : after.metadata.labels = before.metadata.labels
  entry : Registry.entry? after (entryKeyOf x) = some (tlsArray x)
  others : ∀ key, key ≠ entryKeyOf x → Registry.entry? after key = Registry.entry? before key

/-- Whether a cluster is another one after an ingress was published. -/
structure FullyPublished (cls : String) (x : Ingress) (s t : Cluster) : Prop where
  /-- Every secret that the ingress names exists, stays, is usable and carries the keypair finalizer. -/
  claimed : ∀ name ∈ tlsSecrets x, ∃ secret, t.secret? (secretPlace x name) = some secret ∧
    secret.metadata.isDeleting = false ∧ Tls.validate secret = .ok () ∧
    secret.metadata.hasFinalizer keypairFinalizer = true
  /-- Every registry of the class has the entry, and every other one is as it was. -/
  registries : ∃ after : ConfigMap → ConfigMap, t.registries = s.registries.map after ∧
    ∀ r ∈ s.registries, (Registry.serves r cls = true → Written x r (after r)) ∧
      (Registry.serves r cls = false → after r = r)
  /-- A secret that was listed and is not named lacks the finalizer if nobody shares it. -/
  released : ∀ name, s.IsListed cls x name → name ∉ tlsSecrets x → ¬ s.IsShared cls x name →
    ¬ t.Carries (secretPlace x name)
  /-- If somebody shares it, it is as it was. -/
  shared : ∀ name, s.IsListed cls x name → name ∉ tlsSecrets x → s.IsShared cls x name →
    t.secret? (secretPlace x name) = s.secret? (secretPlace x name)
  /-- A secret that is neither named nor was listed is as it was. -/
  others : ∀ q, ¬ Names x q → (q.ns = x.metadata.anyNamespace → ¬ s.IsListed cls x q.name) →
    t.secret? q = s.secret? q
  /-- No secret comes up. -/
  absent : ∀ q, s.secret? q = none → t.secret? q = none
  /-- Of no secret that is still there anything but the keypair finalizer and the version is changed. -/
  kept : ∀ q before after, s.secret? q = some before → t.secret? q = some after →
    unclaimed after = unclaimed before
  /-- Only a secret that was going away and had no other finalizer is gone. -/
  gone : ∀ q before, s.secret? q = some before → t.secret? q = none →
    before.metadata.isDeleting = true ∧ releasedFinalizers before = []
  ingresses : t.ingresses = s.ingresses

/-- What a publication drops is listed and no longer named. -/
theorem mem_dropped_iff (s : Cluster) (name : String) :
    name ∈ s.dropped cls x ↔ s.IsListed cls x name ∧ name ∉ tlsSecrets x := by
  rw [isListed_iff, ← secretNames_eq, dropped, List.mem_filter]
  simp

variable (stamps cls x) in
/-- A publication claims or releases every secret at most. -/
theorem handled_published (s : Cluster) (q : Place) : Handled s (s.published stamps cls x) q := by
  unfold Handled
  rw [content?_published]
  split
  · exact .inr (.inl rfl)
  · split
    · exact .inr (.inr rfl)
    · exact .inl rfl

/-- A secret that can be claimed and is named is claimed by a publication. -/
theorem claimed_published {s : Cluster} {name : String} (hname : name ∈ secretNames x)
    (h : s.Claimable (secretPlace x name)) :
    ∃ secret, (s.published stamps cls x).secret? (secretPlace x name) = some secret ∧
      secret.metadata.isDeleting = false ∧ Tls.validate secret = .ok () ∧
      secret.metadata.hasFinalizer keypairFinalizer = true := by
  obtain ⟨secret, hread, hlive, hvalid⟩ := h
  have hcontent : (s.published stamps cls x).content? (secretPlace x name) = some (marked secret) := by
    rw [content?_published, if_pos ⟨rfl, hname⟩, hread]
    rfl
  obtain ⟨after, hafter, hmarked⟩ := Option.map_eq_some_iff.mp hcontent
  have hdeleting : (unversioned after).metadata.isDeleting = false := by
    rw [hmarked, isDeleting_marked, hlive]
  have husable : Tls.validate (unversioned after) = .ok () := by rw [hmarked, validate_marked, hvalid]
  have hcarries : (unversioned after).metadata.hasFinalizer keypairFinalizer = true := by
    rw [hmarked, hasFinalizer_marked]
  exact ⟨after, hafter, hdeleting, husable, hcarries⟩

/-- The entry of a publication is the JSON array of the secrets that the ingress names. -/
theorem Rewritten.written {before after : ConfigMap}
    (h : Rewritten (entryKeyOf x) (some (valueOf x)) before after) : Written x before after :=
  ⟨h.place, h.labels, by rw [h.entry, valueOf_eq], h.others⟩

variable (stamps cls) in
/-- A publication whose secrets can be claimed publishes the ingress fully. -/
theorem fullyPublished_published {s : Cluster}
    (hplaces : s.registries.Pairwise fun r r' => placeOf r.metadata ≠ placeOf r'.metadata)
    (hclaimable : ∀ name ∈ secretNames x, s.Claimable (secretPlace x name)) :
    FullyPublished cls x s (s.published stamps cls x) where
  claimed := by
    rw [← secretNames_eq]
    exact fun name hname => claimed_published hname (hclaimable name hname)
  registries := by
    have hheld : (s.held stamps x).registries = s.registries := (else_claimed _ _ s _).1
    have hwritten := exists_rewritten stamps cls (s := s.held stamps x) (by rwa [hheld]) (entryKeyOf x)
      (some (valueOf x))
    rw [hheld] at hwritten
    obtain ⟨after, hafter, heach⟩ := hwritten
    refine ⟨after, ?_, fun r hr => ⟨fun hserves => ((heach r hr).1 hserves).written, (heach r hr).2⟩⟩
    unfold published
    rw [(else_released _ _ _ _ _).1]
    exact hafter
  released := by
    intro name hlisted hother hunshared hcarries
    rcases carries_published hcarries with hnames | ⟨-, hkept⟩
    · rw [← secretNames_eq] at hother
      exact hother hnames.2
    · have hunused : isUsed (s.users x cls) name = false := by
        rw [Bool.eq_false_iff, ne_eq, isUsed_users_iff]
        exact hunshared
      exact hkept ⟨rfl, (isListed_iff s name).mp hlisted, hunused⟩
  shared := by
    intro name hlisted hother hshared
    refine secret?_published_of_kept (fun hnames => ?_) fun _ _ hunused => ?_
    · rw [← secretNames_eq] at hother
      exact absurd hnames.2 hother
    · have hused : isUsed (s.users x cls) name = true := (isUsed_users_iff s name).mpr hshared
      cases hused.symm.trans hunused
  others := by
    intro q hnames hlisted
    refine secret?_published_of_kept (fun h => absurd h hnames) fun hns hdropped _ => ?_
    exact absurd ((mem_dropped_iff s q.name).mp hdropped).1 (hlisted hns)
  absent := fun q => (handled_published stamps cls x s q).absent
  kept := fun q _ _ => (handled_published stamps cls x s q).unclaimed_eq
  gone := fun q _ => (handled_published stamps cls x s q).vanishes
  ingresses := ingresses_published s

/-- A server that fails some calls and serves the others. -/
theorem respond_cases (stamps : Stamps) (fault : Option Fault) (c : Call) (s : Cluster) :
    s.respond stamps fault c = s.serve stamps c ∨ ∃ e, (s.respond stamps fault c).1 = failing e c := by
  cases fault with
  | none => exact .inl rfl
  | some f => exact .inr ⟨f.failure, rfl⟩

/-- When the pass over a live ingress with TLS secrets succeeds, whatever calls may fail with or without
effect, the ingress is published fully. -/
theorem fullyPublished_of_ok {stamps : Stamps} {cls : String} {x : Ingress} {s t : Cluster}
    {faults : Nat → Option Fault}
    (hplaces : s.registries.Pairwise fun r r' => placeOf r.metadata ≠ placeOf r'.metadata)
    (hlive : x.metadata.isDeleting = false) (hnames : secretNames x ≠ [])
    (h : (publish x cls).run.runOver (fun n c s => respond stamps (faults n) c s) 0 s = (.ok (), t)) :
    FullyPublished cls x s t := by
  rcases Isolation.publish_cases cls x with ⟨-, hpublish⟩ | ⟨hother, -⟩
  · rw [hpublish] at h
    have hserved := Program.run_eq_of_runOver (fun _ => stops_publishSecrets x cls (secretNames x))
      (fun n c s => respond_cases stamps (faults n) c s) h
    obtain ⟨hclaimable, -, rfl⟩ := (perform_publishSecrets_ok_iff cls x s t).mp hserved
    exact fullyPublished_published stamps cls hplaces hclaimable
  · exact absurd ⟨hlive, hnames⟩ hother

end Cluster

/-! ## Two ingresses and two registries -/

section Arcade

open Trust.Sample

/-- An ingress that names one of its secrets twice. -/
def stall : Ingress := ingress "stall" none ["stall-tls", "new-tls", "stall-tls"]

/-- Its cluster. It was published before with three secrets, of which another ingress names one, and a
registry of another class has an entry under its key. -/
def arcade : Cluster where
  stored := fun p =>
    if p.ns = "shop" ∧ p.name ∈ ["stall-tls", "old-tls", "shared-tls"] then
      some (withFinalizers keypair ["example.com/backup", keypairFinalizer])
    else keypairs ["new-tls"] p
  ingresses := [stall, ingress "kiosk" none ["shared-tls"]]
  distinct := by decide
  registries :=
    [{ registry with
        data := some (Dict.ofList [("shop-kiosk", Registry.entryValue "shop" ["shared-tls"]),
          ("shop-stall", Registry.entryValue "shop" ["old-tls", "shared-tls", "stall-tls"])]) },
      { registry with
        metadata := { Meta.empty with
          «namespace» := some "gateway"
          name := some "other-registry"
          labels := some (Dict.ofList [(classKey, "other")]) }
        data := some (Dict.ofList [("shop-stall", Registry.entryValue "shop" ["old-tls"])]) }]
  writes := 0

/-- The publication of the ingress when no call fails, and what it leaves. -/
def morning : Except PassFailure Unit × Cluster :=
  (publish stall cls).run.runOver (fun _ c s => Cluster.respond Stamps.counting none c s) 0 arcade

/-- The publication of the stall succeeds, and its postcondition holds. -/
theorem arcade_fully_published :
    morning.1.toBool = true ∧ tlsArray stall = "[\"shop/stall-tls\",\"shop/new-tls\"]" ∧
      Cluster.FullyPublished cls stall arcade morning.2 := by
  have hok : morning.1.toBool = true := by decide +kernel
  have hplaces : arcade.registries.Pairwise fun r r' => placeOf r.metadata ≠ placeOf r'.metadata := by
    decide
  refine ⟨hok, by decide +kernel, ?_⟩
  exact Cluster.fullyPublished_of_ok hplaces (by decide) (by decide) (Resumption.succeeds_of_toBool hok)

end Arcade

end GatewayOperator.Trust
