import GatewayOperator.Proofs.Trust.Caution
import GatewayOperator.Proofs.Trust.Effect

/-!
# Whole passes, performed

A withdrawal always succeeds. A publication succeeds if every secret can be claimed and there is some
registry. If it fails it has done nothing but claim some of its secrets; once it has begun to write entries
it goes through. From the effects of the parts it follows what each pass leaves behind.
-/

set_option autoImplicit false

namespace GatewayOperator.Trust

open GatewayOperator.Resource

/-- A text is listed once if it is listed at all. -/
theorem mem_distinct (name : String) (names seen : List String) :
    name ∈ distinct names seen ↔ name ∈ names ∨ name ∈ seen := by
  induction names generalizing seen with
  | nil => simp [distinct]
  | cons first rest ih =>
    have hseen : (name ∈ if seen.contains first then seen else seen ++ [first]) ↔
        name = first ∨ name ∈ seen := by
      split
      · next hmem =>
        have hfirst : first ∈ seen := List.contains_iff_mem.mp hmem
        exact ⟨.inr, fun h => h.elim (fun heq => heq ▸ hfirst) id⟩
      · rw [List.mem_append, List.mem_singleton, or_comm]
    rw [distinct, ih, hseen, List.mem_cons, or_left_comm, or_assoc]

namespace Cluster

open Program.Pass (perform)

variable {stamps : Stamps} {cls : String} {x : Ingress}

/-- The secrets that the registries of a class list for an ingress. -/
def listing (cls : String) (x : Ingress) (s : Cluster) : List String :=
  publishedSecrets (ofClass cls s.registries) x

/-- The secrets that a withdrawal releases unless they are used. -/
def candidates (cls : String) (x : Ingress) (s : Cluster) : List String :=
  Trust.distinct (s.listing cls x ++ secretNames x) []

/-- The secrets that a publication releases unless they are used. -/
def dropped (cls : String) (x : Ingress) (s : Cluster) : List String :=
  (s.listing cls x).filter fun name => !(secretNames x).contains name

/-- The cluster after the secrets of a withdrawn ingress were released. -/
def relinquished (stamps : Stamps) (cls : String) (x : Ingress) (s : Cluster) : Cluster :=
  released stamps x.metadata.anyNamespace (s.users x cls) s (s.candidates cls x)

/-- The cluster after a withdrawal. -/
def withdrawn (stamps : Stamps) (cls : String) (x : Ingress) (s : Cluster) : Cluster :=
  entered stamps (entryKeyOf x) none (s.relinquished stamps cls x) (ofClass cls s.registries)

/-- The value of the entry of an ingress that is published. -/
def valueOf (x : Ingress) : String :=
  Registry.entryValue x.metadata.anyNamespace (secretNames x)

/-- The cluster after the secrets of a published ingress were claimed. -/
def held (stamps : Stamps) (x : Ingress) (s : Cluster) : Cluster :=
  claimed stamps x.metadata.anyNamespace s (secretNames x)

/-- The cluster after the entries of a published ingress were written. -/
def listed (stamps : Stamps) (cls : String) (x : Ingress) (s : Cluster) : Cluster :=
  entered stamps (entryKeyOf x) (some (valueOf x)) (s.held stamps x) (ofClass cls s.registries)

/-- The cluster after a publication. -/
def published (stamps : Stamps) (cls : String) (x : Ingress) (s : Cluster) : Cluster :=
  released stamps x.metadata.anyNamespace (s.users x cls) (s.listed stamps cls x) (s.dropped cls x)

/-- The users of secrets depend on the ingresses only. -/
theorem users_congr {s t : Cluster} (h : t.ingresses = s.ingresses) (x : Ingress) (cls : String) :
    t.users x cls = s.users x cls := by
  unfold users
  rw [h]

/-- The registries of a class are stored as long as no registry changes. -/
theorem isStored_ofClass {s t : Cluster} (h : t.registries = s.registries) :
    ∀ registry ∈ ofClass cls s.registries, t.IsStored registry := by
  intro registry hregistry
  refine ⟨registry, ?_, rfl⟩
  rw [h]
  exact (List.mem_filter.mp hregistry).1

/-- The writing of entries leaves the ingresses. -/
theorem ingresses_listed (s : Cluster) : (s.listed stamps cls x).ingresses = s.ingresses :=
  (else_entered _ _ _ _ _).2.trans (else_claimed _ _ s _).2

/-- Once a withdrawal has found the registries, it releases all candidates and removes all entries. -/
theorem perform_withdrawFrom (cls : String) (x : Ingress) {s : Cluster} {registries : List ConfigMap}
    (h : ∀ registry ∈ registries, s.IsStored registry) :
    perform (serve stamps) (withdrawFrom x cls registries) s =
      (.ok (), entered stamps (entryKeyOf x) none
        (released stamps x.metadata.anyNamespace (s.users x cls) s
          (Trust.distinct (publishedSecrets registries x ++ secretNames x) [])) registries) := by
  refine (Program.Pass.perform_bind_of_ok (perform_release x cls _ s)).trans ?_
  refine perform_writeEntries x none fun registry hregistry => ?_
  obtain ⟨kept, hkept, hplace⟩ := h registry hregistry
  exact ⟨kept, by rwa [(else_released _ _ _ s _).1], hplace⟩

/-- A withdrawal succeeds. -/
theorem perform_withdraw (cls : String) (x : Ingress) (s : Cluster) :
    perform (serve stamps) (withdraw x cls) s = (.ok (), s.withdrawn stamps cls x) := by
  unfold perform
  rw [run_withdraw]
  -- the listing is answered with all registries
  exact perform_withdrawFrom cls x (isStored_ofClass rfl)

/-- The pass over an ingress in use that names secrets publishes them. -/
theorem attend_of_served (hserved : IsServed cls x) (hnames : secretNames x ≠ []) :
    attend x cls = publishSecrets x cls (secretNames x) := by
  unfold attend publish
  rw [if_pos hserved.2, hserved.1]
  cases h : secretNames x with
  | nil => exact absurd h hnames
  | cons name more => rfl

/-- What a publication does once its secrets are claimed and it has the registries. -/
def publishListed (cls : String) (x : Ingress) (all : List ConfigMap) : Publication Unit :=
  if all.isEmpty then throw .registryNotFound
  else do
    writeEntries x (some (valueOf x)) (ofClass cls all)
    release x cls ((publishedSecrets (ofClass cls all) x).filter fun name =>
      !(secretNames x).contains name)

/-- A publication claims the secrets and lists the registries, and then does what it finds. -/
theorem publishSecrets_eq (cls : String) (x : Ingress) :
    publishSecrets x cls (secretNames x) =
      ((secretNames x).forM (claim x.metadata.anyNamespace x.metadata.anyName) >>= fun _ =>
        Call.listRegistries.perform >>= publishListed cls x) := by
  rw [publishSecrets]
  congr 1
  funext _
  exact registriesFor_bind cls _

/-- Once its secrets are claimed a publication goes through if there is some registry. -/
theorem perform_publishListed (cls : String) (x : Ingress) {s : Cluster} (h : s.registries ≠ []) :
    perform (serve stamps) (publishListed cls x s.registries) (s.held stamps x) =
      (.ok (), s.published stamps cls x) := by
  have hsome : s.registries.isEmpty = false := by
    rw [List.isEmpty_eq_false_iff]
    exact h
  have hwrite : perform (serve stamps)
      (writeEntries x (some (valueOf x)) (ofClass cls s.registries)) (s.held stamps x) =
        (.ok (), s.listed stamps cls x) :=
    perform_writeEntries x _ (isStored_ofClass (else_claimed _ _ s _).1)
  unfold publishListed
  rw [hsome]
  refine (Program.Pass.perform_bind_of_ok hwrite).trans ?_
  rw [perform_release, users_congr (ingresses_listed s)]
  rfl

/-- Without a registry the publication fails and leaves the cluster. -/
theorem perform_publishListed_nil (cls : String) (x : Ingress) (s : Cluster) :
    perform (serve stamps) (publishListed cls x []) s = (.error .registryNotFound, s) := rfl

/-- What becomes of a publication once its secrets are claimed. -/
theorem perform_publish_rest (cls : String) (x : Ingress) (s : Cluster) :
    perform (serve stamps) (Call.listRegistries.perform >>= publishListed cls x) (s.held stamps x) =
      perform (serve stamps) (publishListed cls x s.registries) (s.held stamps x) := by
  have hregistries : (s.held stamps x).registries = s.registries := (else_claimed _ _ s _).1
  rw [Program.Pass.perform_bind_of_ok (perform_call Call.listRegistries _), ← hregistries]

/-- A publication succeeds if every secret can be claimed and there is some registry. -/
theorem perform_publishSecrets_ok_iff (cls : String) (x : Ingress) (s t : Cluster) :
    perform (serve stamps) (publishSecrets x cls (secretNames x)) s = (.ok (), t) ↔
      (∀ name ∈ secretNames x, s.Claimable (secretPlace x name)) ∧ s.registries ≠ [] ∧
        t = s.published stamps cls x := by
  rw [publishSecrets_eq, Program.Pass.perform_bind_ok_iff]
  constructor
  · rintro ⟨u, mid, hclaims, hok⟩
    obtain ⟨hall, rfl⟩ := (perform_claims_ok_iff _ _ _ s mid).mp hclaims
    have hrest := (perform_publish_rest cls x s).symm.trans hok
    by_cases hnone : s.registries = []
    · rw [hnone] at hrest
      cases hrest
    · rw [perform_publishListed cls x hnone] at hrest
      cases hrest
      exact ⟨hall, hnone, rfl⟩
  · rintro ⟨hall, hsome, rfl⟩
    refine ⟨(), s.held stamps x, (perform_claims_ok_iff _ _ _ s _).mpr ⟨hall, rfl⟩, ?_⟩
    exact (perform_publish_rest cls x s).trans (perform_publishListed cls x hsome)

/-- A publication that fails has claimed some of its first secrets and done nothing else. -/
theorem perform_publishSecrets_error {e : PassFailure} {s t : Cluster}
    (h : perform (serve stamps) (publishSecrets x cls (secretNames x)) s = (.error e, t)) :
    ∃ k, t = claimed stamps x.metadata.anyNamespace s ((secretNames x).take k) := by
  rw [publishSecrets_eq] at h
  cases hclaims : perform (serve stamps)
      ((secretNames x).forM (claim x.metadata.anyNamespace x.metadata.anyName)) s with
  | mk result mid =>
    cases result with
    | error failure =>
      rw [Program.Pass.perform_bind_of_error hclaims] at h
      cases h
      exact visits_claims (Program.Pass.visits_of_perform hclaims)
    | ok u =>
      rw [Program.Pass.perform_bind_of_ok hclaims] at h
      obtain ⟨-, rfl⟩ := (perform_claims_ok_iff _ _ _ s mid).mp hclaims
      have hrest := (perform_publish_rest cls x s).symm.trans h
      -- the only failure left is that there is no registry
      by_cases hnone : s.registries = []
      · rw [hnone, perform_publishListed_nil] at hrest
        cases hrest
        exact ⟨(secretNames x).length, by rw [List.take_length]; rfl⟩
      · rw [perform_publishListed cls x hnone] at hrest
        cases hrest

/-! ## What a pass leaves behind -/

/-- After claims a secret carries the finalizer if it did before or was claimed. -/
theorem carries_claimed {ns : String} {s : Cluster} {names : List String} {q : Place}
    (h : (claimed stamps ns s names).Carries q) : s.Carries q ∨ q.ns = ns ∧ q.name ∈ names := by
  rw [carries_iff_content, content?_claimed] at h
  by_cases hq : q.ns = ns ∧ q.name ∈ names
  · exact .inr hq
  · rw [if_neg hq] at h
    exact .inl ((carries_iff_content s q).mpr h)

/-- After releases a secret carries the finalizer if it did before and was not released. -/
theorem carries_released_iff (ns : String) (users : List Ingress) (s : Cluster) (names : List String)
    (q : Place) :
    (released stamps ns users s names).Carries q ↔
      s.Carries q ∧ ¬ (q.ns = ns ∧ q.name ∈ names ∧ isUsed users q.name = false) := by
  rw [carries_iff_content, content?_released, carries_iff_content]
  by_cases hq : q.ns = ns ∧ q.name ∈ names ∧ isUsed users q.name = false
  · rw [if_pos hq]
    refine iff_of_false ?_ fun h => h.2 hq
    rintro ⟨rest, hrest, hhas⟩
    obtain ⟨secret, -, hcleared⟩ := Option.bind_eq_some_iff.mp hrest
    rw [hasFinalizer_cleared hcleared] at hhas
    cases hhas
  · rw [if_neg hq]
    exact ⟨fun h => ⟨h, hq⟩, fun h => h.1⟩

/-- Writes of an entry leave the finalizer on every secret. -/
theorem carries_entered_iff (key : String) (value : Option String) (s : Cluster)
    (registries : List ConfigMap) (q : Place) :
    (entered stamps key value s registries).Carries q ↔ s.Carries q := by
  unfold Carries secret?
  rw [(else_entered _ key value s registries).1]

/-- After a withdrawal a secret carries the finalizer if it did before and was not released. -/
theorem carries_withdrawn_iff (cls : String) (x : Ingress) (s : Cluster) (q : Place) :
    (s.withdrawn stamps cls x).Carries q ↔
      s.Carries q ∧ ¬ (q.ns = x.metadata.anyNamespace ∧
        (q.name ∈ s.listing cls x ∨ q.name ∈ secretNames x) ∧
        isUsed (s.users x cls) q.name = false) := by
  unfold withdrawn relinquished candidates
  rw [carries_entered_iff, carries_released_iff, mem_distinct, List.mem_append]
  simp only [List.not_mem_nil, or_false]

/-- After a publication a secret carries the finalizer only if the ingress names it, or if it did before
and was not released. -/
theorem carries_published {s : Cluster} {q : Place} (h : (s.published stamps cls x).Carries q) :
    Names x q ∨ s.Carries q ∧ ¬ (q.ns = x.metadata.anyNamespace ∧ q.name ∈ s.listing cls x ∧
      isUsed (s.users x cls) q.name = false) := by
  unfold published listed held dropped at h
  rw [carries_released_iff, carries_entered_iff, List.mem_filter] at h
  obtain ⟨hclaimed, hkept⟩ := h
  rcases carries_claimed hclaimed with hbefore | hnames
  · by_cases hnames : q.ns = x.metadata.anyNamespace ∧ q.name ∈ secretNames x
    · exact .inl hnames
    · -- what was listed and is not named was dropped
      refine .inr ⟨hbefore, fun ⟨hns, hlisted, hunused⟩ => hkept ⟨hns, ⟨hlisted, ?_⟩, hunused⟩⟩
      have hother : q.name ∉ secretNames x := fun hname => hnames ⟨hns, hname⟩
      simpa using hother
  · exact .inl hnames

/-- The registries of a class are changed as all are, if none changes its class. -/
theorem ofClass_map {g : ConfigMap → ConfigMap}
    (hg : ∀ r, Registry.serves (g r) cls = Registry.serves r cls) (registries : List ConfigMap) :
    ofClass cls (registries.map g) = (ofClass cls registries).map g := by
  have hserves : ((fun r => Registry.serves r cls) ∘ g) = fun r => Registry.serves r cls := funext hg
  unfold ofClass
  rw [List.filter_map, hserves]

/-- A secret is listed if some registry of the class lists it. -/
theorem mem_listing (cls : String) (y : Ingress) (s : Cluster) (name : String) :
    name ∈ s.listing cls y ↔ ∃ r ∈ ofClass cls s.registries,
      name ∈ Registry.entrySecrets r (entryKeyOf y) y.metadata.anyNamespace := by
  unfold listing publishedSecrets
  rw [mem_distinct, List.mem_flatMap]
  simp only [List.not_mem_nil, or_false]

/-- What registries list depends on their labels and entries alone. -/
theorem listing_eq_plain (cls : String) (y : Ingress) (s : Cluster) :
    s.listing cls y = publishedSecrets (ofClass cls (s.registries.map plain)) y := by
  unfold listing publishedSecrets
  rw [ofClass_map (g := plain) (fun _ => rfl), List.flatMap_map]
  rfl

/-- The value of an entry after entries were written. -/
theorem entry?_entryAt (places : List Place) (key other : String) (value : Option String)
    (r : ConfigMap) :
    Registry.entry? (entryAt places key value r) other =
      if placeOf r.metadata ∈ places ∧ key = other then value else Registry.entry? r other := by
  have hset : Registry.entry? (withEntry key value r) other =
      Registry.entry? (Registry.setEntry r key value ⟨0, 0⟩) other := by
    cases value <;> rfl
  unfold entryAt
  by_cases hmem : placeOf r.metadata ∈ places
  · simp only [hmem, if_true, true_and]
    rw [hset, Registry.entry?_setEntry]
  · simp only [hmem, if_false, false_and]

/-- A registry keeps its class when entries are written. -/
theorem serves_entryAt (places : List Place) (key : String) (value : Option String) (r : ConfigMap) :
    Registry.serves (entryAt places key value r) cls = Registry.serves r cls := by
  unfold entryAt
  split <;> rfl

/-- Writing an entry leaves what registries list for ingresses with other entries. -/
theorem listing_entered_of_ne {key : String} {y : Ingress} (h : key ≠ entryKeyOf y)
    (value : Option String) (s : Cluster) (registries : List ConfigMap) :
    (entered stamps key value s registries).listing cls y = s.listing cls y := by
  rw [listing_eq_plain, plain_entered, listing_eq_plain]
  unfold publishedSecrets
  rw [ofClass_map (serves_entryAt _ _ _), List.flatMap_map]
  congr 2
  funext r
  have hentry := entry?_entryAt (registries.map fun r => placeOf r.metadata) key (entryKeyOf y)
    value r
  rw [if_neg fun hboth => h hboth.2] at hentry
  unfold Registry.entry? at hentry
  unfold Registry.entrySecrets
  rw [hentry]

/-- What registries list depends on the registries alone, and for ingresses at one place it is the same. -/
theorem listing_congr {s t : Cluster} (h : t.registries = s.registries) {y z : Ingress}
    (hplace : placeOf z.metadata = placeOf y.metadata) : t.listing cls z = s.listing cls y := by
  obtain ⟨hns, hname⟩ := Place.mk.inj hplace
  unfold listing publishedSecrets entryKeyOf
  rw [h, hns, hname]

/-- A withdrawal leaves what registries list for ingresses with other entries. -/
theorem listing_withdrawn_of_ne {y : Ingress} (h : entryKeyOf x ≠ entryKeyOf y) (s : Cluster) :
    (s.withdrawn stamps cls x).listing cls y = s.listing cls y := by
  unfold withdrawn
  rw [listing_entered_of_ne h]
  exact listing_congr (else_released _ _ _ s _).1 rfl

/-- A publication leaves what registries list for ingresses with other entries. -/
theorem listing_published_of_ne {y : Ingress} (h : entryKeyOf x ≠ entryKeyOf y) (s : Cluster) :
    (s.published stamps cls x).listing cls y = s.listing cls y := by
  have hlisted : (s.listed stamps cls x).listing cls y = s.listing cls y := by
    unfold listed
    rw [listing_entered_of_ne h]
    exact listing_congr (else_claimed _ _ s _).1 rfl
  exact (listing_congr (else_released _ _ _ _ _).1 rfl).trans hlisted

/-- A withdrawal leaves the ingresses. -/
theorem ingresses_withdrawn (s : Cluster) : (s.withdrawn stamps cls x).ingresses = s.ingresses :=
  (else_entered _ _ _ _ _).2.trans (else_released _ _ _ s _).2

/-- A publication leaves the ingresses. -/
theorem ingresses_published (s : Cluster) : (s.published stamps cls x).ingresses = s.ingresses :=
  (else_released _ _ _ _ _).2.trans (ingresses_listed s)

/-- What a registry lists once an entry was written at some places. -/
theorem entrySecrets_entryAt (places : List Place) (key other ns : String) (value : Option String)
    (r : ConfigMap) :
    Registry.entrySecrets (entryAt places key value r) other ns =
      if placeOf r.metadata ∈ places ∧ key = other then Registry.listedIn ns value
      else Registry.entrySecrets r other ns := by
  rw [Registry.entrySecrets_eq, entry?_entryAt, Registry.entrySecrets_eq]
  split <;> rfl

/-- What registries list for an ingress while its entries are written: the registries that have been
reached list what was written, and the others what they did. -/
theorem mem_listing_of_plain (cls : String) {s t : Cluster} {y : Ingress} {places : List Place}
    {value : Option String}
    (h : t.registries.map plain = (s.registries.map plain).map (entryAt places (entryKeyOf y) value))
    (name : String) :
    name ∈ t.listing cls y ↔ ∃ r ∈ ofClass cls s.registries,
      if placeOf r.metadata ∈ places then name ∈ Registry.listedIn y.metadata.anyNamespace value
      else name ∈ Registry.entrySecrets r (entryKeyOf y) y.metadata.anyNamespace := by
  have hentry (r : ConfigMap) : name ∈ Registry.entrySecrets
      (entryAt places (entryKeyOf y) value (plain r)) (entryKeyOf y) y.metadata.anyNamespace ↔
      if placeOf r.metadata ∈ places then name ∈ Registry.listedIn y.metadata.anyNamespace value
        else name ∈ Registry.entrySecrets r (entryKeyOf y) y.metadata.anyNamespace := by
    have hplain : placeOf (plain r).metadata = placeOf r.metadata := rfl
    rw [entrySecrets_entryAt, hplain]
    by_cases hmem : placeOf r.metadata ∈ places
    · simp only [hmem, and_self, if_true]
    · simp only [hmem, false_and, if_false]
      exact Iff.rfl
  rw [listing_eq_plain, h, ofClass_map (serves_entryAt _ _ _), ofClass_map (g := plain) fun _ => rfl]
  unfold publishedSecrets
  rw [mem_distinct, List.mem_flatMap]
  simp only [List.mem_map, List.not_mem_nil, or_false]
  constructor
  · rintro ⟨-, ⟨-, ⟨r, hr, rfl⟩, rfl⟩, hname⟩
    exact ⟨r, hr, (hentry r).mp hname⟩
  · rintro ⟨r, hr, hname⟩
    exact ⟨_, ⟨plain r, ⟨r, hr, rfl⟩, rfl⟩, (hentry r).mpr hname⟩

/-- An entry that was written for an ingress lists what the ingress names. -/
theorem listedIn_valueOf (x : Ingress) :
    Registry.listedIn x.metadata.anyNamespace (some (valueOf x)) = secretNames x :=
  Registry.listedIn_entryValue x.metadata.anyNamespace (secretNames x)

/-- The secrets after a publication: those that the ingress names are claimed, and those that it dropped
are released. -/
theorem content?_published (s : Cluster) (q : Place) :
    (s.published stamps cls x).content? q =
      if q.ns = x.metadata.anyNamespace ∧ q.name ∈ secretNames x then (s.content? q).map marked
      else if q.ns = x.metadata.anyNamespace ∧ q.name ∈ s.dropped cls x ∧
          isUsed (s.users x cls) q.name = false then (s.content? q).bind cleared
      else s.content? q := by
  have hlisted : (s.listed stamps cls x).content? q = (s.held stamps x).content? q :=
    content?_entered _ _ _ _ q
  have hheld : (s.held stamps x).content? q =
      if q.ns = x.metadata.anyNamespace ∧ q.name ∈ secretNames x then (s.content? q).map marked
      else s.content? q := content?_claimed _ s _ q
  unfold published
  rw [content?_released, hlisted, hheld]
  by_cases hnames : q.ns = x.metadata.anyNamespace ∧ q.name ∈ secretNames x
  · have hkept : q.name ∉ s.dropped cls x := by
      intro hdropped
      have hother := (List.mem_filter.mp hdropped).2
      simp [hnames.2] at hother
    rw [if_neg fun h => hkept h.2.1, if_pos hnames, if_pos hnames]
  · rw [if_neg hnames, if_neg hnames]

/-- The secrets after a withdrawal: those that it releases are released. -/
theorem content?_withdrawn (s : Cluster) (q : Place) :
    (s.withdrawn stamps cls x).content? q =
      if q.ns = x.metadata.anyNamespace ∧ q.name ∈ s.candidates cls x ∧
          isUsed (s.users x cls) q.name = false then (s.content? q).bind cleared
      else s.content? q := by
  unfold withdrawn
  rw [content?_entered]
  exact content?_released _ _ s _ q

/-- The registries after a publication, apart from versions and annotations. -/
theorem plain_published (s : Cluster) :
    (s.published stamps cls x).registries.map plain = (s.registries.map plain).map
      (entryAt ((ofClass cls s.registries).map fun r => placeOf r.metadata) (entryKeyOf x)
        (some (valueOf x))) := by
  unfold published listed
  rw [(else_released _ _ _ _ _).1, plain_entered]
  unfold held
  rw [(else_claimed _ _ s _).1]

/-- The registries after a withdrawal, apart from versions and annotations. -/
theorem plain_withdrawn (s : Cluster) :
    (s.withdrawn stamps cls x).registries.map plain = (s.registries.map plain).map
      (entryAt ((ofClass cls s.registries).map fun r => placeOf r.metadata) (entryKeyOf x) none) := by
  unfold withdrawn
  rw [plain_entered]
  unfold relinquished
  rw [(else_released _ _ _ s _).1]

/-- Whether a registry of a class exists does not depend on what entries are written. -/
theorem exists_serves_of_plain {s t : Cluster} {places : List Place} {key : String}
    {value : Option String}
    (h : t.registries.map plain = (s.registries.map plain).map (entryAt places key value))
    (hserves : ∃ r ∈ s.registries, Registry.serves r cls = true) :
    ∃ r ∈ t.registries, Registry.serves r cls = true := by
  obtain ⟨r, hr, hcls⟩ := hserves
  have hmem : entryAt places key value (plain r) ∈ t.registries.map plain := by
    rw [h]
    exact List.mem_map_of_mem (List.mem_map_of_mem hr)
  obtain ⟨r', hr', heq⟩ := List.mem_map.mp hmem
  have hplain (r : ConfigMap) : Registry.serves (plain r) cls = Registry.serves r cls := rfl
  refine ⟨r', hr', ?_⟩
  rw [← hplain r', heq, serves_entryAt, hplain]
  exact hcls

/-- After a publication a registry of the class lists what the ingress names. -/
theorem mem_listing_published {s : Cluster} (hserves : ∃ r ∈ s.registries, Registry.serves r cls = true)
    {name : String} (hname : name ∈ secretNames x) : name ∈ (s.published stamps cls x).listing cls x := by
  obtain ⟨r, hr, hcls⟩ := hserves
  have hclass : r ∈ ofClass cls s.registries := List.mem_filter.mpr ⟨hr, hcls⟩
  refine (mem_listing_of_plain cls (plain_published s) name).mpr ⟨r, hclass, ?_⟩
  rw [if_pos (List.mem_map_of_mem hclass), listedIn_valueOf]
  exact hname

variable (stamps) in
/-- What a pass can do: it fails for an ingress in use, having claimed some of its secrets; it publishes an
ingress in use; or it withdraws one that keeps no secret in use. -/
theorem perform_attend_cases (cls : String) (x : Ingress) (s : Cluster) :
    (∃ e k, IsServed cls x ∧ perform (serve stamps) (attend x cls) s =
        (.error e, claimed stamps x.metadata.anyNamespace s ((secretNames x).take k))) ∨
      (IsServed cls x ∧
        perform (serve stamps) (attend x cls) s = (.ok (), s.published stamps cls x)) ∨
      ((IsServed cls x → secretNames x = []) ∧
        perform (serve stamps) (attend x cls) s = (.ok (), s.withdrawn stamps cls x)) := by
  unfold attend
  cases htracked : isTracked x cls with
  | false =>
    refine .inr (.inr ⟨fun hserved => ?_, perform_withdraw cls x s⟩)
    rw [hserved.2] at htracked
    cases htracked
  | true =>
    rw [if_pos rfl]
    unfold publish
    cases hdeleting : x.metadata.isDeleting with
    | true =>
      refine .inr (.inr ⟨fun hserved => ?_, perform_withdraw cls x s⟩)
      rw [hserved.1] at hdeleting
      cases hdeleting
    | false =>
      cases hnames : secretNames x with
      | nil => exact .inr (.inr ⟨fun _ => rfl, perform_withdraw cls x s⟩)
      | cons name more =>
        simp only
        rw [← hnames]
        cases hpass : perform (serve stamps) (publishSecrets x cls (secretNames x)) s with
        | mk result t =>
          cases result with
          | error e =>
            obtain ⟨k, rfl⟩ := perform_publishSecrets_error hpass
            exact .inl ⟨e, k, ⟨hdeleting, htracked⟩, rfl⟩
          | ok u =>
            obtain ⟨-, -, rfl⟩ := (perform_publishSecrets_ok_iff cls x s t).mp hpass
            exact .inr (.inl ⟨⟨hdeleting, htracked⟩, rfl⟩)

end Cluster

end GatewayOperator.Trust
