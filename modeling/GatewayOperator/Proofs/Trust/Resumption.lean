import GatewayOperator.Proofs.Trust.Interruption
import GatewayOperator.Proofs.Trust.Performance

/-!
# Publications that are cut off

A publication can be cut off at any of its calls, and be run again until it succeeds. What it leaves when
it is cut off lies between the cluster before it and the cluster that it was to lead to: each secret is as
it was or as it was to be, and each registry of the class has its old entry or its new one. Run again, it
ends with the registries that it was to lead to. But it writes the entries before it releases the secrets
that they listed, and the entries are all that it knows these secrets by. If it is cut off in between, it
does not release them when it is run again.
-/

set_option autoImplicit false

namespace GatewayOperator.Trust

open GatewayOperator.Resource

namespace Resumption

open Program.Pass (perform)

/-! ## Between the start and the end -/

section Between

variable {stamps : Stamps} {cls : String} {x : Ingress} {s t u : Cluster}

/-- The places of the registries of a class. -/
def classPlaces (cls : String) (s : Cluster) : List Place :=
  (ofClass cls s.registries).map fun r => placeOf r.metadata

/-- Whether a cluster lies between another one and what that one is to become by a publication: each
secret is as it was or as it is to be, and entries are written to some registries of the class. -/
structure Between (stamps : Stamps) (cls : String) (x : Ingress) (s t : Cluster) : Prop where
  ingresses : t.ingresses = s.ingresses
  registries : ∃ places ⊆ classPlaces cls s, t.registries.map plain =
    (s.registries.map plain).map (entryAt places (entryKeyOf x) (some (Cluster.valueOf x)))
  contents : ∀ q, t.content? q = s.content? q ∨
    t.content? q = (s.published stamps cls x).content? q

/-- An entry that is written to no registry changes none. -/
theorem entryAt_nil (key : String) (value : Option String) : entryAt [] key value = id :=
  funext fun _ => if_neg List.not_mem_nil

/-- A cluster lies between itself and what it is to become. -/
theorem Between.refl (s : Cluster) : Between stamps cls x s s := by
  refine ⟨rfl, ⟨[], List.nil_subset _, ?_⟩, fun q => .inl rfl⟩
  rw [entryAt_nil, List.map_id]

/-- Entries that are written leave the registries of a class where they are. -/
theorem classPlaces_of_plain {places : List Place} {key : String} {value : Option String}
    (hplain : t.registries.map plain = (s.registries.map plain).map (entryAt places key value)) :
    classPlaces cls t = classPlaces cls s := by
  have hplaces (registries : List ConfigMap) :
      (ofClass cls registries).map (fun r => placeOf r.metadata) =
        (ofClass cls (registries.map plain)).map fun r => placeOf r.metadata := by
    rw [Cluster.ofClass_map (g := plain) (fun _ => rfl), List.map_map]
    rfl
  unfold classPlaces
  rw [hplaces t.registries, hplain, hplaces s.registries, Cluster.ofClass_map (Cluster.serves_entryAt _ _ _),
    List.map_map]
  refine List.map_congr_left fun r _ => ?_
  simp only [Function.comp_apply, entryAt]
  split <;> rfl

/-- The registries of a class stay where they are. -/
theorem Between.classPlaces_eq (h : Between stamps cls x s t) : classPlaces cls t = classPlaces cls s :=
  h.registries.elim fun _ hplaces => classPlaces_of_plain hplaces.2

/-- A secret that is to be released later was to be released at the start. -/
theorem Between.mem_dropped (h : Between stamps cls x s t) {name : String}
    (hname : name ∈ t.dropped cls x) : name ∈ s.dropped cls x := by
  obtain ⟨places, -, hplain⟩ := h.registries
  obtain ⟨hlisted, hother⟩ := List.mem_filter.mp hname
  refine List.mem_filter.mpr ⟨?_, hother⟩
  obtain ⟨r, hr, hname⟩ := (Cluster.mem_listing_of_plain cls hplain name).mp hlisted
  rw [Cluster.listedIn_valueOf] at hname
  split at hname
  · simp [hname] at hother
  · exact (Cluster.mem_listing cls x s name).mpr ⟨r, hr, hname⟩

/-- A publication from in between leads each secret to what it was to become, or leaves it as it is, if it
is none that the ingress names and none that is to be released. -/
theorem Between.content?_published (h : Between stamps cls x s t) (q : Place) :
    (t.published stamps cls x).content? q = (s.published stamps cls x).content? q ∨
      (t.published stamps cls x).content? q = t.content? q ∧
        ¬ (q.ns = x.metadata.anyNamespace ∧ q.name ∈ secretNames x) ∧
        ¬ (q.ns = x.metadata.anyNamespace ∧ q.name ∈ t.dropped cls x ∧
          isUsed (s.users x cls) q.name = false) := by
  have husers := Cluster.users_congr h.ingresses x cls
  rw [Cluster.content?_published, Cluster.content?_published, husers]
  by_cases hnames : q.ns = x.metadata.anyNamespace ∧ q.name ∈ secretNames x
  · left
    rw [if_pos hnames, if_pos hnames]
    rcases h.contents q with hq | hq
    · rw [hq]
    · rw [hq, Cluster.content?_published, if_pos hnames, Option.map_map]
      exact congrArg (fun f => Option.map f (s.content? q)) (funext marked_marked)
  · rw [if_neg hnames, if_neg hnames]
    by_cases hdropped : q.ns = x.metadata.anyNamespace ∧ q.name ∈ t.dropped cls x ∧
        isUsed (s.users x cls) q.name = false
    · -- what is to be released now was to be released at the start
      left
      have hbefore : q.ns = x.metadata.anyNamespace ∧ q.name ∈ s.dropped cls x ∧
          isUsed (s.users x cls) q.name = false :=
        ⟨hdropped.1, h.mem_dropped hdropped.2.1, hdropped.2.2⟩
      rw [if_pos hdropped, if_pos hbefore]
      rcases h.contents q with hq | hq
      · rw [hq]
      · rw [hq, Cluster.content?_published, if_neg hnames, if_pos hbefore, cleared_cleared]
    · right
      rw [if_neg hdropped]
      exact ⟨rfl, hnames, hdropped⟩

/-- A cluster between one that lies in between and what that one is to become lies in between itself. -/
theorem Between.trans (h : Between stamps cls x s t) (h' : Between stamps cls x t u) :
    Between stamps cls x s u := by
  refine ⟨h'.ingresses.trans h.ingresses, ?_, fun q => ?_⟩
  · obtain ⟨places, hsubset, hplain⟩ := h.registries
    obtain ⟨more, hmore, hplain'⟩ := h'.registries
    rw [h.classPlaces_eq] at hmore
    refine ⟨places ++ more, List.append_subset.mpr ⟨hsubset, hmore⟩, ?_⟩
    rw [hplain', hplain, List.map_map]
    exact List.map_congr_left fun r _ => entryAt_entryAt places more _ _ r
  · rcases h'.contents q with hq | hq
    · rw [hq]
      exact h.contents q
    · rw [hq]
      rcases h.content?_published q with hq | ⟨hq, -⟩
      · exact .inr hq
      · rw [hq]
        exact h.contents q

/-! ## Interruptions -/

/-- The secrets while they are claimed. -/
theorem content?_while_claimed (s : Cluster) {names : List String}
    (hnames : ∀ name ∈ names, name ∈ secretNames x) (q : Place) :
    (Cluster.claimed stamps x.metadata.anyNamespace s names).content? q = s.content? q ∨
      (Cluster.claimed stamps x.metadata.anyNamespace s names).content? q =
        (s.published stamps cls x).content? q := by
  rw [Cluster.content?_claimed, Cluster.content?_published]
  by_cases hq : q.ns = x.metadata.anyNamespace ∧ q.name ∈ names
  · right
    rw [if_pos hq, if_pos ⟨hq.1, hnames q.name hq.2⟩]
  · left
    rw [if_neg hq]

/-- On its way a publication has claimed some of its first secrets, or has claimed them all and written
some of its first entries, or has written them all and released some of the first secrets that it
dropped. -/
theorem visits_publishSecrets
    (h : (publishSecrets x cls (secretNames x)).run.Visits (Cluster.serve stamps) s t) :
    (∃ k, t = Cluster.claimed stamps x.metadata.anyNamespace s ((secretNames x).take k)) ∨
      (∃ k, t = Cluster.entered stamps (entryKeyOf x) (some (Cluster.valueOf x)) (s.held stamps x)
        ((ofClass cls s.registries).take k)) ∨
      ∃ k, t = Cluster.released stamps x.metadata.anyNamespace (s.users x cls)
        (s.listed stamps cls x) ((s.dropped cls x).take k) := by
  have hregistries : (s.held stamps x).registries = s.registries := (Cluster.else_claimed _ _ s _).1
  rw [Cluster.publishSecrets_eq, Program.Pass.visits_bind] at h
  rcases h with h | ⟨u, mid, hclaims, h⟩
  · exact .inl (Cluster.visits_claims h)
  · -- all secrets are claimed from here on
    obtain ⟨-, rfl⟩ := (Cluster.perform_claims_ok_iff _ _ _ s mid).mp hclaims
    right
    rw [Program.Pass.visits_bind] at h
    rcases h with h | ⟨all, mid, hlist, h⟩
    · refine .inl ⟨0, ?_⟩
      rcases Cluster.visits_call h with rfl | rfl <;> rfl
    · cases hlist
      change (Cluster.publishListed cls x (s.held stamps x).registries).run.Visits _ (s.held stamps x) t at h
      rw [hregistries] at h
      unfold Cluster.publishListed at h
      split at h
      · exact .inl ⟨0, h⟩
      · rw [Program.Pass.visits_bind] at h
        rcases h with h | ⟨u, mid, hwrites, h⟩
        · exact .inl (Cluster.visits_writeEntries h)
        · -- all entries are written from here on
          have hwritten := (Cluster.perform_writeEntries x (some (Cluster.valueOf x))
            (Cluster.isStored_ofClass hregistries)).symm.trans hwrites
          cases hwritten
          obtain ⟨k, rfl⟩ := Cluster.visits_release h
          have husers : (s.listed stamps cls x).users x cls = s.users x cls :=
            Cluster.users_congr (Cluster.ingresses_listed s) x cls
          exact .inr ⟨k, congrArg (fun users => Cluster.released stamps x.metadata.anyNamespace users
            (s.listed stamps cls x) ((s.dropped cls x).take k)) husers⟩

/-- Wherever a publication is on its way, the cluster lies between its start and its end. -/
theorem between_of_visits
    (h : (publishSecrets x cls (secretNames x)).run.Visits (Cluster.serve stamps) s t) :
    Between stamps cls x s t := by
  have hheld (q : Place) : (s.held stamps x).content? q = s.content? q ∨
      (s.held stamps x).content? q = (s.published stamps cls x).content? q :=
    content?_while_claimed s (fun _ hname => hname) q
  have hwritten (registries : List ConfigMap) (q : Place) :
      (Cluster.entered stamps (entryKeyOf x) (some (Cluster.valueOf x)) (s.held stamps x)
        registries).content? q = (s.held stamps x).content? q :=
    Cluster.content?_entered _ _ _ registries q
  rcases visits_publishSecrets h with ⟨k, rfl⟩ | ⟨k, rfl⟩ | ⟨k, rfl⟩
  · obtain ⟨hregistries, hingresses⟩ := Cluster.else_claimed stamps x.metadata.anyNamespace s
      ((secretNames x).take k)
    refine ⟨hingresses, ⟨[], List.nil_subset _, ?_⟩, fun q => ?_⟩
    · rw [entryAt_nil, List.map_id, hregistries]
    · exact content?_while_claimed s (fun _ hname => List.mem_of_mem_take hname) q
  · refine ⟨?_, ⟨((ofClass cls s.registries).take k).map fun r => placeOf r.metadata, ?_, ?_⟩,
      fun q => ?_⟩
    · exact (Cluster.else_entered stamps _ _ _ _).2.trans (Cluster.else_claimed stamps _ s _).2
    · rw [List.map_take]
      exact List.take_subset k _
    · rw [Cluster.plain_entered]
      unfold Cluster.held
      rw [(Cluster.else_claimed stamps _ s _).1]
    · rw [hwritten]
      exact hheld q
  · refine ⟨?_, ⟨classPlaces cls s, List.Subset.refl _, ?_⟩, fun q => ?_⟩
    · exact (Cluster.else_released stamps _ _ _ _).2.trans (Cluster.ingresses_listed s)
    · have hplain : (s.published stamps cls x).registries.map plain =
          (s.registries.map plain).map
            (entryAt (classPlaces cls s) (entryKeyOf x) (some (Cluster.valueOf x))) :=
        Cluster.plain_published s
      rw [← hplain]
      unfold Cluster.published
      rw [(Cluster.else_released stamps _ _ _ _).1, (Cluster.else_released stamps _ _ _ _).1]
    · have hlisted : (s.listed stamps cls x).content? q = (s.held stamps x).content? q := hwritten _ q
      rw [Cluster.content?_released, hlisted]
      by_cases hq : q.ns = x.metadata.anyNamespace ∧ q.name ∈ (s.dropped cls x).take k ∧
          isUsed (s.users x cls) q.name = false
      · right
        unfold Cluster.published
        rw [if_pos hq, Cluster.content?_released, hlisted,
          if_pos ⟨hq.1, List.mem_of_mem_take hq.2.1, hq.2.2⟩]
      · rw [if_neg hq]
        exact hheld q

/-- A publication that is cut off leaves the cluster between its start and its end. -/
theorem Between.interrupted (h : Between stamps cls x s t) (hserved : IsServed cls x)
    (hnames : secretNames x ≠ []) (i : Interruption) :
    Between stamps cls x s (t.interrupted stamps cls x i) := by
  have hvisits := visits_cutOff stamps (fun _ => stops_publishSecrets x cls (secretNames x)) t i
  unfold Cluster.interrupted
  rw [Cluster.attend_of_served hserved hnames]
  exact h.trans (between_of_visits hvisits)

end Between

/-! ## Publications that are run again -/

section Again

variable {stamps : Stamps} {cls : String} {x : Ingress} {s t : Cluster}

/-- The finalizers of the secret at a place. -/
def finalizers? (s : Cluster) (p : Place) : Option (List String) :=
  (s.secret? p).map fun secret => secret.metadata.finalizerList

/-- The cluster after passes over an ingress that were all cut off. -/
def interruptedBy (stamps : Stamps) (cls : String) (x : Ingress) (s : Cluster)
    (is : List Interruption) : Cluster := is.foldl (Cluster.interrupted stamps cls x) s

/-- Whether registries still list the secrets that a publication was to release and that still have the
finalizer. -/
def Recorded (cls : String) (x : Ingress) (s t : Cluster) : Prop :=
  ∀ name ∈ s.dropped cls x, isUsed (s.users x cls) name = false →
    t.Carries (secretPlace x name) → name ∈ t.listing cls x

/-- The finalizers of a secret are part of its content. -/
theorem finalizers?_eq (s : Cluster) (p : Place) :
    finalizers? s p = (s.content? p).map fun secret => secret.metadata.finalizerList := by
  unfold finalizers? Cluster.content?
  rw [Option.map_map]
  rfl

/-- Whether a secret carries the keypair finalizer is seen from its finalizers. -/
theorem carries_iff_finalizers (s : Cluster) (p : Place) :
    s.Carries p ↔ ∃ finalizers, finalizers? s p = some finalizers ∧ keypairFinalizer ∈ finalizers := by
  unfold Cluster.Carries finalizers?
  cases s.secret? p with
  | none => simp
  | some secret => simp [Meta.hasFinalizer]

/-- In between, a secret that the ingress names can be claimed if it could be at the start. -/
theorem Between.claimable (h : Between stamps cls x s t) {name : String} (hname : name ∈ secretNames x)
    (hclaimable : s.Claimable (secretPlace x name)) : t.Claimable (secretPlace x name) := by
  obtain ⟨secret, hread, hlive, hvalid⟩ := hclaimable
  rcases h.contents (secretPlace x name) with hsame | hpublished
  · exact ⟨secret, hsame.trans hread, hlive, hvalid⟩
  · rw [Cluster.content?_published, if_pos ⟨rfl, hname⟩, hread] at hpublished
    exact ⟨marked secret, hpublished, (isDeleting_marked secret).trans hlive,
      (validate_marked secret).trans hvalid⟩

/-- A publication from in between ends with the registries that it was to end with. -/
theorem Between.plain_published (h : Between stamps cls x s t) :
    (t.published stamps cls x).registries.map plain =
      (s.published stamps cls x).registries.map plain := by
  obtain ⟨places, hsubset, hplain⟩ := h.registries
  have hplaces := h.classPlaces_eq
  unfold classPlaces at hplaces hsubset
  rw [Cluster.plain_published, Cluster.plain_published, hplaces, hplain, List.map_map]
  refine List.map_congr_left fun r _ => ?_
  rw [Function.comp_apply, entryAt_entryAt]
  unfold entryAt
  have hmem : placeOf r.metadata ∈ places ++ (ofClass cls s.registries).map (fun r => placeOf r.metadata) ↔
      placeOf r.metadata ∈ (ofClass cls s.registries).map fun r => placeOf r.metadata := by
    rw [List.mem_append]
    exact or_iff_right_of_imp fun hplace => hsubset hplace
  simp only [hmem]

/-- A publication from in between ends with the secrets that it was to end with, if registries still list
those that it is to release. -/
theorem Between.content?_of_recorded (h : Between stamps cls x s t) (hrecorded : Recorded cls x s t)
    (q : Place) :
    (t.published stamps cls x).content? q = (s.published stamps cls x).content? q := by
  rcases h.content?_published q with hq | ⟨hsame, hnames, hdropped⟩
  · exact hq
  · rcases h.contents q with hq | hq
    · rw [hsame, Cluster.content?_published, if_neg hnames, ← hq]
      by_cases hreleased : q.ns = x.metadata.anyNamespace ∧ q.name ∈ s.dropped cls x ∧
          isUsed (s.users x cls) q.name = false
      · -- nothing lists it any more, so it has been without the finalizer
        rw [if_pos hreleased]
        obtain ⟨hns, hname, hunused⟩ := hreleased
        refine (Cluster.bind_cleared_of_not_carries fun hcarries => hdropped ⟨hns, ?_, hunused⟩).symm
        have hplace : q = secretPlace x q.name := by rw [secretPlace, ← hns]
        rw [hplace] at hcarries
        have hlisted := hrecorded q.name hname hunused hcarries
        exact List.mem_filter.mpr ⟨hlisted, (List.mem_filter.mp hname).2⟩
      · rw [if_neg hreleased]
    · rw [hsame, hq]

/-- If two publications end with the same finalizers, registries list for the second one what the first one
releases and what still has the finalizer. -/
theorem recorded_of_finalizers
    (hsame : ∀ p, finalizers? (t.published stamps cls x) p = finalizers? (s.published stamps cls x) p) :
    Recorded cls x s t := by
  intro name hname hunused hcarries
  refine Decidable.byContradiction fun hlisted => ?_
  have hother : name ∉ secretNames x := by simpa using (List.mem_filter.mp hname).2
  have hreleased : ¬ (s.published stamps cls x).Carries (secretPlace x name) := by
    rw [Cluster.carries_iff_content, Cluster.content?_published, if_neg fun h => hother h.2,
      if_pos ⟨rfl, hname, hunused⟩]
    rintro ⟨rest, hrest, hhas⟩
    obtain ⟨secret, -, hcleared⟩ := Option.bind_eq_some_iff.mp hrest
    rw [hasFinalizer_cleared hcleared] at hhas
    cases hhas
  have hkept : (t.published stamps cls x).Carries (secretPlace x name) := by
    rw [Cluster.carries_iff_content] at hcarries ⊢
    rwa [Cluster.content?_published, if_neg fun h => hother h.2,
      if_neg fun h => hlisted (List.mem_filter.mp h.2.1).1]
  rw [carries_iff_finalizers] at hkept hreleased
  rw [hsame] at hkept
  exact hreleased hkept

/-- Publications that are cut off leave the cluster between the start and the end of one that is not. -/
theorem between_interruptedBy (hserved : IsServed cls x) (hnames : secretNames x ≠ [])
    (is : List Interruption) : Between stamps cls x s (interruptedBy stamps cls x s is) := by
  suffices hstep : ∀ t, Between stamps cls x s t → Between stamps cls x s (interruptedBy stamps cls x t is) from
    hstep s (Between.refl s)
  induction is with
  | nil => exact fun t h => h
  | cons i rest ih => exact fun t h => ih _ (h.interrupted hserved hnames i)

variable (stamps cls)

/-- However often a publication is cut off, once it is run again it succeeds if it would have at first, and
ends with the registries that it would have ended with. It ends with the finalizers that it would have
ended with exactly if, when it is run again, registries still list the secrets that are yet to be
released. -/
theorem same_finalizers_iff_recorded {s v : Cluster} (hserved : IsServed cls x)
    (hnames : secretNames x ≠ [])
    (hpass : perform (Cluster.serve stamps) (attend x cls) s = (.ok (), v)) (is : List Interruption) :
    ∃ u, perform (Cluster.serve stamps) (attend x cls) (interruptedBy stamps cls x s is) =
        (.ok (), u) ∧
      u.registries.map plain = v.registries.map plain ∧
      ((∀ p, finalizers? u p = finalizers? v p) ↔
        Recorded cls x s (interruptedBy stamps cls x s is)) := by
  have hbetween : Between stamps cls x s (interruptedBy stamps cls x s is) :=
    between_interruptedBy hserved hnames is
  rw [Cluster.attend_of_served hserved hnames] at hpass ⊢
  obtain ⟨hclaimable, hregistries, rfl⟩ := (Cluster.perform_publishSecrets_ok_iff cls x s v).mp hpass
  refine ⟨(interruptedBy stamps cls x s is).published stamps cls x, ?_, hbetween.plain_published, ?_⟩
  · refine (Cluster.perform_publishSecrets_ok_iff cls x _ _).mpr ⟨?_, ?_, rfl⟩
    · exact fun name hname => hbetween.claimable hname (hclaimable name hname)
    · obtain ⟨places, -, hplain⟩ := hbetween.registries
      intro hnone
      rw [hnone, List.map_nil, eq_comm, List.map_eq_nil_iff, List.map_eq_nil_iff] at hplain
      exact hregistries hplain
  · constructor
    · exact recorded_of_finalizers
    · intro hrecorded p
      rw [finalizers?_eq, finalizers?_eq, hbetween.content?_of_recorded hrecorded]

end Again

/-! ## A secret that is not released -/

section Unreleased

open Trust.Sample

/-- An ingress that now names another keypair than the one that the registry lists for it. -/
def front : Ingress := ingress "front" none ["new-tls"]

/-- The cluster of that ingress. The keypair that it named before has the finalizer. -/
def shop : Cluster where
  stored := fun p =>
    if p = ⟨"shop", "old-tls"⟩ then some (withFinalizers keypair [keypairFinalizer])
    else keypairs ["new-tls"] p
  ingresses := [front]
  distinct := by decide
  registries := [{ registry with
    data := some (Dict.ofList [("shop-front", Registry.entryValue "shop" ["old-tls"])]) }]
  writes := 0

/-- The pass gets no answer when it lists the ingresses, after it has written the entry. -/
def cut : Interruption := ⟨4, ⟨.kube (.unreachable "connection reset"), false⟩⟩

/-- The pass that is not cut off, and what it leaves. -/
def whole : Except PassFailure Unit × Cluster :=
  perform (Cluster.serve Stamps.counting) (attend front cls) shop

/-- The pass that is run again after the one that was cut off, and what it leaves. -/
def again : Except PassFailure Unit × Cluster :=
  perform (Cluster.serve Stamps.counting) (attend front cls)
    (interruptedBy Stamps.counting cls front shop [cut])

/-- A pass that has not failed has succeeded. -/
theorem succeeds_of_toBool {pass : Except PassFailure Unit × Cluster} (h : pass.1.toBool = true) :
    pass = (.ok (), pass.2) := by
  obtain ⟨result, s⟩ := pass
  cases result with
  | ok u => rfl
  | error failure => cases h

/-- Both passes succeed, but they leave one secret with different finalizers. -/
theorem outcomes :
    whole.1.toBool = true ∧ again.1.toBool = true ∧
      finalizers? again.2 ⟨"shop", "old-tls"⟩ ≠ finalizers? whole.2 ⟨"shop", "old-tls"⟩ := by
  decide +kernel

/-- The pass that is not cut off succeeds. -/
theorem whole_succeeds : whole = (.ok (), whole.2) := succeeds_of_toBool outcomes.1

/-- The pass that is run again leaves another finalizer than the one that is not cut off. -/
theorem finalizers_differ : ¬ ∀ p, finalizers? again.2 p = finalizers? whole.2 p :=
  fun hsame => outcomes.2.2 (hsame _)

/-- A publication that is cut off and run again can end with other finalizers than one that is not cut
off. -/
theorem again_not_whole :
    IsServed cls front ∧ secretNames front ≠ [] ∧ whole = (.ok (), whole.2) ∧
      again = (.ok (), again.2) ∧ ¬ ∀ p, finalizers? again.2 p = finalizers? whole.2 p :=
  ⟨by decide, by decide, whole_succeeds, succeeds_of_toBool outcomes.2.1, finalizers_differ⟩

/-- Once the pass is cut off, no registry lists the secret that it was to release. -/
theorem cut_unrecorded :
    IsServed cls front ∧ secretNames front ≠ [] ∧ whole = (.ok (), whole.2) ∧
      ¬ Recorded cls front shop (interruptedBy Stamps.counting cls front shop [cut]) := by
  refine ⟨by decide, by decide, whole_succeeds, fun hrecorded => finalizers_differ ?_⟩
  obtain ⟨u, hagain, -, hiff⟩ := same_finalizers_iff_recorded Stamps.counting cls
    (show IsServed cls front by decide) (show secretNames front ≠ [] by decide) whole_succeeds [cut]
  have hu : again.2 = u := congrArg Prod.snd hagain
  rw [hu]
  exact hiff.mpr hrecorded

end Unreleased

end Resumption

end GatewayOperator.Trust
