import GatewayOperator.Proofs.Trust.Performance
import GatewayOperator.Watch.Fingerprint

/-!
# What the watch on secrets may hide

The watch on secrets lets a change through only if the material of the secret or its deletion changed, and then
wakes the ingresses of the namespace that name the secret. This hides nothing. A publication checks only secrets
that its ingress names in its own namespace, and what comes of it is settled by the material of these secrets and
by the registries, whatever else the secrets carry.
-/

set_option autoImplicit false

namespace GatewayOperator.Trust

open GatewayOperator.Resource
open Program (Exchange)

/-- What a publication makes use of in a secret: its data, and the second of its deletion. -/
def materialOf (secret : Secret) : Option (Dict (List UInt8)) × Option Int :=
  (secret.data, secret.metadata.deletionTimestamp.map Instant.seconds)

/-- Secrets of the same material have the same fingerprint. -/
theorem secretFingerprint_congr {a b : Secret} (h : materialOf a = materialOf b) :
    Watch.secretFingerprint a = Watch.secretFingerprint b := by
  obtain ⟨hdata, hdeletion⟩ := Prod.mk.inj h
  unfold Watch.secretFingerprint
  rw [hdata, Watch.seconds_congr hdeletion]

/-- Secrets of the same material are both going away, or neither. -/
theorem isDeleting_congr {a b : Secret} (h : materialOf a = materialOf b) :
    a.metadata.isDeleting = b.metadata.isDeleting := by
  have hdeletion := congrArg (fun material => material.2.isSome) h
  simpa [materialOf, Meta.isDeleting] using hdeletion

/-- Secrets of the same material at one place get the same verdict. -/
theorem validate_congr {a b : Secret} (h : materialOf a = materialOf b)
    (hplace : placeOf a.metadata = placeOf b.metadata) : Tls.validate a = Tls.validate b := by
  have hdata : a.data = b.data := (Prod.mk.inj h).1
  obtain ⟨hns, hname⟩ := Place.mk.inj hplace
  have hkey : a.metadata.key = b.metadata.key := by
    unfold Meta.key
    rw [hns, hname]
  have hcheck : Tls.checkKeypair a = Tls.checkKeypair b := by
    unfold Tls.checkKeypair Tls.checkKey Tls.checkCertificate Tls.entry?
    rw [hdata]
  unfold Tls.validate
  rw [hcheck, hkey]

/-- What comes of a claim, given its secret. -/
def verdict (ns ingress name : String) : Option Secret → Except PassFailure Unit
  | none => .error (.secretNotFound (Registry.fullName ns name))
  | some secret =>
    if secret.metadata.isDeleting then
      .error (.secretReferenced (Registry.fullName ns name) ingress)
    else (Tls.validate secret).mapError .invalidTlsSecret

/-- Whether a call lists the registries. -/
def isListing : Call → Bool
  | .listRegistries => true
  | _ => false

namespace Cluster

open Program.Pass (perform)

variable {stamps : Stamps} {s t : Cluster} {cls : String} {x : Ingress}

/-- The material of the secret at a place. -/
def material? (s : Cluster) (p : Place) : Option (Option (Dict (List UInt8)) × Option Int) :=
  (s.secret? p).map materialOf

/-- What comes of the claims of a publication. -/
def verdicts (x : Ingress) (s : Cluster) : Except PassFailure Unit :=
  (secretNames x).forM fun name =>
    verdict x.metadata.anyNamespace x.metadata.anyName name (s.secret? (secretPlace x name))

/-! ## Claims -/

/-- Claims of secrets of the same material come to the same. -/
theorem verdict_congr {ns ingress name : String} {p : Place} (h : t.material? p = s.material? p) :
    verdict ns ingress name (t.secret? p) = verdict ns ingress name (s.secret? p) := by
  unfold material? at h
  cases hs : s.secret? p with
  | none =>
    rw [hs] at h
    rw [Option.map_eq_none_iff.mp h]
  | some secret =>
    rw [hs] at h
    obtain ⟨other, ht, hmaterial⟩ := Option.map_eq_some_iff.mp h
    have hplace : placeOf other.metadata = placeOf secret.metadata :=
      (placeOf_secret? ht).trans (placeOf_secret? hs).symm
    rw [ht]
    unfold verdict
    simp only [isDeleting_congr hmaterial, validate_congr hmaterial hplace]

/-- The material of a secret is part of its content. -/
theorem material?_eq_content (s : Cluster) (p : Place) : s.material? p = (s.content? p).map materialOf := by
  unfold material? content?
  rw [Option.map_map]
  rfl

/-- To claim a secret leaves the material of every secret as it was. -/
theorem material?_attached (s : Cluster) (p q : Place) :
    (s.attached stamps p).material? q = s.material? q := by
  have hmarked : materialOf ∘ marked = materialOf := by
    funext secret
    show materialOf (marked secret) = materialOf secret
    unfold marked
    split <;> rfl
  rw [material?_eq_content, content?_attached, material?_eq_content]
  by_cases hq : q = p
  · rw [if_pos hq, Option.map_map, hmarked, hq]
  · rw [if_neg hq]

/-- Whether the secret at a place exists and is not going away. -/
def isLive (s : Cluster) (p : Place) : Bool := (s.secret? p).any fun secret => !secret.metadata.isDeleting

/-- What comes of a claim is settled by its secret. The secret is claimed if it exists and stays, whether or not
it is usable. -/
theorem perform_claim (ns ingress name : String) (s : Cluster) :
    perform (serve stamps) (claim ns ingress name) s =
      (verdict ns ingress name (s.secret? ⟨ns, name⟩),
        if s.isLive ⟨ns, name⟩ then s.attached stamps ⟨ns, name⟩ else s) := by
  rw [claim_eq, Program.Pass.perform_bind_of_ok (perform_call (Call.getSecret ns name) s)]
  show perform _ (claimRead ns ingress name (s.secret? ⟨ns, name⟩)) s = _
  unfold isLive
  cases hread : s.secret? ⟨ns, name⟩ with
  | none => rfl
  | some secret =>
    rw [Option.any_some]
    cases hdeleting : secret.metadata.isDeleting with
    | true =>
      simp only [claimRead, verdict, hdeleting, if_true]
      rfl
    | false =>
      rw [claimRead_of_live hdeleting, Program.Pass.perform_bind_of_ok (perform_attach hread)]
      simp only [verdict, hdeleting]
      cases Tls.validate secret <;> rfl

/-- What comes of several claims is what comes of each, as the secrets were at the start. -/
theorem fst_perform_claims (ns ingress : String) (names : List String) (s : Cluster) :
    (perform (serve stamps) (names.forM (claim ns ingress)) s).1 =
      names.forM fun name => verdict ns ingress name (s.secret? ⟨ns, name⟩) := by
  induction names generalizing s with
  | nil => rfl
  | cons name rest ih =>
    show (perform _ (claim ns ingress name >>= fun _ => rest.forM (claim ns ingress)) s).1 =
      verdict ns ingress name (s.secret? ⟨ns, name⟩) >>= fun _ => rest.forM _
    have hverdict : (perform (serve stamps) (claim ns ingress name) s).1 =
        verdict ns ingress name (s.secret? ⟨ns, name⟩) := by rw [perform_claim]
    cases hclaim : perform (serve stamps) (claim ns ingress name) s with
    | mk result mid =>
      rw [hclaim] at hverdict
      rw [← hverdict]
      cases result with
      | error failure =>
        rw [Program.Pass.perform_bind_of_error hclaim]
        rfl
      | ok _ =>
        rw [Program.Pass.perform_bind_of_ok hclaim, ih]
        -- a claim that is granted marks its secret at most, which has no say in the other verdicts
        obtain ⟨-, rfl⟩ := (perform_claim_ok_iff ns ingress name s mid).mp hclaim
        have hrest : (fun other =>
              verdict ns ingress other ((s.attached stamps ⟨ns, name⟩).secret? ⟨ns, other⟩)) =
            fun other => verdict ns ingress other (s.secret? ⟨ns, other⟩) :=
          funext fun other => verdict_congr (material?_attached s ⟨ns, name⟩ ⟨ns, other⟩)
        rw [hrest]
        rfl

/-! ## Publications -/

/-- The calls by which a publication checks the secrets of an ingress, with their answers: those that it makes
before it lists the registries. -/
def checks (stamps : Stamps) (cls : String) (x : Ingress) (s : Cluster) : List (Exchange Call.Answer) :=
  ((publish x cls).run.conversation (serve stamps) s).takeWhile fun e => !isListing e.1

/-- Whether a call reads a secret only if an ingress names it. -/
def ReadsNamed (x : Ingress) (c : Call) : Prop :=
  ∀ ns name, c = .getSecret ns name → ns = x.metadata.anyNamespace ∧ name ∈ secretNames x

/-- The first secret that an ingress names is checked. -/
theorem first_mem_checks (hlive : x.metadata.isDeleting = false) {name : String} {more : List String}
    (hnames : secretNames x = name :: more) :
    ⟨.getSecret x.metadata.anyNamespace name, .ok (s.secret? (secretPlace x name))⟩ ∈
      checks stamps cls x s := by
  unfold checks publish
  rw [hlive, hnames]
  exact .head _

/-- What is taken up to a place where nothing more is taken lies before it. -/
theorem mem_of_mem_takeWhile {α : Type} {p : α → Bool} {a : α} {first rest : List α}
    (h : a ∈ (first ++ rest).takeWhile p) (hrest : rest.takeWhile p = []) : a ∈ first := by
  rw [List.takeWhile_append, hrest, List.append_nil] at h
  split at h
  · exact h
  · exact (List.takeWhile_prefix p).subset h

/-- The checks read only what the ingress names. -/
theorem readsNamed_of_mem_checks (hlive : x.metadata.isDeleting = false) {e : Exchange Call.Answer}
    (h : e ∈ checks stamps cls x s) : ReadsNamed x e.1 := by
  unfold checks publish at h
  rw [hlive] at h
  cases hnames : secretNames x with
  | nil =>
    -- without secrets the first call lists the registries
    rw [hnames] at h
    cases h
  | cons name more =>
    simp only [hnames] at h
    rw [← hnames, publishSecrets_eq, Program.Pass.run_bind, Program.conversation_bind] at h
    -- what follows the claims is nothing, or it starts with the list of registries
    have hrest (result : Except PassFailure PUnit) (mid : Cluster) :
        ((Program.Pass.andThen (fun _ => Call.listRegistries.perform >>= publishListed cls x)
          result).conversation (serve stamps) mid).takeWhile (fun e => !isListing e.1) = [] := by
      cases result <;> rfl
    have hclaims : ((secretNames x).forM (claim x.metadata.anyNamespace x.metadata.anyName)).run.Asks
        (ReadsNamed x) := by
      refine Program.Pass.asks_forM fun name hname => asks_claim ?_ fun secret ns other heq => by cases heq
      rintro ns other heq
      cases heq
      exact ⟨rfl, hname⟩
    exact hclaims.of_mem (Program.yields_conversation _ s) e (mem_of_mem_takeWhile h (hrest _ _))

/-- A publication succeeds if all claims do and there is a registry. -/
theorem fst_perform_publishSecrets (cls : String) (x : Ingress) (s : Cluster) :
    (perform (serve stamps) (publishSecrets x cls (secretNames x)) s).1 =
      s.verdicts x >>= fun _ => if s.registries = [] then .error .registryNotFound else .ok () := by
  have hverdicts : (perform (serve stamps)
      ((secretNames x).forM (claim x.metadata.anyNamespace x.metadata.anyName)) s).1 = s.verdicts x :=
    fst_perform_claims x.metadata.anyNamespace x.metadata.anyName (secretNames x) s
  rw [publishSecrets_eq]
  cases hclaims : perform (serve stamps)
      ((secretNames x).forM (claim x.metadata.anyNamespace x.metadata.anyName)) s with
  | mk result mid =>
    rw [hclaims] at hverdicts
    rw [← hverdicts]
    cases result with
    | error failure =>
      rw [Program.Pass.perform_bind_of_error hclaims]
      rfl
    | ok _ =>
      rw [Program.Pass.perform_bind_of_ok hclaims]
      obtain ⟨-, rfl⟩ := (perform_claims_ok_iff _ _ _ s mid).mp hclaims
      show (perform _ _ (s.held stamps x)).1 = if s.registries = [] then _ else _
      rw [perform_publish_rest]
      by_cases hnone : s.registries = []
      · rw [if_pos hnone, hnone]
        rfl
      · rw [if_neg hnone, perform_publishListed cls x hnone]

/-- A publication writes its entry to the registries of the class if it succeeds, and else to none. -/
theorem plain_publishSecrets (cls : String) (x : Ingress) (s : Cluster) :
    (perform (serve stamps) (publishSecrets x cls (secretNames x)) s).2.registries.map plain =
      match (perform (serve stamps) (publishSecrets x cls (secretNames x)) s).1 with
      | .ok _ => (s.registries.map plain).map
        (entryAt ((ofClass cls s.registries).map fun r => placeOf r.metadata) (entryKeyOf x)
          (some (valueOf x)))
      | .error _ => s.registries.map plain := by
  cases hpass : perform (serve stamps) (publishSecrets x cls (secretNames x)) s with
  | mk result last =>
    cases result with
    | ok _ =>
      obtain ⟨-, -, rfl⟩ := (perform_publishSecrets_ok_iff cls x s last).mp hpass
      exact plain_published s
    | error failure =>
      obtain ⟨k, rfl⟩ := perform_publishSecrets_error hpass
      exact congrArg (List.map plain) (else_claimed _ _ s _).1

/-- What comes of a publication, and what it makes of the registries, is settled by the registries and the
material of the secrets. -/
theorem publish_congr {stamps stamps' : Stamps} (hlive : x.metadata.isDeleting = false)
    (hregistries : t.registries = s.registries) (hmaterial : ∀ p, t.material? p = s.material? p) :
    (perform (serve stamps') (publish x cls) t).1 = (perform (serve stamps) (publish x cls) s).1 ∧
      (perform (serve stamps') (publish x cls) t).2.registries.map plain =
        (perform (serve stamps) (publish x cls) s).2.registries.map plain := by
  unfold publish
  rw [hlive]
  cases hnames : secretNames x with
  | nil =>
    simp only [perform_withdraw, plain_withdrawn, hregistries, and_self]
  | cons name more =>
    simp only [← hnames]
    have hverdicts : t.verdicts x = s.verdicts x := by
      unfold verdicts
      congr 1
      exact funext fun name => verdict_congr (hmaterial (secretPlace x name))
    have hresult : (perform (serve stamps') (publishSecrets x cls (secretNames x)) t).1 =
        (perform (serve stamps) (publishSecrets x cls (secretNames x)) s).1 := by
      rw [fst_perform_publishSecrets, fst_perform_publishSecrets, hverdicts, hregistries]
    refine ⟨hresult, ?_⟩
    rw [plain_publishSecrets, plain_publishSecrets, hresult, hregistries]

/-! ## The watch -/

/-- Whether the watch on secrets wakes an ingress for a secret. -/
def Wakes (cls : String) (s : Cluster) (secret : Secret) (x : Ingress) : Prop :=
  ∃ listed, usersOfSecret s.ingresses secret cls = some listed ∧ Reference.ofMeta x.metadata ∈ listed

/-- Whether all ingresses have a namespace and a name. -/
def Scoped (s : Cluster) : Prop :=
  ∀ y ∈ s.ingresses, y.metadata.namespace.isSome = true ∧ y.metadata.name.isSome = true

/-- An ingress is woken for a secret that it names. -/
theorem wakes_of_names {secret : Secret} (hscoped : s.Scoped) (hx : x ∈ s.ingresses)
    (htracked : isTracked x cls = true) (hns : secret.metadata.namespace = some x.metadata.anyNamespace)
    {name : String} (hname : secret.metadata.name = some name) (hmem : name ∈ secretNames x) :
    s.Wakes cls secret x := by
  obtain ⟨space, hspace⟩ := Option.isSome_iff_exists.mp (hscoped x hx).1
  have hsame : x.metadata.namespace = secret.metadata.namespace := by
    rw [hns, Meta.anyNamespace, hspace, Option.getD_some]
  have hanyName : secret.metadata.anyName = name := by
    rw [Meta.anyName, hname]
    rfl
  have hfound : x ∈ ingressesOfSecret s.ingresses secret cls :=
    List.mem_filter.mpr ⟨hx, by simp [hsame, htracked, hanyName, hmem]⟩
  have hmetas : ∀ m ∈ (ingressesOfSecret s.ingresses secret cls).map Ingress.metadata,
      m.name.isSome = true := by
    intro m hm
    obtain ⟨y, hy, rfl⟩ := List.mem_map.mp hm
    exact (hscoped y (List.mem_filter.mp hy).1).2
  exact ⟨_, Reference.ofMetas?_eq hmetas, List.mem_map_of_mem (List.mem_map_of_mem hfound)⟩

/-- A secret that was checked has the namespace of the ingress and the name that was asked for. -/
theorem place_of_read {ns name : String} {found : Secret}
    (h : ⟨.getSecret ns name, .ok (some found)⟩ ∈ checks stamps cls x s) :
    found.metadata.namespace = some ns ∧ found.metadata.name = some name := by
  have hmem := (List.takeWhile_prefix _).subset h
  obtain ⟨u, hanswer⟩ := Program.answer_of_mem_conversation hmem
  have hread : u.secret? ⟨ns, name⟩ = some found := Except.ok.inj hanswer
  rw [← secretAt_of_read hread]
  exact ⟨rfl, rfl⟩

/-- A secret that is replaced by one of the same material leaves all material as it was. -/
theorem material?_putSecret {p : Place} {secret other : Secret} (hread : s.secret? p = some secret)
    (hmaterial : materialOf other = materialOf secret) (q : Place) :
    (s.putSecret p (some other)).material? q = s.material? q := by
  unfold material?
  rw [secret?_putSecret]
  by_cases hq : q = p
  · rw [if_pos hq, hq, hread, Option.map_map]
    exact congrArg some hmaterial
  · rw [if_neg hq]

/-- Every secret that a publication checks wakes the ingress, whatever becomes of it. And if a secret is replaced
by one of the same material, which the watch takes for the same, the publication comes to the same result and
leaves the same registries, apart from versions and annotations. -/
theorem watch_covers_publication (hserved : IsServed cls x) (hx : x ∈ s.ingresses) (hscoped : s.Scoped) :
    (∀ (stamps : Stamps) (ns name : String) (answer : Except PassFailure (Option Secret)),
      ⟨.getSecret ns name, answer⟩ ∈ checks stamps cls x s →
        (∀ found, answer = .ok (some found) → s.Wakes cls found x) ∧
        ∀ secret : Secret, secret.metadata.namespace = some ns → secret.metadata.name = some name →
          s.Wakes cls secret x) ∧
    ∀ (p : Place) (secret other : Secret), s.secret? p = some secret →
      materialOf other = materialOf secret →
        Watch.secretFingerprint (secretAt p other) = Watch.secretFingerprint secret ∧
        ∀ stamps stamps' : Stamps,
          (perform (serve stamps') (publish x cls) (s.putSecret p (some other))).1 =
            (perform (serve stamps) (publish x cls) s).1 ∧
          (perform (serve stamps') (publish x cls) (s.putSecret p (some other))).2.registries.map plain =
            (perform (serve stamps) (publish x cls) s).2.registries.map plain := by
  constructor
  · intro stamps ns name answer hcheck
    obtain ⟨rfl, hmem⟩ := readsNamed_of_mem_checks hserved.1 hcheck ns name rfl
    constructor
    · rintro found rfl
      obtain ⟨hns, hname⟩ := place_of_read hcheck
      exact wakes_of_names hscoped hx hserved.2 hns hname hmem
    · intro secret hns hname
      exact wakes_of_names hscoped hx hserved.2 hns hname hmem
  · intro p secret other hread hmaterial
    refine ⟨secretFingerprint_congr hmaterial, fun stamps stamps' => ?_⟩
    exact publish_congr hserved.1 rfl (material?_putSecret hread hmaterial)

end Cluster

/-! ## A secret with a label more -/

namespace Sample

/-- A shop with its secret, before it is published. -/
def opening : Cluster where
  stored := keypairs ["shop-tls"]
  ingresses := [ingress "shop" none ["shop-tls"]]
  distinct := List.pairwise_singleton _ _
  registries := [registry]
  writes := 0

/-- The keypair with a label and the finalizer of another controller. -/
def relabelled : Secret :=
  { keypair with
    metadata :=
      { Meta.empty with
        labels := some (Dict.ofList [("team", "shop")])
        finalizers := some ["example.org/backup"]
        resourceVersion := some "17" } }

/-- The shop is woken when its keypair is relabelled, and its publication comes to the same. -/
theorem opening_covered :
    IsServed cls (ingress "shop" none ["shop-tls"]) ∧ opening.Scoped ∧
      opening.Wakes cls (secretAt ⟨"shop", "shop-tls"⟩ relabelled) (ingress "shop" none ["shop-tls"]) ∧
      (Program.Pass.perform (Cluster.serve Stamps.counting) (publish (ingress "shop" none ["shop-tls"]) cls)
          (opening.putSecret ⟨"shop", "shop-tls"⟩ (some relabelled))).1 =
        (Program.Pass.perform (Cluster.serve Stamps.counting)
          (publish (ingress "shop" none ["shop-tls"]) cls) opening).1 := by
  have hserved : IsServed cls (ingress "shop" none ["shop-tls"]) := by decide
  have hscoped : opening.Scoped := List.forall_mem_singleton.mpr ⟨rfl, rfl⟩
  have hread : opening.secret? ⟨"shop", "shop-tls"⟩ = some (secretAt ⟨"shop", "shop-tls"⟩ keypair) := rfl
  have hmaterial : materialOf relabelled = materialOf (secretAt ⟨"shop", "shop-tls"⟩ keypair) := rfl
  have hcheck : ⟨.getSecret "shop" "shop-tls", .ok (opening.secret? ⟨"shop", "shop-tls"⟩)⟩ ∈
      Cluster.checks Stamps.counting cls (ingress "shop" none ["shop-tls"]) opening :=
    Cluster.first_mem_checks rfl rfl
  obtain ⟨hwakes, hsame⟩ := Cluster.watch_covers_publication hserved (List.mem_singleton_self _) hscoped
  obtain ⟨-, hpublish⟩ := hsame ⟨"shop", "shop-tls"⟩ _ relabelled hread hmaterial
  refine ⟨hserved, hscoped, ?_, (hpublish Stamps.counting Stamps.counting).1⟩
  exact (hwakes Stamps.counting "shop" "shop-tls" _ hcheck).2 _ rfl rfl

end Sample

end GatewayOperator.Trust
