import GatewayOperator.Proofs.Trust.Publishing
import GatewayOperator.Proofs.Trust.Watching

/-!
# Publications that are refused

A publication claims its secrets one by one before it looks for registries. It stops at the first secret that is
missing, is going away or holds no usable keypair, and it fails for want of a registry only once all secrets are
claimed. By then it has put the finalizer on the secrets that it has looked at, as far as they exist and stay,
and has done nothing else. So nothing is published, and nothing is released.
-/

set_option autoImplicit false

namespace GatewayOperator.Trust

open GatewayOperator.Resource
open Program (Exchange)
open Program.Pass (perform)

/-- Whether a call leaves every cluster as it is. -/
def isReading : Call → Bool
  | .getSecret _ _ => true
  | .listIngresses _ => true
  | .listRegistries => true
  | _ => false

/-- Whether a secret that an ingress names is an obstacle to its publication, and the failure that tells. A secret
that is going away is reported as such, also if it is not usable. -/
inductive Offends (x : Ingress) (s : Cluster) (name : String) : PassFailure → Prop
  | missing (hread : s.secret? (secretPlace x name) = none) :
      Offends x s name (.secretNotFound (x.metadata.anyNamespace ++ "/" ++ name))
  | deleting (secret : Secret) (hread : s.secret? (secretPlace x name) = some secret)
      (hdeleting : secret.metadata.isDeleting = true) :
      Offends x s name
        (.secretReferenced (x.metadata.anyNamespace ++ "/" ++ name) x.metadata.anyName)
  | unusable (secret : Secret) (fault : Tls.InvalidSecret)
      (hread : s.secret? (secretPlace x name) = some secret)
      (hlive : secret.metadata.isDeleting = false) (hfault : Tls.validate secret = .error fault) :
      Offends x s name (.invalidTlsSecret fault)

/-- Which failure a publication ends with, and the secrets that it has looked at by then: those up to the first
that is an obstacle, or all of them if there is no registry. -/
inductive Blamed (x : Ingress) (s : Cluster) : PassFailure → List String → Prop
  | secret (before after : List String) (name : String) (e : PassFailure)
      (hfirst : tlsSecrets x = before ++ name :: after)
      (hgood : ∀ other ∈ before, ∀ f, ¬ Offends x s other f) (hoffends : Offends x s name e) :
      Blamed x s e (before ++ [name])
  | registry (hgood : ∀ name ∈ tlsSecrets x, ∀ f, ¬ Offends x s name f) (hnone : s.registries = []) :
      Blamed x s .registryNotFound (tlsSecrets x)

/-- Whether a call adds the finalizer to the secret at a place, which stays and lacks it. -/
def AddsTo (s : Cluster) (p : Place) (c : Call) : Prop :=
  ∃ secret, s.secret? p = some secret ∧ secret.metadata.isDeleting = false ∧
    secret.metadata.hasFinalizer keypairFinalizer = false ∧ c = .addFinalizer secret

/-- Whether nothing but claims of some secrets of an ingress leads from one cluster to another, by a
conversation. -/
structure OnlyClaimed (x : Ingress) (reached : List String) (s t : Cluster)
    (log : List (Exchange Call.Answer)) : Prop where
  registries : t.registries = s.registries
  ingresses : t.ingresses = s.ingresses
  /-- Each of the secrets that stays and lacks the finalizer gets it. -/
  claimed : ∀ name ∈ reached, ∀ secret, s.secret? (secretPlace x name) = some secret →
    secret.metadata.isDeleting = false → secret.metadata.hasFinalizer keypairFinalizer = false →
    ∃ after, t.secret? (secretPlace x name) = some after ∧
      unversioned after = withFinalizers (unversioned secret) (claimedFinalizers secret)
  /-- Every other secret is as it was, also one of these that is missing, is going away or has it. -/
  others : ∀ q, (∀ name ∈ reached, q = secretPlace x name → ∀ secret, s.secret? q = some secret →
      secret.metadata.isDeleting = true ∨ secret.metadata.hasFinalizer keypairFinalizer = true) →
    t.secret? q = s.secret? q
  /-- No secret loses a finalizer. -/
  kept : ∀ q before, s.secret? q = some before → ∃ after, t.secret? q = some after ∧
    ∀ f ∈ before.metadata.finalizerList, f ∈ after.metadata.finalizerList
  /-- A call that is no reading adds the finalizer to one of the secrets. -/
  writes : ∀ exchange ∈ log, isReading exchange.1 = false →
    ∃ name ∈ reached, AddsTo s (secretPlace x name) exchange.1

/-! ## Obstacles -/

/-- If some element has a property then there is a first one. -/
theorem exists_first {α : Type} {p : α → Prop} {xs : List α} (h : ∃ a ∈ xs, p a) :
    ∃ before a after, xs = before ++ a :: after ∧ (∀ b ∈ before, ¬ p b) ∧ p a := by
  classical
  obtain ⟨a, hmem, hp⟩ := h
  have hfound : (xs.find? fun a => decide (p a)).isSome := List.find?_isSome.mpr ⟨a, hmem, by simpa using hp⟩
  obtain ⟨first, hfirst⟩ := Option.isSome_iff_exists.mp hfound
  obtain ⟨hp, before, after, hsplit, hbefore⟩ := List.find?_eq_some_iff_append.mp hfirst
  refine ⟨before, first, after, hsplit, fun b hb => ?_, of_decide_eq_true hp⟩
  simpa using hbefore b hb

/-- A list that is freed of repeats has none. -/
theorem nodup_distinct {names seen : List String} (h : seen.Nodup) : (distinct names seen).Nodup := by
  induction names generalizing seen with
  | nil => exact h
  | cons first rest ih =>
    unfold distinct
    apply ih
    split
    · exact h
    · next hnew =>
      have hfirst : first ∉ seen := by simpa using hnew
      refine List.nodup_append.mpr ⟨h, List.pairwise_singleton _ _, fun name hname other hother hsame => ?_⟩
      rw [hsame, List.mem_singleton.mp hother] at hname
      exact hfirst hname

/-- An ingress names each of its secrets once. -/
theorem nodup_secretNames (x : Ingress) : (secretNames x).Nodup := nodup_distinct List.nodup_nil

/-- The claim of an obstacle fails as the obstacle tells. -/
theorem Offends.verdict_eq {x : Ingress} {s : Cluster} {name : String} {e : PassFailure}
    (h : Offends x s name e) :
    verdict x.metadata.anyNamespace x.metadata.anyName name (s.secret? (secretPlace x name)) = .error e := by
  cases h with
  | missing hread =>
    rw [hread]
    rfl
  | deleting secret hread hdeleting =>
    rw [hread]
    exact if_pos hdeleting
  | unusable secret fault hread hlive hfault =>
    rw [hread]
    simp only [verdict, hlive, hfault]
    rfl

/-- Whether a secret is an obstacle depends on that secret only. -/
theorem Offends.congr {x : Ingress} {s t : Cluster} {name : String} {e : PassFailure}
    (h : Offends x s name e) (hread : t.secret? (secretPlace x name) = s.secret? (secretPlace x name)) :
    Offends x t name e := by
  cases h with
  | missing hnone => exact .missing (hread.trans hnone)
  | deleting secret hsome hdeleting => exact .deleting secret (hread.trans hsome) hdeleting
  | unusable secret fault hsome hlive hfault =>
    exact .unusable secret fault (hread.trans hsome) hlive hfault

namespace Cluster

variable {stamps : Stamps} {cls : String} {x : Ingress} {s : Cluster}

/-- A secret that is no obstacle can be claimed. -/
theorem claimable_of_not_offends {name : String} (h : ∀ e, ¬ Offends x s name e) :
    s.Claimable (secretPlace x name) := by
  cases hread : s.secret? (secretPlace x name) with
  | none => exact absurd (.missing hread) (h _)
  | some secret =>
    cases hdeleting : secret.metadata.isDeleting with
    | true => exact absurd (.deleting secret hread hdeleting) (h _)
    | false =>
      cases hvalid : Tls.validate secret with
      | error fault => exact absurd (.unusable secret fault hread hdeleting hvalid) (h _)
      | ok _ => exact ⟨unversioned secret, content?_of_read hread, hdeleting, hvalid⟩

/-- A secret is live if it exists and is not going away. -/
theorem isLive_eq_true_iff (p : Place) : s.isLive p = true ↔
    ∃ secret, s.secret? p = some secret ∧ secret.metadata.isDeleting = false := by
  unfold isLive
  rw [Option.any_eq_true]
  simp only [Bool.not_eq_true']

/-- A secret that can be claimed is live. -/
theorem isLive_of_claimable {p : Place} (h : s.Claimable p) : s.isLive p = true := by
  obtain ⟨secret, hcontent, hlive, -⟩ := h
  obtain ⟨stored, hread, rfl⟩ := Option.map_eq_some_iff.mp hcontent
  exact (isLive_eq_true_iff p).mpr ⟨stored, hread, hlive⟩

variable (stamps) in
/-- The cluster after those of some secrets of an ingress were claimed that exist and stay. -/
def tried (x : Ingress) (s : Cluster) (names : List String) : Cluster :=
  claimed stamps x.metadata.anyNamespace s (names.filter fun name => s.isLive (secretPlace x name))

/-- One more secret is claimed if it is live. -/
theorem tried_append_singleton (before : List String) (name : String) :
    s.tried stamps x (before ++ [name]) = if s.isLive (secretPlace x name) then
      (s.tried stamps x before).attached stamps (secretPlace x name) else s.tried stamps x before := by
  unfold tried claimed
  rw [List.filter_append, List.foldl_append]
  by_cases hlive : s.isLive (secretPlace x name) = true
  · rw [if_pos hlive]
    simp only [List.filter_cons, hlive, if_true, List.filter_nil, List.foldl_cons, List.foldl_nil]
    rfl
  · rw [if_neg hlive]
    simp only [List.filter_cons, hlive, List.filter_nil]
    rfl

/-- Secrets that can all be claimed exist and stay. -/
theorem tried_of_claimable {names : List String} (h : ∀ name ∈ names, s.Claimable (secretPlace x name)) :
    s.tried stamps x names = claimed stamps x.metadata.anyNamespace s names := by
  unfold tried
  rw [List.filter_eq_self.mpr fun name hname => isLive_of_claimable (h name hname)]

/-- Claims are made one after the other. -/
theorem claims_append (ns ingress : String) (first rest : List String) :
    (first ++ rest).forM (claim ns ingress) =
      (first.forM (claim ns ingress) >>= fun _ => rest.forM (claim ns ingress)) := List.forM_append

variable (stamps) in
/-- Claims fail at the first obstacle, and by then those before it are claimed. -/
theorem perform_claims_of_offends {before : List String} {name : String} {e : PassFailure}
    (hname : name ∉ before) (hgood : ∀ other ∈ before, s.Claimable (secretPlace x other))
    (hoffends : Offends x s name e) :
    perform (serve stamps)
        ((before ++ [name]).forM (claim x.metadata.anyNamespace x.metadata.anyName)) s =
      (.error e, s.tried stamps x (before ++ [name])) := by
  have hclaims : perform (serve stamps) (before.forM (claim x.metadata.anyNamespace x.metadata.anyName)) s =
      (.ok (), s.tried stamps x before) :=
    (perform_claims_ok_iff _ _ _ s _).mpr ⟨hgood, tried_of_claimable hgood⟩
  -- the claims before have not reached the secret
  have hread : (s.tried stamps x before).secret? (secretPlace x name) = s.secret? (secretPlace x name) :=
    secret?_claimed_of_kept fun _ hmem => absurd (List.mem_filter.mp hmem).1 hname
  have hlive : (s.tried stamps x before).isLive (secretPlace x name) = s.isLive (secretPlace x name) := by
    unfold isLive
    rw [hread]
  have hclaim : perform (serve stamps) (claim x.metadata.anyNamespace x.metadata.anyName name)
      (s.tried stamps x before) = (.error e, s.tried stamps x (before ++ [name])) := by
    rw [perform_claim, tried_append_singleton, ← hlive]
    exact Prod.ext (hoffends.congr hread).verdict_eq rfl
  rw [claims_append, Program.Pass.perform_bind_of_ok hclaims]
  exact Program.Pass.perform_bind_of_error hclaim

/-! ## What is left behind -/

variable (stamps) in
/-- A secret that stays and lacks the finalizer gets it. -/
theorem exists_secret?_tried {names : List String} {name : String} {secret : Secret} (hname : name ∈ names)
    (hread : s.secret? (secretPlace x name) = some secret) (hlive : secret.metadata.isDeleting = false)
    (hlacks : secret.metadata.hasFinalizer keypairFinalizer = false) :
    ∃ after, (s.tried stamps x names).secret? (secretPlace x name) = some after ∧
      unversioned after = withFinalizers (unversioned secret) (claimedFinalizers secret) := by
  have hmarked : marked (unversioned secret) =
      withFinalizers (unversioned secret) (claimedFinalizers secret) :=
    if_neg (Bool.eq_false_iff.mp hlacks)
  have hmem : name ∈ names.filter fun name => s.isLive (secretPlace x name) :=
    List.mem_filter.mpr ⟨hname, (isLive_eq_true_iff _).mpr ⟨secret, hread, hlive⟩⟩
  have hcontent : (s.tried stamps x names).content? (secretPlace x name) = some (marked (unversioned secret)) := by
    unfold tried
    rw [content?_claimed, if_pos ⟨rfl, hmem⟩, content?_of_read hread]
    rfl
  rw [hmarked] at hcontent
  exact Option.map_eq_some_iff.mp hcontent

/-- A secret that is missing, is going away, has the finalizer or is none of these stays as it is. -/
theorem secret?_tried_of_kept {names : List String} {q : Place}
    (h : ∀ name ∈ names, q = secretPlace x name → ∀ secret, s.secret? q = some secret →
      secret.metadata.isDeleting = true ∨ secret.metadata.hasFinalizer keypairFinalizer = true) :
    (s.tried stamps x names).secret? q = s.secret? q := by
  refine secret?_claimed_of_kept fun hns hmem => ?_
  obtain ⟨hname, hlive⟩ := List.mem_filter.mp hmem
  obtain ⟨secret, hread, hstays⟩ := (isLive_eq_true_iff (secretPlace x q.name)).mp hlive
  have hplace : q = secretPlace x q.name := by rw [secretPlace, ← hns]
  rw [← hplace] at hread
  rcases h q.name hname hplace secret hread with hdeleting | hhas
  · rw [hstays] at hdeleting
    cases hdeleting
  · exact ⟨secret, hread, hhas⟩

/-- Claims take no finalizer off. -/
theorem finalizers_tried {names : List String} {q : Place} {before : Secret}
    (hread : s.secret? q = some before) :
    ∃ after, (s.tried stamps x names).secret? q = some after ∧
      ∀ f ∈ before.metadata.finalizerList, f ∈ after.metadata.finalizerList := by
  by_cases hclaimed : ∃ name ∈ names, q = secretPlace x name ∧ before.metadata.isDeleting = false ∧
      before.metadata.hasFinalizer keypairFinalizer = false
  · obtain ⟨name, hname, rfl, hlive, hlacks⟩ := hclaimed
    obtain ⟨after, hafter, hadded⟩ := exists_secret?_tried stamps hname hread hlive hlacks
    have hlist : after.metadata.finalizerList = claimedFinalizers before :=
      congrArg (fun secret => secret.metadata.finalizerList) hadded
    refine ⟨after, hafter, fun f hf => ?_⟩
    rw [hlist]
    exact List.mem_append_left _ hf
  · refine ⟨before, ?_, fun f hf => hf⟩
    rw [secret?_tried_of_kept fun name hname hplace secret hsecret => ?_, hread]
    cases hsecret.symm.trans hread
    cases hdeleting : before.metadata.isDeleting with
    | true => exact .inl rfl
    | false =>
      cases hlacks : before.metadata.hasFinalizer keypairFinalizer with
      | true => exact .inr rfl
      | false => exact absurd ⟨name, hname, hplace, hdeleting, hlacks⟩ hclaimed

/-! ## What is said -/

/-- All that an attachment asks is to add the finalizer, if it is not there. -/
theorem mem_conversation_attach {secret : Secret} {exchange : Exchange Call.Answer}
    (h : exchange ∈ (attach secret).run.conversation (serve stamps) s) :
    secret.metadata.hasFinalizer keypairFinalizer = false ∧ exchange.1 = .addFinalizer secret := by
  unfold attach at h
  split at h
  · cases h
  · next hlacks =>
    rw [List.mem_singleton.mp h]
    exact ⟨Bool.eq_false_iff.mpr hlacks, rfl⟩

/-- A claim reads its secret, and adds the finalizer at most to one that stays and lacks it. -/
theorem mem_conversation_claim {ns ingress name : String} {exchange : Exchange Call.Answer}
    (h : exchange ∈ (claim ns ingress name).run.conversation (serve stamps) s)
    (hwrites : isReading exchange.1 = false) : AddsTo s ⟨ns, name⟩ exchange.1 := by
  rw [claim_eq, Program.Pass.conversation_bind_of_ok (perform_call (Call.getSecret ns name) s)] at h
  rcases List.mem_append.mp h with hread | hrest
  · rw [List.mem_singleton.mp hread] at hwrites
    cases hwrites
  · replace hrest : exchange ∈ (claimRead ns ingress name (s.secret? ⟨ns, name⟩)).run.conversation _ s := hrest
    cases hread : s.secret? ⟨ns, name⟩ with
    | none =>
      rw [hread] at hrest
      cases hrest
    | some secret =>
      rw [hread] at hrest
      cases hdeleting : secret.metadata.isDeleting with
      | true =>
        simp only [claimRead, hdeleting, if_true] at hrest
        cases hrest
      | false =>
        rw [claimRead_of_live hdeleting, Program.Pass.conversation_bind_of_ok (perform_attach hread)] at hrest
        rcases List.mem_append.mp hrest with hattach | hcheck
        · exact ⟨secret, hread, hdeleting, mem_conversation_attach hattach⟩
        · cases hvalid : Tls.validate secret <;> rw [hvalid] at hcheck <;> cases hcheck

/-- Claims add the finalizer at most to secrets that stay and lack it. -/
theorem mem_conversation_claims {ns ingress : String} {names : List String} (hnodup : names.Nodup)
    {exchange : Exchange Call.Answer}
    (h : exchange ∈ (names.forM (claim ns ingress)).run.conversation (serve stamps) s)
    (hwrites : isReading exchange.1 = false) :
    ∃ name ∈ names, AddsTo s ⟨ns, name⟩ exchange.1 := by
  induction names generalizing s with
  | nil => cases h
  | cons name rest ih =>
    obtain ⟨hnew, hrest⟩ := List.nodup_cons.mp hnodup
    have hfirst (h : exchange ∈ (claim ns ingress name).run.conversation (serve stamps) s) :
        ∃ other ∈ name :: rest, AddsTo s ⟨ns, other⟩ exchange.1 :=
      ⟨name, List.mem_cons_self, mem_conversation_claim h hwrites⟩
    replace h : exchange ∈ (claim ns ingress name >>= fun _ =>
      rest.forM (claim ns ingress)).run.conversation (serve stamps) s := h
    cases hclaim : perform (serve stamps) (claim ns ingress name) s with
    | mk result mid =>
      cases result with
      | error e =>
        rw [Program.Pass.conversation_bind_of_error hclaim] at h
        exact hfirst h
      | ok _ =>
        rw [Program.Pass.conversation_bind_of_ok hclaim] at h
        rcases List.mem_append.mp h with h | h
        · exact hfirst h
        · obtain ⟨-, rfl⟩ := (perform_claim_ok_iff ns ingress name s mid).mp hclaim
          obtain ⟨other, hother, secret, hread, hadds⟩ := ih hrest h
          have hne : (⟨ns, other⟩ : Place) ≠ ⟨ns, name⟩ := by
            intro hsame
            cases hsame
            exact hnew hother
          rw [secret?_attached_of_ne s hne] at hread
          exact ⟨other, List.mem_cons_of_mem name hother, secret, hread, hadds⟩

/-! ## Refused publications -/

/-- A publication starts with claims of the first of its secrets. -/
theorem publishSecrets_eq_of_append {first rest : List String} (h : secretNames x = first ++ rest) :
    publishSecrets x cls (secretNames x) =
      (first.forM (claim x.metadata.anyNamespace x.metadata.anyName) >>= fun _ =>
        rest.forM (claim x.metadata.anyNamespace x.metadata.anyName) >>= fun _ =>
          Call.listRegistries.perform >>= publishListed cls x) := by
  rw [publishSecrets_eq, h, claims_append, bind_assoc]

variable (stamps) in
/-- Whatever is claimed of the first secrets of an ingress, nothing else has happened by then. -/
theorem onlyClaimed_tried {first rest : List String} (h : secretNames x = first ++ rest)
    {log : List (Exchange Call.Answer)} (hlog : ∀ exchange ∈ log, isReading exchange.1 = false → exchange ∈
      (first.forM (claim x.metadata.anyNamespace x.metadata.anyName)).run.conversation (serve stamps) s) :
    OnlyClaimed x first s (s.tried stamps x first) log where
  registries := (else_claimed _ _ s _).1
  ingresses := (else_claimed _ _ s _).2
  claimed := fun _ hname _ hread => exists_secret?_tried stamps hname hread
  others := fun _ => secret?_tried_of_kept
  kept := fun _ _ hread => finalizers_tried hread
  writes := by
    intro exchange hmem hwrites
    have hnodup : first.Nodup := by
      have hall := nodup_secretNames x
      rw [h] at hall
      exact (List.nodup_append.mp hall).1
    exact mem_conversation_claims hnodup (hlog exchange hmem hwrites) hwrites

variable (stamps cls) in
/-- A publication stops at the first obstacle. -/
theorem refused_by_secret {before after : List String} {name : String} {e : PassFailure}
    (hfirst : secretNames x = before ++ name :: after)
    (hgood : ∀ other ∈ before, ∀ f, ¬ Offends x s other f) (hoffends : Offends x s name e) :
    (perform (serve stamps) (publishSecrets x cls (secretNames x)) s).1 = .error e ∧
      OnlyClaimed x (before ++ [name]) s
        (perform (serve stamps) (publishSecrets x cls (secretNames x)) s).2
        ((publishSecrets x cls (secretNames x)).run.conversation (serve stamps) s) := by
  have hsplit : secretNames x = (before ++ [name]) ++ after := by rw [hfirst, List.append_assoc]; rfl
  have hname : name ∉ before := by
    have hnodup := nodup_secretNames x
    rw [hfirst] at hnodup
    exact fun hmem => (List.nodup_append.mp hnodup).2.2 name hmem name List.mem_cons_self rfl
  have hclaims := perform_claims_of_offends stamps hname
    (fun other hother => claimable_of_not_offends (hgood other hother)) hoffends
  rw [publishSecrets_eq_of_append hsplit, Program.Pass.perform_bind_of_error hclaims,
    Program.Pass.conversation_bind_of_error hclaims]
  exact ⟨rfl, onlyClaimed_tried stamps hsplit fun _ hmem _ => hmem⟩

variable (stamps cls) in
/-- A publication without obstacles fails if there is no registry. -/
theorem refused_without_registry (hgood : ∀ name ∈ secretNames x, ∀ e, ¬ Offends x s name e)
    (hnone : s.registries = []) :
    (perform (serve stamps) (publishSecrets x cls (secretNames x)) s).1 = .error .registryNotFound ∧
      OnlyClaimed x (secretNames x) s
        (perform (serve stamps) (publishSecrets x cls (secretNames x)) s).2
        ((publishSecrets x cls (secretNames x)).run.conversation (serve stamps) s) := by
  have hclaimable : ∀ name ∈ secretNames x, s.Claimable (secretPlace x name) :=
    fun name hname => claimable_of_not_offends (hgood name hname)
  have hclaims : perform (serve stamps)
      ((secretNames x).forM (claim x.metadata.anyNamespace x.metadata.anyName)) s = (.ok (), s.held stamps x) :=
    (perform_claims_ok_iff _ _ _ s _).mpr ⟨hclaimable, rfl⟩
  have hrest : perform (serve stamps) (Call.listRegistries.perform >>= publishListed cls x)
      (s.held stamps x) = (.error .registryNotFound, s.held stamps x) := by
    rw [perform_publish_rest, hnone, perform_publishListed_nil]
  have hheld : s.held stamps x = s.tried stamps x (secretNames x) := (tried_of_claimable hclaimable).symm
  rw [publishSecrets_eq, Program.Pass.perform_bind_of_ok hclaims, hrest,
    Program.Pass.conversation_bind_of_ok hclaims, hheld]
  refine ⟨rfl, onlyClaimed_tried stamps (List.append_nil _).symm fun exchange hmem hwrites => ?_⟩
  rcases List.mem_append.mp hmem with hclaim | hlisting
  · exact hclaim
  · -- after the claims the pass lists the registries, and finds none
    have hempty : (s.tried stamps x (secretNames x)).registries = [] := (else_claimed _ _ s _).1.trans hnone
    rw [Program.Pass.conversation_bind_of_ok (perform_call Call.listRegistries _)] at hlisting
    rcases List.mem_append.mp hlisting with hlist | hthrow
    · rw [List.mem_singleton.mp hlist] at hwrites
      cases hwrites
    · rw [hempty] at hthrow
      cases hthrow

/-- A publication of a live ingress that cannot be complete, as some secret is an obstacle or there is no
registry, publishes nothing: it fails for the first obstacle and does nothing but claim secrets up to that. -/
theorem refused_of_incomplete (stamps : Stamps) (cls : String) {x : Ingress} {s : Cluster}
    (hlive : x.metadata.isDeleting = false) (hnames : tlsSecrets x ≠ [])
    (hincomplete : (∃ name ∈ tlsSecrets x, ∃ e, Offends x s name e) ∨ s.registries = []) :
    ∃ e reached, Blamed x s e reached ∧ (perform (serve stamps) (publish x cls) s).1 = .error e ∧
      OnlyClaimed x reached s (perform (serve stamps) (publish x cls) s).2
        ((publish x cls).run.conversation (serve stamps) s) := by
  rw [← secretNames_eq] at hnames hincomplete
  rcases Isolation.publish_cases cls x with ⟨-, hpublish⟩ | ⟨hother, -⟩
  · rw [hpublish]
    by_cases hoffends : ∃ name ∈ secretNames x, ∃ e, Offends x s name e
    · obtain ⟨before, name, after, hfirst, hbefore, e, hoffends⟩ := exists_first hoffends
      have hgood : ∀ other ∈ before, ∀ f, ¬ Offends x s other f :=
        fun other hother f h => hbefore other hother ⟨f, h⟩
      refine ⟨e, before ++ [name], ?_, refused_by_secret stamps cls hfirst hgood hoffends⟩
      exact .secret before after name e (by rw [← secretNames_eq, hfirst]) hgood hoffends
    · have hgood : ∀ name ∈ secretNames x, ∀ e, ¬ Offends x s name e :=
        fun name hname e h => hoffends ⟨name, hname, e, h⟩
      have hnone := hincomplete.resolve_left hoffends
      refine ⟨_, _, ?_, refused_without_registry stamps cls hgood hnone⟩
      rw [secretNames_eq] at hgood ⊢
      exact .registry hgood hnone
  · exact absurd ⟨hlive, hnames⟩ hother

end Cluster

/-! ## An ingress with a secret that is not usable -/

section Opening

open Trust.Sample

/-- An ingress that names a usable secret, one without keypair and one that is missing. -/
def stand : Ingress := ingress "stand" none ["stand-tls", "bare-tls", "lost-tls"]

/-- Its cluster. The finalizer of another controller is on the secret without keypair. -/
def marketplace : Cluster where
  stored := fun p =>
    if p = ⟨"shop", "bare-tls"⟩ then
      some (withFinalizers { keypair with data := none } ["example.com/backup"])
    else keypairs ["stand-tls"] p
  ingresses := [stand]
  distinct := List.pairwise_singleton _ _
  registries := [registry]
  writes := 0

/-- The secret without keypair is an obstacle. -/
theorem offends_bare : ∃ e, Offends stand marketplace "bare-tls" e :=
  ⟨_, .unusable _ ⟨"shop/bare-tls", .missingKey⟩ rfl rfl rfl⟩

/-- The publication of the ingress, and what it leaves. -/
def noon : Except PassFailure Unit × Cluster :=
  perform (Cluster.serve Stamps.counting) (publish stand cls) marketplace

/-- The publication of the stand is refused for the secret without keypair, after claims only. -/
theorem stand_refused :
    stand.metadata.isDeleting = false ∧ tlsSecrets stand ≠ [] ∧
      (∃ name ∈ tlsSecrets stand, ∃ e, Offends stand marketplace name e) ∧
      ∃ e reached, Blamed stand marketplace e reached ∧ noon.1 = .error e ∧
        OnlyClaimed stand reached marketplace noon.2
          ((publish stand cls).run.conversation (Cluster.serve Stamps.counting) marketplace) := by
  have hnames : tlsSecrets stand ≠ [] := by decide
  have hbare : ∃ name ∈ tlsSecrets stand, ∃ e, Offends stand marketplace name e :=
    ⟨"bare-tls", by decide, offends_bare⟩
  refine ⟨rfl, hnames, hbare, ?_⟩
  exact Cluster.refused_of_incomplete Stamps.counting cls rfl hnames (.inl hbare)

end Opening

end GatewayOperator.Trust
