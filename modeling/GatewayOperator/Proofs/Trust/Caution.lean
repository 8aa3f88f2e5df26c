import GatewayOperator.Proofs.Program.Monitor
import GatewayOperator.Proofs.Trust.Cluster

/-!
# What a publication is careful about

A pass over an ingress keeps two rules, whatever the cluster answers. It takes the finalizer only off
secrets that no other live ingress of its list names, and that its own ingress does not keep in use. And
it succeeds for an ingress in use only if it has found the finalizer on every secret that the ingress
names, or has put it there. Nothing more can be said of a pass alone: whether its list is still up to date
when the finalizer goes is not for the pass to know.
-/

set_option autoImplicit false

namespace GatewayOperator.Trust

open GatewayOperator.Resource

/-- The pass over an ingress: it is published if it is of the class, and else withdrawn. -/
def attend (ingress : Ingress) (cls : String) : Publication Unit :=
  if isTracked ingress cls then publish ingress cls else withdraw ingress cls

/-- What a pass has found out: the ingresses when it last listed them, and the secrets that had the
finalizer when it read or wrote them. -/
structure Findings where
  listing : Option (List Ingress)
  checked : List Place

namespace Findings

/-- The findings of a pass that has made no call. -/
def none : Findings := ⟨.none, []⟩

/-- What a call and its answer add. -/
def note (m : Findings) : (c : Call) → c.Answer → Findings
  | .getSecret ns name, .ok (some secret) =>
    if secret.metadata.hasFinalizer keypairFinalizer then
      { m with checked := ⟨ns, name⟩ :: m.checked }
    else m
  | .addFinalizer copy, .ok () => { m with checked := placeOf copy.metadata :: m.checked }
  | .listIngresses _, .ok ingresses => { m with listing := some ingresses }
  | _, _ => m

/-- Whether a pass may make a call. It lists the ingresses of its own namespace, and of all other calls only
the removal of a finalizer can do harm. -/
def Permits (ingress : Ingress) (cls : String) (m : Findings) : Call → Prop
  | .removeFinalizer copy =>
    copy.metadata.anyNamespace = ingress.metadata.anyNamespace ∧
      (∃ ingresses, m.listing = some ingresses ∧
        isUsed (otherUsers ingress cls ingresses) copy.metadata.anyName = false) ∧
      (IsServed cls ingress → copy.metadata.anyName ∉ secretNames ingress)
  | .listIngresses ns => ns = ingress.metadata.anyNamespace
  | _ => True

/-- Whether a call can get an answer: a secret is read with its place. -/
def Fits : (c : Call) → c.Answer → Prop
  | .getSecret ns name, .ok (some secret) => placeOf secret.metadata = ⟨ns, name⟩
  | _, _ => True

/-- Every secret that the ingress names has been checked, if it keeps them in use. -/
def Complete (ingress : Ingress) (cls : String) (m : Findings) : Prop :=
  IsServed cls ingress → ∀ name ∈ secretNames ingress, secretPlace ingress name ∈ m.checked

/-- What has been checked stays checked. -/
theorem checked_note {m : Findings} {p : Place} (h : p ∈ m.checked) (c : Call) (answer : c.Answer) :
    p ∈ (m.note c answer).checked := by
  unfold note
  split
  · split
    · exact List.mem_cons_of_mem _ h
    · exact h
  · exact List.mem_cons_of_mem _ h
  · exact h
  · exact h

/-- The removal of a finalizer adds nothing to the findings. -/
@[simp]
theorem note_removeFinalizer (m : Findings) (copy : Secret)
    (answer : (Call.removeFinalizer copy).Answer) : m.note (.removeFinalizer copy) answer = m := by
  cases answer <;> rfl

/-- The writing of an entry adds nothing to the findings. -/
@[simp]
theorem note_writeEntry (m : Findings) (registry : ConfigMap) (key : String) (value : Option String)
    (answer : (Call.writeEntry registry key value).Answer) :
    m.note (.writeEntry registry key value) answer = m := by
  cases answer <;> rfl

/-- Only a list of ingresses replaces the last one. -/
theorem listing_note (m : Findings) (c : Call) (answer : c.Answer)
    (hc : ∀ ns, c ≠ .listIngresses ns) : (m.note c answer).listing = m.listing := by
  unfold note
  split
  · split <;> rfl
  · rfl
  · next ns ingresses => exact absurd rfl (hc ns)
  · rfl

end Findings

/-- The monitor of the passes over an ingress. -/
def caution (ingress : Ingress) (cls : String) : Program.Monitor Call.Answer Findings where
  permits := Findings.Permits ingress cls
  fits := Findings.Fits
  note := Findings.note

section Caution

open Program.Pass (onSuccess)

variable {x : Ingress} {cls : String}

/-- A pass obeys the monitor of an ingress, and what it is to find out it has found out if it succeeds. -/
def Careful {α : Type} (x : Ingress) (cls : String) (post : Findings → Prop) (p : Publication α)
    (m : Findings) : Prop :=
  p.run.Obeys (caution x cls) (onSuccess fun _ => post) m

/-- A sequence is careful if its parts are, the second one with what the first has found out. -/
theorem Careful.bind {α β : Type} {between post : Findings → Prop} {p : Publication α}
    {f : α → Publication β} {m : Findings} (hp : Careful x cls between p m)
    (hf : ∀ a m, between m → Careful x cls post (f a) m) : Careful x cls post (p >>= f) m :=
  Program.Pass.obeys_bind hp hf

/-- A call that is permitted is careful, if its answer leaves what is to be found out. -/
theorem careful_perform {c : Call} {post : Findings → Prop} {m : Findings}
    (h : Findings.Permits x cls m c)
    (hpost : ∀ r, Findings.Fits c (.ok r) → post (m.note c (.ok r))) :
    Careful x cls post c.perform m := by
  refine ⟨h, fun answer hfits => ?_⟩
  cases answer with
  | ok r => exact hpost r hfits
  | error failure => trivial

/-- A call that is permitted may be followed by a pass that is careful after every answer. -/
theorem careful_perform_bind {α : Type} {c : Call} {f : c.Result → Publication α}
    {post : Findings → Prop} {m : Findings} (h : Findings.Permits x cls m c)
    (hf : ∀ r, Findings.Fits c (.ok r) → Careful x cls post (f r) (m.note c (.ok r))) :
    Careful x cls post (c.perform >>= f) m := by
  refine ⟨h, fun answer hfits => ?_⟩
  cases answer with
  | ok r => exact hf r hfits
  | error failure => trivial

/-- A pass without calls is careful, and finds out nothing more. -/
theorem careful_pure {post : Findings → Prop} {m : Findings} (h : post m) :
    Careful x cls post (pure ()) m := h

/-- A pass that fails is careful. -/
theorem careful_throw {α : Type} {post : Findings → Prop} {m : Findings} (e : PassFailure) :
    Careful x cls post (throw e : Publication α) m := trivial

/-- Whatever else a careful pass finds out, what had been checked before stays so. -/
theorem Careful.keeping {α : Type} {post : Findings → Prop} {p : Publication α} {m : Findings}
    (h : Careful x cls post p m) {names : List String}
    (hm : ∀ name ∈ names, secretPlace x name ∈ m.checked) :
    Careful x cls (fun found => post found ∧ ∀ name ∈ names, secretPlace x name ∈ found.checked) p
      m := by
  have hkept := Program.Obeys.carry h
    (fun found c answer (hf : ∀ name ∈ names, secretPlace x name ∈ found.checked) name hname =>
      Findings.checked_note (hf name hname) c answer) hm
  refine hkept.mono fun r found hr => ?_
  cases r with
  | ok a => exact hr
  | error failure => trivial

/-- Putting the finalizer on a secret that was just read leaves it checked. -/
theorem careful_attach {p : Place} {secret : Secret} (hplace : placeOf secret.metadata = p)
    (m : Findings) :
    Careful x cls (fun found => p ∈ found.checked) (attach secret)
      (m.note (.getSecret p.ns p.name) (.ok (some secret))) := by
  unfold attach
  by_cases hhas : secret.metadata.hasFinalizer keypairFinalizer = true
  · -- it was checked when it was read
    rw [if_pos hhas]
    refine careful_pure ?_
    simp only [Findings.note, hhas, if_true]
    exact List.mem_cons_self
  · rw [if_neg hhas]
    refine careful_perform trivial fun _ _ => ?_
    rw [← hplace]
    exact List.mem_cons_self

/-- A claim that succeeds has checked its secret. -/
theorem careful_claim (ingress name : String) (m : Findings) :
    Careful x cls (fun found => secretPlace x name ∈ found.checked)
      (claim x.metadata.anyNamespace ingress name) m := by
  refine careful_perform_bind trivial fun secret hfits => ?_
  cases secret with
  | none => exact careful_throw _
  | some secret =>
    by_cases hdeleting : secret.metadata.isDeleting = true
    · simp only [hdeleting, if_true]
      exact careful_throw _
    · simp only [hdeleting]
      refine (careful_attach hfits m).bind fun _ found hfound => ?_
      cases Tls.validate secret with
      | ok u => exact careful_pure hfound
      | error fault => exact careful_throw _

/-- Claims that succeed have checked all their secrets. -/
theorem careful_claims (ingress : String) (names : List String) (m : Findings) :
    Careful x cls (fun found => ∀ name ∈ names, secretPlace x name ∈ found.checked)
      (names.forM (claim x.metadata.anyNamespace ingress)) m := by
  refine Program.Pass.obeys_forM
    (fun names found => ∀ name ∈ names, secretPlace x name ∈ found.checked)
    ?_ names [] m (List.forall_mem_nil _)
  intro before name m hm
  refine ((careful_claim ingress name m).keeping hm).mono fun r found hr => ?_
  cases r with
  | error failure => trivial
  | ok u =>
    obtain ⟨hname, hbefore⟩ := hr
    intro other hother
    rcases List.mem_append.mp hother with hother | hother
    · exact hbefore other hother
    · rw [List.mem_singleton.mp hother]
      exact hname

/-- Taking the finalizer off a secret that was just read is careful, if the ingress does not keep it in
use and no other ingress of the list does. -/
theorem careful_detach {ingresses : List Ingress} {name : String} {secret : Secret} {m : Findings}
    (hplace : placeOf secret.metadata = secretPlace x name)
    (hname : IsServed cls x → name ∉ secretNames x)
    (hunused : isUsed (otherUsers x cls ingresses) name = false)
    (hm : m.listing = some ingresses) :
    Careful x cls (fun found => found.listing = some ingresses) (detach secret) m := by
  obtain ⟨hns, hanyName⟩ := Place.mk.inj hplace
  unfold detach
  by_cases hhas : secret.metadata.hasFinalizer keypairFinalizer = true
  · rw [if_pos hhas]
    refine careful_perform ⟨hns, ⟨ingresses, hm, ?_⟩, fun hserved => ?_⟩ fun _ _ => hm
    · rw [hanyName]
      exact hunused
    · rw [hanyName]
      exact hname hserved
  · rw [if_neg hhas]
    exact careful_pure hm

/-- A release takes the finalizer only from a secret that is not used, if it is none that the ingress
keeps in use. -/
theorem careful_releaseOne {ingresses : List Ingress} {name : String}
    (hname : IsServed cls x → name ∉ secretNames x) {m : Findings} (hm : m.listing = some ingresses) :
    Careful x cls (fun found => found.listing = some ingresses)
      (releaseOne x.metadata.anyNamespace (otherUsers x cls ingresses) name) m := by
  unfold releaseOne
  by_cases hused : isUsed (otherUsers x cls ingresses) name = true
  · rw [if_pos hused]
    exact careful_pure hm
  · rw [if_neg hused]
    rw [Bool.not_eq_true] at hused
    refine careful_perform_bind trivial fun secret hfits => ?_
    have hlisting := Findings.listing_note m (.getSecret x.metadata.anyNamespace name) (.ok secret)
      (fun ns h => by cases h)
    rw [hm] at hlisting
    cases secret with
    | none => exact careful_pure hlisting
    | some secret => exact careful_detach hfits hname hused hlisting

/-- A release is careful if no candidate is kept in use by the ingress itself. -/
theorem careful_release {candidates : List String}
    (h : IsServed cls x → ∀ name ∈ candidates, name ∉ secretNames x) (m : Findings) :
    Careful x cls (fun _ => True) (release x cls candidates) m := by
  -- the list stays the same throughout the loop
  have hloop : ∀ (ingresses : List Ingress) (names : List String),
      (∀ name ∈ names, name ∈ candidates) → ∀ m : Findings, m.listing = some ingresses →
        Careful x cls (fun _ => True)
          (names.forM (releaseOne x.metadata.anyNamespace (otherUsers x cls ingresses))) m := by
    intro ingresses names
    induction names with
    | nil => exact fun _ m _ => careful_pure trivial
    | cons name rest ih =>
      intro hmem m hm
      have hname : IsServed cls x → name ∉ secretNames x := fun hserved =>
        h hserved name (hmem name List.mem_cons_self)
      refine (careful_releaseOne hname hm).bind fun _ found hfound => ?_
      exact ih (fun other hother => hmem other (List.mem_cons_of_mem _ hother)) found hfound
  cases candidates with
  | nil => exact careful_pure trivial
  | cons name more =>
    refine careful_perform_bind rfl fun ingresses _ => ?_
    exact hloop ingresses (name :: more) (fun _ hmem => hmem) _ rfl

/-- The writing of entries is careful. -/
theorem careful_writeEntries (value : Option String) (registries : List ConfigMap) (m : Findings) :
    Careful x cls (fun _ => True) (writeEntries x value registries) m := by
  refine Program.Pass.obeys_forM (fun _ _ => True) ?_ registries [] m trivial
  intro before registry found _
  have hwrite : Findings.Permits x cls found (.writeEntry registry (entryKeyOf x) value) := trivial
  exact careful_perform hwrite fun _ _ => trivial

/-- A withdrawal from registries is careful if the ingress keeps no secrets in use. -/
theorem careful_withdrawFrom (h : IsServed cls x → secretNames x = []) (registries : List ConfigMap)
    (m : Findings) : Careful x cls (Findings.Complete x cls) (withdrawFrom x cls registries) m := by
  have hnone : IsServed cls x → ∀ names : List String, ∀ name ∈ names, name ∉ secretNames x := by
    intro hserved names name _
    rw [h hserved]
    exact List.not_mem_nil
  refine (careful_release (fun hserved => hnone hserved _) _).bind fun _ found _ => ?_
  refine (careful_writeEntries none _ found).mono fun r found _ => ?_
  cases r with
  | error failure => trivial
  | ok u =>
    intro hserved name hname
    rw [h hserved] at hname
    exact absurd hname List.not_mem_nil

/-- So is a withdrawal, whatever it finds out about the registries. -/
theorem careful_withdraw (h : IsServed cls x → secretNames x = []) (m : Findings) :
    Careful x cls (Findings.Complete x cls) (withdraw x cls) m := by
  unfold Careful
  rw [run_withdraw]
  refine ⟨trivial, fun answer _ => ?_⟩
  rcases withdrawAnswered_cases x cls answer with ⟨registries, heq⟩ | ⟨failure, -, heq⟩
  · simp only [heq]
    exact careful_withdrawFrom h registries _
  · simp only [heq]
    exact careful_throw failure

/-- Publishing the secrets that an ingress names is careful. -/
theorem careful_publishSecrets (m : Findings) :
    Careful x cls (Findings.Complete x cls) (publishSecrets x cls (secretNames x)) m := by
  refine (careful_claims x.metadata.anyName (secretNames x) m).bind fun _ found hfound => ?_
  rw [registriesFor_bind]
  refine careful_perform_bind trivial fun all _ => ?_
  have hall : ∀ name ∈ secretNames x,
      secretPlace x name ∈ (found.note .listRegistries (.ok all)).checked := hfound
  by_cases hempty : all.isEmpty = true
  · simp only [hempty, if_true]
    exact careful_throw _
  · simp only [hempty]
    refine ((careful_writeEntries _ _ _).keeping hall).bind fun _ found hfound => ?_
    -- what was dropped is not named
    have hdropped : IsServed cls x → ∀ name ∈ (publishedSecrets (ofClass cls all) x).filter
        (fun name => !(secretNames x).contains name), name ∉ secretNames x := by
      intro _ name hname
      have := (List.mem_filter.mp hname).2
      simpa using this
    refine ((careful_release hdropped found).keeping hfound.2).mono fun r found hr => ?_
    cases r with
    | error failure => trivial
    | ok u => exact fun _ => hr.2

/-- A pass over an ingress takes the finalizer only off secrets that neither its own ingress nor any other
of its list keeps in use, and if it succeeds it has found or put the finalizer on all that the ingress
keeps in use. -/
theorem careful_attend (x : Ingress) (cls : String) (m : Findings) :
    Careful x cls (Findings.Complete x cls) (attend x cls) m := by
  unfold attend
  cases htracked : isTracked x cls with
  | false =>
    refine careful_withdraw (fun hserved => ?_) m
    rw [hserved.2] at htracked
    cases htracked
  | true =>
    show Careful x cls (Findings.Complete x cls) (publish x cls) m
    unfold publish
    cases hdeleting : x.metadata.isDeleting with
    | true =>
      refine careful_withdraw (fun hserved => ?_) m
      rw [hserved.1] at hdeleting
      cases hdeleting
    | false =>
      cases hnames : secretNames x with
      | nil => exact careful_withdraw (fun _ => hnames) m
      | cons name more =>
        have h : Careful x cls (Findings.Complete x cls)
            (publishSecrets x cls (secretNames x)) m := careful_publishSecrets m
        rwa [hnames] at h

end Caution

end GatewayOperator.Trust
