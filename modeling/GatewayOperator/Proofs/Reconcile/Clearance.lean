import GatewayOperator.Proofs.Program.Monitor
import GatewayOperator.Proofs.Reconcile.Ingress
import GatewayOperator.Proofs.Trust.Contention
import GatewayOperator.Proofs.Trust.Effect

/-!
# What a pass over an ingress clears

A pass over an ingress keeps two rules, whatever it is answered. It replaces a registry only while the ingress carries
the finalizer, only by a copy that it has read with nothing but its own entry changed, and only if it has listed that
registry. And it takes the finalizer off only after it has removed its entry from every registry of the class that it
has listed. This holds for a dying ingress of the class as well as for one that moved to another class.
-/

set_option autoImplicit false

namespace GatewayOperator.Reconcile

open GatewayOperator.Resource
open Program (Asks)
open Trust (Place placeOf entryKeyOf ofClass)

/-! ## Publications, part by part -/

section Parts

variable {α β : Type}

/-- A sequence is carried out part by part. -/
theorem trust_bind (p : Trust.Publication α) (f : α → Trust.Publication β) :
    trust (p >>= f) = trust p >>= fun a => trust (f a) := by
  show (p.run.bind (Program.Pass.andThen f)).interpret ofTrust = _
  rw [Program.interpret_bind]
  show _ = (p.run.interpret ofTrust).bind (Program.Pass.andThen fun a => trust (f a))
  congr 1
  funext result
  cases result <;> rfl

/-- A call is carried out by the calls of the cluster that it stands for. -/
theorem trust_perform (c : Trust.Call) : trust c.perform = ExceptT.mk (ofTrust c) :=
  Program.bind_done_right (ofTrust c)

/-- A loop is carried out round by round. -/
theorem trust_forM (f : α → Trust.Publication PUnit) (xs : List α) :
    trust (xs.forM f) = xs.forM fun a => trust (f a) := by
  induction xs with
  | nil => rfl
  | cons x rest ih =>
    show trust (f x >>= fun _ => rest.forM f) = trust (f x) >>= fun _ => rest.forM fun a => trust (f a)
    rw [trust_bind, ih]

end Parts

end Reconcile

namespace Trust

open GatewayOperator.Resource

/-- Whether a call leaves the registries alone. -/
def Call.SparesRegistries : Call → Prop
  | .listRegistries => False
  | .writeEntry _ _ _ => False
  | _ => True

/-- A release leaves the registries alone. -/
theorem asks_release (ingress : Ingress) (cls : String) (candidates : List String) :
    (release ingress cls candidates).run.Asks Call.SparesRegistries := by
  have hone (users : List Ingress) (name : String) :
      (releaseOne ingress.metadata.anyNamespace users name).run.Asks Call.SparesRegistries := by
    unfold releaseOne
    cases isUsed users name with
    | true => trivial
    | false =>
      refine Program.Pass.asks_bind (asks_perform trivial) fun found => ?_
      cases found with
      | none => trivial
      | some secret =>
        show (detach secret).run.Asks Call.SparesRegistries
        unfold detach
        cases secret.metadata.hasFinalizer keypairFinalizer with
        | true => exact asks_perform trivial
        | false => trivial
  cases candidates with
  | nil => trivial
  | cons name more =>
    exact Program.Pass.asks_bind (asks_perform trivial) fun ingresses =>
      Program.Pass.asks_forM fun name _ => hone _ name

end Trust

namespace Reconcile

open GatewayOperator.Resource
open Program (Asks)
open Program.Pass (onSuccess)
open Trust (Place placeOf entryKeyOf ofClass)

/-! ## The rules -/

/-- What a pass has found out and done: the copies of registries that it has read, the registries that it has listed,
the places of those without its entry since it was removed there, and whether it has tried to take the finalizer
off. -/
structure Clearing where
  seen : List ConfigMap
  listing : Option (List ConfigMap)
  cleared : List Place
  gone : Bool

namespace Clearing

/-- A pass that has made no call. -/
def none : Clearing := ⟨[], .none, [], false⟩

/-- What a call of a pass over an ingress and its answer add. A replacement that sets the entry may take effect
whatever the answer is. -/
def note (x : Resource.Ingress) (m : Clearing) : (c : Call) → c.Answer → Clearing
  | .cluster .registries, .ok all => { m with seen := all ++ m.seen, listing := some all }
  | .cluster (.registry _ _), .ok fresh => { m with seen := fresh :: m.seen }
  | .cluster (.replaceRegistry r), .ok _ =>
    if Trust.Registry.entry? r (entryKeyOf x) = .none then
      { m with cleared := placeOf r.metadata :: m.cleared }
    else { m with cleared := [] }
  | .cluster (.replaceRegistry r), .error _ =>
    if Trust.Registry.entry? r (entryKeyOf x) = .none then m else { m with cleared := [] }
  | .cluster (.setIngressFinalizers _ _), _ => { m with gone := true }
  | .cluster (.changeFinalizers _ _ _ (.detach _ _)), _ => { m with gone := true }
  | _, _ => m

/-- Whether the finalizer is still there, as far as the pass knows. -/
def Holds (x : Resource.Ingress) (m : Clearing) : Prop :=
  x.metadata.hasFinalizer Ingress.finalizer = true ∧ m.gone = false

/-- Whether a registry of the class was listed at a place. -/
def Lists (cls : String) (m : Clearing) (p : Place) : Prop :=
  ∃ all, m.listing = some all ∧ ∃ listed ∈ ofClass cls all, placeOf listed.metadata = p

/-- Whether the entry was removed from all registries of the class that were listed. -/
def Complete (cls : String) (m : Clearing) : Prop :=
  ∃ all, m.listing = some all ∧ ∀ listed ∈ ofClass cls all, placeOf listed.metadata ∈ m.cleared

/-- Whether a pass over an ingress may make a call. -/
def Permits (x : Resource.Ingress) (cls : String) (m : Clearing) : Call → Prop
  | .cluster (.replaceRegistry r) =>
    m.Holds x ∧ m.Lists cls (placeOf r.metadata) ∧
      ∃ copy ∈ m.seen, ∃ value now, r = Trust.Registry.setEntry copy (entryKeyOf x) value now
  | .cluster (.setIngressFinalizers stored _) =>
    m.Holds x ∧ m.Complete cls ∧ placeOf stored = placeOf x.metadata
  | .cluster (.changeFinalizers _ ns name (.detach _ _)) =>
    m.Holds x ∧ m.Complete cls ∧ ⟨ns, name⟩ = placeOf x.metadata
  | _ => True

/-- Whether a call can get an answer: a registry is read with its place. -/
def Fits : (c : Call) → c.Answer → Prop
  | .cluster (.registry ns name), .ok fresh => placeOf fresh.metadata = ⟨ns, name⟩
  | _, _ => True

end Clearing

/-- The monitor of the passes over an ingress. -/
def clearance (x : Resource.Ingress) (cls : String) : Program.Monitor Call.Answer Clearing where
  permits := Clearing.Permits x cls
  fits := Clearing.Fits
  note := Clearing.note x

/-! ## Calls that need no permission -/

/-- Whether a call has nothing to do with registries, nor takes a finalizer off an ingress. -/
def SparesRegistries : Call → Prop
  | .cluster .registries => False
  | .cluster (.registry _ _) => False
  | .cluster (.replaceRegistry _) => False
  | .cluster (.setIngressFinalizers _ _) => False
  | .cluster (.changeFinalizers _ _ _ (.detach _ _)) => False
  | _ => True

section Rules

variable {x : Resource.Ingress} {cls : String} {m : Clearing}

/-- A call that has nothing to do with registries is permitted and adds nothing to the record. -/
theorem permits_of_spares (x : Resource.Ingress) (cls : String) (m : Clearing) {c : Call}
    (h : SparesRegistries c) : Clearing.Permits x cls m c ∧ ∀ answer, Clearing.note x m c answer = m := by
  cases c with
  | cluster c =>
    cases c with
    | registries => exact h.elim
    | registry ns name => exact h.elim
    | replaceRegistry r => exact h.elim
    | setIngressFinalizers stored finalizers => exact h.elim
    | changeFinalizers controller ns name change =>
      cases change with
      | attach seen finalizer => exact ⟨trivial, fun _ => rfl⟩
      | detach index finalizer => exact h.elim
    | _ => exact ⟨trivial, fun _ => rfl⟩
  | _ => exact ⟨trivial, fun _ => rfl⟩

/-- A program of such calls leaves the record as it is. -/
theorem obeys_of_spares {α : Type} {p : Work α} (h : p.Asks SparesRegistries) :
    p.Obeys (clearance x cls) (fun _ found => found = m) m := by
  induction p with
  | done a => rfl
  | ask c next ih =>
    obtain ⟨hpermits, hnote⟩ := permits_of_spares x cls m h.1
    refine ⟨hpermits, fun answer _ => ?_⟩
    show (next answer).Obeys (clearance x cls) _ (Clearing.note x m c answer)
    rw [hnote answer]
    exact ih answer (h.2 answer)

/-- A pass that has nothing to do with registries obeys. -/
theorem obeys_of_spares_pass {α : Type} {p : Pass α} (h : p.run.Asks SparesRegistries) :
    p.run.Obeys (clearance x cls) (onSuccess fun _ _ => True) m :=
  (obeys_of_spares h).mono fun result _ _ => by cases result <;> trivial

/-- A pass of such calls may stand before any other that starts from the same record. -/
theorem obeys_spares_bind {α β : Type} {post : β → Clearing → Prop} {p : Pass α} {f : α → Pass β}
    (hp : p.run.Asks SparesRegistries) (hf : ∀ a, (f a).run.Obeys (clearance x cls) (onSuccess post) m) :
    (p >>= f).run.Obeys (clearance x cls) (onSuccess post) m := by
  rw [Program.Pass.run_bind, Program.obeys_bind]
  refine (obeys_of_spares hp).mono ?_
  rintro result _ rfl
  cases result with
  | ok a => exact hf a
  | error e => trivial

/-- A call of the cluster may stand before any pass that starts from what is noted of its success. -/
theorem obeys_cluster_bind {β : Type} {post : β → Clearing → Prop} {c : Cluster.Call} {f : c.Result → Pass β}
    (hc : Clearing.Permits x cls m (.cluster c))
    (hf : ∀ r, Clearing.Fits (.cluster c) (.ok r) →
      (f r).run.Obeys (clearance x cls) (onSuccess post) (Clearing.note x m (.cluster c) (.ok r))) :
    (cluster c >>= f).run.Obeys (clearance x cls) (onSuccess post) m := by
  refine ⟨hc, fun answer hfits => ?_⟩
  cases answer with
  | ok r => exact hf r hfits
  | error refusal => trivial

/-- A publication that leaves the registries alone has nothing to do with them in the cluster. -/
theorem trust_spares {α : Type} {p : Trust.Publication α} (h : p.run.Asks Trust.Call.SparesRegistries) :
    (trust p).run.Asks SparesRegistries := by
  refine h.interpret fun c hc => ?_
  cases c with
  | getSecret ns name => exact asks_cluster trivial
  | addFinalizer secret => exact asks_cluster trivial
  | removeFinalizer secret => exact asks_cluster trivial
  | listIngresses ns => exact asks_cluster trivial
  | listRegistries => exact hc.elim
  | writeEntry registry key value => exact hc.elim

/-! ## Writing entries -/

/-- What the writing of an entry keeps of the record. -/
structure Clearing.Kept (m found : Clearing) : Prop where
  seen : ∀ copy ∈ m.seen, copy ∈ found.seen
  listing : found.listing = m.listing
  gone : found.gone = m.gone

/-- A record keeps itself. -/
theorem Clearing.Kept.refl (m : Clearing) : m.Kept m := ⟨fun _ h => h, rfl, rfl⟩

/-- What is kept twice in a row is kept. -/
theorem Clearing.Kept.trans {m found later : Clearing} (h : m.Kept found) (h' : found.Kept later) :
    m.Kept later where
  seen := fun copy hcopy => h'.seen copy (h.seen copy hcopy)
  listing := h'.listing.trans h.listing
  gone := h'.gone.trans h.gone

/-- A record that is kept still holds the finalizer. -/
theorem Clearing.Kept.holds {m found : Clearing} (h : m.Kept found) (hm : m.Holds x) : found.Holds x :=
  ⟨hm.1, h.gone.trans hm.2⟩

/-- A record that is kept still lists the registries. -/
theorem Clearing.Kept.lists {m found : Clearing} (h : m.Kept found) {p : Place} (hm : m.Lists cls p) :
    found.Lists cls p := by
  obtain ⟨all, hall, hlisted⟩ := hm
  exact ⟨all, h.listing.trans hall, hlisted⟩

/-- What a replacement of a registry adds to the record: an entry that it removes may be cleared, and after one that it
sets nothing is. -/
structure Clearing.Replaced (x : Resource.Ingress) (r : ConfigMap) (m found : Clearing) : Prop where
  seen : found.seen = m.seen
  listing : found.listing = m.listing
  gone : found.gone = m.gone
  cleared : ∀ q ∈ found.cleared,
    Trust.Registry.entry? r (entryKeyOf x) = .none ∧ (q ∈ m.cleared ∨ q = placeOf r.metadata)
  still : Trust.Registry.entry? r (entryKeyOf x) = .none → ∀ q ∈ m.cleared, q ∈ found.cleared

/-- A replacement adds to the record what it did to its entry. -/
theorem replaced_note (r : ConfigMap) (answer : Except Kube.Failure ConfigMap) :
    Clearing.Replaced x r m (m.note x (.cluster (.replaceRegistry r)) answer) := by
  by_cases hentry : Trust.Registry.entry? r (entryKeyOf x) = none
  · cases answer with
    | ok stored =>
      simp only [Clearing.note, hentry, if_true]
      exact ⟨rfl, rfl, rfl, fun q hq => ⟨hentry, (List.mem_cons.mp hq).symm⟩, fun _ q => List.mem_cons_of_mem _⟩
    | error failure =>
      simp only [Clearing.note, hentry, if_true]
      exact ⟨rfl, rfl, rfl, fun q hq => ⟨hentry, .inl hq⟩, fun _ q hq => hq⟩
  · cases answer with
    | ok stored =>
      simp only [Clearing.note, hentry, if_false]
      exact ⟨rfl, rfl, rfl, fun q hq => absurd hq List.not_mem_nil, fun hnone => absurd hnone hentry⟩
    | error failure =>
      simp only [Clearing.note, hentry, if_false]
      exact ⟨rfl, rfl, rfl, fun q hq => absurd hq List.not_mem_nil, fun hnone => absurd hnone hentry⟩

/-- A replacement keeps the record. -/
theorem Clearing.Replaced.kept {r : ConfigMap} {found : Clearing} (h : Clearing.Replaced x r m found) :
    m.Kept found :=
  ⟨fun _ hcopy => h.seen.symm ▸ hcopy, h.listing, h.gone⟩

/-- What the writing of an entry leaves, given the place of the registry: an entry that was removed is cleared there,
besides all that was cleared before. -/
def Written (value : Option String) (p : Place) (m : Clearing) (found : Clearing) : Prop :=
  m.Kept found ∧ (value = none → p ∈ found.cleared ∧ ∀ q ∈ m.cleared, q ∈ found.cleared)

/-- What was kept before an entry is written counts as kept by the writing. -/
theorem Written.of_kept {value : Option String} {p : Place} {m between found : Clearing} (h : m.Kept between)
    (hcleared : value = none → ∀ q ∈ m.cleared, q ∈ between.cleared) (hfound : Written value p between found) :
    Written value p m found := by
  refine ⟨h.trans hfound.1, fun hnone => ?_⟩
  obtain ⟨hplace, hkept⟩ := hfound.2 hnone
  exact ⟨hplace, fun q hq => hkept q (hcleared hnone q hq)⟩

/-- The writer of an entry obeys, from a copy that the pass has read. Every attempt starts from a copy that has been
read, because a refused one is followed by a fresh read. -/
theorem obeys_writeFrom {ns name : String} {value : Option String} (hholds : m.Holds x)
    (hlists : m.Lists cls ⟨ns, name⟩) (left : Nat) {copy : ConfigMap} (hcopy : copy ∈ m.seen)
    (hplace : placeOf copy.metadata = ⟨ns, name⟩) :
    ((Trust.Entry.writeFrom ns name (entryKeyOf x) value left copy).run.interpret ofEntry).Obeys
      (clearance x cls) (onSuccess fun _ => Written value ⟨ns, name⟩ m) m := by
  induction left generalizing m copy with
  | zero =>
    rw [Trust.Entry.writeFrom_zero]
    trivial
  | succ left ih =>
    rw [Trust.Entry.writeFrom_succ]
    refine ⟨trivial, fun now _ => ?_⟩
    have hentry : Trust.Registry.entry? (Trust.Registry.setEntry copy (entryKeyOf x) value now) (entryKeyOf x) =
        value := by
      rw [Trust.Registry.entry?_setEntry, if_pos rfl]
    have hsame : placeOf (Trust.Registry.setEntry copy (entryKeyOf x) value now).metadata = ⟨ns, name⟩ := hplace
    refine ⟨⟨hholds, hsame ▸ hlists, copy, hcopy, value, now, rfl⟩, fun answer _ => ?_⟩
    have hreplaced : Clearing.Replaced x _ m (Clearing.note x m _ answer) :=
      replaced_note (Trust.Registry.setEntry copy (entryKeyOf x) value now) answer
    cases answer with
    | ok r =>
      refine ⟨hreplaced.kept, ?_⟩
      rintro rfl
      refine ⟨?_, hreplaced.still hentry⟩
      show _ ∈ (Clearing.note x m (.cluster (.replaceRegistry _)) (.ok r)).cleared
      simp only [Clearing.note, hentry, hsame, if_true]
      exact List.mem_cons_self
    | error refusal =>
      show ((Trust.Entry.afterReplace ns name (entryKeyOf x) value left (.error refusal)).interpret ofEntry).Obeys
        (clearance x cls) _ (Clearing.note x m (.cluster (.replaceRegistry _)) (.error refusal))
      generalize Clearing.note x m (.cluster (.replaceRegistry _)) (.error refusal) = refused at hreplaced ⊢
      by_cases hconflict : refusal.isConflict = true
      · simp only [Trust.Entry.afterReplace, hconflict, if_true]
        refine ⟨trivial, fun answer hfits => ?_⟩
        cases answer with
        | error unread => trivial
        | ok fresh =>
          -- the next attempt starts from what was read just now
          have hread : refused.Kept { refused with seen := fresh :: refused.seen } :=
            ⟨fun _ h => List.mem_cons_of_mem _ h, rfl, rfl⟩
          have hall := hreplaced.kept.trans hread
          refine (ih (hall.holds hholds) (hall.lists hlists) List.mem_cons_self hfits).mono ?_
          intro result found hfound
          cases result with
          | ok _ => exact hfound.of_kept hall fun hnone => hreplaced.still (hentry.trans hnone)
          | error _ => trivial
      · simp only [Trust.Entry.afterReplace, hconflict]
        trivial

/-- Setting or removing the entry in listed registries, of each of which a copy has been read, obeys. -/
theorem obeys_writeEntries {value : Option String} (hholds : m.Holds x) (registries : List ConfigMap)
    (hregistries : ∀ r ∈ registries, r ∈ m.seen ∧ m.Lists cls (placeOf r.metadata)) :
    (trust (Trust.writeEntries x value registries)).run.Obeys (clearance x cls)
      (onSuccess fun _ found => m.Kept found ∧
        (value = none → ∀ r ∈ registries, placeOf r.metadata ∈ found.cleared)) m := by
  rw [Trust.writeEntries, trust_forM]
  -- the loop keeps what it has cleared so far, since a later removal takes nothing back
  have hloop : ∀ (rest before : List ConfigMap) (found : Clearing), (∀ r ∈ rest, r ∈ registries) →
      (m.Kept found ∧ (value = none → ∀ r ∈ before, placeOf r.metadata ∈ found.cleared)) →
      (rest.forM fun r => trust (Trust.Call.writeEntry r (entryKeyOf x) value).perform).run.Obeys
        (clearance x cls) (onSuccess fun _ found => m.Kept found ∧
          (value = none → ∀ r ∈ before ++ rest, placeOf r.metadata ∈ found.cleared)) found := by
    intro rest
    induction rest with
    | nil =>
      intro before found _ hfound
      rw [List.append_nil]
      exact hfound
    | cons r rest ih =>
      rintro before found hrest ⟨hkept, hcleared⟩
      obtain ⟨hseen, hlists⟩ := hregistries r (hrest r List.mem_cons_self)
      have hwrite : (trust (Trust.Call.writeEntry r (entryKeyOf x) value).perform).run.Obeys (clearance x cls)
          (onSuccess fun _ => Written value (placeOf r.metadata) found) found := by
        rw [trust_perform]
        exact obeys_writeFrom (hkept.holds hholds) (hkept.lists hlists) _ (hkept.seen r hseen) rfl
      refine Program.Pass.obeys_bind hwrite fun _ later hlater => ?_
      have hnext := ih (before ++ [r]) later (fun other hother => hrest other (List.mem_cons_of_mem r hother))
        ⟨hkept.trans hlater.1, fun hnone other hother => ?_⟩
      · rwa [List.append_assoc, List.singleton_append] at hnext
      · obtain ⟨hplace, hbefore⟩ := hlater.2 hnone
        rcases List.mem_append.mp hother with hother | hother
        · exact hbefore _ (hcleared hnone other hother)
        · rw [List.mem_singleton.mp hother]
          exact hplace
  exact hloop registries [] m (fun _ h => h) ⟨.refl m, fun _ _ h => absurd h List.not_mem_nil⟩

/-! ## Withdrawals and publications -/

/-- The finalizer is still there when the registries are listed. -/
theorem Clearing.Holds.listed (h : m.Holds x) (all : List ConfigMap) :
    (Clearing.note x m (.cluster .registries) (.ok all)).Holds x := h

/-- Of each registry that was just listed a copy has been read. -/
theorem listed_of_mem (all : List ConfigMap) :
    ∀ r ∈ ofClass cls all, r ∈ (Clearing.note x m (.cluster .registries) (.ok all)).seen ∧
      (Clearing.note x m (.cluster .registries) (.ok all)).Lists cls (placeOf r.metadata) :=
  fun r hr => ⟨List.mem_append_left m.seen (List.mem_filter.mp hr).1, all, rfl, r, hr, rfl⟩

/-- After a withdrawal that succeeds the entry is removed from all registries of the class that were listed. -/
theorem obeys_withdraw (hholds : m.Holds x) :
    (trust (Trust.withdraw x cls)).run.Obeys (clearance x cls)
      (onSuccess fun _ found => found.Holds x ∧ found.Complete cls) m := by
  show ((Trust.withdraw x cls).run.interpret ofTrust).Obeys _ _ m
  rw [Trust.run_withdraw]
  refine ⟨trivial, fun answer _ => ?_⟩
  cases answer with
  | error refusal => trivial
  | ok all =>
    have hnoted := hholds.listed all
    show (trust (Trust.withdrawFrom x cls (ofClass cls all))).run.Obeys _ _ _
    rw [Trust.withdrawFrom, trust_bind]
    refine obeys_spares_bind (trust_spares (Trust.asks_release _ _ _)) fun _ => ?_
    refine (obeys_writeEntries hnoted (ofClass cls all) (listed_of_mem all)).mono ?_
    rintro result found hfound
    cases result with
    | error _ => trivial
    | ok _ =>
      obtain ⟨hkept, hcleared⟩ := hfound
      exact ⟨hkept.holds hnoted, all, hkept.listing, hcleared rfl⟩

/-- The publication of secrets obeys while the finalizer is there. -/
theorem obeys_publishSecrets (hholds : m.Holds x) (names : List String) :
    (trust (Trust.publishSecrets x cls names)).run.Obeys (clearance x cls) (onSuccess fun _ _ => True) m := by
  rw [Trust.publishSecrets, trust_bind]
  have hclaims : (names.forM (Trust.claim x.metadata.anyNamespace x.metadata.anyName)).run.Asks
      Trust.Call.SparesRegistries :=
    Program.Pass.asks_forM fun _ _ => Trust.asks_claim trivial fun _ => trivial
  refine obeys_spares_bind (trust_spares hclaims) fun _ => ?_
  rw [Trust.registriesFor_bind, trust_bind, trust_perform]
  refine obeys_cluster_bind trivial fun all _ => ?_
  by_cases hempty : all.isEmpty = true
  · simp only [hempty, if_true]
    trivial
  simp only [hempty]
  show (trust (Trust.writeEntries x _ (ofClass cls all) >>= fun _ => Trust.release x cls _)).run.Obeys _ _ _
  rw [trust_bind]
  refine Program.Pass.obeys_bind
    (obeys_writeEntries (hholds.listed all) (ofClass cls all) (listed_of_mem all)) fun _ found _ => ?_
  exact obeys_of_spares_pass (trust_spares (Trust.asks_release _ _ _))

/-- A publication obeys while the finalizer is there. -/
theorem obeys_publish (hholds : m.Holds x) :
    (trust (Trust.publish x cls)).run.Obeys (clearance x cls) (onSuccess fun _ _ => True) m := by
  have hwithdraw : (trust (Trust.withdraw x cls)).run.Obeys (clearance x cls) (onSuccess fun _ _ => True) m := by
    refine (obeys_withdraw hholds).mono fun result found _ => ?_
    cases result <;> trivial
  unfold Trust.publish
  cases x.metadata.isDeleting with
  | true => exact hwithdraw
  | false =>
    cases Trust.secretNames x with
    | nil => exact hwithdraw
    | cons name more => exact obeys_publishSecrets hholds (name :: more)

/-! ## Whole passes -/

namespace Ingress

variable {settings : Settings}

/-- Settling an object has nothing to do with registries. -/
theorem spares_settled : (settled x).run.Asks SparesRegistries := asks_settled fun _ => trivial

/-- A pass over an ingress of the class obeys while the finalizer is there. -/
theorem obeys_published (hholds : m.Holds x) :
    (published settings x).run.Obeys (clearance x settings.ingressClass) (onSuccess fun _ _ => True) m :=
  Program.Pass.obeys_bind (obeys_publish hholds) fun _ _ _ => obeys_of_spares_pass spares_settled

/-- The clean-up of a dying ingress is complete when it succeeds. -/
theorem obeys_withdrawn (hholds : m.Holds x) :
    (withdrawn settings x).run.Obeys (clearance x settings.ingressClass)
      (onSuccess fun _ found => found.Holds x ∧ found.Complete settings.ingressClass) m := by
  refine Program.Pass.obeys_bind (obeys_withdraw hholds) fun _ found hfound => ?_
  refine obeys_spares_bind spares_settled fun action => ?_
  refine obeys_spares_bind (asks_cluster trivial) fun _ => ?_
  exact hfound

/-- An ingress of another class loses the finalizer only after a withdrawal that succeeded. -/
theorem obeys_dismissed (hgone : m.gone = false) :
    (dismissed settings x).run.Obeys (clearance x settings.ingressClass) (onSuccess fun _ _ => True) m := by
  unfold dismissed
  by_cases hcarries : x.metadata.hasFinalizer finalizer = true
  · rw [if_pos hcarries]
    refine Program.Pass.obeys_bind (obeys_withdraw ⟨hcarries, hgone⟩) fun _ found hfound => ?_
    refine obeys_cluster_bind ⟨hfound.1, hfound.2, rfl⟩ fun _ _ => ?_
    exact obeys_of_spares_pass spares_settled
  · rw [if_neg hcarries]
    exact obeys_of_spares_pass spares_settled

/-- An object that is neither to be given the finalizer nor to be left alone has it. -/
theorem hasFinalizer_of_stage (hattach : Stage.of finalizer x.metadata ≠ .attach)
    (hleave : Stage.of finalizer x.metadata ≠ .leave) : x.metadata.hasFinalizer finalizer = true := by
  refine Bool.of_not_eq_false fun hnone => ?_
  rcases stage_of_not_hasFinalizer hnone with hstage | hstage
  · exact hattach hstage
  · exact hleave hstage

/-- Under the finalizer of the ingress the rules are kept: the finalizer goes only after the clean-up. -/
theorem obeys_guarded {ns : String} (hns : x.metadata.namespace = some ns) (hgone : m.gone = false) :
    (guarded .ingress ns x.metadata (published settings x) (withdrawn settings x)).run.Obeys
      (clearance x settings.ingressClass) (onSuccess fun _ _ => True) m := by
  unfold guarded
  cases hstage : Stage.of finalizer x.metadata with
  | attach =>
    have hattach : (nameOf x.metadata >>= fun name => changeFinalizers .ingress ns name
        (.attach x.metadata.finalizerList finalizer) .addFinalizer >>= fun _ => pure Action.awaitChange :
          Guarded Action).run.Asks SparesRegistries := by
      refine Program.Pass.asks_bind ?_ fun name => ?_
      · unfold nameOf
        cases x.metadata.name <;> trivial
      · exact Program.Pass.asks_bind (Program.Pass.asks_adapt (Program.asks_call trivial)) fun _ => trivial
    rw [show Stage.of Controller.ingress.finalizer x.metadata = .attach from hstage]
    exact (obeys_of_spares hattach).mono fun result _ _ => by cases result <;> trivial
  | apply =>
    have hcarries : x.metadata.hasFinalizer finalizer = true :=
      hasFinalizer_of_stage (by simp [hstage]) (by simp [hstage])
    rw [show Stage.of Controller.ingress.finalizer x.metadata = .apply from hstage]
    exact Program.Pass.obeys_adapt (obeys_published ⟨hcarries, hgone⟩)
  | cleanUp index =>
    have hcarries : x.metadata.hasFinalizer finalizer = true :=
      hasFinalizer_of_stage (by simp [hstage]) (by simp [hstage])
    rw [show Stage.of Controller.ingress.finalizer x.metadata = .cleanUp index from hstage]
    cases hname : x.metadata.name with
    | none =>
      simp only [nameOf, hname]
      trivial
    | some name =>
      simp only [nameOf, hname, pure_bind]
      refine Program.Pass.obeys_bind (Program.Pass.obeys_adapt (obeys_withdrawn ⟨hcarries, hgone⟩))
        fun action found hfound => ?_
      have hplace : (⟨ns, name⟩ : Place) = placeOf x.metadata := by
        simp [placeOf, Meta.anyNamespace, Meta.anyName, hns, hname]
      refine ⟨⟨hfound.1, hfound.2, hplace⟩, fun answer _ => ?_⟩
      cases answer <;> trivial
  | leave =>
    rw [show Stage.of Controller.ingress.finalizer x.metadata = .leave from hstage]
    trivial

/-- The report of a failure asks nothing that needs permission. -/
theorem obeys_reported {pass : Guarded Action}
    (h : pass.run.Obeys (clearance x cls) (onSuccess fun _ _ => True) m) :
    (reported .ingress x.metadata pass).run.Obeys (clearance x cls) (onSuccess fun _ _ => True) m := by
  refine Program.Pass.obeys_attempt_bind h fun result found _ => ?_
  cases result with
  | ok action => trivial
  | error failure =>
    have hreport : (publishEvent .ingress x.metadata "Reconcile" (failureNotice failure) >>= fun _ =>
        ask (.countFailure Controller.ingress.kindName x.metadata.anyName
          (PassFailure.finalizer failure).label) >>= fun _ =>
        throw (.finalizer failure) : Pass Action).run.Asks SparesRegistries :=
      Program.Pass.asks_bind (asks_cluster trivial) fun _ =>
        Program.Pass.asks_bind (asks_ask trivial) fun _ => trivial
    exact obeys_of_spares_pass hreport

/-- Every pass over an ingress keeps the rules, whatever it is answered. -/
theorem obeys_attend (settings : Settings) (x : Resource.Ingress) :
    (attend settings x).Obeys (clearance x settings.ingressClass) (fun _ _ => True) .none := by
  refine ⟨trivial, fun _ _ => ?_⟩
  cases hns : x.metadata.namespace with
  | none => trivial
  | some ns =>
    show ((pass settings x ns).run.bind _).Obeys (clearance x settings.ingressClass) _ .none
    rw [Program.obeys_bind]
    have hpass : (pass settings x ns).run.Obeys (clearance x settings.ingressClass) (onSuccess fun _ _ => True)
        .none := by
      unfold pass
      cases Trust.isTracked x settings.ingressClass with
      | true => exact obeys_reported (obeys_guarded hns rfl)
      | false => exact obeys_dismissed rfl
    refine hpass.mono fun result found _ => ?_
    cases result with
    | ok action => trivial
    | error failure => exact ⟨trivial, fun _ _ => trivial⟩

end Ingress

end Rules

end Reconcile

end GatewayOperator
