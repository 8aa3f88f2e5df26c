import GatewayOperator.Proofs.Reconcile.Clearance
import GatewayOperator.Proofs.Reconcile.Retention
import GatewayOperator.Proofs.Reconcile.Traffic
import Mathlib.Logic.Function.Iterate

/-!
# Entries and the ingresses that they belong to

An entry is set only by a pass over its ingress while that carries the finalizer, and the finalizer goes only when no
registry of the class has the entry any more. A copy of a registry that another pass has overtaken is never written
back, because its version is stale. So no entry is ever left behind: each belongs to an ingress that exists and still
carries the finalizer.
-/

set_option autoImplicit false

namespace GatewayOperator.Reconcile.Traffic

open GatewayOperator.Resource
open Trust (Place placeOf entryKeyOf ofClass)
open Trust.Registry ( entry? setEntry)

/-! ## What every moment has in common -/

/-- What is true of a pass at work for a place and of its record: what is left of it obeys, all its copies are
editions, and while it holds the finalizer, its ingress carries it, and the entry is in none but the registries that
the pass has listed and not cleared. -/
structure Flight.Sound (cls : String) (s : Shared) (p : Place) (f : Flight) (m : Clearing) : Prop where
  place : placeOf f.subject.metadata = p
  obeys : f.rest.Obeys (clearance f.subject cls) (fun _ _ => True) m
  seen : ∀ copy ∈ m.seen, copy ∈ s.editions
  claims : m.Holds f.subject → s.Claims p
  listed : m.Holds f.subject → ∀ all, m.listing = some all →
    ∀ q, s.Lists cls (keyAt p) q → ∃ listed ∈ ofClass cls all, placeOf listed.metadata = q
  cleared : m.Holds f.subject → ∀ q ∈ m.cleared, ¬ s.Lists cls (keyAt p) q

/-- What is true at every moment: all is in its place, every pass at work has a true record, and each entry belongs to
an ingress that carries the finalizer. -/
structure Sound (cls : String) (w : World) : Prop where
  orderly : w.shared.Orderly
  flying : ∀ p f, w.flights p = some f → ∃ m, f.Sound cls w.shared p m
  owned : ∀ key q, w.shared.Lists cls key q → ∃ p, w.shared.Claims p ∧ keyAt p = key

/-- What an answered call of a pass for a place comes to, given the record before and after and what is shared
afterwards. The pass is told something, it writes its entry into a registry that it has listed, it adds a finalizer
somewhere, or it takes its own off once it has cleared all that it has listed. -/
inductive Outcome (cls : String) (s : Shared) (p : Place) (x : Resource.Ingress) (m : Clearing) :
    Clearing → Shared → Prop
  | told (m' : Clearing) (holds : m'.Holds x → m.Holds x)
      (seen : ∀ copy ∈ m'.seen, copy ∈ m.seen ∨ copy ∈ s.editions)
      (listing : m'.listing = m.listing ∨ ∃ all, m'.listing = some all ∧
        ∀ key q, s.Lists cls key q → ∃ listed ∈ ofClass cls all, placeOf listed.metadata = q)
      (cleared : ∀ q ∈ m'.cleared, q ∈ m.cleared) : Outcome cls s p x m m' s
  | written (m' : Clearing) (old : ConfigMap) (value : Option String) (now : Instant) (new : String)
      (holds : m.Holds x) (lists : m.Lists cls (placeOf old.metadata))
      (stored : s.maps (placeOf old.metadata) = some old) (fresh : s.IsNew (placeOf old.metadata) new)
      (seen : m'.seen = m.seen) (listing : m'.listing = m.listing)
      (cleared : ∀ q ∈ m'.cleared, value = none ∧ (q ∈ m.cleared ∨ q = placeOf old.metadata)) :
      Outcome cls s p x m m' (s.putMap (versioned (setEntry old (keyAt p) value now) new))
  | attached (y : Resource.Ingress) (q : Place) (finalizer version : String) (stored : s.ingresses q = some y) :
      Outcome cls s p x m m (s.setFinalizers q y (y.metadata.finalizerList ++ [finalizer]) version)
  | stripped (m' : Clearing) (y : Resource.Ingress) (finalizers : List String) (version : String)
      (holds : m.Holds x) (complete : m.Complete cls) (stored : s.ingresses p = some y) (seen : m'.seen = m.seen)
      (gone : m'.gone = true) : Outcome cls s p x m m' (s.setFinalizers p y finalizers version)

section Flights

variable {s s' : Shared} {cls : String} {p : Place} {f : Flight} {x : Resource.Ingress} {m m' : Clearing}

/-- A pass that has cleared all registries that it has listed has left no entry anywhere. -/
theorem Flight.Sound.nothing_left (h : f.Sound cls s p m) (hholds : m.Holds f.subject)
    (hcomplete : m.Complete cls) (q : Place) : ¬ s.Lists cls (keyAt p) q := by
  intro hlists
  obtain ⟨all, hall, hcleared⟩ := hcomplete
  obtain ⟨listed, hlisted, hplace⟩ := h.listed hholds all hall q hlists
  exact h.cleared hholds q (hplace ▸ hcleared listed hlisted) hlists

/-- A pass is as sound as before if the finalizer has not been taken off and no entry of its ingress was added. -/
theorem Flight.Sound.frame (h : f.Sound cls s p m) (heditions : ∀ r ∈ s.editions, r ∈ s'.editions)
    (hclaims : m.Holds f.subject → s'.Claims p)
    (hlists : m.Holds f.subject → ∀ q, s'.Lists cls (keyAt p) q → s.Lists cls (keyAt p) q) :
    f.Sound cls s' p m where
  place := h.place
  obeys := h.obeys
  seen := fun copy hcopy => heditions copy (h.seen copy hcopy)
  claims := hclaims
  listed := fun hholds all hall q hq => h.listed hholds all hall q (hlists hholds q hq)
  cleared := fun hholds q hq hlisted => h.cleared hholds q hq (hlists hholds q hlisted)

/-- What a call is answered fits it, since a registry is stored at its own place. -/
theorem Served.fits (horderly : s.Orderly) {c : Call} {answer : c.Answer} (h : Served s c answer s') :
    Clearing.Fits c answer := by
  cases h with
  | idle _ _ tells =>
    cases c with
    | cluster c =>
      cases c with
      | registry ns name =>
        cases answer with
        | ok fresh => exact (horderly.map ⟨ns, name⟩ fresh tells).1
        | error _ => trivial
      | _ => trivial
    | _ => trivial
  | replaced => trivial
  | attached => trivial
  | detached => trivial
  | rewritten => trivial

/-- A registry of the class that lists an entry is in every list of the registries that is read now. -/
theorem Shared.Lists.among (horderly : s.Orderly) {all : List ConfigMap}
    (htells : ∀ r, r ∈ all ↔ ∃ p, s.maps p = some r ∧ IsRegistry r) {key : String} {q : Place}
    (h : s.Lists cls key q) : ∃ listed ∈ ofClass cls all, placeOf listed.metadata = q := by
  obtain ⟨r, hr, ⟨hregistry, hserves⟩, -⟩ := h
  exact ⟨r, List.mem_filter.mpr ⟨(htells r).mpr ⟨q, hr, hregistry⟩, hserves⟩, (horderly.map q r hr).1⟩

/-- Being told something is no more than that. -/
theorem outcome_idle (horderly : s.Orderly) {c : Call} {answer : c.Answer} (htells : s.Tells c answer) :
    Outcome cls s p x m (m.note x c answer) s := by
  have unchanged (m' : Clearing) (h : m' = m) : Outcome cls s p x m m' s :=
    .told m' (h ▸ id) (fun copy hcopy => .inl (h ▸ hcopy)) (.inl (h ▸ rfl)) fun q hq => h ▸ hq
  have gone (h : m.note x c answer = { m with gone := true }) : Outcome cls s p x m (m.note x c answer) s := by
    rw [h]
    exact .told _ (fun hholds => nomatch hholds.2) (fun copy => .inl) (.inl rfl) fun q hq => hq
  by_cases hspares : SparesRegistries c
  · exact unchanged _ ((permits_of_spares x cls m hspares).2 answer)
  cases c with
  | cluster c =>
    cases c with
    | registries =>
      cases answer with
      | ok all =>
        have heditions (copy : ConfigMap) (hcopy : copy ∈ all ++ m.seen) :
            copy ∈ m.seen ∨ copy ∈ s.editions := by
          rcases List.mem_append.mp hcopy with hcopy | hcopy
          · obtain ⟨q, hq, -⟩ := (htells copy).mp hcopy
            exact .inr (horderly.map q copy hq).2
          · exact .inl hcopy
        exact .told _ id heditions (.inr ⟨all, rfl, fun key q h => h.among horderly htells⟩) fun q hq => hq
      | error _ => exact unchanged _ rfl
    | registry ns name =>
      cases answer with
      | ok fresh =>
        have heditions (copy : ConfigMap) (hcopy : copy ∈ fresh :: m.seen) :
            copy ∈ m.seen ∨ copy ∈ s.editions := by
          rcases List.mem_cons.mp hcopy with rfl | hcopy
          · exact .inr (horderly.map _ copy htells).2
          · exact .inl hcopy
        exact .told _ id heditions (.inl rfl) fun q hq => hq
      | error _ => exact unchanged _ rfl
    | replaceRegistry r =>
      cases answer with
      | ok _ => exact htells.elim
      | error failure =>
        by_cases hentry : entry? r (entryKeyOf x) = none
        · exact unchanged _ (if_pos hentry)
        · rw [show m.note x (.cluster (.replaceRegistry r)) (.error failure) =
            { m with cleared := [] } from if_neg hentry]
          exact .told _ id (fun copy => .inl) (.inl rfl) fun q hq => nomatch hq
    | setIngressFinalizers stored finalizers => exact gone rfl
    | changeFinalizers controller ns name change =>
      cases change with
      | attach seen finalizer => exact unchanged _ rfl
      | detach index finalizer => exact gone rfl
    | _ => exact absurd trivial hspares
  | _ => exact absurd trivial hspares

/-- Every answered call of a sound pass comes to one of the outcomes. A replacement takes effect on the very copy that
the pass has read, because no other edition has its version. -/
theorem Flight.Sound.outcome (h : f.Sound cls s p m) (horderly : s.Orderly) {c : Call} {answer : c.Answer}
    (hpermits : Clearing.Permits f.subject cls m c) (hserved : Served s c answer s') :
    Outcome cls s p f.subject m (m.note f.subject c answer) s' := by
  cases hserved with
  | idle _ _ tells => exact outcome_idle horderly tells
  | replaced r old new answer stored current fresh _ =>
    obtain ⟨hholds, hlists, copy, hcopy, value, now, rfl⟩ := hpermits
    obtain ⟨hold, hmem⟩ := horderly.map _ old stored
    obtain ⟨version, hversion⟩ := horderly.version copy (h.seen copy hcopy)
    -- the copy has a version, so the replacement was not unconditional
    have hsame : copy = old := by
      refine horderly.unique copy (h.seen copy hcopy) old hmem hold.symm ?_
      rcases current with hnone | hcurrent
      · rw [Trust.Registry.resourceVersion_setEntry, hversion] at hnone
        cases hnone
      · exact hcurrent
    subst hsame
    have hreplaced := replaced_note (x := f.subject) (m := m) (setEntry copy (entryKeyOf f.subject) value now) answer
    have hcleared := hreplaced.cleared
    rw [Trust.Registry.entry?_setEntry, if_pos rfl] at hcleared
    rw [entryKeyOf_eq_keyAt h.place] at hreplaced hcleared ⊢
    exact .written _ copy value now new hholds hlists stored fresh hreplaced.seen hreplaced.listing hcleared
  | attached x ns name finalizer version _ stored => exact .attached x ⟨ns, name⟩ finalizer version stored
  | detached x ns name index finalizer version _ stored =>
    obtain ⟨hholds, hcomplete, hplace⟩ := hpermits
    rw [hplace, h.place] at stored ⊢
    exact .stripped _ x _ version hholds hcomplete stored rfl rfl
  | rewritten given finalizers x version _ stored =>
    obtain ⟨hholds, hcomplete, hplace⟩ := hpermits
    rw [hplace, h.place] at stored ⊢
    exact .stripped _ x finalizers version hholds hcomplete stored rfl rfl

namespace Outcome

/-- All stays in its place when a pass is answered. -/
theorem orderly (h : Outcome cls s p x m m' s') (horderly : s.Orderly) : s'.Orderly := by
  cases h with
  | told => exact horderly
  | written _ old value now new _ _ _ fresh => exact horderly.putMap (setEntry old (keyAt p) value now) fresh
  | attached y q finalizer version stored => exact horderly.setFinalizers stored _ version
  | stripped _ y finalizers version _ _ stored => exact horderly.setFinalizers stored finalizers version

/-- No edition is forgotten when a pass is answered. -/
theorem editions (h : Outcome cls s p x m m' s') : ∀ r ∈ s.editions, r ∈ s'.editions := by
  cases h with
  | written => exact fun r hr => List.mem_cons_of_mem _ hr
  | _ => exact fun r hr => hr

/-- Only a pass that holds the finalizer adds an entry, and only the one of its own ingress. -/
theorem lists (h : Outcome cls s p x m m' s') {key : String} {q : Place} (hlists : s'.Lists cls key q) :
    s.Lists cls key q ∨ m.Holds x ∧ key = keyAt p := by
  cases h with
  | written _ old value now new holds _ stored =>
    rcases lists_putMap_setEntry stored hlists with hbefore | hset
    · exact .inl hbefore.1
    · exact .inr ⟨holds, hset.1.symm⟩
  | _ => exact .inl hlists

/-- Only a pass that has left no entry of its ingress anywhere takes the finalizer off, and only from that one. -/
theorem claims (h : Outcome cls s p f.subject m m' s') (hf : f.Sound cls s p m) {q : Place} (hclaims : s.Claims q) :
    s'.Claims q ∨ q = p ∧ m'.gone = true ∧ ∀ r, ¬ s'.Lists cls (keyAt p) r := by
  cases h with
  | told => exact .inl hclaims
  | written => exact .inl hclaims
  | attached y place finalizer version stored =>
    by_cases hq : q = place
    · subst hq
      obtain ⟨z, hz, hcarries⟩ := hclaims
      obtain rfl : y = z := Option.some.inj (stored.symm.trans hz)
      have hmem : Ingress.finalizer ∈ y.metadata.finalizerList := by
        simpa [Carries, Meta.hasFinalizer] using hcarries
      exact .inl (claims_setFinalizers (List.mem_append_left _ hmem))
    · exact .inl ((claims_putIngress_of_ne hq _).mpr hclaims)
  | stripped _ y finalizers version holds complete _ _ gone =>
    by_cases hq : q = p
    · exact .inr ⟨hq, gone, fun r hr => hf.nothing_left holds complete r hr⟩
    · exact .inl ((claims_putIngress_of_ne hq _).mpr hclaims)

/-- The pass is as sound with the new record. -/
theorem sound (h : Outcome cls s p f.subject m m' s') (hf : f.Sound cls s p m) {rest : Work Ending}
    (hobeys : rest.Obeys (clearance f.subject cls) (fun _ _ => True) m') :
    Flight.Sound cls s' p ⟨f.subject, rest⟩ m' := by
  cases h with
  | told _ holds seen listing cleared =>
    refine ⟨hf.place, hobeys, fun copy hcopy => (seen copy hcopy).elim (hf.seen copy) id,
      fun hholds => hf.claims (holds hholds), fun hholds all hall q hq => ?_,
      fun hholds q hq => hf.cleared (holds hholds) q (cleared q hq)⟩
    rcases listing with hsame | ⟨fresh, hfresh, hamong⟩
    · exact hf.listed (holds hholds) all (hsame.symm.trans hall) q hq
    · obtain rfl : fresh = all := Option.some.inj (hfresh.symm.trans hall)
      exact hamong _ q hq
  | written _ old value now new holds lists stored fresh seen listing cleared =>
    refine ⟨hf.place, hobeys, fun copy hcopy => List.mem_cons_of_mem _ (hf.seen copy (seen ▸ hcopy)),
      fun _ => hf.claims holds, fun _ all hall q hq => ?_, fun _ q hq hlisted => ?_⟩
    -- an entry that is new stands where the pass wrote, which it had listed
    · rcases lists_putMap_setEntry stored hq with hbefore | ⟨-, hplace, -⟩
      · exact hf.listed holds all (listing.symm.trans hall) q hbefore.1
      · obtain ⟨known, hknown, hlisted⟩ := lists
        obtain rfl : known = all := Option.some.inj (hknown.symm.trans (listing.symm.trans hall))
        exact hplace ▸ hlisted
    -- only a removal leaves anything cleared
    · obtain ⟨hnone, hbefore⟩ := cleared q hq
      rcases lists_putMap_setEntry stored hlisted with ⟨hlisted, hother⟩ | ⟨-, -, hsome⟩
      · rcases hbefore with hbefore | hplace
        · exact hf.cleared holds q hbefore hlisted
        · exact hother ⟨rfl, hplace⟩
      · exact hsome hnone
  | attached y q finalizer version stored =>
    have hnext : Flight.Sound cls s p ⟨f.subject, rest⟩ m := { hf with obeys := hobeys }
    refine hnext.frame (fun _ h => h) (fun hholds => ?_) fun _ _ h => h
    rcases (Outcome.attached y q finalizer version stored).claims hf (hf.claims hholds) with h | ⟨-, h, -⟩
    · exact h
    · exact absurd (h.symm.trans hholds.2) (by decide)
  | stripped _ y finalizers version holds complete stored seen gone =>
    -- from now on the pass no longer holds the finalizer, so nothing is asked of what it has listed
    have hlost : ¬ m'.Holds f.subject := fun hholds => absurd (gone.symm.trans hholds.2) (by decide)
    exact ⟨hf.place, hobeys, seen ▸ hf.seen, fun hholds => absurd hholds hlost, fun hholds => absurd hholds hlost,
      fun hholds => absurd hholds hlost⟩

end Outcome

end Flights

/-! ## Step by step -/

section Steps

variable {settings : Settings} {s s' : Shared} {w w' : World} {cls : String}

/-- Users neither take the finalizer off nor add an entry. -/
theorem Edited.claims (h : Edited cls s s') {p : Place} (hclaims : s.Claims p) : s'.Claims p := by
  cases h with
  | put x operators apart =>
    by_cases hp : p = placeOf x.metadata
    · subst hp
      exact claims_putIngress.mpr (operators.mpr hclaims)
    · exact (claims_putIngress_of_ne hp _).mpr hclaims
  | removed q x stored free =>
    by_cases hp : p = q
    · subst hp
      obtain ⟨y, hy, hcarries⟩ := hclaims
      obtain rfl : x = y := Option.some.inj (stored.symm.trans hy)
      rw [Carries, Meta.hasFinalizer, free] at hcarries
      exact absurd hcarries (by decide)
    · exact (claims_putIngress_of_ne hp _).mpr hclaims
  | mapPut => exact hclaims
  | mapRemoved => exact hclaims

/-- Users put no entry into a registry of the class. -/
theorem Edited.lists (h : Edited cls s s') {key : String} {q : Place} (hlists : s'.Lists cls key q) :
    s.Lists cls key q := by
  cases h with
  | put => exact hlists
  | removed => exact hlists
  | mapPut r new fresh operators =>
    obtain ⟨stored, hstored, hserves, hentry⟩ := hlists
    by_cases hq : q = placeOf r.metadata
    · obtain rfl : versioned r new = stored := Option.some.inj ((if_pos hq).symm.trans hstored)
      rcases operators hserves with hblank | ⟨old, hold, holdserves, hsame⟩
      · exact absurd (hblank key) hentry
      · exact ⟨old, hq ▸ hold, holdserves, hsame key ▸ hentry⟩
    · exact ⟨stored, (if_neg hq).symm.trans hstored, hserves, hentry⟩
  | mapRemoved p =>
    obtain ⟨stored, hstored, hserved⟩ := hlists
    by_cases hq : q = p
    · cases (if_pos hq).symm.trans hstored
    · exact ⟨stored, (if_neg hq).symm.trans hstored, hserved⟩

/-- All stays in its place when users change something. -/
theorem Edited.orderly (h : Edited cls s s') (horderly : s.Orderly) : s'.Orderly := by
  cases h with
  | put x operators apart =>
    refine horderly.putIngress ?_ ?_
    · rintro y ⟨⟩
      rfl
    · rintro y q z ⟨⟩ hz hkey
      exact apart q z hz hkey
  | removed p x stored free => exact horderly.putIngress (fun y hy => nomatch hy) fun y q z hy => nomatch hy
  | mapPut r new fresh operators => exact horderly.putMap r fresh
  | mapRemoved p => exact horderly.removeMap p

/-- No edition is forgotten when users change something. -/
theorem Edited.editions (h : Edited cls s s') : ∀ r ∈ s.editions, r ∈ s'.editions := by
  cases h with
  | mapPut => exact fun r hr => List.mem_cons_of_mem _ hr
  | _ => exact fun r hr => hr

/-- A pass at work is the one that was set, or it was there before. -/
theorem flights_setFlight {p q : Place} {f : Option Flight} {g : Flight} (h : (w.setFlight p f).flights q = some g) :
    q = p ∧ f = some g ∨ q ≠ p ∧ w.flights q = some g := by
  by_cases hq : q = p
  · exact .inl ⟨hq, (if_pos hq).symm.trans h⟩
  · exact .inr ⟨hq, (if_neg hq).symm.trans h⟩

/-- Two places of one key that hold ingresses are one. -/
theorem Shared.Orderly.eq_of_keyAt (h : s.Orderly) {p q : Place} (hp : s.Claims p) (hq : s.Claims q)
    (hkey : keyAt p = keyAt q) : p = q := by
  obtain ⟨x, hx, -⟩ := hp
  obtain ⟨y, hy, -⟩ := hq
  refine h.apart p q x y hx hy ?_
  rw [entryKeyOf_eq_keyAt (h.ingress p x hx), entryKeyOf_eq_keyAt (h.ingress q y hy), hkey]

namespace Sound

/-- A pass starts from what is stored, so it holds the finalizer only if the ingress carries it. -/
theorem started (h : Sound settings.ingressClass w) {p : Place} {x : Resource.Ingress}
    (stored : w.shared.ingresses p = some x) :
    Sound settings.ingressClass (w.setFlight p (some ⟨x, Ingress.attend settings x⟩)) where
  orderly := h.orderly
  owned := h.owned
  flying := by
    intro q f hf
    rcases flights_setFlight hf with ⟨rfl, hsome⟩ | ⟨-, hother⟩
    · cases hsome
      exact ⟨.none, {
        place := h.orderly.ingress q x stored
        obeys := Ingress.obeys_attend settings x
        seen := fun copy hcopy => nomatch hcopy
        claims := fun hholds => ⟨x, stored, hholds.1⟩
        listed := fun _ all hall => nomatch hall
        cleared := fun _ q hq => nomatch hq }⟩
    · exact h.flying q f hother

/-- An answered call has an outcome, and what is left of its pass obeys. -/
theorem outcome (h : Sound cls w) {p : Place} {f : Flight} {c : Call} {next : c.Answer → Work Ending}
    {answer : c.Answer} (flying : w.flights p = some f) (asks : f.rest = .ask c next)
    (served : Served w.shared c answer s) :
    ∃ m m', f.Sound cls w.shared p m ∧ Outcome cls w.shared p f.subject m m' s ∧
      (next answer).Obeys (clearance f.subject cls) (fun _ _ => True) m' := by
  obtain ⟨m, hf⟩ := h.flying p f flying
  have hobeys := hf.obeys
  rw [asks] at hobeys
  exact ⟨m, _, hf, hf.outcome h.orderly hobeys.1 served, hobeys.2 answer (served.fits h.orderly)⟩

/-- An answered call of one pass leaves the others as sound as they were: another one writes under another key, and
takes the finalizer off another ingress. -/
theorem answered (h : Sound cls w) {p : Place} {f : Flight} {c : Call} {next : c.Answer → Work Ending}
    {answer : c.Answer} (flying : w.flights p = some f) (asks : f.rest = .ask c next)
    (served : Served w.shared c answer s) :
    Sound cls ({ w with shared := s }.setFlight p (some ⟨f.subject, next answer⟩)) := by
  obtain ⟨m, m', hf, houtcome, hobeys⟩ := h.outcome flying asks served
  refine ⟨houtcome.orderly h.orderly, fun q g hg => ?_, fun key q hlists => ?_⟩
  · rcases flights_setFlight hg with ⟨rfl, hsome⟩ | ⟨hne, hother⟩
    · cases hsome
      exact ⟨m', houtcome.sound hf hobeys⟩
    · obtain ⟨other, hg⟩ := h.flying q g hother
      refine ⟨other, hg.frame houtcome.editions (fun hholds => ?_) fun hholds r hlists => ?_⟩
      · exact (houtcome.claims hf (hg.claims hholds)).resolve_right fun hsame => hne hsame.1
      · refine (houtcome.lists hlists).resolve_right ?_
        rintro ⟨hown, hkey⟩
        exact hne (h.orderly.eq_of_keyAt (hg.claims hholds) (hf.claims hown) hkey)
  -- the owner of an entry before the call still owns it, unless the call took the finalizer off that very ingress
  · obtain ⟨o, hclaims, hkey⟩ : ∃ o, w.shared.Claims o ∧ keyAt o = key := by
      rcases houtcome.lists hlists with hbefore | ⟨hown, hkey⟩
      · exact h.owned key q hbefore
      · exact ⟨p, hf.claims hown, hkey.symm⟩
    rcases houtcome.claims hf hclaims with hstill | ⟨rfl, -, hnothing⟩
    · exact ⟨o, hstill, hkey⟩
    · exact absurd hlists (hkey ▸ hnothing q)

/-- The world stays sound when a pass ends. -/
theorem left (h : Sound cls w) (p : Place) : Sound cls (w.setFlight p none) where
  orderly := h.orderly
  owned := h.owned
  flying := by
    intro q f hf
    rcases flights_setFlight hf with ⟨-, hnone⟩ | ⟨-, hother⟩
    · cases hnone
    · exact h.flying q f hother

/-- The world stays sound when users change something. -/
theorem edited (h : Sound cls w) (edited : Edited cls w.shared s) : Sound cls { w with shared := s } where
  orderly := edited.orderly h.orderly
  flying := by
    intro p f hflying
    obtain ⟨m, hf⟩ := h.flying p f hflying
    exact ⟨m, hf.frame edited.editions (fun hholds => edited.claims (hf.claims hholds)) fun _ _ => edited.lists⟩
  owned := by
    intro key q hlists
    obtain ⟨p, hclaims, hkey⟩ := h.owned key q (edited.lists hlists)
    exact ⟨p, edited.claims hclaims, hkey⟩

/-- The world stays sound whatever happens next. -/
theorem step (h : Sound settings.ingressClass w) (hstep : Step settings w w') : Sound settings.ingressClass w' := by
  cases hstep with
  | started p x _ stored => exact h.started stored
  | answered p f c next answer s flying asks served => exact h.answered flying asks served
  | left p => exact h.left p
  | edited s edited => exact h.edited edited

/-- The world stays sound all through a run. -/
theorem run (h : Sound settings.ingressClass w) (hrun : Run settings w w') : Sound settings.ingressClass w' := by
  induction hrun with
  | refl => exact h
  | tail _ hstep ih => exact ih.step hstep

/-- Every entry belongs to an ingress that is there and carries the finalizer. -/
theorem owner (h : Sound cls w) {key : String} {q : Place} (hlists : w.shared.Lists cls key q) :
    ∃ p x, w.shared.ingresses p = some x ∧ Carries x ∧ entryKeyOf x = key := by
  obtain ⟨p, ⟨x, hx, hcarries⟩, hkey⟩ := h.owned key q hlists
  exact ⟨p, x, hx, hcarries, (entryKeyOf_eq_keyAt (h.orderly.ingress p x hx)).trans hkey⟩

/-- When an ingress loses the finalizer, no registry of the class lists it. -/
theorem unlisted (h : Sound settings.ingressClass w) (hstep : Step settings w w') {p : Place}
    (hclaims : w.shared.Claims p) (hlost : ¬ w'.shared.Claims p) (q : Place) :
    ¬ w'.shared.Lists settings.ingressClass (keyAt p) q := by
  cases hstep with
  | started => exact absurd hclaims hlost
  | answered o f c next answer s flying asks served =>
    obtain ⟨m, m', hf, houtcome, -⟩ := h.outcome flying asks served
    rcases houtcome.claims hf hclaims with hstill | ⟨rfl, -, hnothing⟩
    · exact absurd hstill hlost
    · exact hnothing q
  | left => exact absurd hclaims hlost
  | edited s edited => exact absurd (edited.claims hclaims) hlost

end Sound

/-- A world in which no pass has started yet is sound. -/
theorem Fresh.sound (h : Fresh cls w) : Sound cls w where
  orderly := h.orderly
  flying := fun p _ hflying => nomatch (h.vacant p).symm.trans hflying
  owned := fun key q hlists => absurd hlists (h.blank key q)

/-- Nothing dangling is left in the registries. Whatever passes and users do, and whatever fails, at every moment each
entry of a registry of the class belongs to an ingress that exists and carries the finalizer, and whenever an ingress
loses the finalizer, no registry of the class lists it any more. -/
theorem nothing_dangles {start : World} (hstart : Fresh settings.ingressClass start) (hrun : Run settings start w) :
    (∀ key q, w.shared.Lists settings.ingressClass key q →
      ∃ p x, w.shared.ingresses p = some x ∧ Carries x ∧ entryKeyOf x = key) ∧
    ∀ w', Step settings w w' → ∀ p x, w.shared.ingresses p = some x → Carries x → ¬ w'.shared.Claims p →
      ∀ q, ¬ w'.shared.Lists settings.ingressClass (entryKeyOf x) q := by
  have hsound := hstart.sound.run hrun
  refine ⟨fun key q hlists => hsound.owner hlists, fun w' hstep p x hx hcarries hlost q => ?_⟩
  rw [entryKeyOf_eq_keyAt (hsound.orderly.ingress p x hx)]
  exact hsound.unlisted hstep ⟨x, hx, hcarries⟩ hlost q

end Steps

/-! ## An ingress that moves to another class -/

section Move

instance (s : Shared) (p : Place) : Decidable (s.Claims p) :=
  match h : s.ingresses p with
  | none => .isFalse fun ⟨_, hx, _⟩ => nomatch h.symm.trans hx
  | some x =>
    decidable_of_iff (x.metadata.hasFinalizer Ingress.finalizer = true)
      ⟨fun hcarries => ⟨x, h, hcarries⟩, fun ⟨_, hy, hcarries⟩ => Option.some.inj (h.symm.trans hy) ▸ hcarries⟩

instance (cls : String) (r : ConfigMap) : Decidable (Serves cls r) := inferInstanceAs (Decidable (_ ∧ _))

instance (s : Shared) (cls key : String) (p : Place) : Decidable (s.Lists cls key p) :=
  match h : s.maps p with
  | none => .isFalse fun ⟨_, hr, _⟩ => nomatch h.symm.trans hr
  | some r =>
    decidable_of_iff (Serves cls r ∧ entry? r key ≠ none)
      ⟨fun hlists => ⟨r, h, hlists⟩, fun ⟨_, hr, hlists⟩ => Option.some.inj (h.symm.trans hr) ▸ hlists⟩

/-- The pass for a place is answered by the server once more, or it is over. -/
def World.proceed (secrets : Place → Option Secret) (p : Place) (w : World) : World :=
  match w.flights p with
  | some ⟨x, .ask c next⟩ =>
    let served := (serving secrets).serve c (w.shared, Retention.books)
    { w with shared := served.2.1 }.setFlight p (some ⟨x, next served.1⟩)
  | _ => w.setFlight p none

variable {settings : Settings} {w : World}

/-- An answer of the server is a step. -/
theorem step_proceed (secrets : Place → Option Secret) (p : Place) (h : w.shared.Orderly) :
    Step settings w (w.proceed secrets p) := by
  unfold World.proceed
  split
  · next x c next hflying =>
    exact .answered p ⟨x, .ask c next⟩ c next _ _ hflying rfl (served_serving secrets h Retention.books c)
  · exact .left p

/-- Any number of answers of the server are a run. -/
theorem run_proceed (secrets : Place → Option Secret) (p : Place) (h : Sound settings.ingressClass w) (n : Nat) :
    Run settings w ((World.proceed secrets p)^[n] w) := by
  induction n generalizing w with
  | zero => exact .refl
  | succ n ih =>
    have hstep : Step settings w (w.proceed secrets p) := step_proceed secrets p h.orderly
    exact .head hstep (ih (h.step hstep))

/-- Users may change an ingress that carries the finalizer as they like, but for the finalizer. -/
theorem edited_of_claims {s : Shared} (h : s.Orderly) {x : Resource.Ingress} (hcarries : Carries x)
    (hclaims : s.Claims (placeOf x.metadata)) (cls : String) :
    Edited cls s (s.putIngress (placeOf x.metadata) (some x)) := by
  refine .put x (iff_of_true hcarries hclaims) fun q y hy hkey => ?_
  obtain ⟨stored, hstored, -⟩ := hclaims
  have hsame : entryKeyOf x = entryKeyOf stored :=
    (entryKeyOf_eq_keyAt rfl).trans (entryKeyOf_eq_keyAt (h.ingress _ stored hstored)).symm
  exact h.apart _ _ y stored hy hstored (hkey.trans hsame)

/-- A pass is over, and then users do something. -/
theorem run_edited {s : Shared} (p : Place) (h : Edited settings.ingressClass w.shared s) :
    Run settings w { w.setFlight p none with shared := s } :=
  .head (.left p) (.single (.edited s h))

/-- The place of the ingress. -/
def web : Place := ⟨"shop", "web"⟩

/-- The place of the registry. -/
def gateway : Place := ⟨"gateway", "registry"⟩

/-- An ingress of a class with the finalizer that names a secret. -/
def webIngress (cls : String) : Resource.Ingress :=
  let plain := Trust.Sample.ingress "web" none ["web-tls"]
  { plain with
    metadata := { plain.metadata with finalizers := some [Ingress.finalizer], resourceVersion := some "1" }
    className := some cls }

/-- The ingress carries the finalizer. -/
theorem carries_webIngress (cls : String) : Carries (webIngress cls) := by
  simp [Carries, webIngress, Meta.hasFinalizer, Meta.finalizerList]

/-- A registry of the class without entries. -/
def blankRegistry : ConfigMap :=
  { Trust.Sample.registry with
    metadata := { Trust.Sample.registry.metadata with
      labels := some (Dict.ofList [(Trust.Registry.componentLabel, Trust.Registry.component),
        (Trust.classKey, Trust.Sample.cls)])
      resourceVersion := some "1" } }

/-- The ingress is of the class, and the registry is empty. -/
def opened : World where
  shared := {
    ingresses := fun p => if p = web then some (webIngress Trust.Sample.cls) else none
    maps := fun p => if p = gateway then some blankRegistry else none
    editions := [blankRegistry] }
  flights := fun _ => none

/-- The cluster after so many calls of a pass over the ingress at its place. -/
def World.attended (w : World) (x : Resource.Ingress) (calls : Nat) : World :=
  (World.proceed (Trust.Sample.keypairs ["web-tls"]) web)^[calls]
    (w.setFlight web (some ⟨x, Ingress.attend Retention.settings x⟩))

/-- The ingress is published. -/
def published : World := opened.attended (webIngress Trust.Sample.cls) 7

/-- The ingress is of another class. -/
def moved : World :=
  { published.setFlight web none with shared := published.shared.putIngress web (some (webIngress "other")) }

/-- The pass over that ingress is about to take the finalizer off. -/
def cleared : World := moved.attended (webIngress "other") 6

/-- The ingress has lost the finalizer. -/
def freed : World := cleared.proceed (Trust.Sample.keypairs ["web-tls"]) web

/-- No pass has started in the opened shop, and no registry has an entry. -/
theorem fresh_opened : Fresh Trust.Sample.cls opened where
  orderly := {
    ingress := by
      intro p x hx
      obtain ⟨rfl, ⟨⟩⟩ := Option.ite_none_right_eq_some.mp hx
      rfl
    apart := by
      intro p q x y hx hy _
      rw [(Option.ite_none_right_eq_some.mp hx).1, (Option.ite_none_right_eq_some.mp hy).1]
    map := by
      intro p r hr
      obtain ⟨rfl, ⟨⟩⟩ := Option.ite_none_right_eq_some.mp hr
      exact ⟨rfl, List.mem_cons_self⟩
    version := by
      intro r hr
      obtain rfl := List.mem_singleton.mp hr
      exact ⟨"1", rfl⟩
    unique := by
      intro r hr other hother _ _
      rw [List.mem_singleton.mp hr, List.mem_singleton.mp hother] }
  blank := by
    rintro key p ⟨r, hr, -, hentry⟩
    obtain ⟨-, ⟨⟩⟩ := Option.ite_none_right_eq_some.mp hr
    exact hentry rfl
  vacant := fun _ => rfl

/-- So many calls of a pass over the stored ingress are a run. -/
theorem run_attended {w : World} {x : Resource.Ingress} (h : Sound Trust.Sample.cls w) (vacant : w.flights web = none)
    (stored : w.shared.ingresses web = some x) (calls : Nat) :
    Run Retention.settings w (w.attended x calls) := by
  have hstart : Step Retention.settings w (w.setFlight web (some ⟨x, Ingress.attend Retention.settings x⟩)) :=
    .started web x vacant stored
  exact .head hstart (run_proceed _ web (h.step hstart) calls)

/-- The entry is there after the publication, and the finalizer stays until the entry is gone. -/
theorem outcome_move :
    published.shared.Lists Trust.Sample.cls "shop-web" gateway ∧ published.shared.Claims web ∧
      cleared.shared.Claims web ∧ ¬ freed.shared.Claims web := by
  decide +kernel

/-- The publication is a run. -/
theorem run_published : Run Retention.settings opened published :=
  run_attended fresh_opened.sound rfl rfl 7

/-- The pass after the move is a run. -/
theorem run_cleared : Run Retention.settings published cleared := by
  have hsound : Sound Retention.settings.ingressClass published := fresh_opened.sound.run run_published
  have hedited : Edited Retention.settings.ingressClass published.shared
      (published.shared.putIngress web (some (webIngress "other"))) :=
    edited_of_claims hsound.orderly (carries_webIngress "other") outcome_move.2.1 _
  have hmoved : Run Retention.settings published moved := run_edited web hedited
  have hvacant : moved.flights web = none := by simp [moved, World.setFlight]
  have hstored : moved.shared.ingresses web = some (webIngress "other") := by simp [moved, Shared.putIngress]
  exact hmoved.trans (run_attended (hsound.run hmoved) hvacant hstored 6)

/-- The ingress is published, moves to another class, and loses the finalizer. While it is listed, it carries the
finalizer, and when it loses that, it is listed nowhere. -/
theorem move_leaves_nothing :
    Run Retention.settings opened published ∧ Run Retention.settings published cleared ∧
      Step Retention.settings cleared freed ∧
      (published.shared.Lists Trust.Sample.cls "shop-web" gateway ∧
        ∃ p x, published.shared.ingresses p = some x ∧ Carries x ∧ entryKeyOf x = "shop-web") ∧
      cleared.shared.Claims web ∧ ¬ freed.shared.Claims web ∧
      ∀ q, ¬ freed.shared.Lists Trust.Sample.cls "shop-web" q := by
  have hcleared : Run Retention.settings opened cleared := run_published.trans run_cleared
  have horderly := (fresh_opened.sound.run hcleared).orderly
  have hfreed : Step Retention.settings cleared freed := step_proceed _ web horderly
  obtain ⟨hlists, -, hclaims, hlost⟩ := outcome_move
  refine ⟨run_published, run_cleared, hfreed, ⟨hlists, ?_⟩, hclaims, hlost, ?_⟩
  · exact (nothing_dangles fresh_opened run_published).1 "shop-web" gateway hlists
  · obtain ⟨x, hx, hcarries⟩ := hclaims
    have hkey : entryKeyOf x = "shop-web" := by
      rw [entryKeyOf_eq_keyAt (horderly.ingress web x hx)]
      decide
    exact hkey ▸ (nothing_dangles fresh_opened hcleared).2 freed hfreed web x hx hcarries hlost

end Move

end GatewayOperator.Reconcile.Traffic
