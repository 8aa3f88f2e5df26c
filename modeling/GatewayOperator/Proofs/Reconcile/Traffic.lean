import GatewayOperator.Proofs.Trust.Cluster
import GatewayOperator.Proofs.Trust.Registry
import GatewayOperator.Proofs.Reconcile.Surroundings
import GatewayOperator.Reconcile.Ingress
import Mathlib.Logic.Relation

/-!
# Passes over ingresses and users at once

Passes over ingresses take turns, call by call, with each other and with users who create, change and delete
ingresses. Every call may fail, with or without effect. A registry is replaced only by a copy of its current version,
and an ingress that is going away vanishes with its last finalizer.
-/

set_option autoImplicit false

namespace GatewayOperator.Reconcile.Traffic

open GatewayOperator.Resource
open Trust (Place placeOf entryKeyOf ofClass)
open Trust.Registry ( entry? setEntry)

/-! ## What is shared -/

/-- The ingresses and the configuration maps of a cluster by their places, and every edition of a configuration map
that there has been. -/
structure Shared where
  ingresses : Place → Option Resource.Ingress
  maps : Place → Option ConfigMap
  editions : List ConfigMap

/-- Whether an ingress carries the finalizer of the operator. -/
def Carries (x : Resource.Ingress) : Prop := x.metadata.hasFinalizer Ingress.finalizer = true

/-- Whether a configuration map is a registry. -/
def IsRegistry (r : ConfigMap) : Prop :=
  r.metadata.labelDict.find? Trust.Registry.componentLabel = some Trust.Registry.component

/-- Whether a configuration map is a registry of a class. -/
def Serves (cls : String) (r : ConfigMap) : Prop := IsRegistry r ∧ Trust.Registry.serves r cls = true

/-- A configuration map at a version. -/
def versioned (r : ConfigMap) (version : String) : ConfigMap :=
  { r with metadata := { r.metadata with resourceVersion := some version } }

/-- An ingress with other finalizers at a version. -/
def refinalized (x : Resource.Ingress) (finalizers : List String) (version : String) : Resource.Ingress :=
  { x with metadata := { x.metadata with finalizers := some finalizers, resourceVersion := some version } }

namespace Shared

variable (s : Shared)

/-- What is shared, with an ingress at a place, or none. -/
def putIngress (p : Place) (x : Option Resource.Ingress) : Shared :=
  { s with ingresses := fun q => if q = p then x else s.ingresses q }

/-- An ingress gets other finalizers. One that is going away vanishes with its last finalizer. -/
def setFinalizers (p : Place) (x : Resource.Ingress) (finalizers : List String) (version : String) : Shared :=
  s.putIngress p <|
    if x.metadata.isDeleting = true ∧ finalizers = [] then none else some (refinalized x finalizers version)

/-- What is shared, with a configuration map stored, which is one more edition. -/
def putMap (r : ConfigMap) : Shared :=
  { s with
    maps := fun q => if q = placeOf r.metadata then some r else s.maps q
    editions := r :: s.editions }

/-- What is shared, without the configuration map at a place. Its editions are remembered. -/
def removeMap (p : Place) : Shared := { s with maps := fun q => if q = p then none else s.maps q }

/-- Whether the ingress at a place exists and carries the finalizer. -/
def Claims (p : Place) : Prop := ∃ x, s.ingresses p = some x ∧ Carries x

/-- Whether there is a registry of the class at a place that lists an entry under a key. -/
def Lists (cls key : String) (p : Place) : Prop :=
  ∃ r, s.maps p = some r ∧ Serves cls r ∧ entry? r key ≠ none

/-- Whether a version was never one of the configuration map at a place. -/
def IsNew (p : Place) (version : String) : Prop :=
  ∀ r ∈ s.editions, placeOf r.metadata = p → r.metadata.resourceVersion ≠ some version

/-- Whether a call can be answered so when it takes no effect. What can be read is what is stored, and a write is not
reported to have succeeded. -/
def Tells : (c : Call) → c.Answer → Prop
  | .cluster .registries, .ok all => ∀ r, r ∈ all ↔ ∃ p, s.maps p = some r ∧ IsRegistry r
  | .cluster (.registry ns name), .ok fresh => s.maps ⟨ns, name⟩ = some fresh
  | .cluster (.replaceRegistry _), .ok _ => False
  | .cluster (.setIngressFinalizers _ _), .ok _ => False
  | .cluster (.changeFinalizers .ingress _ _ _), .ok _ => False
  | _, _ => True

end Shared

/-- What a call can be answered, and what becomes of what is shared. A replacement takes effect only if its version is
the one of what is stored, and then makes a version that was never there. A change of finalizers takes effect only if
these are as they were seen, or if the version is the one that was read. Whatever takes effect may still be reported
as a failure. -/
inductive Served (s : Shared) : (c : Call) → c.Answer → Shared → Prop
  | idle (c : Call) (answer : c.Answer) (tells : s.Tells c answer) : Served s c answer s
  | replaced (r old : ConfigMap) (new : String) (answer : Except Kube.Failure ConfigMap)
      (stored : s.maps (placeOf r.metadata) = some old)
      (current : r.metadata.resourceVersion = none ∨ r.metadata.resourceVersion = old.metadata.resourceVersion)
      (fresh : s.IsNew (placeOf r.metadata) new)
      (told : answer = .ok (versioned r new) ∨ ∃ failure, answer = .error failure) :
      Served s (.cluster (.replaceRegistry r)) answer (s.putMap (versioned r new))
  | attached (x : Resource.Ingress) (ns name finalizer version : String) (answer : Except Kube.Failure Unit)
      (stored : s.ingresses ⟨ns, name⟩ = some x) :
      Served s (.cluster (.changeFinalizers .ingress ns name (.attach x.metadata.finalizerList finalizer))) answer
        (s.setFinalizers ⟨ns, name⟩ x (x.metadata.finalizerList ++ [finalizer]) version)
  | detached (x : Resource.Ingress) (ns name : String) (index : Nat) (finalizer version : String)
      (answer : Except Kube.Failure Unit) (stored : s.ingresses ⟨ns, name⟩ = some x)
      (there : x.metadata.finalizerList[index]? = some finalizer) :
      Served s (.cluster (.changeFinalizers .ingress ns name (.detach index finalizer))) answer
        (s.setFinalizers ⟨ns, name⟩ x (x.metadata.finalizerList.eraseIdx index) version)
  | rewritten (m : Meta) (finalizers : List String) (x : Resource.Ingress) (version : String)
      (answer : Except Kube.Failure Unit) (stored : s.ingresses (placeOf m) = some x)
      (current : m.resourceVersion = none ∨ m.resourceVersion = x.metadata.resourceVersion) :
      Served s (.cluster (.setIngressFinalizers m finalizers)) answer
        (s.setFinalizers (placeOf m) x finalizers version)

/-- What users do. They create and change ingresses, but for the finalizer, which is the operator's, and no two have
one key. An ingress is stored away only when it has no finalizer left. Configuration maps come, change and go, but the
entries of a registry of the class are the operator's, and what becomes one has no entries. -/
inductive Edited (cls : String) (s : Shared) : Shared → Prop
  | put (x : Resource.Ingress) (operators : Carries x ↔ s.Claims (placeOf x.metadata))
      (apart : ∀ q y, s.ingresses q = some y → entryKeyOf y = entryKeyOf x → q = placeOf x.metadata) :
      Edited cls s (s.putIngress (placeOf x.metadata) (some x))
  | removed (p : Place) (x : Resource.Ingress) (stored : s.ingresses p = some x)
      (free : x.metadata.finalizerList = []) :
      Edited cls s (s.putIngress p none)
  | mapPut (r : ConfigMap) (new : String) (fresh : s.IsNew (placeOf r.metadata) new)
      (operators : Serves cls r → (∀ key, entry? r key = none) ∨
        ∃ old, s.maps (placeOf r.metadata) = some old ∧ Serves cls old ∧ ∀ key, entry? r key = entry? old key) :
      Edited cls s (s.putMap (versioned r new))
  | mapRemoved (p : Place) : Edited cls s (s.removeMap p)

/-! ## Passes at work -/

/-- A pass at work: the ingress as it was when the pass started, and what is left to do. -/
structure Flight where
  subject : Resource.Ingress
  rest : Work Ending

/-- What is shared, and the passes at work, at most one for each place. -/
structure World where
  shared : Shared
  flights : Place → Option Flight

/-- The world with the pass at a place replaced. -/
def World.setFlight (w : World) (p : Place) (f : Option Flight) : World :=
  { w with flights := fun q => if q = p then f else w.flights q }

/-- The next thing that happens: a pass starts from what is stored, a pass is answered or ends, be it that it is done
or that it is cut short, or users change something. -/
inductive Step (settings : Settings) (w : World) : World → Prop
  | started (p : Place) (x : Resource.Ingress) (vacant : w.flights p = none)
      (stored : w.shared.ingresses p = some x) :
      Step settings w (w.setFlight p (some ⟨x, Ingress.attend settings x⟩))
  | answered (p : Place) (f : Flight) (c : Call) (next : c.Answer → Work Ending) (answer : c.Answer) (s : Shared)
      (flying : w.flights p = some f) (asks : f.rest = .ask c next) (served : Served w.shared c answer s) :
      Step settings w ({ w with shared := s }.setFlight p (some ⟨f.subject, next answer⟩))
  | left (p : Place) : Step settings w (w.setFlight p none)
  | edited (s : Shared) (edited : Edited settings.ingressClass w.shared s) : Step settings w { w with shared := s }

/-- Any number of steps. -/
abbrev Run (settings : Settings) : World → World → Prop := Relation.ReflTransGen (Step settings)

/-- Whether all is in its place: no two ingresses have one key, and no two editions of a configuration map have one
version. -/
structure Shared.Orderly (s : Shared) : Prop where
  ingress : ∀ p x, s.ingresses p = some x → placeOf x.metadata = p
  apart : ∀ p q x y, s.ingresses p = some x → s.ingresses q = some y → entryKeyOf x = entryKeyOf y → p = q
  map : ∀ p r, s.maps p = some r → placeOf r.metadata = p ∧ r ∈ s.editions
  version : ∀ r ∈ s.editions, ∃ v, r.metadata.resourceVersion = some v
  unique : ∀ r ∈ s.editions, ∀ other ∈ s.editions, placeOf r.metadata = placeOf other.metadata →
    r.metadata.resourceVersion = other.metadata.resourceVersion → r = other

/-- Whether no pass has started yet, and no registry of the class has an entry. -/
structure Fresh (cls : String) (w : World) : Prop where
  orderly : w.shared.Orderly
  blank : ∀ key p, ¬ w.shared.Lists cls key p
  vacant : ∀ p, w.flights p = none

/-! ## What is written -/

section Writes

variable {s : Shared} {cls : String}

/-- The key of the ingress at a place. -/
def keyAt (p : Place) : String := Trust.Registry.entryKey p.ns p.name

/-- The key of an entry is that of the place of the ingress. -/
theorem entryKeyOf_eq_keyAt {x : Resource.Ingress} {p : Place} (h : placeOf x.metadata = p) :
    entryKeyOf x = keyAt p := h ▸ rfl

/-- The ingresses at other places stay as they are. -/
theorem ingresses_putIngress_of_ne {p q : Place} (h : q ≠ p) (x : Option Resource.Ingress) :
    (s.putIngress p x).ingresses q = s.ingresses q := if_neg h

/-- Which ingresses at other places carry the finalizer stays as it is. -/
theorem claims_putIngress_of_ne {p q : Place} (h : q ≠ p) (x : Option Resource.Ingress) :
    (s.putIngress p x).Claims q ↔ s.Claims q := by
  simp only [Shared.Claims, ingresses_putIngress_of_ne h]

/-- An ingress that is stored carries the finalizer where it is stored. -/
theorem claims_putIngress {p : Place} {x : Resource.Ingress} : (s.putIngress p (some x)).Claims p ↔ Carries x := by
  simp [Shared.Claims, Shared.putIngress]

/-- An ingress keeps the finalizer if that is among its new finalizers. -/
theorem claims_setFinalizers {p : Place} {x : Resource.Ingress} {finalizers : List String} {version : String}
    (h : Ingress.finalizer ∈ finalizers) : (s.setFinalizers p x finalizers version).Claims p := by
  have hsome : ¬ (x.metadata.isDeleting = true ∧ finalizers = []) := by
    rintro ⟨-, rfl⟩
    exact absurd h List.not_mem_nil
  rw [Shared.setFinalizers, if_neg hsome, claims_putIngress]
  simpa [Carries, refinalized, Meta.hasFinalizer, Meta.finalizerList] using h

/-- An entry that is listed after one was written was listed before, or it is the one that was set. -/
theorem lists_putMap_setEntry {old : ConfigMap} {key : String} {value : Option String} {now : Instant}
    {version : String} (hold : s.maps (placeOf old.metadata) = some old) {other : String} {q : Place}
    (h : (s.putMap (versioned (setEntry old key value now) version)).Lists cls other q) :
    s.Lists cls other q ∧ ¬ (key = other ∧ q = placeOf old.metadata) ∨
      key = other ∧ q = placeOf old.metadata ∧ value ≠ none := by
  obtain ⟨r, hr, hserves, hentry⟩ := h
  have hplace : placeOf (versioned (setEntry old key value now) version).metadata = placeOf old.metadata := rfl
  simp only [Shared.putMap, hplace] at hr
  by_cases hq : q = placeOf old.metadata
  · rw [if_pos hq, Option.some.injEq] at hr
    subst hr
    have hvalue : entry? (setEntry old key value now) other ≠ none := hentry
    rw [Trust.Registry.entry?_setEntry] at hvalue
    by_cases hkey : key = other
    · rw [if_pos hkey] at hvalue
      exact .inr ⟨hkey, hq, hvalue⟩
    · rw [if_neg hkey] at hvalue
      exact .inl ⟨⟨old, hq ▸ hold, hserves, hvalue⟩, fun hsame => hkey hsame.1⟩
  · rw [if_neg hq] at hr
    exact .inl ⟨⟨r, hr, hserves, hentry⟩, fun hsame => hq hsame.2⟩

namespace Shared.Orderly

/-- Order is kept when an ingress is stored at its own place, under a key that is nobody else's. -/
theorem putIngress (h : s.Orderly) {p : Place} {x : Option Resource.Ingress}
    (hplace : ∀ y, x = some y → placeOf y.metadata = p)
    (hapart : ∀ y q z, x = some y → s.ingresses q = some z → entryKeyOf z = entryKeyOf y → q = p) :
    (s.putIngress p x).Orderly where
  ingress := by
    intro q y hy
    by_cases hq : q = p
    · subst hq
      exact hplace y (by simpa [Shared.putIngress] using hy)
    · rw [ingresses_putIngress_of_ne hq] at hy
      exact h.ingress q y hy
  apart := by
    intro q r y z hy hz hkey
    by_cases hq : q = p
    · by_cases hr : r = p
      · rw [hq, hr]
      · rw [ingresses_putIngress_of_ne hr] at hz
        subst hq
        exact absurd (hapart y r z (by simpa [Shared.putIngress] using hy) hz hkey.symm) hr
    · rw [ingresses_putIngress_of_ne hq] at hy
      by_cases hr : r = p
      · subst hr
        exact absurd (hapart z q y (by simpa [Shared.putIngress] using hz) hy hkey) hq
      · rw [ingresses_putIngress_of_ne hr] at hz
        exact h.apart q r y z hy hz hkey
  map := h.map
  version := h.version
  unique := h.unique

/-- Order is kept when the finalizers of an ingress change, also if that removes it. -/
theorem setFinalizers (h : s.Orderly) {p : Place} {x : Resource.Ingress} (hx : s.ingresses p = some x)
    (finalizers : List String) (version : String) : (s.setFinalizers p x finalizers version).Orderly := by
  refine h.putIngress ?_ ?_
  · intro y hy
    split at hy
    · cases hy
    · cases hy
      exact h.ingress p x hx
  · intro y q z hy hz hkey
    split at hy
    · cases hy
    · cases hy
      exact h.apart q p z x hz hx hkey

/-- Order is kept when a configuration map is stored at a new version. -/
theorem putMap (h : s.Orderly) (r : ConfigMap) {new : String} (hnew : s.IsNew (placeOf r.metadata) new) :
    (s.putMap (versioned r new)).Orderly where
  ingress := h.ingress
  apart := h.apart
  map := by
    intro p stored hstored
    simp only [Shared.putMap] at hstored
    by_cases hp : p = placeOf (versioned r new).metadata
    · rw [if_pos hp, Option.some.injEq] at hstored
      subst hstored
      exact ⟨hp.symm, List.mem_cons_self⟩
    · rw [if_neg hp] at hstored
      obtain ⟨hplace, hmem⟩ := h.map p stored hstored
      exact ⟨hplace, List.mem_cons_of_mem _ hmem⟩
  version := List.forall_mem_cons.mpr ⟨⟨new, rfl⟩, h.version⟩
  unique := by
    intro first hfirst second hsecond hplace hsame
    rcases List.mem_cons.mp hfirst with rfl | hfirst
    · rcases List.mem_cons.mp hsecond with rfl | hsecond
      · rfl
      · exact absurd hsame.symm (hnew second hsecond hplace.symm)
    · rcases List.mem_cons.mp hsecond with rfl | hsecond
      · exact absurd hsame (hnew first hfirst hplace)
      · exact h.unique first hfirst second hsecond hplace hsame

/-- Order is kept when a configuration map is removed. -/
theorem removeMap (h : s.Orderly) (p : Place) : (s.removeMap p).Orderly where
  ingress := h.ingress
  apart := h.apart
  map := by
    intro q r hr
    by_cases hq : q = p
    · simp [Shared.removeMap, hq] at hr
    · exact h.map q r (by simpa [Shared.removeMap, hq] using hr)
  version := h.version
  unique := h.unique

end Shared.Orderly

end Writes

/-! ## A server -/

instance (r : ConfigMap) : Decidable (IsRegistry r) := inferInstanceAs (Decidable (_ = _))

namespace Shared

variable (s : Shared)

/-- The length of the longest version of some configuration maps. -/
def longest : List ConfigMap → Nat
  | [] => 0
  | r :: rest => max (r.metadata.resourceVersion.getD "").length (longest rest)

/-- No version is longer than the longest one. -/
theorem length_le_longest {r : ConfigMap} {version : String} (hversion : r.metadata.resourceVersion = some version)
    {editions : List ConfigMap} (h : r ∈ editions) : version.length ≤ longest editions := by
  induction editions with
  | nil => exact absurd h List.not_mem_nil
  | cons other rest ih =>
    rcases List.mem_cons.mp h with rfl | hrest
    · rw [longest, hversion]
      exact Nat.le_max_left _ _
    · exact Nat.le_trans (ih hrest) (Nat.le_max_right _ _)

/-- A version that is longer than all that there have been. -/
def newVersion : String := Trust.letters (longest s.editions + 1)

/-- What is longer than every version is new at each place. -/
theorem isNew_newVersion (p : Place) : s.IsNew p s.newVersion := by
  intro r hr _ hversion
  have hlength := length_le_longest hversion hr
  have hletters : s.newVersion.length = longest s.editions + 1 := by simp [newVersion, Trust.letters]
  omega

/-- The registries that are stored now. -/
def registries : List ConfigMap :=
  s.editions.filter fun r => IsRegistry r ∧
    (s.maps (placeOf r.metadata)).map (fun old => old.metadata.resourceVersion) = some r.metadata.resourceVersion

/-- In good order, the registries that are listed are those that are stored. -/
theorem mem_registries {s : Shared} (h : s.Orderly) (r : ConfigMap) :
    r ∈ s.registries ↔ ∃ p, s.maps p = some r ∧ IsRegistry r := by
  simp only [registries, List.mem_filter, decide_eq_true_eq, Option.map_eq_some_iff]
  constructor
  · rintro ⟨hmem, hregistry, stored, hstored, hversion⟩
    obtain ⟨hplace, hedition⟩ := h.map _ stored hstored
    obtain rfl := h.unique stored hedition r hmem hplace hversion
    exact ⟨_, hstored, hregistry⟩
  · rintro ⟨p, hstored, hregistry⟩
    obtain ⟨rfl, hmem⟩ := h.map p r hstored
    exact ⟨hmem, hregistry, r, hstored, rfl⟩

end Shared

/-- What a server says to a request that it does not serve. -/
def stale : Kube.Failure := .refused "the object has been modified" "Conflict" 409

/-- A server that stores what is sent for the current version, with these secrets and no other objects. -/
def serving (secrets : Place → Option Secret) : Surroundings Shared where
  cluster := fun c s =>
    match c with
    | .registries => (.ok s.registries, s)
    | .replaceRegistry r =>
      match s.maps (placeOf r.metadata) with
      | some old =>
        if r.metadata.resourceVersion = old.metadata.resourceVersion then
          (.ok (versioned r s.newVersion), s.putMap (versioned r s.newVersion))
        else (.error stale, s)
      | none => (.error stale, s)
    | .setIngressFinalizers m finalizers =>
      match s.ingresses (placeOf m) with
      | some x =>
        if m.resourceVersion = x.metadata.resourceVersion then
          (.ok (), s.setFinalizers (placeOf m) x finalizers s.newVersion)
        else (.error stale, s)
      | none => (.error stale, s)
    | .secret ns name => (.ok (secrets ⟨ns, name⟩), s)
    | .setSecretFinalizers _ _ => (.ok (), s)
    | .ingresses _ => (.ok [], s)
    | _ => (.error stale, s)
  http := fun c s =>
    match c with
    | .isStopping => (false, s)
    | .send _ => (.unreachable, s)
  now := fun s => (⟨0, 0⟩, s)

/-- In good order, the server serves every call as it should. -/
theorem served_serving (secrets : Place → Option Secret) {s : Shared} (h : s.Orderly) (b : Backoff) (c : Call) :
    Served s c ((serving secrets).serve c (s, b)).1 ((serving secrets).serve c (s, b)).2.1 := by
  cases c with
  | cluster c =>
    cases c with
    | registries => exact .idle _ _ (Shared.mem_registries h)
    | replaceRegistry r =>
      simp only [Surroundings.serve, serving]
      cases hold : s.maps (placeOf r.metadata) with
      | none => exact .idle _ _ trivial
      | some old =>
        by_cases hcurrent : r.metadata.resourceVersion = old.metadata.resourceVersion
        · simp only [hcurrent, if_true]
          exact .replaced r old s.newVersion _ hold (.inr hcurrent) (s.isNew_newVersion _) (.inl rfl)
        · simp only [hcurrent, if_false]
          exact .idle _ _ trivial
    | setIngressFinalizers m finalizers =>
      simp only [Surroundings.serve, serving]
      cases hx : s.ingresses (placeOf m) with
      | none => exact .idle _ _ trivial
      | some x =>
        by_cases hcurrent : m.resourceVersion = x.metadata.resourceVersion
        · simp only [hcurrent, if_true]
          exact .rewritten m finalizers x s.newVersion _ hx (.inr hcurrent)
        · simp only [hcurrent, if_false]
          exact .idle _ _ trivial
    | changeFinalizers controller ns name change => cases controller <;> exact .idle _ _ trivial
    | _ => exact .idle _ _ trivial
  | http c => cases c <;> exact .idle _ _ trivial
  | _ => exact .idle _ _ trivial

end GatewayOperator.Reconcile.Traffic
