import GatewayOperator.Proofs.Trust.Resumption

/-!
# Ingresses that share an entry

A pass over an ingress writes no entry but its own. The key of an entry is the namespace and the name of
the ingress with a dash in between, and both may hold dashes themselves. So two ingresses can have one key:
if the namespace of one goes on after the namespace of the other and a dash, and its name is shorter by
what its namespace is longer. Such ingresses overwrite and remove each other's entry. No other two do.
-/

set_option autoImplicit false

namespace GatewayOperator.Trust

open GatewayOperator.Resource

namespace Isolation

open Program.Pass (perform)
open Resumption (classPlaces)

/-! ## Keys -/

/-- Whether the namespace of a second place is the one of a first and more, and the name of the first is the
one of the second and as much more. -/
def Overlaps (p q : Place) : Prop :=
  ∃ between, q.ns = p.ns ++ "-" ++ between ∧ p.name = between ++ "-" ++ q.name

/-- The key of an entry is namespace and name with a dash between them. -/
theorem toList_entryKey (ns name : String) :
    (Registry.entryKey ns name).toList = ns.toList ++ '-' :: name.toList := by
  simp [Registry.entryKey]

/-- A key that is met again by a longer namespace belongs to places that overlap. -/
theorem eq_or_overlaps_of_append {p q : Place} {more : List Char}
    (hns : q.ns.toList = p.ns.toList ++ more) (hname : '-' :: p.name.toList = more ++ '-' :: q.name.toList) :
    p = q ∨ Overlaps p q := by
  cases more with
  | nil =>
    left
    have hns' : q.ns = p.ns := String.ext (by simpa using hns)
    have hname' : p.name = q.name := String.ext (by simpa using hname)
    obtain ⟨pns, pname⟩ := p
    obtain ⟨qns, qname⟩ := q
    rw [Place.mk.injEq]
    exact ⟨hns'.symm, hname'⟩
  | cons c between =>
    right
    rw [List.cons_append, List.cons.injEq] at hname
    obtain ⟨rfl, hname⟩ := hname
    refine ⟨String.ofList between, String.ext ?_, String.ext ?_⟩
    · simpa using hns
    · simpa using hname

/-- Two places have one key only if they overlap. -/
theorem entryKey_eq_iff {p q : Place} (hne : p ≠ q) :
    Registry.entryKey p.ns p.name = Registry.entryKey q.ns q.name ↔ Overlaps p q ∨ Overlaps q p := by
  constructor
  · intro hkey
    have hchars := congrArg String.toList hkey
    rw [toList_entryKey, toList_entryKey, List.append_eq_append_iff] at hchars
    rcases hchars with ⟨more, hns, hname⟩ | ⟨more, hns, hname⟩
    · left
      exact (eq_or_overlaps_of_append hns hname).resolve_left hne
    · right
      exact (eq_or_overlaps_of_append hns hname).resolve_left hne.symm
  · have hkey : ∀ p q : Place, Overlaps p q →
        Registry.entryKey p.ns p.name = Registry.entryKey q.ns q.name := by
      rintro p q ⟨between, hns, hname⟩
      apply String.ext
      simp [Registry.entryKey, hns, hname]
    rintro (h | h)
    · exact hkey p q h
    · exact (hkey q p h).symm

/-- Places of one namespace do not overlap. -/
theorem not_overlaps_of_ns {p q : Place} (hns : p.ns = q.ns) : ¬ Overlaps p q := by
  rintro ⟨between, hlonger, -⟩
  have hlength := congrArg (fun t => t.toList.length) (hns.trans hlonger)
  simp at hlength

/-! ## What a pass does to entries -/

/-- A pass over an ingress that brings the registries in line with it, or withdraws it. -/
inductive Task where
  | publication
  | withdrawal
  deriving DecidableEq

namespace Task

/-- The pass. -/
def pass (cls : String) (x : Ingress) : Task → Publication Unit
  | .publication => publish x cls
  | .withdrawal => withdraw x cls

/-- The value that the pass leaves under the key of its ingress. -/
def value (x : Ingress) : Task → Option String
  | .publication =>
    if x.metadata.isDeleting = false ∧ secretNames x ≠ [] then some (Cluster.valueOf x) else none
  | .withdrawal => none

end Task

section Entries

variable {stamps : Stamps} {cls : String} {x y : Ingress} {s t : Cluster}

/-- A publication withdraws an ingress that is going away or names no secrets. -/
theorem publish_cases (cls : String) (x : Ingress) :
    (x.metadata.isDeleting = false ∧ secretNames x ≠ []) ∧
        publish x cls = publishSecrets x cls (secretNames x) ∨
      ¬ (x.metadata.isDeleting = false ∧ secretNames x ≠ []) ∧ publish x cls = withdraw x cls := by
  unfold publish
  cases hdeleting : x.metadata.isDeleting with
  | true => simp
  | false =>
    cases hnames : secretNames x with
    | nil => simp
    | cons name more => simp

/-- A pass that succeeds leaves its value in its entry of every registry of the class, and every other entry
as it was. -/
theorem plain_task {task : Task}
    (h : perform (Cluster.serve stamps) (task.pass cls x) s = (.ok (), t)) :
    t.registries.map plain = (s.registries.map plain).map
      (entryAt (classPlaces cls s) (entryKeyOf x) (task.value x)) := by
  have hwithdraw (hpass : perform (Cluster.serve stamps) (withdraw x cls) s = (.ok (), t)) :
      t.registries.map plain =
        (s.registries.map plain).map (entryAt (classPlaces cls s) (entryKeyOf x) none) := by
    rw [Cluster.perform_withdraw] at hpass
    cases hpass
    exact Cluster.plain_withdrawn s
  cases task with
  | withdrawal => exact hwithdraw h
  | publication =>
    simp only [Task.pass, Task.value] at h ⊢
    rcases publish_cases cls x with ⟨hlive, hpublish⟩ | ⟨hlive, hpublish⟩
    · rw [hpublish] at h
      obtain ⟨-, -, rfl⟩ := (Cluster.perform_publishSecrets_ok_iff cls x s t).mp h
      rw [if_pos hlive]
      exact Cluster.plain_published s
    · rw [hpublish] at h
      rw [if_neg hlive]
      exact hwithdraw h

/-! ## What registries list -/

/-- What a registry lists for an ingress: the value of its entry, and the secrets that are read from it. -/
def listing (y : Ingress) (r : ConfigMap) : Option String × List String :=
  ( Registry.entry? r (entryKeyOf y),
    Registry.entrySecrets r (entryKeyOf y) y.metadata.anyNamespace)

/-- What each registry of a cluster lists for an ingress. -/
def listings (s : Cluster) (y : Ingress) : List (Place × Option String × List String) :=
  s.registries.map fun r => (placeOf r.metadata, listing y r)

/-- Registries list the same for an ingress if its entries are the same. -/
theorem listing_eq_iff (r r' : ConfigMap) :
    listing y r = listing y r' ↔
      Registry.entry? r (entryKeyOf y) = Registry.entry? r' (entryKeyOf y) := by
  unfold listing
  rw [Registry.entrySecrets_eq, Registry.entrySecrets_eq]
  constructor
  · intro h
    exact (Prod.mk.inj h).1
  · intro h
    rw [h]

/-- What a registry lists once an entry was written: as before, unless the entry is the one that is read
and had another value. -/
theorem listing_entryAt_eq_iff (places : List Place) (key : String) (value : Option String)
    (r : ConfigMap) :
    listing y (entryAt places key value r) = listing y r ↔
      (key = entryKeyOf y → placeOf r.metadata ∈ places → Registry.entry? r (entryKeyOf y) = value) := by
  rw [listing_eq_iff, Cluster.entry?_entryAt]
  by_cases hkey : key = entryKeyOf y
  · by_cases hplace : placeOf r.metadata ∈ places
    · simp only [hkey, hplace, and_self, if_true, true_implies]
      exact eq_comm
    · simp [hplace]
  · simp [hkey]

/-- What registries list for an ingress once entries were written. -/
theorem listings_eq_iff_of_plain {places : List Place} {key : String} {value : Option String}
    (h : t.registries.map plain = (s.registries.map plain).map (entryAt places key value)) :
    listings t y = listings s y ↔
      (key = entryKeyOf y → ∀ r ∈ s.registries, placeOf r.metadata ∈ places →
        Registry.entry? r (entryKeyOf y) = value) := by
  have hplain (u : Cluster) : listings u y =
      (u.registries.map plain).map fun r => (placeOf r.metadata, listing y r) := by
    rw [List.map_map]
    rfl
  have hplace (r : ConfigMap) : placeOf (entryAt places key value r).metadata = placeOf r.metadata := by
    unfold entryAt
    split <;> rfl
  rw [hplain t, hplain s, h, List.map_map, List.map_inj_left, List.forall_mem_map]
  simp only [Function.comp_apply, hplace, Prod.mk.injEq, true_and, listing_entryAt_eq_iff]
  constructor
  · intro hall hkey r hr
    exact hall r hr hkey
  · intro hall r hr hkey
    exact hall hkey r hr

/-- A pass over an ingress that succeeds leaves what every registry lists for an ingress at another place,
exactly if the two places do not overlap or every registry of the class already has the value that the
pass leaves. -/
theorem listings_kept_iff_apart {task : Task} (hplace : placeOf x.metadata ≠ placeOf y.metadata)
    (h : perform (Cluster.serve stamps) (task.pass cls x) s = (.ok (), t)) :
    listings t y = listings s y ↔
      (Overlaps (placeOf x.metadata) (placeOf y.metadata) ∨
          Overlaps (placeOf y.metadata) (placeOf x.metadata) →
        ∀ r ∈ s.registries, placeOf r.metadata ∈ classPlaces cls s →
          Registry.entry? r (entryKeyOf x) = task.value x) := by
  have hkeys : entryKeyOf x = entryKeyOf y ↔
      Overlaps (placeOf x.metadata) (placeOf y.metadata) ∨
        Overlaps (placeOf y.metadata) (placeOf x.metadata) := entryKey_eq_iff hplace
  rw [listings_eq_iff_of_plain (plain_task h), ← hkeys]
  constructor
  · intro hall hkey
    rw [hkey]
    exact hall hkey
  · intro hall hkey
    rw [← hkey]
    exact hall hkey

end Entries

/-! ## Two ingresses with one key -/

section Overlap

open Trust.Sample

/-- A live ingress of a namespace whose name goes on after a dash. -/
def remaining : Ingress :=
  let web := ingress "web" none ["web-tls"]
  { web with metadata := { web.metadata with «namespace» := some "shop-eu" } }

/-- An ingress that is going away and names no secrets. -/
def leaving : Ingress := ingress "eu-web" (some ⟨0, 0⟩) []

/-- The cluster of both. The first one is published. -/
def street : Cluster where
  stored := fun p =>
    if p = ⟨"shop-eu", "web-tls"⟩ then some (withFinalizers keypair [keypairFinalizer]) else none
  ingresses := [remaining, leaving]
  distinct := by decide
  registries := [{ registry with
    data := some (Dict.ofList [("shop-eu-web", Registry.entryValue "shop-eu" ["web-tls"])]) }]
  writes := 0

/-- The cluster after the second one was withdrawn. -/
def emptied : Cluster := street.withdrawn Stamps.counting cls leaving

/-- The two ingresses are at different places. -/
theorem leaving_apart : placeOf leaving.metadata ≠ placeOf remaining.metadata := by decide

/-- The withdrawal of the second ingress succeeds and leaves the emptied cluster. -/
theorem leaving_withdrawn :
    perform (Cluster.serve Stamps.counting) (Task.withdrawal.pass cls leaving) street =
      (.ok (), emptied) :=
  Cluster.perform_withdraw cls leaving street

/-- The withdrawal of an ingress removes the entry of another one. -/
theorem neighbour_not_kept :
    placeOf leaving.metadata ≠ placeOf remaining.metadata ∧
      perform (Cluster.serve Stamps.counting) (Task.withdrawal.pass cls leaving) street =
        (.ok (), emptied) ∧
      listings emptied remaining ≠ listings street remaining := by
  refine ⟨leaving_apart, leaving_withdrawn, ?_⟩
  decide +kernel

/-- The two ingresses have one key, and the entry under it is none that the withdrawal leaves. -/
theorem leaving_overlaps :
    placeOf leaving.metadata ≠ placeOf remaining.metadata ∧
      perform (Cluster.serve Stamps.counting) (Task.withdrawal.pass cls leaving) street =
        (.ok (), emptied) ∧
      Overlaps (placeOf leaving.metadata) (placeOf remaining.metadata) ∧
      listings emptied remaining ≠ listings street remaining := by
  have hoverlaps : Overlaps (placeOf leaving.metadata) (placeOf remaining.metadata) :=
    ⟨"eu", by decide, by decide⟩
  refine ⟨leaving_apart, leaving_withdrawn, hoverlaps, fun hkept => ?_⟩
  have hentries := (listings_kept_iff_apart leaving_apart leaving_withdrawn).mp hkept
    (.inl hoverlaps)
  have hother : ¬ ∀ r ∈ street.registries, placeOf r.metadata ∈ classPlaces cls street →
      Registry.entry? r (entryKeyOf leaving) = Task.withdrawal.value leaving := by decide +kernel
  exact hother hentries

end Overlap

end Isolation

end GatewayOperator.Trust
