import GatewayOperator.Proofs.Run
import GatewayOperator.Proofs.Trust.Performance
import Mathlib.Data.List.Induction

/-!
# Finalizers that are forgotten

Passes run one after the other, and users change ingresses and secrets in between. A secret that carries
the finalizer is remembered as long as an ingress in use names it, or as long as a pass has yet to look at
an ingress that names it or for which a registry lists it. A publication claims its secrets before it lists
them, so a claim of one that fails is remembered by its ingress alone, and a claim that no registry lists
is too. If such an ingress is changed so that it no longer names the secret, nobody remembers it, and the
finalizer stays for good. The same becomes of a secret whose entry is overwritten by a pass over another
ingress with the same key. There is no other way. It does not happen if ingresses are changed only while no
pass is due, there is a registry of the class, and no two ingresses have the same entry.
-/

set_option autoImplicit false

namespace GatewayOperator.Trust

open GatewayOperator.Resource

namespace Forgetting

open Program.Pass (perform)

/-- A cluster, the ingresses that were removed from it as they were last, and the places that a pass has
yet to look at. -/
structure World where
  cluster : Cluster
  removed : Place → Option Ingress
  due : List Place

/-- What happens next: a user changes something, or a pass over the ingress at a place runs from its start
to its end. -/
inductive Event where
  | putIngress (ingress : Ingress)
  | removeIngress (p : Place) (time : Instant)
  | changeSecret (p : Place) (secret : Secret)
  | removeSecret (p : Place)
  | pass (p : Place)

/-- An ingress that is going away. -/
def dying (x : Ingress) (time : Instant) : Ingress :=
  { x with metadata := { x.metadata with deletionTimestamp := some time } }

namespace World

variable (stamps : Stamps) (cls : String)

/-- A cluster before any pass: one is due for every ingress of the class. -/
def start (cluster : Cluster) : World :=
  ⟨cluster, fun _ => none,
    (cluster.ingresses.filter fun x => isTracked x cls).map fun x => placeOf x.metadata⟩

/-- The ingress that a pass over a place looks at: the one that is there, or else the one that was removed
from there. -/
def subject (w : World) (p : Place) : Option Ingress := (w.cluster.ingress? p).or (w.removed p)

/-- Whether there is an ingress of the class at a place. -/
def tracks (w : World) (p : Place) : Bool := (w.cluster.ingress? p).any fun x => isTracked x cls

/-- The places that a pass has yet to look at, with one more in some cases. -/
def dueIf (w : World) (p : Place) (needed : Bool) : List Place :=
  if needed then p :: w.due else w.due

/-- The places that a pass has yet to look at after one has looked at a place. -/
def dueAfter (w : World) (p : Place) : Except PassFailure Unit → List Place
  | .ok _ => w.due.filter fun q => q ≠ p
  | .error _ => p :: w.due

/-- The world after an event. -/
def step (w : World) : Event → World
  | .putIngress x =>
    { w with
      cluster := w.cluster.putIngress x
      due := w.dueIf (placeOf x.metadata) (isTracked x cls || w.tracks cls (placeOf x.metadata)) }
  | .removeIngress p time =>
    match w.cluster.ingress? p with
    | none => w
    | some x =>
      { cluster := w.cluster.removeIngress p
        removed := fun q => if q = p then some (dying x time) else w.removed q
        due := w.dueIf p (isTracked x cls) }
  | .changeSecret p secret => { w with cluster := w.cluster.changeSecret stamps p secret }
  | .removeSecret p => { w with cluster := w.cluster.removeSecret p }
  | .pass p =>
    match w.subject p with
    | none => w
    | some x =>
      let (result, cluster) := perform (Cluster.serve stamps) (attend x cls) w.cluster
      { w with cluster := cluster, due := w.dueAfter p result }

/-- The world after a run. -/
def after (w : World) (es : List Event) : World := es.foldl (step stamps cls) w

/-- The world after one more event is what the event makes of it. -/
theorem after_snoc (w : World) (es : List Event) (e : Event) :
    w.after stamps cls (es ++ [e]) = (w.after stamps cls es).step stamps cls e := by
  simp [after]

/-- Whether no pass is due: the latest pass over every ingress of the class ran after its last change and
succeeded, and every one that was removed has been withdrawn. -/
def Settled (w : World) : Prop := w.due = []

instance (w : World) : Decidable w.Settled := inferInstanceAs (Decidable (_ = _))

/-- Whether every secret that carries the finalizer is named by an ingress in use. -/
def Tidy (w : World) : Prop :=
  ∀ q, w.cluster.Carries q → ∃ y ∈ w.cluster.ingresses, IsServed cls y ∧ Names y q

/-- Whether a secret is found through the ingress at a place: the ingress names it and is in use or still
to be looked at, or it is still to be looked at and registries list the secret for it. -/
def Finds (w : World) (p : Place) (x : Ingress) (q : Place) : Prop :=
  Names x q ∧ (IsServed cls x ∨ p ∈ w.due) ∨
    p ∈ w.due ∧ q.ns = x.metadata.anyNamespace ∧ q.name ∈ w.cluster.listing cls x

/-- Whether a secret is found through some ingress. -/
def Remembered (w : World) (q : Place) : Prop := ∃ p x, w.subject p = some x ∧ w.Finds cls p x q

/-- Whether a secret carries the finalizer, but is found through no ingress. -/
def Forgotten (w : World) (q : Place) : Prop := w.cluster.Carries q ∧ ¬ w.Remembered cls q

/-- Whether an ingress through which a secret is found is replaced by one that does not name it, while no
registry lists the secret for it. -/
def Renounces (w : World) (x : Ingress) (q : Place) : Prop :=
  ∃ y, w.subject (placeOf x.metadata) = some y ∧ Names y q ∧
    (IsServed cls y ∨ placeOf x.metadata ∈ w.due) ∧ ¬ Names x q ∧ q.name ∉ w.cluster.listing cls y

/-- Whether a pass over one place writes the entry under which registries list a secret for another one
that is still to be looked at. -/
def Overwrites (w : World) (p q : Place) : Prop :=
  ∃ x p' y, w.subject p = some x ∧ p' ≠ p ∧ w.subject p' = some y ∧ p' ∈ w.due ∧
    entryKeyOf x = entryKeyOf y ∧ q.ns = y.metadata.anyNamespace ∧
      q.name ∈ w.cluster.listing cls y

/-- Whether an event is one by which a secret with the finalizer is forgotten. -/
def Forgets (w : World) (e : Event) (q : Place) : Prop :=
  (w.step stamps cls e).cluster.Carries q ∧
    ((∃ x, e = .putIngress x ∧ w.Renounces cls x q) ∨ ∃ p, e = .pass p ∧ w.Overwrites cls p q)

/-- Whether ingresses are created and changed in a run only while no pass is due. -/
def Patient (w : World) (es : List Event) : Prop :=
  ∀ before x rest, es = before ++ .putIngress x :: rest → (w.after stamps cls before).Settled

/-- Whether no two ingresses have the same entry. -/
def DistinctKeys (w : World) : Prop :=
  ∀ p p' x y, w.subject p = some x → w.subject p' = some y → entryKeyOf x = entryKeyOf y → p = p'

/-- Whether registries list what an ingress in use names, unless a pass has yet to look at it. -/
def Published (w : World) : Prop :=
  ∀ p x, w.subject p = some x → IsServed cls x → p ∉ w.due →
    ∀ name ∈ secretNames x, name ∈ w.cluster.listing cls x

/-- Whether a secret was forgotten in a run and has been since. -/
def Lost (w : World) (es : List Event) (q : Place) : Prop :=
  Run.Since (fun before e => (w.after stamps cls before).Forgets stamps cls e q)
    (fun sofar => (w.after stamps cls sofar).Forgotten cls q) es

end World

section Steps

variable {stamps : Stamps} {cls : String} {w : World}

/-- Every ingress that was removed is known by its place and is going away. -/
def Sound (w : World) : Prop :=
  ∀ p x, w.removed p = some x → placeOf x.metadata = p ∧ x.metadata.isDeleting = true

/-- A pass over the place of an ingress looks at that ingress. -/
theorem subject_of_mem {x : Ingress} (h : x ∈ w.cluster.ingresses) :
    w.subject (placeOf x.metadata) = some x := by
  unfold World.subject
  rw [Cluster.ingress?_of_mem h]
  rfl

/-- The ingress that a pass over a place looks at is there, or it was removed from there. -/
theorem subject_cases {p : Place} {x : Ingress} (h : w.subject p = some x) :
    w.cluster.ingress? p = some x ∨ w.cluster.ingress? p = none ∧ w.removed p = some x := by
  unfold World.subject at h
  cases hthere : w.cluster.ingress? p with
  | none => exact .inr ⟨rfl, by rwa [hthere] at h⟩
  | some y => exact .inl (by rwa [hthere] at h)

/-- The ingress that a pass over a place looks at is of that place. -/
theorem Sound.placeOf_subject (hs : Sound w) {p : Place} {x : Ingress} (h : w.subject p = some x) :
    placeOf x.metadata = p := by
  rcases subject_cases h with hthere | ⟨-, hremoved⟩
  · exact (Cluster.mem_of_ingress? hthere).2
  · exact (hs p x hremoved).1

/-- An ingress in use that a pass looks at is there. -/
theorem Sound.ingress?_of_served (hs : Sound w) {p : Place} {x : Ingress}
    (h : w.subject p = some x) (hserved : IsServed cls x) : w.cluster.ingress? p = some x := by
  rcases subject_cases h with hthere | ⟨-, hremoved⟩
  · exact hthere
  · have hdeleting := (hs p x hremoved).2
    rw [hserved.1] at hdeleting
    cases hdeleting

/-- A place that is due stays due. -/
theorem mem_dueIf_of_mem {p q : Place} (h : q ∈ w.due) (needed : Bool) : q ∈ w.dueIf p needed := by
  unfold World.dueIf
  split
  · exact List.mem_cons_of_mem p h
  · exact h

/-- A place that is needed is due. -/
theorem mem_dueIf {p : Place} {needed : Bool} (h : needed = true) : p ∈ w.dueIf p needed := by
  unfold World.dueIf
  rw [if_pos h]
  exact List.mem_cons_self

/-- A pass over one place leaves it due or not, and every other place as it was. -/
theorem mem_dueAfter_of_ne {p q : Place} (hne : q ≠ p) (result : Except PassFailure Unit) :
    q ∈ w.dueAfter p result ↔ q ∈ w.due := by
  cases result with
  | ok u => simp [World.dueAfter, hne]
  | error e => simp [World.dueAfter, hne]

/-- A pass leaves what the cluster is then, and its place is due if it failed. -/
theorem step_pass {p : Place} {x : Ingress} {result : Except PassFailure Unit} {cluster : Cluster}
    (hsubject : w.subject p = some x)
    (hpass : perform (Cluster.serve stamps) (attend x cls) w.cluster = (result, cluster)) :
    w.step stamps cls (.pass p) = { w with cluster := cluster, due := w.dueAfter p result } := by
  simp only [World.step, hsubject, hpass]

/-- What finds a secret still finds it if its place is still due and registries still list the secret. -/
theorem World.Finds.mono {w' : World} {p q : Place} {x : Ingress} (h : w.Finds cls p x q)
    (hdue : p ∈ w.due → p ∈ w'.due)
    (hlisting : q.name ∈ w.cluster.listing cls x → q.name ∈ w'.cluster.listing cls x) :
    w'.Finds cls p x q := by
  rcases h with ⟨hnames, hserved | hp⟩ | ⟨hp, hns, hlisted⟩
  · exact .inl ⟨hnames, .inl hserved⟩
  · exact .inl ⟨hnames, .inr (hdue hp)⟩
  · exact .inr ⟨hdue hp, hns, hlisting hlisted⟩

/-- What finds a secret is in use or still to be looked at. -/
theorem World.Finds.pending {p q : Place} {x : Ingress} (h : w.Finds cls p x q) :
    IsServed cls x ∨ p ∈ w.due :=
  h.elim (fun h => h.2) fun h => .inr h.1

/-- A secret is found through an ingress of its namespace. -/
theorem World.Finds.ns_eq {p q : Place} {x : Ingress} (h : w.Finds cls p x q) :
    q.ns = x.metadata.anyNamespace :=
  h.elim (fun h => h.1.1) fun h => h.2.1

/-! ## Changes by users -/

/-- After a change of an ingress a pass over its place looks at the changed one. -/
theorem subject_putIngress (x : Ingress) (p : Place) :
    (w.step stamps cls (.putIngress x)).subject p =
      if p = placeOf x.metadata then some x else w.subject p := by
  have hthere : (w.step stamps cls (.putIngress x)).cluster.ingress? p =
      if p = placeOf x.metadata then some x else w.cluster.ingress? p :=
    Cluster.ingress?_putIngress w.cluster x p
  unfold World.subject
  rw [hthere]
  split <;> rfl

/-- A removed ingress is gone from the cluster and known as one that is going away. -/
theorem step_removeIngress {p : Place} {x : Ingress} (h : w.cluster.ingress? p = some x)
    (time : Instant) :
    w.step stamps cls (.removeIngress p time) =
      ⟨w.cluster.removeIngress p, fun q => if q = p then some (dying x time) else w.removed q,
        w.dueIf p (isTracked x cls)⟩ := by
  simp only [World.step, h]

/-- After the removal of an ingress a pass over its place looks at it as it is going away. -/
theorem subject_removeIngress {p : Place} {x : Ingress} (h : w.cluster.ingress? p = some x)
    (time : Instant) (q : Place) :
    (w.step stamps cls (.removeIngress p time)).subject q =
      if q = p then some (dying x time) else w.subject q := by
  rw [step_removeIngress h]
  unfold World.subject
  rw [Cluster.ingress?_removeIngress]
  by_cases hq : q = p
  · simp [hq]
  · simp [hq]

/-- When an ingress is changed, a secret stays remembered, unless the ingress renounces it. -/
theorem remembered_putIngress (hs : Sound w) (x : Ingress) {q : Place} (h : w.Remembered cls q) :
    (w.step stamps cls (.putIngress x)).Remembered cls q ∨ w.Renounces cls x q := by
  obtain ⟨p, y, hsubject, hfinds⟩ := h
  have hsubject' : (w.step stamps cls (.putIngress x)).subject p =
      if p = placeOf x.metadata then some x else w.subject p := subject_putIngress x p
  by_cases hp : p = placeOf x.metadata
  · subst hp
    rw [if_pos rfl] at hsubject'
    have hplace := hs.placeOf_subject hsubject
    have hns : x.metadata.anyNamespace = y.metadata.anyNamespace := (Place.mk.inj hplace.symm).1
    have hserved : IsServed cls y → w.tracks cls (placeOf x.metadata) = true := by
      intro hserved
      unfold World.tracks
      rw [hs.ingress?_of_served hsubject hserved]
      exact hserved.2
    have hdue : placeOf x.metadata ∈ (w.step stamps cls (.putIngress x)).due := by
      rcases hfinds.pending with hy | hy
      · exact mem_dueIf (by rw [hserved hy, Bool.or_true])
      · exact mem_dueIf_of_mem hy _
    -- the place is due, so what its ingress names or registries list for it is found
    by_cases hnames : Names x q
    · exact .inl ⟨_, x, hsubject', .inl ⟨hnames, .inr hdue⟩⟩
    · by_cases hlisted : q.name ∈ w.cluster.listing cls y
      · have hlisted' : q.name ∈ (w.cluster.putIngress x).listing cls x := by
          rwa [Cluster.listing_congr (t := w.cluster.putIngress x) rfl hplace.symm]
        exact .inl ⟨_, x, hsubject', .inr ⟨hdue, hfinds.ns_eq.trans hns.symm, hlisted'⟩⟩
      · rcases hfinds with ⟨hy, hpending⟩ | ⟨-, -, hy⟩
        · exact .inr ⟨y, hsubject, hy, hpending, hnames, hlisted⟩
        · exact absurd hy hlisted
  · rw [if_neg hp] at hsubject'
    exact .inl ⟨p, y, hsubject'.trans hsubject, hfinds.mono (fun hdue => mem_dueIf_of_mem hdue _) id⟩

/-- When an ingress is removed, a secret stays remembered. -/
theorem remembered_removeIngress (p : Place) (time : Instant) {q : Place}
    (h : w.Remembered cls q) :
    (w.step stamps cls (.removeIngress p time)).Remembered cls q := by
  cases hthere : w.cluster.ingress? p with
  | none =>
    simp only [World.step, hthere]
    exact h
  | some x =>
    obtain ⟨p', y, hsubject, hfinds⟩ := h
    have hsubject' : (w.step stamps cls (.removeIngress p time)).subject p' =
        if p' = p then some (dying x time) else w.subject p' := subject_removeIngress hthere time p'
    by_cases hp : p' = p
    · subst hp
      have hy : y = x := by
        unfold World.subject at hsubject
        rw [hthere] at hsubject
        exact (Option.some.inj hsubject).symm
      subst hy
      refine ⟨p', dying y time, hsubject'.trans (if_pos rfl), ?_⟩
      rw [step_removeIngress hthere]
      -- an ingress in use is due from now on
      have hdue : p' ∈ w.dueIf p' (isTracked y cls) :=
        hfinds.pending.elim (fun hserved => mem_dueIf hserved.2) fun hdue => mem_dueIf_of_mem hdue _
      rcases hfinds with ⟨hnames, -⟩ | ⟨-, hlisted⟩
      · exact .inl ⟨hnames, .inr hdue⟩
      · exact .inr ⟨hdue, hlisted⟩
    · refine ⟨p', y, (hsubject'.trans (if_neg hp)).trans hsubject, ?_⟩
      rw [step_removeIngress hthere]
      exact hfinds.mono (fun hdue => mem_dueIf_of_mem hdue _) id

/-- A secret that is found through an ingress still is when a user removes one. -/
theorem remembered_removeSecret (p : Place) {q : Place} (h : w.Remembered cls q) :
    (w.step stamps cls (.removeSecret p)).Remembered cls q := by
  simp only [World.step, Cluster.removeSecret]
  split <;> exact h

/-! ## Passes -/

/-- A secret is used if an ingress in use of the namespace names it. -/
theorem exists_of_isUsed {s : Cluster} {x : Ingress} {q : Place} (hns : q.ns = x.metadata.anyNamespace)
    (h : isUsed (s.users x cls) q.name = true) :
    ∃ y ∈ s.ingresses, IsServed cls y ∧ Names y q := by
  obtain ⟨y, hy, hnames⟩ := List.any_eq_true.mp h
  obtain ⟨hlisted, hother⟩ := List.mem_filter.mp hy
  obtain ⟨hmem, hyns⟩ := List.mem_filter.mp hlisted
  simp only [Bool.and_eq_true, Bool.not_eq_true', decide_eq_true_eq] at hother hyns
  exact ⟨y, hmem, ⟨hother.1.2, hother.2⟩, hns.trans hyns.symm, List.contains_iff_mem.mp hnames⟩

/-- An ingress in use finds what it names. -/
theorem remembered_of_named {y : Ingress} {q : Place} (hy : y ∈ w.cluster.ingresses)
    (hserved : IsServed cls y) (hnames : Names y q) : w.Remembered cls q :=
  ⟨_, y, subject_of_mem hy, .inl ⟨hnames, .inl hserved⟩⟩

/-- A pass looks at the same ingresses if the ingresses of the cluster are the same. -/
theorem subject_congr (w w' : World) (hingresses : w'.cluster.ingresses = w.cluster.ingresses)
    (hremoved : w'.removed = w.removed) (p : Place) : w'.subject p = w.subject p := by
  unfold World.subject Cluster.ingress?
  rw [hingresses, hremoved]

/-- When a pass succeeds, a secret stays remembered, unless the pass overwrites its entry: the ingress of
the pass names it and is in use, or another one in use does. -/
theorem remembered_success {p q : Place} {x : Ingress} {cluster : Cluster}
    (hsubject : w.subject p = some x) (hingresses : cluster.ingresses = w.cluster.ingresses)
    (hlisting : ∀ y, entryKeyOf x ≠ entryKeyOf y → cluster.listing cls y = w.cluster.listing cls y)
    (hown : w.Finds cls p x q →
      IsServed cls x ∧ Names x q ∨ isUsed (w.cluster.users x cls) q.name = true)
    (h : w.Remembered cls q) :
    World.Remembered cls ⟨cluster, w.removed, w.dueAfter p (.ok ())⟩ q ∨ w.Overwrites cls p q := by
  obtain ⟨p', y, hsubject', hfinds⟩ := h
  have hthere := subject_congr w ⟨cluster, w.removed, w.dueAfter p (.ok ())⟩ hingresses rfl
  by_cases hp : p' = p
  · subst hp
    cases hsubject.symm.trans hsubject'
    left
    -- the place is no longer due, so only ingresses in use count
    rcases hown hfinds with ⟨hserved, hnames⟩ | hused
    · exact ⟨p', x, (hthere p').trans hsubject, .inl ⟨hnames, .inl hserved⟩⟩
    · obtain ⟨z, hz, hserved, hnames⟩ := exists_of_isUsed hfinds.ns_eq hused
      exact remembered_of_named (hingresses ▸ hz) hserved hnames
  · have hdue : p' ∈ w.due → p' ∈ w.dueAfter p (.ok ()) := (mem_dueAfter_of_ne hp _).mpr
    rcases hfinds with ⟨hnames, hpending⟩ | ⟨hp', hns, hlisted⟩
    · exact .inl ⟨p', y, (hthere p').trans hsubject', .inl ⟨hnames, hpending.imp_right hdue⟩⟩
    · by_cases hkey : entryKeyOf x = entryKeyOf y
      · exact .inr ⟨x, p', y, hsubject, hp, hsubject', hp', hkey, hns, hlisted⟩
      · refine .inl ⟨p', y, (hthere p').trans hsubject', .inr ⟨hdue hp', hns, ?_⟩⟩
        exact (hlisting y hkey).symm ▸ hlisted

/-- After a pass every secret that carries the finalizer is remembered, unless it was not before or the
pass overwrites its entry. -/
theorem remembered_pass (p : Place) {q : Place} (h : w.cluster.Carries q → w.Remembered cls q)
    (hcarries : (w.step stamps cls (.pass p)).cluster.Carries q) :
    (w.step stamps cls (.pass p)).Remembered cls q ∨ w.Overwrites cls p q := by
  cases hsubject : w.subject p with
  | none =>
    have hstep : w.step stamps cls (.pass p) = w := by simp only [World.step, hsubject]
    rw [hstep] at hcarries ⊢
    exact .inl (h hcarries)
  | some x =>
    rcases Cluster.perform_attend_cases stamps cls x w.cluster with
      ⟨e, k, hserved, hpass⟩ | ⟨hserved, hpass⟩ | ⟨hunserved, hpass⟩
    · rw [step_pass hsubject hpass] at hcarries ⊢
      obtain ⟨hregistries, hingresses⟩ := Cluster.else_claimed stamps
        x.metadata.anyNamespace w.cluster ((secretNames x).take k)
      have hthere := subject_congr w
        ⟨Cluster.claimed stamps x.metadata.anyNamespace w.cluster ((secretNames x).take k),
          w.removed, w.dueAfter p (.error e)⟩ hingresses rfl
      left
      -- claimed before, or claimed now for an ingress in use that names it
      rcases Cluster.carries_claimed hcarries with hbefore | ⟨hns, hname⟩
      · obtain ⟨p', y, hsubject', hfinds⟩ := h hbefore
        refine ⟨p', y, (hthere p').trans hsubject', hfinds.mono (fun hdue => ?_) fun hlisted => ?_⟩
        · exact List.mem_cons_of_mem p hdue
        · rwa [Cluster.listing_congr hregistries rfl]
      · exact ⟨p, x, (hthere p).trans hsubject,
          .inl ⟨⟨hns, List.mem_of_mem_take hname⟩, .inl hserved⟩⟩
    · rw [step_pass hsubject hpass] at hcarries ⊢
      rcases Cluster.carries_published hcarries with hnames | ⟨hbefore, hkept⟩
      · have hthere := subject_congr w
          ⟨w.cluster.published stamps cls x, w.removed, w.dueAfter p (.ok ())⟩
          (Cluster.ingresses_published w.cluster) rfl
        exact .inl ⟨p, x, (hthere p).trans hsubject, .inl ⟨hnames, .inl hserved⟩⟩
      · refine remembered_success hsubject (Cluster.ingresses_published w.cluster)
          (fun y hkey => Cluster.listing_published_of_ne hkey w.cluster) (fun hfinds => ?_) (h hbefore)
        rcases hfinds with ⟨hnames, -⟩ | ⟨-, hns, hlisted⟩
        · exact .inl ⟨hserved, hnames⟩
        · right
          by_contra hunused
          exact hkept ⟨hns, hlisted, Bool.eq_false_iff.mpr hunused⟩
    · rw [step_pass hsubject hpass] at hcarries ⊢
      obtain ⟨hbefore, hkept⟩ := (Cluster.carries_withdrawn_iff cls x w.cluster q).mp hcarries
      refine remembered_success hsubject (Cluster.ingresses_withdrawn w.cluster)
        (fun y hkey => Cluster.listing_withdrawn_of_ne hkey w.cluster) (fun hfinds => ?_) (h hbefore)
      right
      by_contra hunused
      refine hkept ⟨hfinds.ns_eq, ?_, Bool.eq_false_iff.mpr hunused⟩
      exact hfinds.elim (fun h => .inr h.1.2) fun h => .inl h.2.2

/-- After an event every secret that carries the finalizer is remembered, unless it was forgotten before or
the event is one that forgets it. -/
theorem remembered_step (hs : Sound w) (e : Event) {q : Place} (h : ¬ w.Forgotten cls q)
    (hcarries : (w.step stamps cls e).cluster.Carries q) :
    (w.step stamps cls e).Remembered cls q ∨ w.Forgets stamps cls e q := by
  have hremembered : w.cluster.Carries q → w.Remembered cls q :=
    fun hbefore => by_contra fun hnot => h ⟨hbefore, hnot⟩
  cases e with
  | putIngress x =>
    have hbefore : w.cluster.Carries q := hcarries
    rcases remembered_putIngress hs x (hremembered hbefore) with hafter | hrenounces
    · exact .inl hafter
    · exact .inr ⟨hcarries, .inl ⟨x, rfl, hrenounces⟩⟩
  | removeIngress p time =>
    have hsame : (w.step stamps cls (.removeIngress p time)).cluster.stored = w.cluster.stored := by
      simp only [World.step]
      split <;> rfl
    have hbefore : w.cluster.Carries q := by
      simpa only [Cluster.Carries, Cluster.secret?, hsame] using hcarries
    exact .inl (remembered_removeIngress p time (hremembered hbefore))
  | changeSecret p secret =>
    exact .inl (hremembered ((Cluster.carries_changeSecret stamps w.cluster p q secret).mp hcarries))
  | removeSecret p =>
    have hbefore := (Cluster.carries_removeSecret w.cluster p q).mp hcarries
    exact .inl (remembered_removeSecret p (hremembered hbefore))
  | pass p =>
    rcases remembered_pass p hremembered hcarries with hafter | hoverwrites
    · exact .inl hafter
    · exact .inr ⟨hcarries, .inr ⟨p, rfl, hoverwrites⟩⟩

end Steps

/-! ## Runs -/

section Runs

variable {stamps : Stamps} {cls : String} {w : World}

/-- Removed ingresses stay known by their place and going away. -/
theorem Sound.step (h : Sound w) (e : Event) : Sound (w.step stamps cls e) := by
  intro p x hremoved
  cases e with
  | putIngress y => exact h p x hremoved
  | changeSecret p₀ secret => exact h p x hremoved
  | removeSecret p₀ => exact h p x hremoved
  | removeIngress p₀ time =>
    simp only [World.step] at hremoved
    split at hremoved
    · exact h p x hremoved
    · next y hthere =>
      by_cases hp : p = p₀
      · simp only [hp, if_true] at hremoved
        cases hremoved
        exact ⟨(Cluster.mem_of_ingress? hthere).2.trans hp.symm, rfl⟩
      · exact h p x ((if_neg hp).symm.trans hremoved)
  | pass p₀ =>
    simp only [World.step] at hremoved
    split at hremoved
    · exact h p x hremoved
    · exact h p x hremoved

/-- Removed ingresses are known by their place and going away at all times. -/
theorem sound_after (cluster : Cluster) (es : List Event) :
    Sound ((World.start cls cluster).after stamps cls es) := by
  induction es using List.reverseRecOn with
  | nil =>
    intro p x hremoved
    cases hremoved
  | append_singleton es e ih =>
    rw [World.after_snoc]
    exact ih.step e

variable (stamps cls)

/-- The secrets that are forgotten are those that were forgotten by an event of the run and have been
since. -/
theorem forgotten_iff_lost {cluster : Cluster} (hnone : ∀ q, ¬ cluster.Carries q) (es : List Event)
    (q : Place) :
    ((World.start cls cluster).after stamps cls es).Forgotten cls q ↔
      (World.start cls cluster).Lost stamps cls es q := by
  constructor
  · intro hforgotten
    induction es using List.reverseRecOn with
    | nil => exact absurd hforgotten.1 (hnone q)
    | append_singleton es e ih =>
      refine (Run.since_snoc es e).mpr ⟨hforgotten, ?_⟩
      by_cases hbefore : ((World.start cls cluster).after stamps cls es).Forgotten cls q
      · exact .inr (ih hbefore)
      · rw [World.after_snoc] at hforgotten
        have hstep := remembered_step (sound_after cluster es) e hbefore hforgotten.1
        exact .inl (hstep.resolve_left hforgotten.2)
  · exact Run.Since.now

/-- In a settled cluster a secret is remembered by an ingress in use that names it. -/
theorem remembered_iff_of_settled {w : World} (hs : Sound w) (hsettled : w.Settled) (q : Place) :
    w.Remembered cls q ↔ ∃ y ∈ w.cluster.ingresses, IsServed cls y ∧ Names y q := by
  constructor
  · rintro ⟨p, y, hsubject, hfinds⟩
    have hdue : p ∉ w.due := by
      rw [hsettled]
      exact List.not_mem_nil
    rcases hfinds with ⟨hnames, hserved | hp⟩ | ⟨hp, -⟩
    · exact ⟨y, (Cluster.mem_of_ingress? (hs.ingress?_of_served hsubject hserved)).1, hserved, hnames⟩
    · exact absurd hp hdue
    · exact absurd hp hdue
  · rintro ⟨y, hy, hserved, hnames⟩
    exact remembered_of_named hy hserved hnames

/-- In a settled cluster that started without finalizers, the finalizers are exactly on secrets in use if
none was forgotten: if none lost the last ingress or entry that led to it, and has been without one
since. -/
theorem tidy_iff_none_lost {cluster : Cluster} (es : List Event) (hnone : ∀ q, ¬ cluster.Carries q)
    (hsettled : ((World.start cls cluster).after stamps cls es).Settled) :
    ((World.start cls cluster).after stamps cls es).Tidy cls ↔
      ∀ q, ¬ (World.start cls cluster).Lost stamps cls es q := by
  refine forall_congr' fun q => ?_
  rw [← forgotten_iff_lost stamps cls hnone es q, World.Forgotten,
    remembered_iff_of_settled cls (sound_after cluster es) hsettled q]
  exact not_and_not_right.symm

/-! ## Patient runs -/

variable {stamps cls}

/-- An event leaves a registry of the class if there was one. -/
theorem exists_serves_step (h : ∃ r ∈ w.cluster.registries, Registry.serves r cls = true) (e : Event) :
    ∃ r ∈ (w.step stamps cls e).cluster.registries, Registry.serves r cls = true := by
  cases e with
  | putIngress x => exact h
  | removeIngress p time =>
    simp only [World.step]
    split <;> exact h
  | changeSecret p secret => exact h
  | removeSecret p =>
    simp only [World.step, Cluster.removeSecret]
    split <;> exact h
  | pass p =>
    cases hsubject : w.subject p with
    | none =>
      simp only [World.step, hsubject]
      exact h
    | some x =>
      rcases Cluster.perform_attend_cases stamps cls x w.cluster with
        ⟨e, k, -, hpass⟩ | ⟨-, hpass⟩ | ⟨-, hpass⟩
      · rw [step_pass hsubject hpass, (Cluster.else_claimed stamps _ w.cluster _).1]
        exact h
      · rw [step_pass hsubject hpass]
        exact Cluster.exists_serves_of_plain (Cluster.plain_published w.cluster) h
      · rw [step_pass hsubject hpass]
        exact Cluster.exists_serves_of_plain (Cluster.plain_withdrawn w.cluster) h

/-- After a pass registries list what ingresses in use name, if they did before and no two ingresses have
the same entry. -/
theorem published_pass (h : w.Published cls) (hkeys : w.DistinctKeys)
    (hserves : ∃ r ∈ w.cluster.registries, Registry.serves r cls = true) (p : Place) :
    (w.step stamps cls (.pass p)).Published cls := by
  cases hsubject : w.subject p with
  | none =>
    have hstep : w.step stamps cls (.pass p) = w := by simp only [World.step, hsubject]
    rwa [hstep]
  | some x =>
    -- another ingress is listed and due as it was
    have hother : ∀ (cluster : Cluster) (result : Except PassFailure Unit),
        cluster.ingresses = w.cluster.ingresses →
        (∀ y, entryKeyOf x ≠ entryKeyOf y → cluster.listing cls y = w.cluster.listing cls y) →
        (p ∉ w.dueAfter p result → IsServed cls x →
          ∀ name ∈ secretNames x, name ∈ cluster.listing cls x) →
        World.Published cls ⟨cluster, w.removed, w.dueAfter p result⟩ := by
      intro cluster result hingresses hlisting hown p' y hsubject' hserved hdue
      have hthere := subject_congr w ⟨cluster, w.removed, w.dueAfter p result⟩ hingresses rfl p'
      rw [hthere] at hsubject'
      by_cases hp : p' = p
      · subst hp
        cases hsubject.symm.trans hsubject'
        exact hown hdue hserved
      · have hkey : entryKeyOf x ≠ entryKeyOf y := fun hkey => hp (hkeys _ _ _ _ hsubject hsubject' hkey).symm
        have hbefore : p' ∉ w.due := fun hbefore => hdue ((mem_dueAfter_of_ne hp result).mpr hbefore)
        rw [hlisting y hkey]
        exact h p' y hsubject' hserved hbefore
    rcases Cluster.perform_attend_cases stamps cls x w.cluster with
      ⟨e, k, -, hpass⟩ | ⟨-, hpass⟩ | ⟨hunserved, hpass⟩
    · rw [step_pass hsubject hpass]
      obtain ⟨hregistries, hingresses⟩ := Cluster.else_claimed stamps x.metadata.anyNamespace w.cluster
        ((secretNames x).take k)
      refine hother _ _ hingresses (fun y _ => Cluster.listing_congr hregistries rfl) fun hdue => ?_
      exact absurd List.mem_cons_self hdue
    · rw [step_pass hsubject hpass]
      exact hother _ _ (Cluster.ingresses_published w.cluster)
        (fun y hkey => Cluster.listing_published_of_ne hkey w.cluster)
        fun _ _ name hname => Cluster.mem_listing_published hserves hname
    · rw [step_pass hsubject hpass]
      refine hother _ _ (Cluster.ingresses_withdrawn w.cluster)
        (fun y hkey => Cluster.listing_withdrawn_of_ne hkey w.cluster) fun _ hserved name hname => ?_
      rw [hunserved hserved] at hname
      exact absurd hname List.not_mem_nil

/-- Registries list what ingresses in use name after every event, if no two ingresses have the same
entry. -/
theorem published_step (h : w.Published cls) (hkeys : w.DistinctKeys)
    (hserves : ∃ r ∈ w.cluster.registries, Registry.serves r cls = true) (e : Event) :
    (w.step stamps cls e).Published cls := by
  cases e with
  | putIngress x =>
    intro p y hsubject hserved hdue
    rw [subject_putIngress] at hsubject
    by_cases hp : p = placeOf x.metadata
    · -- the changed ingress is due
      rw [if_pos hp] at hsubject
      cases hsubject
      rw [hp] at hdue
      exact absurd (mem_dueIf (by rw [hserved.2, Bool.true_or])) hdue
    · rw [if_neg hp] at hsubject
      exact h p y hsubject hserved fun hbefore => hdue (mem_dueIf_of_mem hbefore _)
  | removeIngress p time =>
    cases hthere : w.cluster.ingress? p with
    | none =>
      simp only [World.step, hthere]
      exact h
    | some x =>
      intro p' y hsubject hserved hdue
      rw [subject_removeIngress hthere] at hsubject
      rw [step_removeIngress hthere] at hdue ⊢
      by_cases hp : p' = p
      · rw [if_pos hp] at hsubject
        cases hsubject
        have hdeleting : (dying x time).metadata.isDeleting = true := rfl
        rw [hserved.1] at hdeleting
        cases hdeleting
      · rw [if_neg hp] at hsubject
        exact h p' y hsubject hserved fun hbefore => hdue (mem_dueIf_of_mem hbefore _)
  | changeSecret p secret => exact h
  | removeSecret p =>
    simp only [World.step, Cluster.removeSecret]
    split <;> exact h
  | pass p => exact published_pass h hkeys hserves p

/-- Before any pass one is due for every ingress in use. -/
theorem published_start (cls : String) (cluster : Cluster) : (World.start cls cluster).Published cls := by
  intro p x hsubject hserved hdue
  rcases subject_cases hsubject with hthere | ⟨-, hremoved⟩
  · obtain ⟨hmem, rfl⟩ := Cluster.mem_of_ingress? hthere
    exact absurd (List.mem_map_of_mem (List.mem_filter.mpr ⟨hmem, hserved.2⟩)) hdue
  · cases hremoved

/-- An event forgets no secret, if registries list what ingresses in use name, no two ingresses have the
same entry, and ingresses are changed only while no pass is due. -/
theorem not_forgets (h : w.Published cls) (hkeys : w.DistinctKeys) (e : Event)
    (hpatient : ∀ x, e = .putIngress x → w.Settled) (q : Place) : ¬ w.Forgets stamps cls e q := by
  rintro ⟨-, ⟨x, rfl, y, hsubject, hnames, hpending, -, hunlisted⟩ |
    ⟨p, rfl, x, p', y, hsubject, hne, hsubject', -, hkey, -⟩⟩
  · have hnone : placeOf x.metadata ∉ w.due := by
      rw [hpatient x rfl]
      exact List.not_mem_nil
    have hserved : IsServed cls y := hpending.resolve_right hnone
    exact hunlisted (h _ y hsubject hserved hnone q.name hnames.2)
  · exact hne (hkeys _ _ _ _ hsubject hsubject' hkey).symm

variable (stamps cls)

/-- If ingresses are created and changed only while no pass is due, there is a registry of the class, and no
two ingresses have the same entry, then no finalizer is left behind in a settled cluster. -/
theorem tidy_of_patient {cluster : Cluster} (es : List Event) (hnone : ∀ q, ¬ cluster.Carries q)
    (hserves : ∃ r ∈ cluster.registries, Registry.serves r cls = true)
    (hpatient : (World.start cls cluster).Patient stamps cls es)
    (hkeys : ∀ before, before <+: es → ((World.start cls cluster).after stamps cls before).DistinctKeys)
    (hsettled : ((World.start cls cluster).after stamps cls es).Settled) :
    ((World.start cls cluster).after stamps cls es).Tidy cls := by
  have hlists : ∀ before, before <+: es →
      ((World.start cls cluster).after stamps cls before).Published cls ∧
        ∃ r ∈ ((World.start cls cluster).after stamps cls before).cluster.registries,
          Registry.serves r cls = true := by
    intro before
    induction before using List.reverseRecOn with
    | nil => exact fun _ => ⟨published_start cls cluster, hserves⟩
    | append_singleton before e ih =>
      intro hbefore
      have hshorter : before <+: es := (List.prefix_append before [e]).trans hbefore
      obtain ⟨hpublished, hserves⟩ := ih hshorter
      rw [World.after_snoc]
      exact ⟨published_step hpublished (hkeys before hshorter) hserves e, exists_serves_step hserves e⟩
  intro q hcarries
  refine (remembered_iff_of_settled cls (sound_after cluster es) hsettled q).mp ?_
  by_contra hforgotten
  obtain ⟨before, e, rest, rfl, hforgets, -⟩ :=
    (forgotten_iff_lost stamps cls hnone es q).mp ⟨hcarries, hforgotten⟩
  have hbefore : before <+: before ++ e :: rest := List.prefix_append before (e :: rest)
  refine not_forgets (hlists before hbefore).1 (hkeys before hbefore) e ?_ q hforgets
  rintro x rfl
  exact hpatient before x rest rfl

end Runs

/-! ## A claim that is forgotten -/

section Claim

open Trust.Sample

/-- An ingress that names a keypair and a secret that does not exist. -/
def shop : Cluster where
  stored := keypairs ["old-tls", "new-tls"]
  ingresses := [ingress "front" none ["old-tls", "missing-tls"]]
  distinct := by decide
  registries := [registry]
  writes := 0

/-- The place of the ingress. -/
def front : Place := ⟨"shop", "front"⟩

/-- A pass fails after it has claimed the keypair. Then the ingress comes to name another keypair only, and
its next pass succeeds. -/
def change : List Event := [.pass front, .putIngress (ingress "front" none ["new-tls"]), .pass front]

/-- No secret of the shop carries the finalizer at first. -/
theorem not_carries_shop (q : Place) : ¬ shop.Carries q := by
  rintro ⟨secret, hread, hhas⟩
  obtain ⟨kept, hstored, rfl⟩ := Option.map_eq_some_iff.mp hread
  have hkept : kept = keypair := by
    simp only [shop, keypairs] at hstored
    split at hstored
    · exact (Option.some.inj hstored).symm
    · cases hstored
  rw [hkept] at hhas
  cases hhas

/-- In the end no pass is due, and a secret carries the finalizer that no ingress names. -/
theorem outcome_change :
    ((World.start cls shop).after Stamps.counting cls change).Settled ∧
      ((World.start cls shop).after Stamps.counting cls change).cluster.Carries ⟨"shop", "old-tls"⟩ ∧
      ∀ y ∈ ((World.start cls shop).after Stamps.counting cls change).cluster.ingresses,
        "old-tls" ∉ secretNames y := by
  decide +kernel

/-- In the end a secret carries the finalizer that no ingress in use names. -/
theorem not_tidy_change : ¬ ((World.start cls shop).after Stamps.counting cls change).Tidy cls := by
  intro htidy
  obtain ⟨-, hcarries, hnone⟩ := outcome_change
  obtain ⟨y, hy, -, -, hname⟩ := htidy _ hcarries
  exact hnone y hy hname

/-- A finalizer can be left behind in a settled cluster that started without any. -/
theorem settled_not_tidy :
    (∀ q, ¬ shop.Carries q) ∧
      ((World.start cls shop).after Stamps.counting cls change).Settled ∧
      ¬ ((World.start cls shop).after Stamps.counting cls change).Tidy cls :=
  ⟨not_carries_shop, outcome_change.1, not_tidy_change⟩

/-- In the change of the ingress a secret is forgotten. -/
theorem change_forgets_secret :
    (∀ q, ¬ shop.Carries q) ∧
      ((World.start cls shop).after Stamps.counting cls change).Settled ∧
      ¬ ∀ q, ¬ (World.start cls shop).Lost Stamps.counting cls change q := by
  refine ⟨not_carries_shop, outcome_change.1, fun hnone => not_tidy_change ?_⟩
  exact (tidy_iff_none_lost Stamps.counting cls change not_carries_shop outcome_change.1).mpr hnone

end Claim

end Forgetting

end GatewayOperator.Trust
