import GatewayOperator.Proofs.Run
import GatewayOperator.Proofs.Trust.Caution
import Mathlib.Data.List.Induction

/-!
# Passes that overtake each other

Passes over different ingresses take turns, call by call, with each other and with users who change
ingresses and secrets. A release lists the ingresses first and takes the finalizer off one secret after the
other later. Whoever comes to use a secret in between is not on that list; if its own pass finds the
finalizer still there, it writes nothing, and the release then goes through. This is the only way in which
a secret in use is without its finalizer once the passes over its users have succeeded. As long as no
ingress changes while a pass is under way, it does not happen.
-/

set_option autoImplicit false

namespace GatewayOperator.Trust

open GatewayOperator.Resource

namespace Overtaking

/-- A pass under way: the ingress as it was when the pass started, what has been found out, and what is
still to do. -/
structure Flight where
  subject : Ingress
  findings : Findings
  rest : Program Call.Answer (Except PassFailure Unit)

/-- What the passes over an ingress have achieved since its last change: none over it as it is now has
succeeded, or one is under way, or the latest one has succeeded. -/
inductive Standing where
  | due
  | underway
  | settled
  deriving DecidableEq

/-- A cluster and the passes on it: at most one pass is under way for each place. -/
structure World where
  cluster : Cluster
  flights : Place → Option Flight
  standing : Place → Standing

/-- What happens next: a user changes something, or a pass starts, goes on by a call or is over. A pass
may also start from a copy of an ingress that is out of date. -/
inductive Event where
  | putIngress (ingress : Ingress)
  | removeIngress (p : Place)
  | changeSecret (p : Place) (secret : Secret)
  | removeSecret (p : Place)
  | start (p : Place)
  | startFrom (copy : Ingress)
  | proceed (p : Place) (fault : Option Fault)
  | finish (p : Place)

namespace World

variable (stamps : Stamps) (cls : String)

/-- A cluster before any pass. -/
def atRest (cluster : Cluster) : World := ⟨cluster, fun _ => none, fun _ => .due⟩

/-- The world with another flight for a place. -/
def setFlight (w : World) (p : Place) (flight : Option Flight) : World :=
  { w with flights := fun q => if q = p then flight else w.flights q }

/-- The world with another standing of a place. -/
def setStanding (w : World) (p : Place) (standing : Standing) : World :=
  { w with standing := fun q => if q = p then standing else w.standing q }

/-- Setting a flight leaves the cluster. -/
@[simp]
theorem cluster_setFlight (w : World) (p : Place) (flight : Option Flight) :
    (w.setFlight p flight).cluster = w.cluster := rfl

/-- Setting a flight leaves every other flight. -/
@[simp]
theorem flights_setFlight (w : World) (p q : Place) (flight : Option Flight) :
    (w.setFlight p flight).flights q = if q = p then flight else w.flights q := rfl

/-- Setting a flight leaves what passes have achieved. -/
@[simp]
theorem standing_setFlight (w : World) (p : Place) (flight : Option Flight) :
    (w.setFlight p flight).standing = w.standing := rfl

/-- Setting a standing leaves the cluster. -/
@[simp]
theorem cluster_setStanding (w : World) (p : Place) (standing : Standing) :
    (w.setStanding p standing).cluster = w.cluster := rfl

/-- Setting a standing leaves the flights. -/
@[simp]
theorem flights_setStanding (w : World) (p : Place) (standing : Standing) :
    (w.setStanding p standing).flights = w.flights := rfl

/-- Setting a standing leaves every other standing. -/
@[simp]
theorem standing_setStanding (w : World) (p q : Place) (standing : Standing) :
    (w.setStanding p standing).standing q = if q = p then standing else w.standing q := rfl

/-- A pass over a copy of an ingress that has made no call. -/
def newFlight (copy : Ingress) : Flight := ⟨copy, .none, (attend copy cls).run⟩

/-- The standing of an ingress once a pass is over. -/
def afterPass (before : Standing) : Except PassFailure Unit → Standing
  | .ok _ => if before = .underway then .settled else .due
  | .error _ => .due

/-- The world after an event. -/
def step (w : World) : Event → World
  | .putIngress x =>
    { w with cluster := w.cluster.putIngress x }.setStanding (placeOf x.metadata) .due
  | .removeIngress p => { w with cluster := w.cluster.removeIngress p }.setStanding p .due
  | .changeSecret p secret => { w with cluster := w.cluster.changeSecret stamps p secret }
  | .removeSecret p => { w with cluster := w.cluster.removeSecret p }
  | .start p =>
    match w.flights p, w.cluster.ingress? p with
    | none, some x => (w.setFlight p (some (newFlight cls x))).setStanding p .underway
    | _, _ => w
  | .startFrom copy =>
    match w.flights (placeOf copy.metadata) with
    | none =>
      (w.setFlight (placeOf copy.metadata) (some (newFlight cls copy))).setStanding
        (placeOf copy.metadata) .due
    | some _ => w
  | .proceed p fault =>
    match w.flights p with
    | some ⟨subject, findings, .ask c next⟩ =>
      let (answer, cluster) := Cluster.respond stamps fault c w.cluster
      { w with cluster := cluster }.setFlight p
        (some ⟨subject, findings.note c answer, next answer⟩)
    | _ => w
  | .finish p =>
    match w.flights p with
    | some ⟨_, _, .done result⟩ =>
      (w.setFlight p none).setStanding p (afterPass (w.standing p) result)
    | _ => w

/-- The world after a run. -/
def after (w : World) (es : List Event) : World := es.foldl (step stamps cls) w

/-- Whether an ingress in use names a secret and is not on the list of the pass at a place. -/
def Overlooked (w : World) (p q : Place) : Prop :=
  ∃ flight ingresses y, w.flights p = some flight ∧ flight.findings.listing = some ingresses ∧
    y ∈ w.cluster.ingresses ∧ IsServed cls y ∧ Names y q ∧ y ∉ ingresses

/-- Whether an event takes the finalizer off a secret that is in use, but not by the list of the pass whose
turn it is. -/
def Overtaken (w : World) (e : Event) (q : Place) : Prop :=
  w.cluster.Carries q ∧ ¬ (w.step stamps cls e).cluster.Carries q ∧
    ∃ p fault, e = .proceed p fault ∧ w.Overlooked cls p q

/-- Whether no pass is under way, and the latest pass over every ingress in use has started since its last
change and succeeded. -/
def Quiet (w : World) : Prop :=
  (∀ p, w.flights p = none) ∧
    ∀ y ∈ w.cluster.ingresses, IsServed cls y → w.standing (placeOf y.metadata) = .settled

/-- Whether every secret that exists and is named by an ingress in use carries the finalizer. -/
def Protected (w : World) : Prop :=
  ∀ y ∈ w.cluster.ingresses, IsServed cls y → ∀ name ∈ secretNames y,
    (w.cluster.secret? (secretPlace y name)).isSome → w.cluster.Carries (secretPlace y name)

instance (w : World) : Decidable (w.Protected cls) :=
  inferInstanceAs (Decidable (∀ y ∈ w.cluster.ingresses, IsServed cls y → ∀ name ∈ secretNames y,
    (w.cluster.secret? (secretPlace y name)).isSome → w.cluster.Carries (secretPlace y name)))

/-- Whether a secret has been overtaken and has not had the finalizer since. -/
def Lost (w : World) (es : List Event) (q : Place) : Prop :=
  Run.Since (fun before e => (w.after stamps cls before).Overtaken stamps cls e q)
    (fun now => ¬ (w.after stamps cls now).cluster.Carries q) es

/-- Whether users create and change ingresses only while no pass is under way. -/
def Calm (w : World) (es : List Event) : Prop :=
  ∀ before x rest, es = before ++ .putIngress x :: rest →
    ∀ p, (w.after stamps cls before).flights p = none

end World

/-! ## What an event does -/

section Steps

variable {stamps : Stamps} {cls : String} {w : World}

/-- A pass starts if none is under way at the place and there is an ingress. -/
theorem step_start_cases (p : Place) :
    w.step stamps cls (.start p) = w ∨
      ∃ x, w.flights p = none ∧ w.cluster.ingress? p = some x ∧
        w.step stamps cls (.start p) =
          (w.setFlight p (some (World.newFlight cls x))).setStanding p .underway := by
  cases hflight : w.flights p with
  | some flight => exact .inl (by simp only [World.step, hflight])
  | none =>
    cases hingress : w.cluster.ingress? p with
    | none => exact .inl (by simp only [World.step, hflight, hingress])
    | some x => exact .inr ⟨x, rfl, rfl, by simp only [World.step, hflight, hingress]⟩

/-- A pass starts from a copy of an ingress if none is under way at its place. -/
theorem step_startFrom_cases (copy : Ingress) :
    w.step stamps cls (.startFrom copy) = w ∨
      w.flights (placeOf copy.metadata) = none ∧
        w.step stamps cls (.startFrom copy) =
          (w.setFlight (placeOf copy.metadata) (some (World.newFlight cls copy))).setStanding
            (placeOf copy.metadata) .due := by
  cases hflight : w.flights (placeOf copy.metadata) with
  | some flight => exact .inl (by simp only [World.step, hflight])
  | none => exact .inr ⟨rfl, by simp only [World.step, hflight]⟩

/-- A pass goes on if it is not done. -/
theorem step_proceed_cases (p : Place) (fault : Option Fault) :
    w.step stamps cls (.proceed p fault) = w ∨
      ∃ subject findings c next, w.flights p = some ⟨subject, findings, .ask c next⟩ ∧
        w.step stamps cls (.proceed p fault) =
          { w with cluster := (Cluster.respond stamps fault c w.cluster).2 }.setFlight p
            (some ⟨subject, findings.note c (Cluster.respond stamps fault c w.cluster).1,
              next (Cluster.respond stamps fault c w.cluster).1⟩) := by
  cases hflight : w.flights p with
  | none => exact .inl (by simp only [World.step, hflight])
  | some flight =>
    obtain ⟨subject, findings, rest⟩ := flight
    cases rest with
    | done result => exact .inl (by simp only [World.step, hflight])
    | ask c next =>
      exact .inr ⟨subject, findings, c, next, rfl, by simp only [World.step, hflight]⟩

/-- A pass is over if it is done. -/
theorem step_finish_cases (p : Place) :
    w.step stamps cls (.finish p) = w ∨
      ∃ subject findings result, w.flights p = some ⟨subject, findings, .done result⟩ ∧
        w.step stamps cls (.finish p) =
          (w.setFlight p none).setStanding p (World.afterPass (w.standing p) result) := by
  cases hflight : w.flights p with
  | none => exact .inl (by simp only [World.step, hflight])
  | some flight =>
    obtain ⟨subject, findings, rest⟩ := flight
    cases rest with
    | done result =>
      exact .inr ⟨subject, findings, result, rfl, by simp only [World.step, hflight]⟩
    | ask c next => exact .inl (by simp only [World.step, hflight])

/-- No call changes an ingress, whether it fails or not. -/
theorem ingresses_respond (fault : Option Fault) (c : Call) (s : Cluster) :
    (Cluster.respond stamps fault c s).2.ingresses = s.ingresses := by
  cases fault with
  | none => exact s.ingresses_serve stamps c
  | some f =>
    simp only [Cluster.respond]
    split
    · exact s.ingresses_serve stamps c
    · rfl

/-- No call of a pass changes an ingress. -/
theorem ingress?_respond (fault : Option Fault) (c : Call) (s : Cluster) (p : Place) :
    (Cluster.respond stamps fault c s).2.ingress? p = s.ingress? p := by
  unfold Cluster.ingress?
  rw [ingresses_respond]

/-- Only a removal at its place takes the finalizer from a secret, whether the call fails or not. -/
theorem carries_respond {fault : Option Fault} {c : Call} {s : Cluster} {q : Place}
    (h : s.Carries q) (hc : ∀ copy, c = .removeFinalizer copy → placeOf copy.metadata ≠ q) :
    (Cluster.respond stamps fault c s).2.Carries q := by
  cases fault with
  | none => exact s.carries_serve stamps h c hc
  | some f =>
    simp only [Cluster.respond]
    split
    · exact s.carries_serve stamps h c hc
    · exact h

/-- Every answer of the cluster fits its call, be it a failure. -/
theorem fits_respond (fault : Option Fault) (c : Call) (s : Cluster) :
    Findings.Fits c (Cluster.respond stamps fault c s).1 := by
  cases fault with
  | some f => cases c <;> trivial
  | none =>
    cases c with
    | getSecret ns name =>
      show Findings.Fits (.getSecret ns name) (.ok (s.secret? ⟨ns, name⟩))
      cases hread : s.secret? ⟨ns, name⟩ with
      | none => trivial
      | some secret => exact Cluster.placeOf_secret? hread
    | addFinalizer copy => trivial
    | removeFinalizer copy => trivial
    | listIngresses ns => trivial
    | listRegistries => trivial
    | writeEntry registry key value => trivial

/-- What a pass newly notes as checked carries the finalizer at that time. -/
theorem carries_of_noted {fault : Option Fault} {c : Call} {s : Cluster} {m : Findings} {q : Place}
    (h : q ∈ (m.note c (Cluster.respond stamps fault c s).1).checked) :
    q ∈ m.checked ∨ (Cluster.respond stamps fault c s).2.Carries q := by
  cases fault with
  | some f => cases c <;> exact .inl h
  | none =>
    cases c with
    | getSecret ns name =>
      show q ∈ m.checked ∨ s.Carries q
      have hnote : q ∈ (m.note (.getSecret ns name) (.ok (s.secret? ⟨ns, name⟩))).checked := h
      cases hread : s.secret? ⟨ns, name⟩ with
      | none =>
        rw [hread] at hnote
        exact .inl hnote
      | some secret =>
        rw [hread] at hnote
        simp only [Findings.note] at hnote
        split at hnote
        · next hhas =>
          rcases List.mem_cons.mp hnote with rfl | hold
          · exact .inr ⟨secret, hread, hhas⟩
          · exact .inl hold
        · exact .inl hnote
    | addFinalizer copy =>
      -- an addition is noted only if it was accepted
      cases hanswer : (s.serve stamps (.addFinalizer copy)).1 with
      | error failure =>
        simp only [Cluster.respond, hanswer] at h
        exact .inl h
      | ok u =>
        simp only [Cluster.respond, hanswer] at h
        rcases List.mem_cons.mp h with rfl | hold
        · exact .inr (Cluster.carries_of_added hanswer)
        · exact .inl hold
    | removeFinalizer copy =>
      rw [Findings.note_removeFinalizer] at h
      exact .inl h
    | listIngresses ns => exact .inl h
    | listRegistries => exact .inl h
    | writeEntry registry key value =>
      rw [Findings.note_writeEntry] at h
      exact .inl h

end Steps

/-! ## What holds at all times -/

/-- The passes under way are careful, each over an ingress of its place; an ingress whose pass is under way
is as it was when the pass started; and no pass is under way over one that is settled. -/
structure Sound (cls : String) (w : World) : Prop where
  flying : ∀ p flight, w.flights p = some flight →
    placeOf flight.subject.metadata = p ∧
      flight.rest.Obeys (caution flight.subject cls)
        (Program.Pass.onSuccess fun _ => Findings.Complete flight.subject cls) flight.findings
  underway : ∀ p, w.standing p = .underway →
    ∃ flight, w.flights p = some flight ∧ w.cluster.ingress? p = some flight.subject
  settled : ∀ p, w.standing p = .settled → w.flights p = none

section Invariant

variable {stamps : Stamps} {cls : String} {w : World}

/-- Before any pass everything is in order. -/
theorem sound_atRest (cluster : Cluster) : Sound cls (World.atRest cluster) where
  flying := fun _ _ h => by cases h
  underway := fun _ h => by cases h
  settled := fun _ _ => rfl

/-- A change of other things than passes leaves them in order, if the ingresses whose passes are not due
stay as they were. -/
theorem Sound.changed (h : Sound cls w) {changed : World} (hflights : changed.flights = w.flights)
    (hstanding : ∀ p, changed.standing p ≠ .due →
      changed.standing p = w.standing p ∧ changed.cluster.ingress? p = w.cluster.ingress? p) :
    Sound cls changed := by
  refine ⟨fun p flight hflight => ?_, fun p hp => ?_, fun p hp => ?_⟩
  · rw [hflights] at hflight
    exact h.flying p flight hflight
  · obtain ⟨hsame, hingress⟩ := hstanding p (by rw [hp]; decide)
    rw [hflights, hingress]
    exact h.underway p (hsame ▸ hp)
  · obtain ⟨hsame, -⟩ := hstanding p (by rw [hp]; decide)
    rw [hflights]
    exact h.settled p (hsame ▸ hp)

/-- A change of the pass at one place leaves the passes in order if that place is. -/
theorem Sound.replaced (h : Sound cls w) {changed : World} (p₀ : Place)
    (helse : ∀ p, p ≠ p₀ → changed.flights p = w.flights p ∧ changed.standing p = w.standing p)
    (hingress : ∀ p, changed.cluster.ingress? p = w.cluster.ingress? p)
    (hflying : ∀ flight, changed.flights p₀ = some flight →
      placeOf flight.subject.metadata = p₀ ∧
        flight.rest.Obeys (caution flight.subject cls)
          (Program.Pass.onSuccess fun _ => Findings.Complete flight.subject cls) flight.findings)
    (hunderway : changed.standing p₀ = .underway →
      ∃ flight, changed.flights p₀ = some flight ∧ w.cluster.ingress? p₀ = some flight.subject)
    (hsettled : changed.standing p₀ = .settled → changed.flights p₀ = none) :
    Sound cls changed := by
  refine ⟨fun p flight hflight => ?_, fun p hp => ?_, fun p hp => ?_⟩
  · by_cases hplace : p = p₀
    · subst hplace
      exact hflying flight hflight
    · rw [(helse p hplace).1] at hflight
      exact h.flying p flight hflight
  · rw [hingress]
    by_cases hplace : p = p₀
    · subst hplace
      exact hunderway hp
    · rw [(helse p hplace).2] at hp
      rw [(helse p hplace).1]
      exact h.underway p hp
  · by_cases hplace : p = p₀
    · subst hplace
      exact hsettled hp
    · rw [(helse p hplace).2] at hp
      rw [(helse p hplace).1]
      exact h.settled p hp

/-- A new pass is careful. -/
theorem obeys_newFlight (cls : String) (x : Ingress) :
    (World.newFlight cls x).rest.Obeys (caution x cls)
      (Program.Pass.onSuccess fun _ => Findings.Complete x cls) (World.newFlight cls x).findings :=
  careful_attend x cls .none

/-- Every event leaves the passes in order. -/
theorem Sound.step (h : Sound cls w) (e : Event) : Sound cls (w.step stamps cls e) := by
  cases e with
  | putIngress x =>
    -- the pass over the changed ingress is due, so nothing is asked of that place
    refine h.changed rfl fun p hp => ?_
    simp only [World.step, World.standing_setStanding, World.cluster_setStanding] at hp ⊢
    by_cases hplace : p = placeOf x.metadata
    · simp [hplace] at hp
    · rw [Cluster.ingress?_putIngress, if_neg hplace, if_neg hplace]
      exact ⟨rfl, rfl⟩
  | removeIngress p₀ =>
    refine h.changed rfl fun p hp => ?_
    simp only [World.step, World.standing_setStanding, World.cluster_setStanding] at hp ⊢
    by_cases hplace : p = p₀
    · simp [hplace] at hp
    · rw [Cluster.ingress?_removeIngress, if_neg hplace, if_neg hplace]
      exact ⟨rfl, rfl⟩
  | changeSecret p₀ secret => exact h.changed rfl fun p _ => ⟨rfl, rfl⟩
  | removeSecret p₀ =>
    refine h.changed rfl fun p _ => ⟨rfl, ?_⟩
    simp only [World.step, Cluster.removeSecret]
    split <;> rfl
  | start p₀ =>
    rcases step_start_cases p₀ with hsame | ⟨x, -, hx, hstart⟩
    · rw [hsame]
      exact h
    · rw [hstart]
      refine h.replaced p₀ (fun p hp => by simp [hp]) (fun _ => rfl) ?_ ?_ ?_
      · intro flight hflight
        simp only [World.flights_setStanding, World.flights_setFlight, if_true] at hflight
        cases hflight
        exact ⟨(Cluster.mem_of_ingress? hx).2, obeys_newFlight cls x⟩
      · exact fun _ => ⟨World.newFlight cls x, by simp, hx⟩
      · intro hp
        simp at hp
  | startFrom copy =>
    rcases step_startFrom_cases copy with hsame | ⟨-, hstart⟩
    · rw [hsame]
      exact h
    · rw [hstart]
      refine h.replaced (placeOf copy.metadata) (fun p hp => by simp [hp]) (fun _ => rfl) ?_ ?_ ?_
      · intro flight hflight
        simp only [World.flights_setStanding, World.flights_setFlight, if_true] at hflight
        cases hflight
        exact ⟨rfl, obeys_newFlight cls copy⟩
      · intro hp
        simp at hp
      · intro hp
        simp at hp
  | proceed p₀ fault =>
    rcases step_proceed_cases p₀ fault with
      hsame | ⟨subject, findings, c, next, hflight₀, hproceed⟩
    · rw [hsame]
      exact h
    · rw [hproceed]
      -- the cluster's answer fits the call, so what is left of the pass is careful too
      obtain ⟨hplace, -, hnext⟩ := h.flying p₀ _ hflight₀
      refine h.replaced p₀ (fun p hp => by simp [hp])
        (ingress?_respond fault c w.cluster) ?_ ?_ ?_
      · intro flight hflight
        simp only [World.flights_setFlight, if_true] at hflight
        cases hflight
        exact ⟨hplace, hnext _ (fits_respond fault c w.cluster)⟩
      · intro hp
        obtain ⟨flight, hflight, hingress⟩ := h.underway p₀ hp
        cases hflight₀.symm.trans hflight
        exact ⟨_, if_pos rfl, hingress⟩
      · intro hp
        have hnone := h.settled p₀ hp
        rw [hflight₀] at hnone
        cases hnone
  | finish p₀ =>
    rcases step_finish_cases p₀ with hsame | ⟨subject, findings, result, -, hfinish⟩
    · rw [hsame]
      exact h
    · rw [hfinish]
      refine h.replaced p₀ (fun p hp => by simp [hp]) (fun _ => rfl) ?_ ?_ ?_
      · intro flight hflight
        simp at hflight
      · intro hp
        simp only [World.standing_setStanding, if_true] at hp
        cases result with
        | error failure => cases hp
        | ok u =>
          simp only [World.afterPass] at hp
          split at hp <;> cases hp
      · exact fun _ => by simp

/-- The passes are in order at all times. -/
theorem sound_after (h : Sound cls w) (es : List Event) : Sound cls (w.after stamps cls es) := by
  induction es generalizing w with
  | nil => exact h
  | cons e rest ih => exact ih (h.step e)

/-- The finalizer goes only by the removal of a pass whose list shows no other user, and whose own ingress
does not keep the secret in use. -/
theorem Sound.removed (h : Sound cls w) {e : Event} {q : Place} (hbefore : w.cluster.Carries q)
    (hafter : ¬ (w.step stamps cls e).cluster.Carries q) :
    ∃ p fault flight ingresses, e = .proceed p fault ∧ w.flights p = some flight ∧
      placeOf flight.subject.metadata = p ∧ q.ns = flight.subject.metadata.anyNamespace ∧
      flight.findings.listing = some ingresses ∧
      isUsed (otherUsers flight.subject cls ingresses) q.name = false ∧
      (IsServed cls flight.subject → q.name ∉ secretNames flight.subject) := by
  cases e with
  | putIngress x => exact absurd hbefore hafter
  | removeIngress p => exact absurd hbefore hafter
  | changeSecret p secret =>
    exact absurd ((Cluster.carries_changeSecret stamps w.cluster p q secret).mpr hbefore) hafter
  | removeSecret p =>
    exact absurd ((Cluster.carries_removeSecret w.cluster p q).mpr hbefore) hafter
  | start p =>
    rcases step_start_cases p with hsame | ⟨x, -, -, hstart⟩
    · rw [hsame] at hafter
      exact absurd hbefore hafter
    · rw [hstart] at hafter
      exact absurd hbefore hafter
  | startFrom copy =>
    rcases step_startFrom_cases copy with hsame | ⟨-, hstart⟩
    · rw [hsame] at hafter
      exact absurd hbefore hafter
    · rw [hstart] at hafter
      exact absurd hbefore hafter
  | finish p =>
    rcases step_finish_cases p with hsame | ⟨subject, findings, result, -, hfinish⟩
    · rw [hsame] at hafter
      exact absurd hbefore hafter
    · rw [hfinish] at hafter
      exact absurd hbefore hafter
  | proceed p fault =>
    rcases step_proceed_cases p fault with
      hsame | ⟨subject, findings, c, next, hflight, hproceed⟩
    · rw [hsame] at hafter
      exact absurd hbefore hafter
    · rw [hproceed] at hafter
      obtain ⟨hplace, hpermits, -⟩ := h.flying p _ hflight
      -- only the removal at this place can have done it, and a careful pass permits it only so
      have hremoval : ∃ copy, c = .removeFinalizer copy ∧ placeOf copy.metadata = q := by
        by_contra hnot
        refine hafter (carries_respond hbefore fun copy hc hcopy => hnot ⟨copy, hc, hcopy⟩)
      obtain ⟨copy, rfl, rfl⟩ := hremoval
      obtain ⟨hns, ⟨ingresses, hlisting, hunused⟩, hown⟩ := hpermits
      exact ⟨p, fault, _, ingresses, rfl, hflight, hplace, hns, hlisting, hunused, hown⟩

/-- Another ingress in use of the same namespace that is on a list and names a secret is a user of it. -/
theorem isUsed_otherUsers {x y : Ingress} {ingresses : List Ingress} {q : Place}
    (hy : y ∈ ingresses) (hserved : IsServed cls y) (hnames : Names y q)
    (hother : y.metadata.anyName ≠ x.metadata.anyName) :
    isUsed (otherUsers x cls ingresses) q.name = true := by
  unfold isUsed
  rw [List.any_eq_true]
  refine ⟨y, List.mem_filter.mpr ⟨hy, ?_⟩, ?_⟩
  · simp [hother, hserved.1, hserved.2]
  · exact List.contains_iff_mem.mpr hnames.2

/-- If the finalizer goes from a secret of an ingress whose pass is not due, the secret is overtaken. -/
theorem Sound.overtaken (h : Sound cls w) {e : Event} {p q : Place} {y : Ingress}
    (hy : w.cluster.ingress? p = some y) (hserved : IsServed cls y) (hnames : Names y q)
    (hstanding : w.standing p ≠ .due) (hbefore : w.cluster.Carries q)
    (hafter : ¬ (w.step stamps cls e).cluster.Carries q) : w.Overtaken stamps cls e q := by
  obtain ⟨p₀, fault, flight, ingresses, rfl, hflight, hplace, hns, hlisting, hunused, hown⟩ :=
    h.removed hbefore hafter
  obtain ⟨hmem, hyplace⟩ := Cluster.mem_of_ingress? hy
  refine ⟨hbefore, hafter, p₀, fault, rfl, flight, ingresses, y, hflight, hlisting, hmem, hserved,
    hnames, fun hlisted => ?_⟩
  by_cases hsame : p₀ = p
  · -- the pass is over the ingress itself, as it is now
    subst hsame
    cases hcase : w.standing p₀ with
    | due => exact hstanding hcase
    | underway =>
      obtain ⟨other, hother, hsubject⟩ := h.underway p₀ hcase
      cases hflight.symm.trans hother
      cases hy.symm.trans hsubject
      exact hown hserved hnames.2
    | settled =>
      have hnone := h.settled p₀ hcase
      rw [hflight] at hnone
      cases hnone
  · -- the pass is over another ingress, which would have found this one on its list
    have hother : y.metadata.anyName ≠ flight.subject.metadata.anyName := by
      intro hname
      apply hsame
      rw [← hplace, ← hyplace]
      unfold placeOf
      rw [hname, ← hnames.1, hns]
    rw [isUsed_otherUsers hlisted hserved hnames hother] at hunused
    cases hunused

/-- Whether the pass over the ingress at a place has found or put the finalizer on a secret that the ingress
keeps in use, and the ingress has not changed since the pass started. -/
structure Vouched (cls : String) (w : World) (p : Place) (y : Ingress) (q : Place) : Prop where
  current : w.cluster.ingress? p = some y
  served : IsServed cls y
  names : Names y q
  checked : w.standing p = .settled ∨
    w.standing p = .underway ∧ ∃ flight, w.flights p = some flight ∧ q ∈ flight.findings.checked

/-- A secret is vouched for if it was before a change that concerns neither the ingress nor its pass. -/
theorem Vouched.unchanged {changed : World} {p q : Place} {y : Ingress} (h : Vouched cls changed p y q)
    (hingress : changed.cluster.ingress? p = w.cluster.ingress? p)
    (hstanding : changed.standing p = w.standing p) (hflights : changed.flights p = w.flights p) :
    Vouched cls w p y q := by
  refine ⟨hingress ▸ h.current, h.served, h.names, ?_⟩
  rw [← hstanding, ← hflights]
  exact h.checked

/-- In a quiet cluster every secret in use is vouched for. -/
theorem vouched_of_quiet (hquiet : w.Quiet cls) {y : Ingress} (hy : y ∈ w.cluster.ingresses)
    (hserved : IsServed cls y) {name : String} (hname : name ∈ secretNames y) :
    Vouched cls w (placeOf y.metadata) y (secretPlace y name) where
  current := Cluster.ingress?_of_mem hy
  served := hserved
  names := ⟨rfl, hname⟩
  checked := .inl (hquiet.2 y hy hserved)

/-- Nobody vouches for the secrets of an ingress whose pass is due. -/
theorem Vouched.not_due {p q : Place} {y : Ingress} (h : Vouched cls w p y q) :
    w.standing p ≠ .due := by
  intro hdue
  rcases h.checked with hsettled | ⟨hunderway, -⟩
  · rw [hdue] at hsettled
    cases hsettled
  · rw [hdue] at hunderway
    cases hunderway

/-- A secret that is vouched for after an event was vouched for before, or it carries the finalizer now. -/
theorem Sound.vouched_step (h : Sound cls w) {e : Event} {p q : Place} {y : Ingress}
    (hv : Vouched cls (w.step stamps cls e) p y q) :
    Vouched cls w p y q ∨ (w.step stamps cls e).cluster.Carries q := by
  cases e with
  | putIngress x =>
    have hplace : p ≠ placeOf x.metadata := by
      rintro rfl
      exact hv.not_due (if_pos rfl)
    exact .inl (hv.unchanged ((w.cluster.ingress?_putIngress x p).trans (if_neg hplace))
      (if_neg hplace) rfl)
  | removeIngress p₀ =>
    have hplace : p ≠ p₀ := by
      rintro rfl
      exact hv.not_due (if_pos rfl)
    exact .inl (hv.unchanged ((w.cluster.ingress?_removeIngress p₀ p).trans (if_neg hplace))
      (if_neg hplace) rfl)
  | changeSecret p₀ secret => exact .inl (hv.unchanged rfl rfl rfl)
  | removeSecret p₀ =>
    refine .inl (hv.unchanged ?_ rfl rfl)
    simp only [World.step, Cluster.removeSecret]
    split <;> rfl
  | start p₀ =>
    rcases step_start_cases p₀ with hsame | ⟨x, -, -, hstart⟩
    · rw [hsame] at hv
      exact .inl hv
    · rw [hstart] at hv
      by_cases hplace : p = p₀
      · -- a pass that has just started has checked nothing
        subst hplace
        rcases hv.checked with hsettled | ⟨-, flight, hflight, hchecked⟩
        · simp at hsettled
        · simp only [World.flights_setStanding, World.flights_setFlight, if_true] at hflight
          cases hflight
          cases hchecked
      · exact .inl (hv.unchanged rfl (if_neg hplace) (if_neg hplace))
  | startFrom copy =>
    rcases step_startFrom_cases copy with hsame | ⟨-, hstart⟩
    · rw [hsame] at hv
      exact .inl hv
    · rw [hstart] at hv
      have hplace : p ≠ placeOf copy.metadata := by
        rintro rfl
        exact hv.not_due (if_pos rfl)
      exact .inl (hv.unchanged rfl (if_neg hplace) (if_neg hplace))
  | proceed p₀ fault =>
    rcases step_proceed_cases p₀ fault with
      hsame | ⟨subject, findings, c, next, hflight₀, hproceed⟩
    · rw [hsame] at hv
      exact .inl hv
    · rw [hproceed] at hv ⊢
      have hcurrent : w.cluster.ingress? p = some y :=
        (ingress?_respond fault c w.cluster p).symm.trans hv.current
      by_cases hplace : p = p₀
      · subst hplace
        rcases hv.checked with hsettled | ⟨hunderway, flight, hflight, hchecked⟩
        · exact .inl ⟨hcurrent, hv.served, hv.names, .inl hsettled⟩
        · simp only [World.flights_setFlight, if_true] at hflight
          cases hflight
          rcases carries_of_noted hchecked with hold | hnow
          · exact .inl ⟨hcurrent, hv.served, hv.names, .inr ⟨hunderway, _, hflight₀, hold⟩⟩
          · exact .inr hnow
      · exact .inl (hv.unchanged (ingress?_respond fault c w.cluster p) rfl (if_neg hplace))
  | finish p₀ =>
    rcases step_finish_cases p₀ with hsame | ⟨subject, findings, result, hflight₀, hfinish⟩
    · rw [hsame] at hv
      exact .inl hv
    · rw [hfinish] at hv
      by_cases hplace : p = p₀
      · -- the pass has succeeded, so it has checked all that its ingress names
        subst hplace
        have hafter : World.afterPass (w.standing p) result ≠ .due := by
          simpa using hv.not_due
        obtain ⟨-, hobeys⟩ := h.flying p _ hflight₀
        cases result with
        | error failure => exact absurd rfl hafter
        | ok u =>
          have hunderway : w.standing p = .underway := by
            by_contra hother
            exact hafter (if_neg hother)
          obtain ⟨flight, hflight, hsubject⟩ := h.underway p hunderway
          cases hflight₀.symm.trans hflight
          cases hv.current.symm.trans hsubject
          have hcomplete : secretPlace subject q.name ∈ findings.checked :=
            hobeys hv.served q.name hv.names.2
          have hq : secretPlace subject q.name = q := by
            unfold secretPlace
            rw [← hv.names.1]
          rw [hq] at hcomplete
          exact .inl ⟨hsubject, hv.served, hv.names, .inr ⟨hunderway, _, hflight₀, hcomplete⟩⟩
      · exact .inl (hv.unchanged rfl (if_neg hplace) (if_neg hplace))

end Invariant

/-! ## Runs -/

section Runs

variable (stamps : Stamps) (cls : String) (w : World)

/-- The world after one more event is what the event makes of it. -/
theorem after_snoc (es : List Event) (e : Event) :
    w.after stamps cls (es ++ [e]) = (w.after stamps cls es).step stamps cls e := by
  simp only [World.after, List.foldl_append, List.foldl_cons, List.foldl_nil]

/-- The place of the pass that an event may start. -/
def Event.place? : Event → Option Place
  | .start p => some p
  | .startFrom copy => some (placeOf copy.metadata)
  | _ => none

/-- An event that starts no pass at a place leaves none under way there. -/
theorem flights_step_of_none {stamps : Stamps} {cls : String} {w : World} {p : Place}
    (h : w.flights p = none) {e : Event} (he : e.place? ≠ some p) :
    (w.step stamps cls e).flights p = none := by
  cases e with
  | putIngress x => exact h
  | removeIngress p₀ => exact h
  | changeSecret p₀ secret => exact h
  | removeSecret p₀ => exact h
  | start p₀ =>
    have hplace : p ≠ p₀ := fun heq => he (congrArg some heq.symm)
    rcases step_start_cases p₀ with hsame | ⟨x, -, -, hstart⟩
    · rw [hsame]
      exact h
    · rw [hstart]
      exact (if_neg hplace).trans h
  | startFrom copy =>
    have hplace : p ≠ placeOf copy.metadata := fun heq => he (congrArg some heq.symm)
    rcases step_startFrom_cases copy with hsame | ⟨-, hstart⟩
    · rw [hsame]
      exact h
    · rw [hstart]
      exact (if_neg hplace).trans h
  | proceed p₀ fault =>
    rcases step_proceed_cases p₀ fault with hsame | ⟨_, _, _, _, hflight, hproceed⟩
    · rw [hsame]
      exact h
    · have hplace : p ≠ p₀ := by
        rintro rfl
        rw [h] at hflight
        cases hflight
      rw [hproceed]
      exact (if_neg hplace).trans h
  | finish p₀ =>
    rcases step_finish_cases p₀ with hsame | ⟨_, _, _, -, hfinish⟩
    · rw [hsame]
      exact h
    · rw [hfinish]
      by_cases hplace : p = p₀
      · exact if_pos hplace
      · exact (if_neg hplace).trans h

/-- No pass is under way where none has started. -/
theorem flights_after_of_absent {stamps : Stamps} {cls : String} (cluster : Cluster)
    (es : List Event) {p : Place} (h : p ∉ es.filterMap Event.place?) :
    ((World.atRest cluster).after stamps cls es).flights p = none := by
  induction es using List.reverseRecOn with
  | nil => rfl
  | append_singleton es e ih =>
    rw [after_snoc]
    rw [List.filterMap_append, List.mem_append, not_or] at h
    refine flights_step_of_none (ih h.1) fun he => h.2 ?_
    simp [he]

/-- Before any pass no secret is vouched for. -/
theorem not_vouched_atRest (cls : String) (cluster : Cluster) (p : Place) (y : Ingress) (q : Place) :
    ¬ Vouched cls (World.atRest cluster) p y q := fun h => h.not_due rfl

/-- A secret that is vouched for carries the finalizer, or it has been overtaken. -/
theorem carries_or_lost (cluster : Cluster) (es : List Event) {p q : Place} {y : Ingress}
    (hv : Vouched cls ((World.atRest cluster).after stamps cls es) p y q) :
    ((World.atRest cluster).after stamps cls es).cluster.Carries q ∨
      (World.atRest cluster).Lost stamps cls es q := by
  induction es using List.reverseRecOn generalizing p q y with
  | nil => exact absurd hv (not_vouched_atRest cls cluster p y q)
  | append_singleton es e ih =>
    have hsound : Sound cls ((World.atRest cluster).after stamps cls es) :=
      sound_after (sound_atRest cluster) es
    rw [after_snoc] at hv ⊢
    by_cases hnow :
        (((World.atRest cluster).after stamps cls es).step stamps cls e).cluster.Carries q
    · exact .inl hnow
    · -- it has been vouched for all along, so it was lost now or is lost still
      have hbefore := (hsound.vouched_step hv).resolve_right hnow
      refine .inr ((Run.since_snoc es e).mpr ⟨?_, ?_⟩)
      · rw [after_snoc]
        exact hnow
      · rcases ih hbefore with hcarries | hlost
        · exact .inl (hsound.overtaken hbefore.current hbefore.served hbefore.names
            hbefore.not_due hcarries hnow)
        · exact .inr hlost

/-- In a quiet cluster the secrets in use are protected exactly if none of them was overtaken: if none lost
its finalizer to a pass whose list of ingresses did not show one that was using it by then, and has been
without it since. -/
theorem protected_iff_none_lost (cluster : Cluster) (es : List Event)
    (hquiet : ((World.atRest cluster).after stamps cls es).Quiet cls) :
    ((World.atRest cluster).after stamps cls es).Protected cls ↔
      ∀ y ∈ ((World.atRest cluster).after stamps cls es).cluster.ingresses, IsServed cls y →
        ∀ name ∈ secretNames y,
          (((World.atRest cluster).after stamps cls es).cluster.secret?
            (secretPlace y name)).isSome →
          ¬ (World.atRest cluster).Lost stamps cls es (secretPlace y name) := by
  refine forall_congr' fun y => forall_congr' fun hy => forall_congr' fun hserved =>
    forall_congr' fun name => forall_congr' fun hname => forall_congr' fun _ => ?_
  constructor
  · intro hcarries hlost
    exact hlost.now hcarries
  · intro hnot
    have hv := vouched_of_quiet hquiet hy hserved hname
    exact (carries_or_lost stamps cls cluster es hv).resolve_right hnot

/-! ## Calm runs -/

/-- Whether the list of every pass shows all ingresses of its namespace. -/
def Informed (w : World) : Prop :=
  ∀ p flight ingresses, w.flights p = some flight → flight.findings.listing = some ingresses →
    ∀ y ∈ w.cluster.ingresses,
      y.metadata.anyNamespace = flight.subject.metadata.anyNamespace → y ∈ ingresses

variable {stamps cls w}

/-- A list is up to date when it is given, and every other call leaves the last one. -/
theorem mem_listing_note {c : Call} {fault : Option Fault} {s : Cluster} {subject : Ingress}
    {m : Findings} (hpermits : m.Permits subject cls c)
    (hold : ∀ ingresses, m.listing = some ingresses → ∀ y ∈ s.ingresses,
      y.metadata.anyNamespace = subject.metadata.anyNamespace → y ∈ ingresses)
    {ingresses : List Ingress}
    (h : (m.note c (Cluster.respond stamps fault c s).1).listing = some ingresses) :
    ∀ y ∈ s.ingresses, y.metadata.anyNamespace = subject.metadata.anyNamespace → y ∈ ingresses := by
  by_cases hc : ∀ ns, c ≠ .listIngresses ns
  · rw [Findings.listing_note m c _ hc] at h
    exact hold ingresses h
  · simp only [not_forall, not_not] at hc
    obtain ⟨ns, rfl⟩ := hc
    have hns : ns = subject.metadata.anyNamespace := hpermits
    cases fault with
    | some f => exact hold ingresses h
    | none =>
      intro y hy hyns
      have hlist : ingresses =
          s.ingresses.filter fun ingress => ingress.metadata.anyNamespace = ns :=
        (Option.some.inj h).symm
      rw [hlist, List.mem_filter]
      exact ⟨hy, by simp [hyns, hns]⟩

/-- The lists of the passes stay up to date, unless an ingress changes while a pass is under way. -/
theorem Informed.step (hi : Informed w) (h : Sound cls w) (e : Event)
    (hcalm : ∀ x, e = .putIngress x → ∀ p, w.flights p = none) :
    Informed (w.step stamps cls e) := by
  intro p flight ingresses hflight hlisting y hy hns
  cases e with
  | putIngress x =>
    have hnone : w.flights p = none := hcalm x rfl p
    have hflight' : w.flights p = some flight := hflight
    rw [hnone] at hflight'
    cases hflight'
  | removeIngress p₀ =>
    exact hi p flight ingresses hflight hlisting y (List.mem_filter.mp hy).1 hns
  | changeSecret p₀ secret => exact hi p flight ingresses hflight hlisting y hy hns
  | removeSecret p₀ =>
    refine hi p flight ingresses hflight hlisting y ?_ hns
    simp only [World.step, Cluster.removeSecret] at hy
    split at hy <;> exact hy
  | start p₀ =>
    rcases step_start_cases p₀ with hsame | ⟨x, -, -, hstart⟩
    · rw [hsame] at hflight hy
      exact hi p flight ingresses hflight hlisting y hy hns
    · rw [hstart] at hflight hy
      by_cases hplace : p = p₀
      · simp only [World.flights_setStanding, World.flights_setFlight, hplace, if_true] at hflight
        cases hflight
        cases hlisting
      · exact hi p flight ingresses ((if_neg hplace).symm.trans hflight) hlisting y hy hns
  | startFrom copy =>
    rcases step_startFrom_cases copy with hsame | ⟨-, hstart⟩
    · rw [hsame] at hflight hy
      exact hi p flight ingresses hflight hlisting y hy hns
    · rw [hstart] at hflight hy
      by_cases hplace : p = placeOf copy.metadata
      · simp only [World.flights_setStanding, World.flights_setFlight, hplace, if_true] at hflight
        cases hflight
        cases hlisting
      · exact hi p flight ingresses ((if_neg hplace).symm.trans hflight) hlisting y hy hns
  | proceed p₀ fault =>
    rcases step_proceed_cases p₀ fault with
      hsame | ⟨subject, findings, c, next, hflight₀, hproceed⟩
    · rw [hsame] at hflight hy
      exact hi p flight ingresses hflight hlisting y hy hns
    · rw [hproceed] at hflight hy
      have hmem : y ∈ w.cluster.ingresses := by
        rwa [World.cluster_setFlight, ingresses_respond] at hy
      by_cases hplace : p = p₀
      · simp only [World.flights_setFlight, hplace, if_true] at hflight
        cases hflight
        obtain ⟨-, hpermits, -⟩ := h.flying p₀ _ hflight₀
        exact mem_listing_note hpermits (fun l hl => hi p₀ _ l hflight₀ hl) hlisting y hmem hns
      · exact hi p flight ingresses ((if_neg hplace).symm.trans hflight) hlisting y hmem hns
  | finish p₀ =>
    rcases step_finish_cases p₀ with hsame | ⟨subject, findings, result, -, hfinish⟩
    · rw [hsame] at hflight hy
      exact hi p flight ingresses hflight hlisting y hy hns
    · rw [hfinish] at hflight hy
      by_cases hplace : p = p₀
      · simp only [World.flights_setStanding, World.flights_setFlight, hplace, if_true] at hflight
        cases hflight
      · exact hi p flight ingresses ((if_neg hplace).symm.trans hflight) hlisting y hy hns

/-- A pass with an up-to-date list overtakes nobody. -/
theorem Informed.not_overtaken (hi : Informed w) (h : Sound cls w) (e : Event) (q : Place) :
    ¬ w.Overtaken stamps cls e q := by
  rintro ⟨hbefore, hafter, p, fault, rfl, flight, ingresses, y, hflight, hlisting, hy, -, hnames,
    hmissing⟩
  obtain ⟨p₀, fault₀, flight₀, -, hevent, hflight₀, -, hns, -, -, -⟩ := h.removed hbefore hafter
  cases hevent
  cases hflight.symm.trans hflight₀
  exact hmissing (hi p flight ingresses hflight hlisting y hy (hnames.1.symm.trans hns))

variable (stamps cls)

/-- The lists of the passes are up to date at all times of a calm run. -/
theorem informed_after (cluster : Cluster) (es : List Event)
    (hcalm : (World.atRest cluster).Calm stamps cls es) :
    Informed ((World.atRest cluster).after stamps cls es) := by
  induction es using List.reverseRecOn with
  | nil => exact fun _ _ _ hflight => by cases hflight
  | append_singleton es e ih =>
    rw [after_snoc]
    have hbefore : (World.atRest cluster).Calm stamps cls es := by
      rintro before x rest rfl
      exact hcalm before x (rest ++ [e]) (by simp)
    refine (ih hbefore).step (sound_after (sound_atRest cluster) es) e ?_
    rintro x rfl
    exact hcalm es x [] rfl

/-- In a calm run no secret is overtaken, so that in the end all secrets in use are protected. -/
theorem protected_of_calm (cluster : Cluster) (es : List Event)
    (hcalm : (World.atRest cluster).Calm stamps cls es)
    (hquiet : ((World.atRest cluster).after stamps cls es).Quiet cls) :
    ((World.atRest cluster).after stamps cls es).Protected cls := by
  intro y hy hserved name hname hexists
  have hv := vouched_of_quiet hquiet hy hserved hname
  refine (carries_or_lost stamps cls cluster es hv).resolve_right ?_
  rintro ⟨before, e, rest, rfl, hovertaken, -⟩
  have hbefore : (World.atRest cluster).Calm stamps cls before := by
    rintro first x more rfl
    exact hcalm first x (more ++ e :: rest) (by simp)
  exact (informed_after stamps cls cluster before hbefore).not_overtaken
    (sound_after (sound_atRest cluster) before) e (secretPlace y name) hovertaken

end Runs

/-! ## A race -/

section Race

open Trust.Sample

/-- Two ingresses, of which only the first one names a secret. -/
def shop : Cluster where
  stored := keypairs ["shop-tls"]
  ingresses := [ingress "alpha" none ["shop-tls"], ingress "beta" none []]
  distinct := by decide
  registries := [registry]
  writes := 0

/-- The place of the first ingress. -/
def alpha : Place := ⟨"shop", "alpha"⟩

/-- The place of the second ingress. -/
def beta : Place := ⟨"shop", "beta"⟩

/-- So many calls of a pass. -/
def calls (p : Place) (n : Nat) : List Event := List.replicate n (.proceed p none)

/-- The first ingress is published and then deleted. Its pass has listed the ingresses when the second one
comes to name the secret and is published; then it takes the finalizer off. -/
def race : List Event :=
  .start alpha :: calls alpha 4 ++ [.finish alpha,
    .putIngress (ingress "alpha" (some ⟨0, 0⟩) ["shop-tls"]), .start alpha] ++ calls alpha 2 ++
  [.putIngress (ingress "beta" none ["shop-tls"]), .start beta] ++ calls beta 3 ++ [.finish beta] ++
  calls alpha 3 ++ [.finish alpha]

/-- After the race the passes over the two ingresses are over, the latest one over the second ingress has
succeeded, and the secret that it names is without its finalizer. -/
theorem outcome_race :
    (∀ p ∈ race.filterMap Event.place?,
        (((World.atRest shop).after Stamps.counting cls race).flights p).isNone = true) ∧
      (∀ y ∈ ((World.atRest shop).after Stamps.counting cls race).cluster.ingresses, IsServed cls y →
        ((World.atRest shop).after Stamps.counting cls race).standing (placeOf y.metadata) =
          .settled) ∧
      ¬ ((World.atRest shop).after Stamps.counting cls race).Protected cls := by
  decide +kernel

/-- After the race no pass is under way and the latest pass over the second ingress has succeeded. -/
theorem quiet_race : ((World.atRest shop).after Stamps.counting cls race).Quiet cls := by
  refine ⟨fun p => ?_, outcome_race.2.1⟩
  by_cases hp : p ∈ race.filterMap Event.place?
  · exact Option.isNone_iff_eq_none.mp (outcome_race.1 p hp)
  · exact flights_after_of_absent shop race hp

/-- A secret in use can be without its finalizer in a quiet cluster. -/
theorem quiet_not_protected :
    ((World.atRest shop).after Stamps.counting cls race).Quiet cls ∧
      ¬ ((World.atRest shop).after Stamps.counting cls race).Protected cls :=
  ⟨quiet_race, outcome_race.2.2⟩

/-- In the race a secret in use is overtaken. -/
theorem race_loses_secret :
    ((World.atRest shop).after Stamps.counting cls race).Quiet cls ∧
      ¬ ∀ y ∈ ((World.atRest shop).after Stamps.counting cls race).cluster.ingresses,
        IsServed cls y → ∀ name ∈ secretNames y,
          (((World.atRest shop).after Stamps.counting cls race).cluster.secret?
            (secretPlace y name)).isSome →
          ¬ (World.atRest shop).Lost Stamps.counting cls race (secretPlace y name) := by
  refine ⟨quiet_race, fun hnone => outcome_race.2.2 ?_⟩
  exact (protected_iff_none_lost Stamps.counting cls shop race quiet_race).mpr hnone

end Race

end Overtaking

end GatewayOperator.Trust
