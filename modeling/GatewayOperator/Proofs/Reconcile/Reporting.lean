import GatewayOperator.Metrics
import GatewayOperator.Proofs.Reconcile.Ingress
import GatewayOperator.Proofs.Reconcile.Retention
import GatewayOperator.Proofs.Reconcile.Synchronization

/-!
# Reports of failed passes

A failed pass is told to the users by an event about its object, and counted once in the metrics under its kind and
name. Both are done by the layer around the finalizer, and nothing under it counts a failure that it hands on. So
every failed pass over an API definition is reported, and every one over an ingress of the class. An ingress of
another class is dismissed outside of that layer: if this fails, nobody is told and nothing is counted.
-/

set_option autoImplicit false

namespace GatewayOperator

open GatewayOperator.Resource

/-! ## Totals -/

namespace Sample

/-- The sum of the counts under label values of a sort. -/
def total (sort : List String → Bool) : List Sample → Nat
  | [] => 0
  | s :: rest => (if sort s.labels then s.count else 0) + total sort rest

/-- An observation adds one to the total of the labels that are of its sort. -/
theorem total_observe (sort : List String → Bool) (labels : List String) (samples : List Sample) :
    total sort (observe labels samples) = total sort samples + if sort labels then 1 else 0 := by
  induction samples with
  | nil => simp [observe, total]
  | cons s rest ih =>
    unfold observe
    by_cases hsame : labels = s.labels
    · rw [if_pos hsame]
      simp only [total, ← hsame]
      by_cases hsort : sort labels = true
      · simp only [if_pos hsort]
        omega
      · simp only [if_neg hsort]
        omega
    · rw [if_neg hsame]
      by_cases hbefore : labels < s.labels
      · rw [if_pos hbefore]
        simp only [total]
        omega
      · rw [if_neg hbefore]
        simp only [total, ih]
        omega

end Sample

namespace Metrics

open Reconcile (Call)
open Program (Exchange)

/-- The number of failed passes over an object, of whatever cause. -/
def failuresOf (m : Metrics) (kind object : String) : Nat :=
  Sample.total (fun labels => labels.tail = [object, kind]) m.failures

/-- A failure that is counted is one more for its object. -/
theorem failuresOf_countFailure (m : Metrics) (kind object cause : String) :
    (m.countFailure kind object cause).failuresOf kind object = m.failuresOf kind object + 1 := by
  simp [failuresOf, countFailure, Sample.total_observe]

/-- The metrics after a call. -/
def note (m : Metrics) : Exchange Call.Answer → Metrics
  | ⟨.countPass kind, _⟩ => m.countPass kind
  | ⟨.countFailure kind object cause, _⟩ => m.countFailure kind object cause
  | ⟨.countRequest operation failed, _⟩ => m.countRequest operation failed
  | _ => m

/-- The metrics after a conversation. -/
def after (m : Metrics) (log : List (Exchange Call.Answer)) : Metrics := log.foldl note m

/-- Whether a call counts a failed pass. -/
def IsFailureCount : Call → Prop
  | .countFailure _ _ _ => True
  | _ => False

/-- Only a count of a failure changes how many there are. -/
theorem failures_note (m : Metrics) {e : Exchange Call.Answer} (h : ¬ IsFailureCount e.1) :
    (m.note e).failures = m.failures := by
  obtain ⟨c, answer⟩ := e
  cases c with
  | countFailure kind object cause => exact absurd trivial h
  | _ => rfl

/-- A second conversation counts on from where the first one ended. -/
theorem after_append (m : Metrics) (first second : List (Exchange Call.Answer)) :
    m.after (first ++ second) = (m.after first).after second := List.foldl_append

/-- Without a count of a failure there are as many failures as before. -/
theorem failures_after (m : Metrics) {log : List (Exchange Call.Answer)}
    (h : ∀ e ∈ log, ¬ IsFailureCount e.1) : (m.after log).failures = m.failures := by
  induction log generalizing m with
  | nil => rfl
  | cons e rest ih =>
    obtain ⟨he, hrest⟩ := List.forall_mem_cons.mp h
    exact (ih (m.note e) hrest).trans (m.failures_note he)

end Metrics

namespace Reconcile

open Metrics (IsFailureCount)
open Program (Exchange Asks)

/-! ## Reports -/

/-- Whether every event that was published in a conversation was accepted. -/
def PublishingWorks (log : List (Exchange Call.Answer)) : Prop :=
  ∀ event refusal, ⟨.cluster (.publish event), .error refusal⟩ ∉ log

/-- Where events are accepted in all states, they are accepted throughout. -/
theorem Surroundings.publishingWorks_log {σ α : Type} {around : Surroundings σ}
    (h : ∀ event s, (around.cluster (.publish event) s).1 = .ok ()) (work : Work α) (s : σ) (b : Backoff) :
    PublishingWorks (around.log work s b) := by
  intro event refusal hmem
  obtain ⟨⟨t, books⟩, hanswer⟩ := Program.answer_of_mem_conversation hmem
  cases (h event t).symm.trans hanswer

/-- A failed pass over an object was reported: its users were warned in the words of the failure, and one more failed
pass over the object was counted. -/
structure Reported (controller : Controller) (m : Meta) (log : List (Exchange Call.Answer))
    (failure : PassFailure) : Prop where
  told : ∃ inner, failure = .finalizer inner ∧
    ⟨.cluster (.publish ⟨⟨.warning, "FailedReconcile", inner.message⟩, "Reconcile", controller.subject m⟩),
      .ok ()⟩ ∈ log
  counted : ∀ metrics : Metrics, (metrics.after log).failuresOf controller.kindName m.anyName =
    metrics.failuresOf controller.kindName m.anyName + 1

/-- The layer around the finalizer reports every failure, if what it lies around counts none of its own. -/
theorem reported_of_attended {controller : Controller} {m : Meta} {pass : String → Guarded Action}
    (hquiet : ∀ ns before inner, (pass ns).run.Yields before (.error inner) →
      ∀ e ∈ before, ¬ IsFailureCount e.1)
    {log : List (Exchange Call.Answer)} {failure : PassFailure} {action : Action}
    (h : (attended controller m fun ns => reported controller m (pass ns)).Yields log (.failed failure action))
    (hworks : PublishingWorks log) : Reported controller m log failure := by
  rcases attended_cases h with ⟨-, -, heq⟩ | ⟨ns, rest, -, ⟨_, -, heq, -⟩ | ⟨_, _, hfailed, heq, rfl⟩⟩
  · cases heq
  · cases heq
  cases heq
  rcases reported_cases hfailed with
    ⟨_, -, heq⟩ | ⟨inner, before, hinner, ⟨refusal, -, rfl⟩ | ⟨heq, rfl⟩⟩
  · cases heq
  · exact absurd (by simp) (hworks ⟨failureNotice inner, "Reconcile", controller.subject m⟩ refusal)
  cases heq
  refine ⟨⟨inner, rfl, by simp [failureNotice]⟩, fun metrics => ?_⟩
  -- nothing before the report counts a failure, and the report counts one
  have hbefore (metrics : Metrics) : (metrics.after before).failures = metrics.failures :=
    metrics.failures_after (hquiet ns before inner hinner)
  have hsplit : metrics.after (⟨.countPass controller.kindName, ()⟩ :: (before ++
      [⟨.cluster (.publish ⟨failureNotice inner, "Reconcile", controller.subject m⟩), .ok ()⟩,
        ⟨.countFailure controller.kindName m.anyName (PassFailure.finalizer inner).label, ()⟩] ++
      [⟨.followUp m.key (.finalizer inner), action⟩])) =
      ((metrics.countPass controller.kindName).after before).countFailure controller.kindName m.anyName
        (PassFailure.finalizer inner).label := by
    rw [List.append_assoc]
    exact Metrics.after_append (metrics.countPass controller.kindName) before _
  rw [hsplit, Metrics.failuresOf_countFailure, Metrics.failuresOf, hbefore]
  rfl

/-! ## API definitions -/

namespace Api

variable {settings : Settings} {api : ApiDefinition} {ns : String} {log : List (Exchange Call.Answer)}

/-- An announcement counts no failure. -/
theorem asks_announced_uncounted : (announced ns api).run.Asks fun c => ¬ IsFailureCount c :=
  asks_announced fun _ _ _ _ => id

/-- A synchronization counts no failure, even if it has one. -/
theorem asks_synchronized_uncounted : (synchronized settings api).run.Asks fun c => ¬ IsFailureCount c :=
  asks_synchronized (fun _ _ => id) (fun _ _ => id) (fun _ => Program.asks_of_forall (fun _ => id) _) fun _ => id

/-- A clean-up leaves its failures to the pass around it to count. -/
theorem asks_cleanedUp_uncounted : (cleanedUp settings api).run.Asks fun c => ¬ IsFailureCount c :=
  asks_cleanedUp (fun _ _ => id) (fun _ _ => id) (fun _ => Program.asks_of_forall (fun _ => id) _) (fun _ => id)
    (fun _ => id) fun _ => id

/-- The last part of a pass counts a failed synchronization, but then the part itself does not fail. -/
theorem uncounted_of_concluded {version : Option String} {result : Except PassFailure Management.SyncOutcome}
    {failure : PassFailure} (h : (concluded settings ns api version result).run.Yields log (.error failure)) :
    ∀ e ∈ log, ¬ IsFailureCount e.1 := by
  have hwrite : (writeStatus ns api version (decision api result).status).run.Asks
      fun c => ¬ IsFailureCount c := asks_cluster id
  have htell : (tell api (decision api result).notice).run.Asks fun c => ¬ IsFailureCount c :=
    asks_tell fun _ => id
  rcases Program.Pass.yields_bind.mp h with ⟨_, -, hwritten⟩ | ⟨first, rest, _, rfl, hwritten, hrest⟩
  · exact hwrite.of_mem hwritten
  rcases Program.Pass.yields_bind.mp hrest with ⟨_, -, htold⟩ | ⟨told, last, _, rfl, htold, hlast⟩
  · exact List.forall_mem_append.mpr ⟨hwrite.of_mem hwritten, htell.of_mem htold⟩
  · cases hretry : (decision api result).retry with
    | some inner =>
      simp only [hretry] at hlast
      obtain ⟨_, _, -, _, _, -, -, heq⟩ := hlast
      cases heq
    | none =>
      simp only [hretry] at hlast
      obtain ⟨_, _, -, -, heq⟩ := hlast
      cases heq

/-- Where a pass over a live definition fails, it leaves the failure to be counted. -/
theorem uncounted_of_applied {failure : PassFailure}
    (h : (applied settings ns api).run.Yields log (.error failure)) : ∀ e ∈ log, ¬ IsFailureCount e.1 := by
  rw [applied_eq] at h
  rcases Program.Pass.yields_bind.mp h with ⟨_, -, hopen⟩ | ⟨first, rest, version, rfl, hopen, hrest⟩
  · exact asks_announced_uncounted.of_mem hopen
  have hfirst := asks_announced_uncounted.of_mem hopen
  have hattempt : (Program.Pass.attempt (synchronized settings api) :
      Pass (Except PassFailure Management.SyncOutcome)).run.Asks fun c => ¬ IsFailureCount c :=
    Program.Pass.asks_attempt asks_synchronized_uncounted
  rcases Program.Pass.yields_bind.mp hrest with ⟨_, -, hmiddle⟩ | ⟨middle, last, result, rfl, hmiddle, hlast⟩
  · exact List.forall_mem_append.mpr ⟨hfirst, hattempt.of_mem hmiddle⟩
  · exact List.forall_mem_append.mpr ⟨hfirst,
      List.forall_mem_append.mpr ⟨hattempt.of_mem hmiddle, uncounted_of_concluded hlast⟩⟩

/-- Under the finalizer no failure is counted that is handed on. -/
theorem uncounted_of_guarded {failure : FinalizerFailure PassFailure}
    (h : (guarded .apiDefinition ns api.metadata (applied settings ns api)
      (cleanedUp settings api)).run.Yields log (.error failure)) : ∀ e ∈ log, ¬ IsFailureCount e.1 := by
  by_cases hstage : Stage.of Controller.apiDefinition.finalizer api.metadata = .apply
  · obtain ⟨result, happlied, heq⟩ := apply_cases hstage h
    cases result with
    | ok action => cases heq
    | error inner => exact uncounted_of_applied happlied
  · have hasks : (guarded .apiDefinition ns api.metadata (applied settings ns api)
        (cleanedUp settings api)).run.Asks fun c => ¬ IsFailureCount c :=
      asks_guarded (fun _ _ => id) (fun happly => absurd happly hstage) fun _ _ => asks_cleanedUp_uncounted
    exact hasks.of_mem h

end Api

/-! ## Ingresses -/

namespace Ingress

variable {settings : Settings} {ingress : Resource.Ingress} {log : List (Exchange Call.Answer)}

/-- A publication counts no failure. -/
theorem not_isFailureCount_of_isPublication {c : Call} (h : IsPublication c) : ¬ IsFailureCount c := by
  intro hcount
  cases c with
  | countFailure kind object cause => exact h
  | _ => exact hcount

/-- Behind the finalizer of an ingress no failure is counted. -/
theorem asks_guarded_uncounted (ns : String) :
    (guarded .ingress ns ingress.metadata (published settings ingress)
      (withdrawn settings ingress)).run.Asks fun c => ¬ IsFailureCount c :=
  asks_guarded (fun _ _ => id)
    (fun _ => asks_published (fun _ => not_isFailureCount_of_isPublication) fun _ => id)
    fun _ _ => asks_withdrawn (fun _ => not_isFailureCount_of_isPublication) (fun _ => id) fun _ => id

/-- A dismissal counts no failure. -/
theorem uncounted_of_untracked (huntracked : Trust.isTracked ingress settings.ingressClass = false)
    {ending : Ending} (h : (attend settings ingress).Yields log ending) : ∀ e ∈ log, ¬ IsFailureCount e.1 := by
  have hpass (ns : String) : (pass settings ingress ns).run.Asks fun c => ¬ IsFailureCount c := by
    rw [pass, huntracked]
    exact asks_dismissed (fun _ => not_isFailureCount_of_isPublication) (fun _ => id) fun _ _ => id
  have hattend : (attend settings ingress).Asks fun c => ¬ IsFailureCount c :=
    asks_attended hpass (fun _ => id) fun _ _ => id
  exact hattend.of_mem h

end Ingress

/-! ## Every failed pass -/

/-- If publishing works, every failed pass over an API definition is reported, and a failed pass over an ingress is
reported exactly if the ingress is of the class. -/
theorem failed_pass_reported_iff_tracked (settings : Settings) (log : List (Exchange Call.Answer))
    (failure : PassFailure) (action : Action) (hworks : PublishingWorks log) :
    (∀ api : ApiDefinition, (Api.attend settings api).Yields log (.failed failure action) →
      Reported .apiDefinition api.metadata log failure) ∧
    (∀ ingress : Resource.Ingress, (Ingress.attend settings ingress).Yields log (.failed failure action) →
      (Reported .ingress ingress.metadata log failure ↔
        Trust.isTracked ingress settings.ingressClass = true)) := by
  refine ⟨fun api h => ?_, fun ingress h => ⟨fun hreported => ?_, fun htracked => ?_⟩⟩
  · exact reported_of_attended (fun _ _ _ => Api.uncounted_of_guarded) h hworks
  · rw [← Bool.not_eq_false]
    intro huntracked
    have hcounted := hreported.counted Metrics.empty
    rw [Metrics.failuresOf, Metrics.failures_after _ (Ingress.uncounted_of_untracked huntracked h)] at hcounted
    exact absurd hcounted (Nat.ne_of_lt (Nat.lt_succ_self _))
  · have hpass : Ingress.pass settings ingress = fun ns => reported .ingress ingress.metadata
        (guarded .ingress ns ingress.metadata (Ingress.published settings ingress)
          (Ingress.withdrawn settings ingress)) := by
      funext ns
      rw [Ingress.pass, if_pos htracked]
    rw [Ingress.attend, hpass] at h
    exact reported_of_attended (fun ns _ _ hfailed => (Ingress.asks_guarded_uncounted ns).of_mem hfailed) h hworks

/-! ## A cluster whose registries cannot be listed -/

section Troubled

/-- A cluster that publishes events and refuses everything else for a fault of its own. -/
def troubled : Surroundings Unit where
  cluster := fun c s =>
    match c with
    | .publish _ => (.ok (), s)
    | _ => (.error (.refused "planned failure" "InternalError" 500), s)
  http := fun c s =>
    match c with
    | .isStopping => (false, s)
    | .send _ => (.unreachable, s)
  now := fun s => (⟨0, 0⟩, s)

/-- A live ingress with the finalizer that names another class. -/
def moved : Resource.Ingress :=
  { Retention.shop with
    metadata := { Retention.shop.metadata with deletionTimestamp := none }
    className := some "other" }

/-- How the controllers are done with a definition and with ingresses in that cluster. -/
def endingOf (work : Work Ending) : Ending := troubled.outcome work () Retention.books

/-- All that was asked and answered meanwhile. -/
def logOf (work : Work Ending) : List (Exchange Call.Answer) := troubled.log work () Retention.books

/-- Events are accepted in that cluster. -/
theorem publishingWorks_logOf (work : Work Ending) : PublishingWorks (logOf work) :=
  Surroundings.publishingWorks_log (fun _ _ => rfl) work () Retention.books

/-- The failed passes over a dying definition without its context and over a dying ingress of the class are
reported. -/
theorem troubled_reported :
    (∃ failure action, endingOf (Api.attend Retention.settings Retention.orders) = .failed failure action ∧
      Reported .apiDefinition Retention.orders.metadata
        (logOf (Api.attend Retention.settings Retention.orders)) failure) ∧
    ∃ failure action, endingOf (Ingress.attend Retention.settings Retention.shop) = .failed failure action ∧
      Reported .ingress Retention.shop.metadata
        (logOf (Ingress.attend Retention.settings Retention.shop)) failure := by
  constructor
  · refine ⟨_, _, rfl, ?_⟩
    exact (failed_pass_reported_iff_tracked Retention.settings _ _ _ (publishingWorks_logOf _)).1 Retention.orders
      (troubled.yields_log (Api.attend Retention.settings Retention.orders) () Retention.books)
  · refine ⟨_, _, rfl, ?_⟩
    exact ((failed_pass_reported_iff_tracked Retention.settings _ _ _ (publishingWorks_logOf _)).2 Retention.shop
      (troubled.yields_log (Ingress.attend Retention.settings Retention.shop) () Retention.books)).mpr (by decide)

/-- The failed pass over an ingress that moved to another class and still carries the finalizer is not reported,
though publishing works: all it does is to ask for the registries, and there are as many failures as before. -/
theorem moved_unreported :
    let refusal : Kube.Failure := .refused "planned failure" "InternalError" 500
    let log := logOf (Ingress.attend Retention.settings moved)
    PublishingWorks log ∧
      endingOf (Ingress.attend Retention.settings moved) = .failed (.kube refusal) (.requeue (.seconds 1)) ∧
      log = [⟨.countPass "Ingress", ()⟩, ⟨.cluster .registries, .error refusal⟩,
        ⟨.followUp "shop/shop" (.kube refusal), .requeue (.seconds 1)⟩] ∧
      (Metrics.empty.after log).failuresOf "Ingress" "shop" = 0 ∧
      ¬ Reported .ingress moved.metadata log (.kube refusal) := by
  refine ⟨publishingWorks_logOf _, rfl, rfl, rfl, fun hreported => ?_⟩
  obtain ⟨_, heq, -⟩ := hreported.told
  cases heq

end Troubled

end Reconcile

end GatewayOperator
