import GatewayOperator.Proofs.Reconcile.ApiDefinition
import GatewayOperator.Proofs.Reconcile.Surroundings
import GatewayOperator.Proofs.Trust.Relay
import GatewayOperator.Reconcile.Ingress

/-!
# Objects that are held up

A dying object with the finalizer of its controller cannot go before the operator is done with it, so the
operator must not lose sight of it. A controller is done with such an object in one of two ways: the
finalizer was removed, or the pass failed with a failure that is tried again. That no other failure comes
out of a clean-up is the work of two decisions. A deletion that no further attempt would mend counts as a
success, and all other failures of a clean-up are failures of the cluster or conflicts.
-/

set_option autoImplicit false

namespace GatewayOperator.Reconcile

open GatewayOperator.Resource GatewayOperator.Management
open Program (Exchange Asks)

/-- What the controller is told to do with the object next, if there was a pass. -/
def Ending.action? : Ending → Option Action
  | .acted action => some action
  | .failed _ action => some action
  | .unscoped => none

/-- Whether the object will be looked at again after a delay. -/
def Ending.Requeues (ending : Ending) : Prop := ∃ delay, ending.action? = some (.requeue delay)

namespace Retention

/-! ## Decisions -/

/-- Whether no further attempt is called for after a deletion: it succeeded, or it failed for good. -/
def IsFinal : Except PassFailure DeleteOutcome → Prop
  | .ok _ => True
  | .error failure => failure.requeue = .awaitChange

/-- The finalizer is released exactly if there is nothing to try again, and exactly after a deletion that
succeeded or failed for good. -/
theorem releases_iff (result : Except PassFailure DeleteOutcome) :
    ((resolveDelete result).releases = true ↔ (resolveDelete result).retry = none) ∧
      ((resolveDelete result).releases = true ↔ IsFinal result) := by
  match result with
  | .ok (.deleted id) => simp [resolveDelete, IsFinal]
  | .ok .alreadyGone => simp [resolveDelete, IsFinal]
  | .ok .notPublished => simp [resolveDelete, IsFinal]
  | .error failure =>
    by_cases hfinal : failure.requeue = .awaitChange
    · simp [resolveDelete, IsFinal, hfinal]
    · simp [resolveDelete, IsFinal, hfinal]

/-- What is to be tried again after a deletion is a failure that was not for good. -/
theorem retry_cases {result : Except PassFailure DeleteOutcome} {failure : PassFailure}
    (h : (resolveDelete result).retry = some failure) :
    result = .error failure ∧ failure.requeue ≠ .awaitChange := by
  match result with
  | .ok (.deleted id) => cases h
  | .ok .alreadyGone => cases h
  | .ok .notPublished => cases h
  | .error other =>
    by_cases hfinal : other.requeue = .awaitChange
    · simp [resolveDelete, hfinal] at h
    · simp only [resolveDelete, hfinal, if_false, Option.some.injEq] at h
      exact ⟨by rw [h], h ▸ hfinal⟩

/-- Any failure but one for good is followed by a delay. -/
theorem actionFor_requeues (b : Backoff) (key : String) {failure : PassFailure}
    (h : failure.requeue ≠ .awaitChange) : ∃ delay, (b.actionFor key failure).1 = .requeue delay := by
  unfold Backoff.actionFor
  cases hrequeue : failure.requeue with
  | immediately => exact ⟨_, rfl⟩
  | withBackoff => exact ⟨_, rfl⟩
  | awaitChange => exact absurd hrequeue h

/-! ## Failures that are tried again -/

/-- Whether every failure of a pass is tried again. -/
def Retried {α : Type} (p : Pass α) : Prop :=
  Program.Pass.Fails (fun _ failure => failure.requeue ≠ .awaitChange) p

/-- A pass whose parts fail with what is tried again does so itself. -/
theorem Retried.bind {α β : Type} {p : Pass α} {f : α → Pass β} (hp : Retried p)
    (hf : ∀ a, Retried (f a)) : Retried (p >>= f) :=
  Program.Pass.Fails.bind (fun _ _ _ h => h) hp hf

/-- A refusal of the cluster is tried again. -/
theorem retried_cluster (c : Cluster.Call) : Retried (cluster c) := by
  intro log failure h
  obtain ⟨answer, -, heq⟩ := yields_cluster.mp h
  cases answer with
  | ok r => cases heq
  | error refusal =>
    cases heq
    exact requeue_kube refusal

/-- A clean-up swallows what fails for good, so it fails with what is tried again. -/
theorem retried_cleanedUp (settings : Settings) (api : ApiDefinition) :
    Retried (Api.cleanedUp settings api) := by
  intro log failure h
  obtain ⟨_, _, result, -, -, -, hresult⟩ := Api.cleanedUp_cases h
  rcases hresult with ⟨refusal, heq⟩ | ⟨other, hretry, heq⟩ | ⟨-, heq⟩
  · cases heq
    exact requeue_kube refusal
  · cases heq
    exact (retry_cases hretry).2
  · cases heq

/-- What a call of a publication fails with is tried again. -/
theorem requeue_of_ofTrust {c : Trust.Call} {log : List (Exchange Call.Answer)} {failure : PassFailure}
    (h : (ofTrust c).Yields log (.error failure)) : failure.requeue ≠ .awaitChange := by
  cases c with
  | getSecret ns name => exact retried_cluster _ log failure h
  | addFinalizer secret => exact retried_cluster _ log failure h
  | removeFinalizer secret => exact retried_cluster _ log failure h
  | listIngresses ns => exact retried_cluster _ log failure h
  | listRegistries => exact retried_cluster _ log failure h
  | writeEntry registry key value =>
    obtain ⟨upper, hupper, -⟩ := Program.yields_interpret h
    rcases Trust.writeFrom_failure hupper with ⟨refusal, rfl⟩ | rfl
    · exact requeue_kube refusal
    · simp [PassFailure.requeue]

/-- A withdrawal fails with what one of its calls failed with. -/
theorem retried_withdraw (ingress : Resource.Ingress) (cls : String) :
    Retried (trust (Trust.withdraw ingress cls)) := by
  intro log failure h
  obtain ⟨upper, hupper, hcarries⟩ := Program.yields_interpret h
  -- the failure is the one of a call, and that call failed over the cluster
  obtain ⟨e, he, hfailure⟩ := Trust.relays_withdraw ingress cls upper failure hupper
  obtain ⟨part, hpart, -⟩ := hcarries.exists_part he
  rw [hfailure] at hpart
  exact requeue_of_ofTrust hpart

/-- The clean-up of an ingress fails with what is tried again. -/
theorem retried_withdrawn (settings : Settings) (ingress : Resource.Ingress) :
    Retried (Ingress.withdrawn settings ingress) := by
  refine (retried_withdraw ingress settings.ingressClass).bind fun _ => Retried.bind ?_ fun action => ?_
  · rintro log failure ⟨_, _, -, -, heq⟩
    cases heq
  · exact (retried_cluster _).bind fun _ => Program.Pass.fails_pure action

/-! ## Passes over objects that are held up -/

section HeldUp

variable {controller : Controller} {m : Meta} {apply : String → Pass Action} {cleanUp : Pass Action}
  {log : List (Exchange Call.Answer)} {ending : Ending}

/-- The work on an object under the finalizer of its controller. -/
def work (controller : Controller) (m : Meta) (apply : String → Pass Action) (cleanUp : Pass Action) :
    Work Ending :=
  attended controller m fun ns =>
    reported controller m (guarded controller ns m (apply ns) cleanUp)

/-- A failed report fails with the failure that is reported, or with one of the cluster. -/
theorem requeue_of_reported {pass : Guarded Action}
    (hpass : Program.Pass.Fails (fun _ failure => failure.requeue ≠ .awaitChange) pass)
    {failure : PassFailure} (h : (reported controller m pass).run.Yields log (.error failure)) :
    failure.requeue ≠ .awaitChange := by
  rcases reported_cases h with ⟨action, -, heq⟩ | ⟨inner, before, hinner, hreport⟩
  · cases heq
  · rcases hreport with ⟨refusal, heq, -⟩ | ⟨heq, -⟩
    · cases heq
      exact requeue_kube refusal
    · cases heq
      exact hpass before inner hinner

/-- If the clean-up fails with what is tried again, then so does the pass behind the finalizer. -/
theorem requeue_of_guarded {ns : String} {apply : Pass Action} (hheld : HeldUp controller m)
    (hretried : Retried cleanUp) :
    Program.Pass.Fails (fun _ failure => failure.requeue ≠ .awaitChange)
      (guarded controller ns m apply cleanUp) := by
  intro log failure h
  obtain ⟨index, hstage⟩ := hheld.stage
  rcases cleanUp_cases hstage h with
    ⟨-, -, heq⟩ | ⟨inner, hinner, heq⟩ | ⟨name, action, before, answer, -, -, -, heq⟩
  · cases heq
    simp [FinalizerFailure.requeue]
  · cases heq
    exact hretried log inner hinner
  · cases answer with
    | ok u => cases heq
    | error refusal =>
      cases heq
      exact requeue_kube refusal

/-- How a controller is done with an object that is held up: it has no namespace, or it is tried again, or
the removal of the finalizer was accepted, and that was the end of it. -/
theorem heldUp_cases (hheld : HeldUp controller m) (hretried : Retried cleanUp)
    (h : (work controller m apply cleanUp).Yields log ending) :
    m.namespace = none ∨
      (∃ failure action, ending = .failed failure action ∧ failure.requeue ≠ .awaitChange ∧
        ⟨.followUp m.key failure, action⟩ ∈ log) ∨
      ∃ ns name index before, m.namespace = some ns ∧ m.name = some name ∧
        log = before ++ [⟨removal controller ns name index, .ok ()⟩] := by
  rcases attended_cases h with ⟨hnone, -, -⟩ | ⟨ns, rest, hns, hpass⟩
  · exact .inl hnone
  right
  rcases hpass with ⟨action, hok, rfl, rfl⟩ | ⟨failure, action, hfailed, rfl, rfl⟩
  · -- the pass succeeded, so the removal was accepted
    right
    rcases reported_cases hok with ⟨_, hguarded, -⟩ | ⟨_, _, -, hreport⟩
    · obtain ⟨index, hstage⟩ := hheld.stage
      rcases cleanUp_cases hstage hguarded with
        ⟨-, -, heq⟩ | ⟨_, -, heq⟩ | ⟨name, _, before, answer, hname, -, rfl, heq⟩
      · cases heq
      · cases heq
      · cases answer with
        | ok u => exact ⟨ns, name, index, _ :: before, hns, hname, rfl⟩
        | error refusal => cases heq
    · rcases hreport with ⟨_, heq, -⟩ | ⟨heq, -⟩ <;> cases heq
  · left
    refine ⟨failure, action, rfl, ?_, by simp⟩
    exact requeue_of_reported (requeue_of_guarded hheld hretried) hfailed

end HeldUp

/-! ## Backends with a setback -/

/-- Whether a call changes the finalizers of an object. -/
def ChangesFinalizers : Call → Prop
  | .cluster (.changeFinalizers _ _ _ _) => True
  | _ => False

/-- Whether the finalizers of the object are left alone if the backend has a setback. -/
def Prudent (log : List (Exchange Call.Answer)) : Prop :=
  (∃ e ∈ log, IsDisturbed e) → ∀ e ∈ log, ¬ ChangesFinalizers e.1

section Setbacks

variable {settings : Settings} {api : ApiDefinition} {log : List (Exchange Call.Answer)}

/-- A call that is neither sent nor writes finalizers may come before. -/
theorem Prudent.cons {e : Exchange Call.Answer} (h : Prudent log) (hhttp : ¬ IsHttp e.1)
    (hchanges : ¬ ChangesFinalizers e.1) : Prudent (e :: log) := by
  rintro ⟨x, hx, hdisturbed⟩
  rcases List.mem_cons.mp hx with rfl | hx
  · exact absurd hdisturbed.isHttp hhttp
  · exact List.forall_mem_cons.mpr ⟨hchanges, h ⟨x, hx, hdisturbed⟩⟩

/-- Calls that are neither sent nor write finalizers may follow. -/
theorem Prudent.append {after : List (Exchange Call.Answer)} (h : Prudent log)
    (hafter : ∀ e ∈ after, ¬ IsHttp e.1 ∧ ¬ ChangesFinalizers e.1) : Prudent (log ++ after) := by
  rintro ⟨x, hx, hdisturbed⟩ e he
  rcases List.mem_append.mp hx with hx | hx
  · rcases List.mem_append.mp he with he | he
    · exact h ⟨x, hx, hdisturbed⟩ e he
    · exact (hafter e he).2
  · exact absurd hdisturbed.isHttp (hafter x hx).1

/-- In a clean-up that succeeds, the backend has no setback. -/
theorem undisturbed_of_cleanedUp {action : Action}
    (h : (Api.cleanedUp settings api).run.Yields log (.ok action)) : ∀ e ∈ log, ¬ IsDisturbed e := by
  intro e he hdisturbed
  obtain ⟨before, after, result, hwithdrawn, rfl, hquiet, hresult⟩ := Api.cleanedUp_cases h
  rcases List.mem_append.mp he with he | he
  · obtain ⟨failure, rfl, hrequeue⟩ := Api.withdrawn_fails hwithdrawn ⟨e, he, hdisturbed⟩
    rcases hresult with ⟨_, heq⟩ | ⟨_, -, heq⟩ | ⟨hretry, -⟩
    · cases heq
    · cases heq
    · simp [resolveDelete, hrequeue] at hretry
  · exact hquiet e he hdisturbed.isHttp

/-- Behind the finalizer of a dying definition, a setback of the backend keeps the finalizers. -/
theorem prudent_guarded {ns : String} {apply : Pass Action}
    (hheld : HeldUp .apiDefinition api.metadata)
    {r : Except (FinalizerFailure PassFailure) Action}
    (h : (guarded .apiDefinition ns api.metadata apply (Api.cleanedUp settings api)).run.Yields log r) :
    Prudent log := by
  obtain ⟨index, hstage⟩ := hheld.stage
  have hasks : (Api.cleanedUp settings api).run.Asks fun c => ¬ ChangesFinalizers c :=
    Api.asks_cleanedUp (fun _ _ h => h) (fun _ _ h => h)
      (fun _ => Program.asks_of_forall (fun _ h => h) _) (fun _ h => h) (fun _ h => h) (fun _ h => h)
  rcases cleanUp_cases hstage h with
    ⟨-, rfl, -⟩ | ⟨failure, hfailed, -⟩ | ⟨name, action, before, answer, -, hok, rfl, -⟩
  · rintro - e he
    cases he
  · exact fun _ => hasks.of_mem hfailed
  · -- the clean-up succeeded, so there was no setback
    rintro ⟨x, hx, hdisturbed⟩
    rcases List.mem_append.mp hx with hx | hx
    · exact absurd hdisturbed (undisturbed_of_cleanedUp hok x hx)
    · obtain rfl := List.mem_singleton.mp hx
      cases hdisturbed

/-- The report of a pass leaves the finalizers alone. -/
theorem prudent_reported {controller : Controller} {m : Meta} {pass : Guarded Action}
    (hpass : ∀ log r, pass.run.Yields log r → Prudent log) {r : Except PassFailure Action}
    (h : (reported controller m pass).run.Yields log r) : Prudent log := by
  rcases reported_cases h with ⟨action, hok, -⟩ | ⟨failure, before, hfailed, hreport⟩
  · exact hpass log _ hok
  · have hbefore := hpass before _ hfailed
    rcases hreport with ⟨_, -, rfl⟩ | ⟨-, rfl⟩
    · exact hbefore.append (by simp [IsHttp, ChangesFinalizers])
    · exact hbefore.append (by simp [IsHttp, ChangesFinalizers])

/-- If the backend has a setback in the pass over a dying definition, the finalizers are left alone. -/
theorem prudent_attend (hheld : HeldUp .apiDefinition api.metadata) {ending : Ending}
    (h : (Api.attend settings api).Yields log ending) : Prudent log := by
  have hpass (ns : String) (rest : List (Exchange Call.Answer)) (r : Except PassFailure Action)
      (hrest : (Api.pass settings api ns).run.Yields rest r) : Prudent rest :=
    prudent_reported (fun _ _ => prudent_guarded hheld) hrest
  rcases attended_cases h with ⟨-, rfl, -⟩ |
    ⟨ns, rest, -, ⟨action, hok, -, rfl⟩ | ⟨failure, action, hfailed, -, rfl⟩⟩
  · simp [Prudent, ChangesFinalizers]
  · exact (hpass ns rest _ hok).cons id id
  · have hrest : Prudent (rest ++ [⟨.followUp api.metadata.key failure, action⟩]) :=
      (hpass ns rest _ hfailed).append (List.forall_mem_singleton.mpr ⟨id, id⟩)
    exact hrest.cons id id

end Setbacks

/-! ## Controllers in their surroundings -/

section Surroundings

variable {σ : Type} {around : Surroundings σ}

/-- Whether an object is without the finalizer of a controller once its removal was accepted. Whether it carries the
finalizer is for the surroundings to say. A removal takes one place out of a list, so an object that lists the
finalizer more than once still carries it and is left out here. -/
def LosesFinalizer (around : Surroundings σ) (controller : Controller) (m : Meta)
    (carries : σ → Prop) : Prop :=
  ∀ ns name index s t, m.namespace = some ns → m.name = some name →
    around.cluster (.changeFinalizers controller ns name (.detach index controller.finalizer)) s =
      (.ok (), t) → ¬ carries t

/-- An object that was held up and still carries the finalizer is looked at again. -/
theorem requeues_of_carries {controller : Controller} {m : Meta} {apply : String → Pass Action}
    {cleanUp : Pass Action} (hheld : HeldUp controller m) (hretried : Retried cleanUp)
    {carries : σ → Prop} (hloses : LosesFinalizer around controller m carries) {s : σ} {b : Backoff}
    (hcarries : carries (around.after (work controller m apply cleanUp) s b)) :
    (around.outcome (work controller m apply cleanUp) s b).Requeues ∨ m.namespace = none := by
  rcases heldUp_cases hheld hretried (around.yields_log (work controller m apply cleanUp) s b) with
    hnone | ⟨failure, action, hending, hrequeue, hmem⟩ | ⟨ns, name, index, before, hns, hname, hlog⟩
  · exact .inr hnone
  · left
    obtain ⟨books, rfl⟩ := around.followUp_of_mem_log hmem
    obtain ⟨delay, hdelay⟩ := actionFor_requeues books m.key hrequeue
    exact ⟨delay, by rw [hending, ← hdelay]; rfl⟩
  · -- the removal was accepted last, so the object would not carry the finalizer
    obtain ⟨t, hremoval⟩ := around.after_of_log_eq hlog
    exact absurd hcarries (hloses ns name index t _ hns hname hremoval)

/-- The finalizer of a dying definition is given up only after a deletion that succeeded or failed for good,
so not if the backend has a setback. As long as it is there, the definition is looked at again, and so is a
dying ingress of the class as long as its finalizer is there. -/
theorem finalizers_kept_with_requeue (around : Surroundings σ) (settings : Settings) :
    (∀ result, ((resolveDelete result).releases = true ↔ (resolveDelete result).retry = none) ∧
      ((resolveDelete result).releases = true ↔ IsFinal result)) ∧
    (∀ (api : ApiDefinition) (s : σ) (b : Backoff), HeldUp .apiDefinition api.metadata →
      (∃ e ∈ around.log (Api.attend settings api) s b, IsDisturbed e) →
        ∀ e ∈ around.log (Api.attend settings api) s b, ¬ ChangesFinalizers e.1) ∧
    (∀ (api : ApiDefinition) (carries : σ → Prop) (s : σ) (b : Backoff),
      HeldUp .apiDefinition api.metadata →
      LosesFinalizer around .apiDefinition api.metadata carries →
      carries (around.after (Api.attend settings api) s b) →
        (around.outcome (Api.attend settings api) s b).Requeues ∨ api.metadata.namespace = none) ∧
    (∀ (ingress : Resource.Ingress) (carries : σ → Prop) (s : σ) (b : Backoff),
      Trust.isTracked ingress settings.ingressClass = true → HeldUp .ingress ingress.metadata →
      LosesFinalizer around .ingress ingress.metadata carries →
      carries (around.after (Ingress.attend settings ingress) s b) →
        (around.outcome (Ingress.attend settings ingress) s b).Requeues ∨
          ingress.metadata.namespace = none) := by
  refine ⟨releases_iff, ?_, ?_, ?_⟩
  · intro api s b hheld
    exact prudent_attend hheld (around.yields_log (Api.attend settings api) s b)
  · intro api carries s b hheld hloses hcarries
    exact requeues_of_carries hheld (retried_cleanedUp settings api) hloses hcarries
  · intro ingress carries s b htracked hheld hloses hcarries
    have hattend : Ingress.attend settings ingress =
        work .ingress ingress.metadata (fun _ => Ingress.published settings ingress)
          (Ingress.withdrawn settings ingress) := by
      unfold Ingress.attend work
      congr 1
      funext ns
      rw [Ingress.pass, if_pos htracked]
    rw [hattend] at hcarries ⊢
    exact requeues_of_carries hheld (retried_withdrawn settings ingress) hloses hcarries

end Surroundings

/-! ## A cluster and a backend in trouble -/

section Stalled

/-- A dying definition of a context that holds a token. -/
def orders : ApiDefinition where
  metadata :=
    { Meta.empty with
      «namespace» := some "shop"
      name := some "orders"
      deletionTimestamp := some ⟨0, 0⟩
      finalizers := some [Controller.apiDefinition.finalizer] }
  spec :=
    { name := "Orders", version := "1", description := none, crossId := none
      contextRef := some ⟨"apim", none⟩, state := .started, lifecycleState := .created
      visibility := .private, tags := [], labels := [], proxy := none, plans := none, flows := none
      resources := none, properties := none, primaryOwner := none, metadata := none
      responseTemplates := none }
  status := none

/-- A dying ingress. -/
def shop : Resource.Ingress where
  metadata :=
    { Meta.empty with
      «namespace» := some "shop"
      name := some "shop"
      deletionTimestamp := some ⟨0, 0⟩
      finalizers := some [Controller.ingress.finalizer] }
  className := some "apim-gateway"
  tls := [some "shop-tls"]

/-- A context that holds a token. -/
def context : ManagementContext where
  metadata := Meta.empty
  spec := ⟨"https://apim", "org", "env", ⟨some "token", none, none⟩⟩

/-- A cluster that knows the context, publishes events and takes finalizers off, but answers nothing else, and
a backend that does not answer in time. The state is whether the finalizer is there. -/
def stalled : Surroundings Bool where
  cluster := fun c s =>
    match c with
    | .context _ _ => (.ok (some context), s)
    | .publish _ => (.ok (), s)
    | .changeFinalizers _ _ _ (.detach _ _) => (.ok (), false)
    | _ => (.error (.unreachable "connection refused"), s)
  http := fun c s =>
    match c with
    | .isStopping => (false, s)
    | .send _ => (.timedOut, s)
  now := fun s => (⟨0, 0⟩, s)

/-- The settings of the operator and its books. -/
def settings : Settings :=
  ⟨"0.0.0.0:8080", "apim-gateway", .seconds 5, .seconds 1, .seconds 300, .seconds 600, 4⟩

/-- Books without a failure. -/
def books : Backoff := .new (.seconds 1) (.seconds 300)

/-- In that cluster an object loses its finalizer if the removal is accepted. -/
theorem stalled_loses (controller : Controller) (m : Meta) :
    LosesFinalizer stalled controller m fun there => there = true := by
  intro ns name index s t _ _ hremoval
  obtain ⟨-, rfl⟩ := Prod.mk.inj hremoval
  simp

/-- The definition and the ingress keep their finalizers and are looked at again. -/
theorem stalled_requeues :
    HeldUp .apiDefinition orders.metadata ∧ HeldUp .ingress shop.metadata ∧
      Trust.isTracked shop settings.ingressClass = true ∧
      (∃ e ∈ stalled.log (Api.attend settings orders) true books, IsDisturbed e) ∧
      (∀ e ∈ stalled.log (Api.attend settings orders) true books, ¬ ChangesFinalizers e.1) ∧
      (stalled.outcome (Api.attend settings orders) true books).Requeues ∧
      (stalled.outcome (Ingress.attend settings shop) true books).Requeues := by
  have horders : HeldUp .apiDefinition orders.metadata := ⟨by decide, by decide⟩
  have hshop : HeldUp .ingress shop.metadata := ⟨by decide, by decide⟩
  have htracked : Trust.isTracked shop settings.ingressClass = true := by decide
  have hdisturbed : ∃ e ∈ stalled.log (Api.attend settings orders) true books, IsDisturbed e := by
    decide +kernel
  have hordersKept : stalled.after (Api.attend settings orders) true books = true := by decide +kernel
  have hshopKept : stalled.after (Ingress.attend settings shop) true books = true := by decide +kernel
  obtain ⟨-, hprudent, hapi, hingress⟩ := finalizers_kept_with_requeue stalled settings
  refine ⟨horders, hshop, htracked, hdisturbed, hprudent orders true books horders hdisturbed, ?_, ?_⟩
  · have h := hapi orders _ true books horders (stalled_loses _ _) hordersKept
    exact h.resolve_right (by decide)
  · have h := hingress shop _ true books htracked hshop (stalled_loses _ _) hshopKept
    exact h.resolve_right (by decide)

end Stalled

end Retention

end GatewayOperator.Reconcile
