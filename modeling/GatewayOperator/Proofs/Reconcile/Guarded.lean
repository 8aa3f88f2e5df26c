import GatewayOperator.Proofs.Program.Conversation
import GatewayOperator.Reconcile.Finalizer

/-!
# How a pass under a finalizer goes

What a pass can do is said once for each of its layers, by its conversation: the pass itself under the
finalizer, the report of its failure, and the choice of the follow-up. Over a dying object with the
finalizer, the removal is the last call if it is accepted, and it is only asked for after a clean-up that
succeeded.
-/

set_option autoImplicit false

namespace GatewayOperator.Reconcile

open GatewayOperator.Resource
open Program (Exchange Asks)

/-! ## Calls of the cluster -/

/-- A call of the cluster is one exchange, whatever its failure is called. -/
theorem yields_adapt_askCluster {ε : Type} {g : Kube.Failure → ε} {c : Cluster.Call}
    {log : List (Exchange Call.Answer)} {r : Except ε c.Result} :
    (ExceptT.adapt g (ExceptT.mk (askCluster c))).run.Yields log r ↔
      ∃ answer, log = [⟨.cluster c, answer⟩] ∧ r = answer.mapError g := by
  rw [Program.Pass.yields_adapt]
  constructor
  · rintro ⟨answer, h, rfl⟩
    exact ⟨answer, Program.yields_call.mp h, rfl⟩
  · rintro ⟨answer, h, rfl⟩
    exact ⟨answer, Program.yields_call.mpr h, rfl⟩

/-- A call of the cluster in a pass is one exchange. -/
theorem yields_cluster {c : Cluster.Call} {log : List (Exchange Call.Answer)}
    {r : Except PassFailure c.Result} :
    (cluster c).run.Yields log r ↔
      ∃ answer, log = [⟨.cluster c, answer⟩] ∧ r = answer.mapError .kube :=
  yields_adapt_askCluster

/-- A change of finalizers is one exchange. -/
theorem yields_changeFinalizers {controller : Controller} {ns name : String}
    {change : Cluster.FinalizerChange} {failure : Kube.Failure → FinalizerFailure PassFailure}
    {log : List (Exchange Call.Answer)} {r : Except (FinalizerFailure PassFailure) Unit} :
    (changeFinalizers controller ns name change failure).run.Yields log r ↔
      ∃ answer, log = [⟨.cluster (.changeFinalizers controller ns name change), answer⟩] ∧
        r = answer.mapError failure :=
  yields_adapt_askCluster

section Asks

variable {sort : Call → Prop}

/-- A call in a pass asks itself. -/
theorem asks_ask {c : Call} (h : sort c) : (ask c).run.Asks sort := ⟨h, fun _ => trivial⟩

/-- A call of the cluster in a pass asks itself. -/
theorem asks_cluster {c : Cluster.Call} (h : sort (.cluster c)) : (cluster c).run.Asks sort :=
  Program.Pass.asks_adapt (Program.asks_call h)

variable {controller : Controller} {m : Meta} {ns : String}

/-- A pass under a finalizer asks what the finalizers and the deletion of the object call for. -/
theorem asks_guarded {apply cleanUp : Pass Action}
    (hchange : ∀ name change, sort (.cluster (.changeFinalizers controller ns name change)))
    (happly : Stage.of controller.finalizer m = .apply → apply.run.Asks sort)
    (hcleanUp : ∀ index, Stage.of controller.finalizer m = .cleanUp index → cleanUp.run.Asks sort) :
    (guarded controller ns m apply cleanUp).run.Asks sort := by
  have hname : (nameOf m).run.Asks sort := by
    unfold nameOf
    cases m.name <;> trivial
  have hfinalizers (name : String) (change : Cluster.FinalizerChange)
      (failure : Kube.Failure → FinalizerFailure PassFailure) :
      (changeFinalizers controller ns name change failure).run.Asks sort :=
    Program.Pass.asks_adapt (Program.asks_call (hchange name change))
  unfold guarded
  cases hstage : Stage.of controller.finalizer m with
  | attach =>
    refine Program.Pass.asks_bind hname fun name => ?_
    exact Program.Pass.asks_bind (hfinalizers name _ _) fun _ => trivial
  | apply => exact Program.Pass.asks_adapt (happly hstage)
  | cleanUp index =>
    refine Program.Pass.asks_bind hname fun name => ?_
    refine Program.Pass.asks_bind (Program.Pass.asks_adapt (hcleanUp index hstage)) fun _ => ?_
    exact Program.Pass.asks_bind (hfinalizers name _ _) fun _ => trivial
  | leave => trivial

/-- A pass that is reported asks what it asks, and the report: an event and a count. -/
theorem asks_reported {pass : Guarded Action} (hpass : pass.run.Asks sort)
    (hpublish : ∀ event, sort (.cluster (.publish event)))
    (hcount : ∀ kind object cause, sort (.countFailure kind object cause)) :
    (reported controller m pass).run.Asks sort := by
  refine Program.Pass.asks_bind (Program.Pass.asks_attempt hpass) fun result => ?_
  cases result with
  | ok action => trivial
  | error failure =>
    refine Program.Pass.asks_bind (asks_cluster (hpublish _)) fun _ => ?_
    exact Program.Pass.asks_bind (asks_ask (hcount _ _ _)) fun _ => trivial

/-- A pass that is attended asks what it asks, and is counted and followed up on. -/
theorem asks_attended {pass : String → Pass Action} (hpass : ∀ ns, (pass ns).run.Asks sort)
    (hcount : ∀ kind, sort (.countPass kind)) (hfollowUp : ∀ key failure, sort (.followUp key failure)) :
    (attended controller m pass).Asks sort := by
  unfold attended
  refine ⟨hcount _, fun _ => ?_⟩
  cases hns : m.namespace with
  | none => trivial
  | some ns =>
    refine (hpass ns).bind fun result => ?_
    cases result with
    | ok action => trivial
    | error failure => exact ⟨hfollowUp _ _, fun _ => trivial⟩

end Asks

/-- A failure of the cluster is never one that awaits a change. -/
theorem requeue_kube (failure : Kube.Failure) : (PassFailure.kube failure).requeue ≠ .awaitChange := by
  unfold PassFailure.requeue
  split <;> simp

/-- A finalizer has an index if the object has it. -/
theorem isSome_findIdx?_finalizer (m : Meta) (f : String) :
    (m.finalizerList.findIdx? fun g => g = f).isSome = m.hasFinalizer f := by
  rw [List.findIdx?_isSome, Meta.hasFinalizer, List.contains_eq_any_beq]
  congr 1
  funext g
  rw [Bool.eq_iff_iff, beq_iff_eq, decide_eq_true_iff]
  exact eq_comm

/-! ## Dying objects -/

/-- Whether an object is going away and is held up by the finalizer of a controller. -/
def HeldUp (controller : Controller) (m : Meta) : Prop :=
  m.isDeleting = true ∧ m.hasFinalizer controller.finalizer = true

/-- An object that is held up is to be cleaned up. -/
theorem HeldUp.stage {controller : Controller} {m : Meta} (h : HeldUp controller m) :
    ∃ index, Stage.of controller.finalizer m = .cleanUp index := by
  obtain ⟨hdeleting, hfinalizer⟩ := h
  rw [← isSome_findIdx?_finalizer, Option.isSome_iff_exists] at hfinalizer
  obtain ⟨index, hindex⟩ := hfinalizer
  refine ⟨index, ?_⟩
  unfold Stage.of
  rw [hindex, hdeleting]

/-! ## Live objects -/

/-- Whether an object is live and carries the finalizer of a controller. -/
def InUse (controller : Controller) (m : Meta) : Prop :=
  m.isDeleting = false ∧ m.hasFinalizer controller.finalizer = true

/-- An object that is in use is to be applied. -/
theorem InUse.stage {controller : Controller} {m : Meta} (h : InUse controller m) :
    Stage.of controller.finalizer m = .apply := by
  obtain ⟨hlive, hfinalizer⟩ := h
  rw [← isSome_findIdx?_finalizer, Option.isSome_iff_exists] at hfinalizer
  obtain ⟨index, hindex⟩ := hfinalizer
  unfold Stage.of
  rw [hindex, hlive]

/-- Without the finalizer an object is neither applied nor cleaned up. -/
theorem stage_of_not_hasFinalizer {f : String} {m : Meta} (h : m.hasFinalizer f = false) :
    Stage.of f m = .attach ∨ Stage.of f m = .leave := by
  rw [← isSome_findIdx?_finalizer, Option.isSome_eq_false_iff, Option.isNone_iff_eq_none] at h
  unfold Stage.of
  rw [h]
  cases m.isDeleting
  · exact .inl rfl
  · exact .inr rfl

/-- The call that removes the finalizer of a controller, found at an index, from an object. -/
def removal (controller : Controller) (ns name : String) (index : Nat) : Call :=
  .cluster (.changeFinalizers controller ns name (.detach index controller.finalizer))

section Layers

variable {controller : Controller} {m : Meta} {ns : String} {apply cleanUp : Pass Action}
  {log : List (Exchange Call.Answer)}

/-- How the pass over a dying object goes: the object has no name, or the clean-up fails, or it succeeds and
then the removal of the finalizer is asked for. -/
theorem cleanUp_cases {index : Nat} (hstage : Stage.of controller.finalizer m = .cleanUp index)
    {r : Except (FinalizerFailure PassFailure) Action}
    (h : (guarded controller ns m apply cleanUp).run.Yields log r) :
    (m.name = none ∧ log = [] ∧ r = .error .unnamedObject) ∨
      (∃ failure, cleanUp.run.Yields log (.error failure) ∧ r = .error (.cleanupFailed failure)) ∨
      ∃ name action before answer, m.name = some name ∧ cleanUp.run.Yields before (.ok action) ∧
        log = before ++ [⟨removal controller ns name index, answer⟩] ∧
        r = (answer.mapError .removeFinalizer).map fun _ => action := by
  unfold guarded at h
  rw [hstage] at h
  unfold nameOf at h
  cases hname : m.name with
  | none =>
    simp only [hname] at h
    obtain ⟨rfl, rfl⟩ := h
    exact .inl ⟨rfl, rfl, rfl⟩
  | some name =>
    right
    simp only [hname, pure_bind] at h
    rcases Program.Pass.yields_bind.mp h with
      ⟨e, rfl, hclean⟩ | ⟨before, rest, action, rfl, hclean, hrest⟩
    · left
      obtain ⟨result, hresult, heq⟩ := Program.Pass.yields_adapt.mp hclean
      cases result with
      | ok action => cases heq
      | error failure =>
        cases heq
        exact ⟨failure, hresult, rfl⟩
    · right
      obtain ⟨result, hresult, heq⟩ := Program.Pass.yields_adapt.mp hclean
      cases result with
      | error failure => cases heq
      | ok done =>
        cases heq
        refine ⟨name, action, before, ?_⟩
        rcases Program.Pass.yields_bind.mp hrest with
          ⟨e, rfl, hchange⟩ | ⟨_, _, _, rfl, hchange, rfl, rfl⟩
        · obtain ⟨answer, rfl, heq⟩ := yields_changeFinalizers.mp hchange
          refine ⟨answer, rfl, hresult, rfl, ?_⟩
          cases answer with
          | ok u => cases heq
          | error failure => cases heq; rfl
        · obtain ⟨answer, rfl, heq⟩ := yields_changeFinalizers.mp hchange
          refine ⟨answer, rfl, hresult, by rw [List.append_nil]; rfl, ?_⟩
          cases answer with
          | ok u => rfl
          | error failure => cases heq

/-- Over an object in use a pass does what is to be applied, and names the failure so. -/
theorem apply_cases (hstage : Stage.of controller.finalizer m = .apply)
    {r : Except (FinalizerFailure PassFailure) Action}
    (h : (guarded controller ns m apply cleanUp).run.Yields log r) :
    ∃ result, apply.run.Yields log result ∧ r = result.mapError .applyFailed := by
  unfold guarded at h
  rw [hstage] at h
  exact Program.Pass.yields_adapt.mp h

/-- How a failure is reported: the event cannot be published, and that is the failure then, or it is
published and the failure is counted. -/
theorem reported_cases {pass : Guarded Action} {r : Except PassFailure Action}
    (h : (reported controller m pass).run.Yields log r) :
    (∃ action, pass.run.Yields log (.ok action) ∧ r = .ok action) ∨
      ∃ failure before, pass.run.Yields before (.error failure) ∧
        ((∃ refusal, r = .error (.kube refusal) ∧
            log = before ++ [⟨.cluster (.publish ⟨failureNotice failure, "Reconcile",
              controller.subject m⟩), .error refusal⟩]) ∨
          (r = .error (.finalizer failure) ∧
            log = before ++ [⟨.cluster (.publish ⟨failureNotice failure, "Reconcile",
                controller.subject m⟩), .ok ()⟩,
              ⟨.countFailure controller.kindName m.anyName (PassFailure.finalizer failure).label,
                ()⟩])) := by
  unfold reported at h
  rcases Program.Pass.yields_bind.mp h with ⟨e, -, hpass⟩ | ⟨before, rest, result, rfl, hpass, hrest⟩
  · -- an attempt does not fail
    obtain ⟨result, -, heq⟩ := Program.Pass.yields_attempt.mp hpass
    cases heq
  · obtain ⟨result, hresult, heq⟩ := Program.Pass.yields_attempt.mp hpass
    cases heq
    cases result with
    | ok action =>
      obtain ⟨rfl, rfl⟩ := hrest
      exact .inl ⟨action, by rwa [List.append_nil], rfl⟩
    | error failure =>
      refine .inr ⟨failure, before, hresult, ?_⟩
      rcases Program.Pass.yields_bind.mp hrest with ⟨e, rfl, htold⟩ | ⟨_, _, _, rfl, htold, hcounted⟩
      · obtain ⟨answer, rfl, heq⟩ := yields_cluster.mp htold
        cases answer with
        | ok u => cases heq
        | error refusal =>
          cases heq
          exact .inl ⟨refusal, rfl, rfl⟩
      · obtain ⟨answer, rfl, heq⟩ := yields_cluster.mp htold
        cases answer with
        | error refusal => cases heq
        | ok u =>
          obtain ⟨_, _, rfl, rfl, rfl⟩ := hcounted
          exact .inr ⟨rfl, rfl⟩

/-- How a controller is done with an object: there was no pass, or it succeeded, or it failed and the
follow-up was chosen. -/
theorem attended_cases {pass : String → Pass Action} {ending : Ending}
    (h : (attended controller m pass).Yields log ending) :
    (m.namespace = none ∧ log = [⟨.countPass controller.kindName, ()⟩] ∧ ending = .unscoped) ∨
      ∃ ns rest, m.namespace = some ns ∧
        ((∃ action, (pass ns).run.Yields rest (.ok action) ∧ ending = .acted action ∧
            log = ⟨.countPass controller.kindName, ()⟩ :: rest) ∨
          ∃ failure action, (pass ns).run.Yields rest (.error failure) ∧
            ending = .failed failure action ∧
            log = ⟨.countPass controller.kindName, ()⟩ ::
              (rest ++ [⟨.followUp m.key failure, action⟩])) := by
  unfold attended at h
  obtain ⟨_, rest, rfl, h⟩ := h
  cases hns : m.namespace with
  | none =>
    simp only [hns] at h
    obtain ⟨rfl, rfl⟩ := h
    exact .inl ⟨rfl, rfl, rfl⟩
  | some ns =>
    simp only [Program.bind_done, hns] at h
    obtain ⟨before, after, result, rfl, hpass, hend⟩ := Program.yields_bind.mp h
    cases result with
    | ok action =>
      obtain ⟨rfl, rfl⟩ := hend
      exact .inr ⟨ns, before, rfl, .inl ⟨action, hpass, rfl, by rw [List.append_nil]⟩⟩
    | error failure =>
      obtain ⟨action, _, rfl, rfl, rfl⟩ := hend
      exact .inr ⟨ns, before, rfl, .inr ⟨failure, action, hpass, rfl, rfl⟩⟩

end Layers

end GatewayOperator.Reconcile
