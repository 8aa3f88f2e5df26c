import GatewayOperator.Proofs.Reconcile.Retention

/-!
# Failures and what follows them

What is recorded about a failure, what users are told of it and what the controller does next are decided in
different places, each by the same question: how the failure is to be followed up. A finalizer puts layers around
a failure on its way from the pass to the controller, and the question is answered below all of them. So the
three agree, however deep the failure is: a definition is said to have failed exactly if the controller waits for
a change, and it is looked at again without delay exactly if the failure is a lost race.
-/

set_option autoImplicit false

namespace GatewayOperator

open GatewayOperator.Resource

/-! ## Delays -/

namespace Backoff

/-- A first delay and a greatest delay that are not zero make every delay longer than zero. -/
theorem delay_ne_zero (b : Backoff) (hbase : 0 < b.base.nanos) (hmost : 0 < b.most.nanos) (earlier : Nat) :
    b.delay earlier ≠ Span.zero := by
  have hfactor : 0 < factor earlier := by
    rw [factor_eq]
    exact Nat.pow_pos (by decide)
  have hproduct : 0 < b.base.nanos * factor earlier := Nat.mul_pos hbase hfactor
  have hpositive : 0 < (b.delay earlier).nanos := by
    unfold Backoff.delay Span.times?
    by_cases hcut : Span.greatest < b.base.nanos * factor earlier
    · rw [if_pos hcut]
      exact hmost
    · rw [if_neg hcut]
      exact Nat.lt_min.mpr ⟨hproduct, hmost⟩
  intro hzero
  rw [hzero] at hpositive
  exact absurd hpositive (Nat.lt_irrefl 0)

variable (b : Backoff) (key : String) {failure : PassFailure}

/-- A failure is followed up as the failure inside it is. -/
theorem actionFor_congr {other : PassFailure} (h : other.requeue = failure.requeue) :
    b.actionFor key other = b.actionFor key failure := by
  unfold actionFor
  rw [h]

/-- After a lost race there is no delay, and the failures in a row are what they were. -/
theorem actionFor_of_immediately (h : failure.requeue = .immediately) :
    b.actionFor key failure = (.requeue Span.zero, b) := by
  simp only [actionFor, h]

/-- A controller waits for a change if the failure says so. -/
theorem actionFor_eq_awaitChange_iff :
    (b.actionFor key failure).1 = .awaitChange ↔ failure.requeue = .awaitChange := by
  unfold actionFor
  cases failure.requeue <;> simp

/-- A controller looks at the object again after every other failure. -/
theorem exists_actionFor_eq_requeue_iff :
    (∃ delay, (b.actionFor key failure).1 = .requeue delay) ↔ failure.requeue ≠ .awaitChange := by
  constructor
  · rintro ⟨delay, hdelay⟩ hawaits
    rw [(b.actionFor_eq_awaitChange_iff key).mpr hawaits] at hdelay
    cases hdelay
  · exact Reconcile.Retention.actionFor_requeues b key

/-- Without a delay of zero after a failure that is tried again later, no delay means to try again at once. -/
theorem actionFor_eq_requeue_zero_iff (hdelay : ∀ earlier, b.delay earlier ≠ Span.zero) :
    (b.actionFor key failure).1 = .requeue Span.zero ↔ failure.requeue = .immediately := by
  unfold actionFor
  cases failure.requeue with
  | immediately => simp
  | withBackoff => simpa [next] using hdelay _
  | awaitChange => simp

end Backoff

namespace Reconcile.FollowUp

/-! ## Layers -/

/-- What a finalizer puts around the failure of the pass under it. -/
inductive Layer where
  | applyFailed
  | cleanupFailed
  deriving DecidableEq

/-- A failure with a layer around it. -/
def Layer.around : Layer → PassFailure → PassFailure
  | .applyFailed, failure => .finalizer (.applyFailed failure)
  | .cleanupFailed, failure => .finalizer (.cleanupFailed failure)

/-- A failure with layers around it, the outermost one first. -/
def wrapped (layers : List Layer) (failure : PassFailure) : PassFailure := layers.foldr Layer.around failure

/-- A layer does not change what a failure calls for. -/
theorem Layer.requeue_around (layer : Layer) (failure : PassFailure) :
    (layer.around failure).requeue = failure.requeue := by
  cases layer with
  | applyFailed => simp only [around, PassFailure.requeue, FinalizerFailure.requeue]
  | cleanupFailed => simp only [around, PassFailure.requeue, FinalizerFailure.requeue]

/-- Layers do not change what a failure calls for. -/
theorem requeue_wrapped (layers : List Layer) (failure : PassFailure) :
    (wrapped layers failure).requeue = failure.requeue := by
  induction layers with
  | nil => rfl
  | cons layer rest ih => exact (layer.requeue_around (wrapped rest failure)).trans ih

/-! ## Lost races -/

/-- Whether the innermost cause of a failure is that somebody else was faster: the cluster refused a write because
of its version, be it one of a finalizer, or a registry was written by others again and again. -/
inductive LostRace : PassFailure → Prop
  | registry (name : String) : LostRace (.registryConflict name)
  | write (message reason : String) : LostRace (.kube (.refused message reason 409))
  | adding (message reason : String) : LostRace (.finalizer (.addFinalizer (.refused message reason 409)))
  | removing (message reason : String) : LostRace (.finalizer (.removeFinalizer (.refused message reason 409)))
  | under (layer : Layer) (failure : PassFailure) (inner : LostRace failure) : LostRace (layer.around failure)

/-- A refusal is a conflict by its code, whatever its reason. -/
theorem isConflict_iff (refusal : Kube.Failure) :
    refusal.isConflict = true ↔ ∃ message reason, refusal = .refused message reason 409 := by
  cases refusal with
  | refused message reason code => simp [Kube.Failure.isConflict]
  | unreachable message => simp [Kube.Failure.isConflict]
  | unreadable message => simp [Kube.Failure.isConflict]
  | unbuildable message => simp [Kube.Failure.isConflict]

/-- A race that was lost is run again at once. -/
theorem LostRace.requeue_eq {failure : PassFailure} (h : LostRace failure) :
    failure.requeue = .immediately := by
  induction h with
  | registry name => simp [PassFailure.requeue]
  | write message reason => simp [PassFailure.requeue, Kube.Failure.isConflict]
  | adding message reason => simp [PassFailure.requeue, FinalizerFailure.requeue, Kube.Failure.isConflict]
  | removing message reason => simp [PassFailure.requeue, FinalizerFailure.requeue, Kube.Failure.isConflict]
  | under layer failure _ ih => exact (layer.requeue_around failure).trans ih

/-- A refusal that is followed up at once is one because of a version. -/
theorem exists_eq_refused {refusal : Kube.Failure}
    (h : (if refusal.isConflict then Requeue.immediately else .withBackoff) = .immediately) :
    ∃ message reason, refusal = .refused message reason 409 := by
  rw [← isConflict_iff]
  refine Decidable.byContradiction fun hother => ?_
  rw [if_neg hother] at h
  cases h

/-- Nothing else is tried again at once: the recursion goes down through the layers, and below them every sort of
failure is one or is not. -/
theorem lostRace_of_requeue : ∀ failure : PassFailure, failure.requeue = .immediately → LostRace failure
  | .kube refusal, h => by
    obtain ⟨message, reason, rfl⟩ := exists_eq_refused (by simpa only [PassFailure.requeue] using h)
    exact .write message reason
  | .registryConflict name, _ => .registry name
  | .finalizer (.applyFailed inner), h =>
    .under .applyFailed inner (lostRace_of_requeue inner ((Layer.requeue_around .applyFailed inner).symm.trans h))
  | .finalizer (.cleanupFailed inner), h =>
    .under .cleanupFailed inner
      (lostRace_of_requeue inner ((Layer.requeue_around .cleanupFailed inner).symm.trans h))
  | .finalizer (.addFinalizer refusal), h => by
    obtain ⟨message, reason, rfl⟩ :=
      exists_eq_refused (by simpa only [PassFailure.requeue, FinalizerFailure.requeue] using h)
    exact .adding message reason
  | .finalizer (.removeFinalizer refusal), h => by
    obtain ⟨message, reason, rfl⟩ :=
      exists_eq_refused (by simpa only [PassFailure.requeue, FinalizerFailure.requeue] using h)
    exact .removing message reason
  | .finalizer .unnamedObject, h => by simp [PassFailure.requeue, FinalizerFailure.requeue] at h
  | .finalizer .invalidFinalizer, h => by simp [PassFailure.requeue, FinalizerFailure.requeue] at h
  | .management inner, h => by
    simp only [PassFailure.requeue] at h
    cases hseverity : inner.severity <;> simp [hseverity] at h
  | .serialization _, h => by simp [PassFailure.requeue] at h
  | .managementContextNotFound _, h => by simp [PassFailure.requeue] at h
  | .secretNotFound _, h => by simp [PassFailure.requeue] at h
  | .secretKeyNotFound _ _, h => by simp [PassFailure.requeue] at h
  | .missingCredentials _, h => by simp [PassFailure.requeue] at h
  | .invalidCredentials _, h => by simp [PassFailure.requeue] at h
  | .invalidTlsSecret _, h => by simp [PassFailure.requeue] at h
  | .secretReferenced _ _, h => by simp [PassFailure.requeue] at h
  | .registryNotFound, h => by simp [PassFailure.requeue] at h

/-- Nothing but a race that was lost is run again at once. -/
theorem requeue_eq_immediately_iff (failure : PassFailure) :
    failure.requeue = .immediately ↔ LostRace failure :=
  ⟨lostRace_of_requeue failure, LostRace.requeue_eq⟩

/-! ## Agreement -/

section

variable (previous : Option ApiStatus) (crossId : String) (generation : Option Int) (failure : PassFailure)

/-- What is recorded about a failed synchronization that only a change will help. -/
theorem resolveFailure_failed_iff :
    ((resolveFailure previous crossId generation failure).status.processingStatus = .failed ∧
      (resolveFailure previous crossId generation failure).notice =
        some ⟨.warning, "Failed", failure.message⟩) ↔
      failure.requeue = .awaitChange := by
  by_cases hawaits : failure.requeue = .awaitChange
  · simp [resolveFailure, hawaits]
  · simp [resolveFailure, hawaits]

/-- What is recorded about a failed synchronization that is tried again. -/
theorem resolveFailure_reconciling_iff :
    ((resolveFailure previous crossId generation failure).status.processingStatus = .reconciling ∧
      (resolveFailure previous crossId generation failure).notice =
        some ⟨.warning, "Reconciling", "Will retry: " ++ failure.message⟩) ↔
      failure.requeue ≠ .awaitChange := by
  by_cases hawaits : failure.requeue = .awaitChange
  · simp [resolveFailure, hawaits]
  · simp [resolveFailure, hawaits]

end

/-- Status, event and follow-up of a failure agree, whatever finalizers put around it: with any layers around it
it is followed up as it is without them, and so it leaves the same failures to count; its definition is said to
have failed exactly if the controller waits for a change and to be reconciling exactly if the controller looks at
it again; and that happens without delay exactly after a lost race. -/
theorem follow_ups_agree (layers : List Layer) (failure : PassFailure) (base most : Span)
    (failures : Dict Nat) (key : String) (previous : Option ApiStatus) (crossId : String)
    (generation : Option Int) :
    let books : Backoff := { Backoff.new base most with failures }
    let decision := resolveSync previous crossId generation (.error failure)
    let action := (books.actionFor key failure).1
    (wrapped layers failure).requeue = failure.requeue ∧
      books.actionFor key (wrapped layers failure) = books.actionFor key failure ∧
      ((decision.status.processingStatus = .failed ∧
          decision.notice = some ⟨.warning, "Failed", failure.message⟩) ↔ action = .awaitChange) ∧
      ((decision.status.processingStatus = .reconciling ∧
          decision.notice = some ⟨.warning, "Reconciling", "Will retry: " ++ failure.message⟩) ↔
        ∃ delay, action = .requeue delay) ∧
      (0 < base.nanos → (action = .requeue Span.zero ↔ LostRace failure)) := by
  intro books decision action
  have hlayers : (wrapped layers failure).requeue = failure.requeue := requeue_wrapped layers failure
  refine ⟨hlayers, books.actionFor_congr key hlayers, ?_, ?_, fun hbase => ?_⟩
  · exact (resolveFailure_failed_iff previous crossId generation failure).trans
      (books.actionFor_eq_awaitChange_iff key).symm
  · exact (resolveFailure_reconciling_iff previous crossId generation failure).trans
      (books.exists_actionFor_eq_requeue_iff key).symm
  · have hmost : 0 < books.most.nanos := Nat.lt_of_lt_of_le hbase (Nat.le_max_right most.nanos base.nanos)
    exact (books.actionFor_eq_requeue_zero_iff key (books.delay_ne_zero hbase hmost)).trans
      (requeue_eq_immediately_iff failure)

/-- A secret whose registry was lost to others again and again, reported through two finalizers, is looked at again
at once, and its definition is said to be reconciling. -/
theorem follow_up_of_lost_registry :
    let failure : PassFailure := .registryConflict "gateway/pem"
    let books : Backoff := { Backoff.new (.seconds 1) (.seconds 60) with failures := Dict.empty.insert "shop/orders" 3 }
    (books.actionFor "shop/orders" (wrapped [.applyFailed, .cleanupFailed] failure)).1 = .requeue Span.zero ∧
      (resolveSync none "orders" (some 1) (.error failure)).status.processingStatus = .reconciling := by
  intro failure books
  obtain ⟨-, hsame, -, hretried, hatOnce⟩ :=
    follow_ups_agree [.applyFailed, .cleanupFailed] failure (.seconds 1) (.seconds 60)
      (Dict.empty.insert "shop/orders" 3) "shop/orders" none "orders" (some 1)
  have haction : (books.actionFor "shop/orders" failure).1 = .requeue Span.zero :=
    (hatOnce (by decide)).mpr (.registry "gateway/pem")
  exact ⟨(congrArg Prod.fst hsame).trans haction, (hretried.mpr ⟨Span.zero, haction⟩).1⟩

end Reconcile.FollowUp

end GatewayOperator
