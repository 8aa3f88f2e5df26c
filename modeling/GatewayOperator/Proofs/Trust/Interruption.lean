import GatewayOperator.Proofs.Program.Interruption
import GatewayOperator.Proofs.Trust.Caution

/-!
# Passes over an ingress that are cut off

A publication does not go on after a call that fails, and neither does a withdrawal that has found its
registries. So wherever one is cut off, by a call without effect or by one whose answer is lost, it leaves the
cluster in a state on its way.
-/

set_option autoImplicit false

namespace GatewayOperator.Trust

open GatewayOperator.Resource

/-- Where a pass is cut off, and how: after so many calls the next one fails. -/
structure Interruption where
  calls : Nat
  fault : Fault

/-- The cluster after a pass over an ingress that was cut off. -/
def Cluster.interrupted (stamps : Stamps) (cls : String) (x : Ingress) (s : Cluster)
    (i : Interruption) : Cluster :=
  ((attend x cls).run.runCut (Cluster.serve stamps) (Cluster.respond stamps (some i.fault)) i.calls s).2

/-- The cluster after a pass that was cut off. -/
def Cluster.cutOff (stamps : Stamps) (pass : Publication Unit) (s : Cluster) (i : Interruption) :
    Cluster :=
  (pass.run.runCut (Cluster.serve stamps) (Cluster.respond stamps (some i.fault)) i.calls s).2

section Stops

variable {e : PassFailure}

/-- What a call gives when it fails. -/
def failing (e : PassFailure) (c : Call) : c.Answer := .error e

/-- Nothing comes after a call. -/
theorem stops_call (c : Call) : c.perform.run.Stops (failing e) e := ⟨rfl, fun _ => trivial⟩

/-- A pass that calls and then goes on stops if what it goes on with does. -/
theorem stops_call_bind {α : Type} {c : Call} {f : c.Result → Publication α}
    (h : ∀ r, (f r).run.Stops (failing e) e) : (c.perform >>= f).run.Stops (failing e) e :=
  Program.Pass.stops_bind (stops_call c) h

/-- An attachment stops at the first call that fails. -/
theorem stops_attach (secret : Secret) : (attach secret).run.Stops (failing e) e := by
  unfold attach
  split
  · trivial
  · exact stops_call _

/-- A detachment stops at the first call that fails. -/
theorem stops_detach (secret : Secret) : (detach secret).run.Stops (failing e) e := by
  unfold detach
  split
  · exact stops_call _
  · trivial

/-- A claim stops at the first call that fails. -/
theorem stops_claim (ns ingress name : String) :
    (claim ns ingress name).run.Stops (failing e) e := by
  refine stops_call_bind fun secret => ?_
  cases secret with
  | none => trivial
  | some secret =>
    show (if secret.metadata.isDeleting = true then _ else _ : Publication Unit).run.Stops _ _
    split
    · trivial
    · refine Program.Pass.stops_bind (stops_attach secret) fun _ => ?_
      split <;> trivial

/-- The release of a secret stops at the first call that fails. -/
theorem stops_releaseOne (ns : String) (users : List Ingress) (name : String) :
    (releaseOne ns users name).run.Stops (failing e) e := by
  unfold releaseOne
  split
  · trivial
  · refine stops_call_bind fun secret => ?_
    cases secret with
    | none => trivial
    | some secret => exact stops_detach secret

/-- A release stops at the first call that fails. -/
theorem stops_release (x : Ingress) (cls : String) (candidates : List String) :
    (release x cls candidates).run.Stops (failing e) e := by
  cases candidates with
  | nil => trivial
  | cons name more =>
    exact stops_call_bind fun ingresses => Program.Pass.stops_forM (stops_releaseOne _ _) (name :: more)

/-- The writing of entries stops at the first call that fails. -/
theorem stops_writeEntries (x : Ingress) (value : Option String) (registries : List ConfigMap) :
    (writeEntries x value registries).run.Stops (failing e) e :=
  Program.Pass.stops_forM (fun _ => stops_call _) registries

/-- A withdrawal that has found its registries stops at the first call that fails. -/
theorem stops_withdrawFrom (x : Ingress) (cls : String) (registries : List ConfigMap) :
    (withdrawFrom x cls registries).run.Stops (failing e) e :=
  Program.Pass.stops_bind (stops_release x cls _) fun _ => stops_writeEntries x none _

/-- A publication stops at the first call that fails. -/
theorem stops_publishSecrets (x : Ingress) (cls : String) (names : List String) :
    (publishSecrets x cls names).run.Stops (failing e) e := by
  refine Program.Pass.stops_bind (Program.Pass.stops_forM (stops_claim _ _) names) fun _ => ?_
  rw [registriesFor_bind]
  refine stops_call_bind fun all => ?_
  split
  · trivial
  · exact Program.Pass.stops_bind (stops_writeEntries x _ _) fun _ => stops_release x cls _

/-- A call that fails has its effect or none. -/
theorem respond_fault (stamps : Stamps) (fault : Fault) (c : Call) (s : Cluster) :
    Cluster.respond stamps (some fault) c s = (failing fault.failure c, s) ∨
      Cluster.respond stamps (some fault) c s = (failing fault.failure c, (Cluster.serve stamps c s).2) := by
  cases heffective : fault.effective with
  | false =>
    left
    simp only [Cluster.respond, heffective]
    rfl
  | true =>
    right
    simp only [Cluster.respond, heffective]
    rfl

/-- A pass that stops where it is cut off leaves the cluster in a state on its way. -/
theorem visits_cutOff (stamps : Stamps) {pass : Publication Unit}
    (hstops : ∀ e : PassFailure, pass.run.Stops (failing e) e) (s : Cluster) (i : Interruption) :
    pass.run.Visits (Cluster.serve stamps) s (s.cutOff stamps pass i) :=
  Program.visits_runCut (hstops i.fault.failure) (respond_fault stamps i.fault) i.calls s

end Stops

end GatewayOperator.Trust
