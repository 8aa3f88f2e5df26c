import GatewayOperator.Proofs.Program.Conversation
import GatewayOperator.Proofs.Trust.Contention
import GatewayOperator.Trust.Publication

/-!
# Where the failures of a withdrawal come from

A publication looks at secrets and can find fault with them. A withdrawal does not: it fails only if one of
its calls does. The writing of an entry fails with a failure of the cluster, or because it has given up.
-/

set_option autoImplicit false

namespace GatewayOperator.Trust

open GatewayOperator.Resource
open Program (Exchange)

/-- Whether a pass fails only with a failure of one of its calls. -/
def Relays {α : Type} (p : Publication α) : Prop :=
  Program.Pass.Fails (fun log failure => ∃ e ∈ log, e.2 = .error failure) p

section Relays

variable {α β : Type}

/-- A single call fails with its own failure. -/
theorem relays_perform (c : Call) : Relays c.perform := by
  rintro log failure h
  obtain rfl := Program.yields_call.mp h
  exact ⟨⟨c, .error failure⟩, List.mem_singleton_self _, rfl⟩

/-- A pass without calls does not fail. -/
theorem relays_pure (a : α) : Relays (pure a) := Program.Pass.fails_pure a

/-- A sequence fails with a failure of one of its calls if its parts do. -/
theorem Relays.bind {p : Publication α} {f : α → Publication β} (hp : Relays p)
    (hf : ∀ a, Relays (f a)) : Relays (p >>= f) := by
  refine Program.Pass.Fails.bind ?_ hp hf
  rintro first second failure ⟨e, he, hfailure⟩
  exact ⟨e, List.mem_append_right first he, hfailure⟩

/-- A loop fails with a failure of one of its calls if its rounds do. -/
theorem relays_forM {f : α → Publication PUnit} (hf : ∀ a, Relays (f a)) (xs : List α) :
    Relays (xs.forM f) := by
  induction xs with
  | nil => exact relays_pure _
  | cons x rest ih => exact (hf x).bind fun _ => ih

/-- The release of a secret fails with a failure of one of its calls. -/
theorem relays_releaseOne (ns : String) (users : List Ingress) (name : String) :
    Relays (releaseOne ns users name) := by
  unfold releaseOne
  by_cases hused : isUsed users name = true
  · rw [if_pos hused]
    exact relays_pure ()
  · rw [if_neg hused]
    refine (relays_perform _).bind fun secret => ?_
    cases secret with
    | none => exact relays_pure ()
    | some secret =>
      show Relays (detach secret)
      unfold detach
      by_cases hhas : secret.metadata.hasFinalizer keypairFinalizer = true
      · rw [if_pos hhas]
        exact relays_perform _
      · rw [if_neg hhas]
        exact relays_pure ()

/-- A release fails with a failure of one of its calls. -/
theorem relays_release (ingress : Ingress) (cls : String) (candidates : List String) :
    Relays (release ingress cls candidates) := by
  cases candidates with
  | nil => exact relays_pure ()
  | cons name more =>
    refine (relays_perform _).bind fun ingresses => ?_
    exact relays_forM (relays_releaseOne _ _) _

/-- A withdrawal from known registries fails with a failure of one of its calls. -/
theorem relays_withdrawFrom (ingress : Ingress) (cls : String) (registries : List ConfigMap) :
    Relays (withdrawFrom ingress cls registries) := by
  refine (relays_release ingress cls _).bind fun _ => ?_
  exact relays_forM (fun registry => relays_perform _) _

/-- A withdrawal fails only with a failure of one of its calls. -/
theorem relays_withdraw (ingress : Ingress) (cls : String) : Relays (withdraw ingress cls) := by
  rintro log failure h
  rw [run_withdraw] at h
  obtain ⟨answer, rest, rfl, hrest⟩ := h
  rcases withdrawAnswered_cases ingress cls answer with ⟨registries, heq⟩ | ⟨refusal, rfl, heq⟩
  · simp only [heq] at hrest
    obtain ⟨e, he, hfailure⟩ := relays_withdrawFrom ingress cls registries rest failure hrest
    exact ⟨e, List.mem_cons_of_mem _ he, hfailure⟩
  · simp only [heq] at hrest
    obtain ⟨-, hfailure⟩ := hrest
    cases hfailure
    exact ⟨_, List.mem_cons_self, rfl⟩

end Relays

/-- The writing of an entry fails with a failure of the cluster, or because it has given up. -/
theorem writeFrom_failure {ns name key : String} {value : Option String} {left : Nat}
    {current : ConfigMap} {log : List (Exchange Entry.Call.Answer)} {failure : PassFailure}
    (h : (Entry.writeFrom ns name key value left current).run.Yields log (.error failure)) :
    (∃ refusal, failure = .kube refusal) ∨ failure = .registryConflict name := by
  -- only a conflict leads to another attempt
  induction left generalizing current log with
  | zero =>
    rw [Entry.writeFrom_zero] at h
    obtain ⟨-, h⟩ := h
    cases h
    exact .inr rfl
  | succ left ih =>
    rw [Entry.writeFrom_succ] at h
    obtain ⟨now, _, -, replaced, _, -, h⟩ := h
    cases replaced with
    | ok r =>
      obtain ⟨-, h⟩ := h
      cases h
    | error refusal =>
      by_cases hconflict : refusal.isConflict = true
      · simp only [Entry.afterReplace, hconflict, if_true] at h
        obtain ⟨read, _, -, h⟩ := h
        cases read with
        | ok fresh => exact ih h
        | error unread =>
          obtain ⟨-, h⟩ := h
          cases h
          exact .inl ⟨unread, rfl⟩
      · simp only [Entry.afterReplace, hconflict] at h
        obtain ⟨-, h⟩ := h
        cases h
        exact .inl ⟨refusal, rfl⟩

end GatewayOperator.Trust
