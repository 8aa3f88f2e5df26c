import GatewayOperator.Proofs.Program.Conversation
import GatewayOperator.Reconcile.Finalizer

/-!
# Surroundings of a controller

Whatever a controller talks to: a cluster, backends and a clock, which may answer anything at any time and
change as they like. Only the books are the controller's own: the failures in a row of each object are kept
as they always are.
-/

set_option autoImplicit false

namespace GatewayOperator.Reconcile

open Program (Exchange)

/-- A cluster, backends and a clock, with a state that is theirs. -/
structure Surroundings (σ : Type) where
  cluster : (c : Cluster.Call) → σ → c.Answer × σ
  http : (c : Http.Call) → σ → c.Answer × σ
  now : σ → Instant × σ

namespace Surroundings

variable {σ α : Type} (around : Surroundings σ)

/-- The answer to a call of a controller, and what becomes of the surroundings and the books. -/
def serve : (c : Call) → σ × Backoff → c.Answer × (σ × Backoff)
  | .cluster c, (s, b) => ((around.cluster c s).1, (around.cluster c s).2, b)
  | .http c, (s, b) => ((around.http c s).1, (around.http c s).2, b)
  | .now, (s, b) => ((around.now s).1, (around.now s).2, b)
  | .countPass _, (s, b) => ((), s, b)
  | .countFailure _ _ _, (s, b) => ((), s, b)
  | .countRequest _ _, (s, b) => ((), s, b)
  | .followUp key failure, (s, b) => ((b.actionFor key failure).1, s, (b.actionFor key failure).2)
  | .settle key, (s, b) => ((), s, b.reset key)

/-- How a controller is done with an object, given the surroundings and the books before. -/
def outcome (work : Work α) (s : σ) (b : Backoff) : α := (work.run around.serve (s, b)).1

/-- The surroundings once a controller is done with an object. -/
def after (work : Work α) (s : σ) (b : Backoff) : σ := (work.run around.serve (s, b)).2.1

/-- All that was asked and answered meanwhile. -/
def log (work : Work α) (s : σ) (b : Backoff) : List (Exchange Call.Answer) :=
  work.conversation around.serve (s, b)

/-- What is asked and answered is a conversation that the work can have, with its outcome. -/
theorem yields_log (work : Work α) (s : σ) (b : Backoff) :
    work.Yields (around.log work s b) (around.outcome work s b) :=
  Program.yields_conversation work (s, b)

/-- The follow-up on a failure is the one of some books. -/
theorem followUp_of_mem_log {work : Work α} {s : σ} {b : Backoff} {key : String} {failure : PassFailure}
    {action : Action} (h : ⟨.followUp key failure, action⟩ ∈ around.log work s b) :
    ∃ books : Backoff, action = (books.actionFor key failure).1 := by
  obtain ⟨⟨t, books⟩, hanswer⟩ := Program.answer_of_mem_conversation h
  exact ⟨books, hanswer.symm⟩

/-- Where the last call was one of the cluster, it left the surroundings as they are in the end. -/
theorem after_of_log_eq {work : Work α} {s : σ} {b : Backoff} {before : List (Exchange Call.Answer)}
    {c : Cluster.Call} {answer : c.Answer}
    (h : around.log work s b = before ++ [⟨.cluster c, answer⟩]) :
    ∃ t, around.cluster c t = (answer, around.after work s b) := by
  obtain ⟨⟨t, books⟩, hserve⟩ := Program.run_of_conversation_eq h
  obtain ⟨hanswer, hstate⟩ := Prod.mk.inj hserve
  exact ⟨t, Prod.ext hanswer (congrArg Prod.fst hstate)⟩

end Surroundings

end GatewayOperator.Reconcile
