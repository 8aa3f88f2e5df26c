import GatewayOperator.Proofs.Program.Visits

/-!
# Passes that are cut off

A program is cut off by a server that answers one of its calls in another way. A pass that stops at the
first call that fails does nothing after it. So it is left where it was before the call, or where the call
took it, and both are states on the way of the pass.
-/

set_option autoImplicit false

namespace GatewayOperator.Program

variable {Call ε σ α β : Type} {Answer : Call → Type}

/-- A program run against a server that answers the call after the first few in another way. -/
def runCut (serve broken : (c : Call) → σ → Answer c × σ) : Program Answer α → Nat → σ → α × σ
  | done a, _, s => (a, s)
  | ask c next, 0, s => (next (broken c s).1).run serve (broken c s).2
  | ask c next, n + 1, s => (next (serve c s).1).runCut serve broken n (serve c s).2

/-- Whether a pass stops at every call that gets a certain answer, and fails. -/
def Stops (fault : (c : Call) → Answer c) (e : ε) : Program Answer (Except ε α) → Prop
  | done _ => True
  | ask c next => next (fault c) = done (.error e) ∧ ∀ answer, (next answer).Stops fault e

variable {serve broken : (c : Call) → σ → Answer c × σ} {fault : (c : Call) → Answer c} {e : ε}

/-- A pass that stops where it is cut off is left in a state on its way, whether or not the call at which
it is cut off has its effect. -/
theorem visits_runCut {p : Program Answer (Except ε α)} (h : p.Stops fault e)
    (hbroken : ∀ c s, broken c s = (fault c, s) ∨ broken c s = (fault c, (serve c s).2)) (n : Nat)
    (s : σ) : p.Visits serve s (p.runCut serve broken n s).2 := by
  induction p generalizing n s with
  | done r => rfl
  | ask c next ih =>
    obtain ⟨hstop, hnext⟩ := h
    cases n with
    | zero =>
      -- the call fails and the pass stops, before its effect or after it
      show (ask c next).Visits serve s ((next (broken c s).1).run serve (broken c s).2).2
      rcases hbroken c s with hanswer | hanswer
      · rw [hanswer, hstop]
        exact .inl rfl
      · rw [hanswer, hstop]
        exact .inr (visits_start _ _)
    | succ n => exact .inr (ih (serve c s).1 (hnext _) n (serve c s).2)

/-- A program run against a server that may answer each call in a way of its own, by the number of calls
before it. -/
def runOver (serveAt : Nat → (c : Call) → σ → Answer c × σ) : Program Answer α → Nat → σ → α × σ
  | done a, _, s => (a, s)
  | ask c next, n, s => (next (serveAt n c s).1).runOver serveAt (n + 1) (serveAt n c s).2

/-- A pass that stops at every call that fails, and that succeeds, met no failure: it did what it does when
every call is served. -/
theorem run_eq_of_runOver {failing : ε → (c : Call) → Answer c}
    {serveAt : Nat → (c : Call) → σ → Answer c × σ} {p : Program Answer (Except ε α)} {a : α} {t : σ}
    (hstops : ∀ e, p.Stops (failing e) e)
    (hserve : ∀ n c s, serveAt n c s = serve c s ∨ ∃ e, (serveAt n c s).1 = failing e c) {n : Nat} {s : σ}
    (h : p.runOver serveAt n s = (.ok a, t)) : p.run serve s = (.ok a, t) := by
  induction p generalizing n s with
  | done r => exact h
  | ask c next ih =>
    rw [runOver] at h
    rcases hserve n c s with hserved | ⟨e, hfailed⟩
    · rw [hserved] at h
      exact ih _ (fun e => (hstops e).2 _) h
    · rw [hfailed, (hstops e).1] at h
      cases h

namespace Pass

/-- Of two passes one after the other each has to stop. -/
theorem stops_bind {p : Pass Answer ε α} {f : α → Pass Answer ε β} (hp : p.run.Stops fault e)
    (hf : ∀ a, (f a).run.Stops fault e) : (p >>= f).run.Stops fault e := by
  rw [run_bind]
  generalize p.run = tree at hp ⊢
  induction tree with
  | done r =>
    cases r with
    | ok a => exact hf a
    | error failure => trivial
  | ask c next ih =>
    obtain ⟨hstop, hnext⟩ := hp
    refine ⟨?_, fun answer => ih answer (hnext answer)⟩
    show (next (fault c)).bind (andThen f) = _
    rw [hstop]
    rfl

/-- A loop stops if every round does. -/
theorem stops_forM {f : α → Pass Answer ε PUnit} (h : ∀ a, (f a).run.Stops fault e) (xs : List α) :
    (xs.forM f).run.Stops fault e := by
  induction xs with
  | nil => trivial
  | cons x rest ih => exact stops_bind (h x) fun _ => ih

end Pass

end GatewayOperator.Program
