import GatewayOperator.Program

/-!
# Programs call by call

Programs that share a server take turns: in each turn one of them has its next call answered. What a
program is after a turn depends on nothing but its tree and the answer, so an interleaving of programs is
the list of those whose turn it was.
-/

set_option autoImplicit false

namespace GatewayOperator.Program

variable {Call σ α : Type} {Answer : Call → Type}

/-- A program after its next call, and the state that the call leaves. A program that is done makes no
call. -/
def advance (serve : (c : Call) → σ → Answer c × σ) : Program Answer α → σ → Program Answer α × σ
  | done a, s => (done a, s)
  | ask c next, s => (next (serve c s).1, (serve c s).2)

/-- A finished program does not move. -/
@[simp]
theorem advance_done (serve : (c : Call) → σ → Answer c × σ) (a : α) (s : σ) :
    (done a : Program Answer α).advance serve s = (done a, s) := rfl

/-- A program moves by the answer to its call. -/
@[simp]
theorem advance_ask (serve : (c : Call) → σ → Answer c × σ) (c : Call)
    (next : Answer c → Program Answer α) (s : σ) :
    (ask c next).advance serve s = (next (serve c s).1, (serve c s).2) := rfl

/-- The result of a program that is done. -/
def result? : Program Answer α → Option α
  | done a => some a
  | ask _ _ => none

/-- A finished program has its result. -/
@[simp]
theorem result?_done (a : α) : (done a : Program Answer α).result? = some a := rfl

/-- A program with a result is done with it. -/
theorem eq_done_of_result? {p : Program Answer α} {a : α} (h : p.result? = some a) : p = done a := by
  cases p with
  | done b => rw [result?_done, Option.some.injEq] at h; rw [h]
  | ask c next => cases h

end GatewayOperator.Program
