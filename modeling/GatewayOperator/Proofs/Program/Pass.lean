import GatewayOperator.Program

/-!
# Passes as trees

A pass is written in the notation of a monad that can fail. What it is as a tree of calls follows from the
ways to build it. The second of two passes is only reached if the first one succeeds.
-/

set_option autoImplicit false

namespace GatewayOperator.Program.Pass

variable {Call ε α β : Type} {Answer : Call → Type}

/-- What follows the first of two passes: the second one, or the failure of the first. -/
def andThen (f : α → Pass Answer ε β) : Except ε α → Program Answer (Except ε β)
  | .ok a => (f a).run
  | .error e => done (.error e)

/-- After a success comes the second pass. -/
@[simp]
theorem andThen_ok (f : α → Pass Answer ε β) (a : α) : andThen f (.ok a) = (f a).run := rfl

/-- After a failure comes nothing. -/
@[simp]
theorem andThen_error (f : α → Pass Answer ε β) (e : ε) :
    andThen f (.error e) = done (.error e) := rfl

/-- One pass after another, as a tree. -/
@[simp]
theorem run_bind (p : Pass Answer ε α) (f : α → Pass Answer ε β) :
    (p >>= f).run = p.run.bind (andThen f) := rfl

/-- A pass of one call that cannot fail. -/
@[simp]
theorem run_ask (c : Call) :
    (ask c : Pass Answer ε (Answer c)).run = .ask c fun answer => done (.ok answer) := rfl

end GatewayOperator.Program.Pass
