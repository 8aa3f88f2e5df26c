/-!
# Programs

A pass of the operator is a program: a tree that asks one question at a time and goes on with the
answer, until it is done. Questions are the calls of some interface, and the type of an answer depends
on the call. What the answers are is not the program's business, so one program can be run against any
server, interleaved with others, or cut short at any call.

The library has interfaces on several levels. A program over the calls of one level becomes a program
over a lower level when each call is replaced by a program (`interpret`).
-/

set_option autoImplicit false

namespace GatewayOperator

/-- A program whose calls are answered as `Answer` says. -/
inductive Program {Call : Type} (Answer : Call → Type) (α : Type) where
  | done (result : α)
  | ask (call : Call) (next : Answer call → Program Answer α)

namespace Program

variable {Call Lower σ α β γ : Type} {Answer : Call → Type} {LowerAnswer : Lower → Type}

/-- A program followed by another that depends on its result. -/
def bind (p : Program Answer α) (f : α → Program Answer β) : Program Answer β :=
  match p with
  | done a => f a
  | ask call next => ask call fun answer => (next answer).bind f

instance : Monad (Program Answer) where
  pure := done
  bind := bind

/-- The program of a single call. -/
def call (c : Call) : Program Answer (Answer c) := ask c done

/-- The program in which every call is replaced by a program over a lower level. -/
def interpret (implement : (c : Call) → Program LowerAnswer (Answer c)) :
    Program Answer α → Program LowerAnswer α
  | done a => done a
  | ask c next => (implement c).bind fun answer => (next answer).interpret implement

/-- The run of a program against a server with a state. -/
def run (serve : (c : Call) → σ → Answer c × σ) : Program Answer α → σ → α × σ
  | done a, s => (a, s)
  | ask c next, s => (next (serve c s).1).run serve (serve c s).2

/-- A finished program goes on with what follows it. -/
@[simp]
theorem bind_done (a : α) (f : α → Program Answer β) : (done a).bind f = f a := rfl

/-- What follows a program comes after each answer to its first call. -/
@[simp]
theorem bind_ask (c : Call) (next : Answer c → Program Answer α) (f : α → Program Answer β) :
    (ask c next).bind f = ask c fun answer => (next answer).bind f := rfl

/-- It does not matter how a sequence of three programs is grouped. -/
theorem bind_assoc (p : Program Answer α) (f : α → Program Answer β) (g : β → Program Answer γ) :
    (p.bind f).bind g = p.bind fun a => (f a).bind g := by
  induction p with
  | done a => rfl
  | ask c next ih => simp only [bind_ask, ih]

/-- Nothing is added by ending with the result of a program. -/
@[simp]
theorem bind_done_right (p : Program Answer α) : p.bind done = p := by
  induction p with
  | done a => rfl
  | ask c next ih => simp only [bind_ask, ih]

instance : LawfulMonad (Program Answer) :=
  LawfulMonad.mk' (Program Answer)
    (fun p => bind_done_right p)
    (fun _ _ => rfl)
    (fun p f g => bind_assoc p f g)

/-- A sequence is replaced part by part. -/
theorem interpret_bind (implement : (c : Call) → Program LowerAnswer (Answer c))
    (p : Program Answer α) (f : α → Program Answer β) :
    (p.bind f).interpret implement =
      (p.interpret implement).bind fun a => (f a).interpret implement := by
  induction p with
  | done a => rfl
  | ask c next ih => simp only [bind_ask, interpret, ih, bind_assoc]

/-- Running a sequence runs its first part and then its second part from the state that is left. -/
theorem run_bind (serve : (c : Call) → σ → Answer c × σ) (p : Program Answer α)
    (f : α → Program Answer β) (s : σ) :
    (p.bind f).run serve s = (f (p.run serve s).1).run serve (p.run serve s).2 := by
  induction p generalizing s with
  | done a => rfl
  | ask c next ih => simp only [bind_ask, run, ih]

/-- A pass is a program that may fail. -/
abbrev Pass {Call : Type} (Answer : Call → Type) (ε : Type) := ExceptT ε (Program Answer)

namespace Pass

variable {ε δ : Type}

/-- The pass of a single call, which cannot fail by itself. -/
def ask (c : Call) : Pass Answer ε (Answer c) := ExceptT.lift (Program.call c)

/-- A result as a pass without calls. -/
def ofResult (r : Except ε α) : Pass Answer ε α := ExceptT.mk (done r)

/-- A pass as one that cannot fail and gives the other's result, be it a failure. -/
def attempt (p : Pass Answer ε α) : Pass Answer δ (Except ε α) := ExceptT.lift p.run

end Pass

end Program

end GatewayOperator
