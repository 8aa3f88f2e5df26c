import GatewayOperator.Proofs.Program.Pass

/-!
# Monitors

A monitor watches a program call by call and keeps a record. A program obeys it if, whatever the answers
are, every call is one that the record permits at that time, and the record is as it has to be when the
program is done. Whether a program obeys is settled by its tree alone, so it holds however the program is
interleaved with others.
-/

set_option autoImplicit false

namespace GatewayOperator.Program

variable {Call ε μ α β : Type} {Answer : Call → Type}

/-- A monitor: the calls that a record permits, the answers that a call can get, and what is recorded of a
call and its answer. -/
structure Monitor {Call : Type} (Answer : Call → Type) (μ : Type) where
  permits : μ → Call → Prop
  fits : (c : Call) → Answer c → Prop
  note : μ → (c : Call) → Answer c → μ

/-- A program obeys a monitor, and its result and the final record are as they have to be. -/
def Obeys (w : Monitor Answer μ) (post : α → μ → Prop) : Program Answer α → μ → Prop
  | done a, m => post a m
  | ask c next, m =>
    w.permits m c ∧ ∀ answer, w.fits c answer → (next answer).Obeys w post (w.note m c answer)

/-- A program obeys if its first call is permitted and it obeys after every fitting answer to it. -/
@[simp]
theorem obeys_ask (w : Monitor Answer μ) (post : α → μ → Prop) (c : Call)
    (next : Answer c → Program Answer α) (m : μ) :
    (ask c next).Obeys w post m ↔
      w.permits m c ∧ ∀ answer, w.fits c answer → (next answer).Obeys w post (w.note m c answer) :=
  Iff.rfl

/-- Obedience is kept when less is asked of the result. -/
theorem Obeys.mono {w : Monitor Answer μ} {post weaker : α → μ → Prop} {p : Program Answer α} {m : μ}
    (h : p.Obeys w post m) (himp : ∀ a m, post a m → weaker a m) : p.Obeys w weaker m := by
  induction p generalizing m with
  | done a => exact himp a m h
  | ask c next ih => exact ⟨h.1, fun answer hfits => ih answer (h.2 answer hfits)⟩

/-- A sequence obeys if its first part does, up to where its second part does. -/
theorem obeys_bind (w : Monitor Answer μ) (post : β → μ → Prop) (p : Program Answer α)
    (f : α → Program Answer β) (m : μ) :
    (p.bind f).Obeys w post m ↔ p.Obeys w (fun a m => (f a).Obeys w post m) m := by
  induction p generalizing m with
  | done a => exact Iff.rfl
  | ask c next ih => simp only [bind_ask, obeys_ask, ih]

/-- What every note keeps of a record still holds when the program is done. -/
theorem Obeys.carry {w : Monitor Answer μ} {post : α → μ → Prop} {p : Program Answer α} {m : μ}
    (h : p.Obeys w post m) {kept : μ → Prop}
    (hkept : ∀ m c answer, kept m → kept (w.note m c answer)) (hm : kept m) :
    p.Obeys w (fun a m => post a m ∧ kept m) m := by
  induction p generalizing m with
  | done a => exact ⟨h, hm⟩
  | ask c next ih =>
    exact ⟨h.1, fun answer hfits => ih answer (h.2 answer hfits) (hkept m c answer hm)⟩

namespace Pass

/-- What is asked of a pass that may fail: something of its result if it succeeds. -/
def onSuccess (post : α → μ → Prop) : Except ε α → μ → Prop
  | .ok a, m => post a m
  | .error _, _ => True

/-- One pass after another obeys if the first does, up to where the second does. -/
theorem obeys_bind {w : Monitor Answer μ} {between : α → μ → Prop} {post : β → μ → Prop}
    {p : Pass Answer ε α} {f : α → Pass Answer ε β} {m : μ}
    (hp : p.run.Obeys w (onSuccess between) m)
    (hf : ∀ a m, between a m → (f a).run.Obeys w (onSuccess post) m) :
    (p >>= f).run.Obeys w (onSuccess post) m := by
  rw [run_bind, Program.obeys_bind]
  apply hp.mono
  intro r m hr
  cases r with
  | ok a => exact hf a m hr
  | error e => trivial

/-- A pass whose failures are renamed obeys as before. -/
theorem obeys_adapt {δ : Type} {w : Monitor Answer μ} {post : α → μ → Prop} {g : ε → δ} {p : Pass Answer ε α}
    {m : μ} (h : p.run.Obeys w (onSuccess post) m) :
    (ExceptT.adapt g p).run.Obeys w (onSuccess post) m := by
  show (p.run.bind fun result => done (result.mapError g)).Obeys w (onSuccess post) m
  rw [Program.obeys_bind]
  refine h.mono fun result m hresult => ?_
  cases result with
  | ok a => exact hresult
  | error e => trivial

/-- What follows a pass that is attempted starts from its result, be it a failure. -/
theorem obeys_attempt_bind {δ : Type} {w : Monitor Answer μ} {between : Except ε α → μ → Prop}
    {post : Except δ β → μ → Prop} {p : Pass Answer ε α} {f : Except ε α → Pass Answer δ β} {m : μ}
    (hp : p.run.Obeys w between m)
    (hf : ∀ result m, between result m → (f result).run.Obeys w post m) :
    (attempt p >>= f).run.Obeys w post m := by
  show ((p.run.bind fun result => done (.ok result)).bind (andThen f)).Obeys w post m
  rw [Program.obeys_bind, Program.obeys_bind]
  exact hp.mono hf

/-- A loop obeys if each round does, and each round keeps what the next one starts from. -/
theorem obeys_forM {w : Monitor Answer μ} {f : α → Pass Answer ε PUnit} (kept : List α → μ → Prop)
    (hf : ∀ before a m, kept before m →
      (f a).run.Obeys w (onSuccess fun _ m => kept (before ++ [a]) m) m)
    (xs before : List α) (m : μ) (hm : kept before m) :
    (xs.forM f).run.Obeys w (onSuccess fun _ m => kept (before ++ xs) m) m := by
  induction xs generalizing before m with
  | nil =>
    rw [List.append_nil]
    exact hm
  | cons x rest ih =>
    show (f x >>= fun _ => rest.forM f).run.Obeys w _ m
    refine obeys_bind (hf before x m hm) ?_
    intro _ m hm
    have hrest := ih (before ++ [x]) m hm
    rwa [List.append_assoc, List.singleton_append] at hrest

end Pass

end GatewayOperator.Program
