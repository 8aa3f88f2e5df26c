import GatewayOperator.Proofs.Program.Pass

/-!
# States on the way

A program that is run against a server takes it from state to state, one call at a time. A program that is
cut short leaves the server in one of the states on the way. Where two programs follow each other, these
are the states on the way of the first, and then those of the second.
-/

set_option autoImplicit false

namespace GatewayOperator.Program

variable {Call ε σ α β : Type} {Answer : Call → Type}

/-- Whether a state is one on the way of a program, the first and the last included. -/
def Visits (serve : (c : Call) → σ → Answer c × σ) : Program Answer α → σ → σ → Prop
  | done _, s, t => t = s
  | ask c next, s, t => t = s ∨ (next (serve c s).1).Visits serve (serve c s).2 t

variable {serve : (c : Call) → σ → Answer c × σ}

/-- A run starts at its start. -/
theorem visits_start (p : Program Answer α) (s : σ) : p.Visits serve s s := by
  cases p with
  | done a => rfl
  | ask c next => exact .inl rfl

/-- A run gets to its end. -/
theorem visits_end (p : Program Answer α) (s : σ) : p.Visits serve s (p.run serve s).2 := by
  induction p generalizing s with
  | done a => rfl
  | ask c next ih => exact .inr (ih (serve c s).1 (serve c s).2)

/-- The way of two programs one after the other. -/
theorem visits_bind (p : Program Answer α) (f : α → Program Answer β) (s t : σ) :
    (p.bind f).Visits serve s t ↔
      p.Visits serve s t ∨ (f (p.run serve s).1).Visits serve (p.run serve s).2 t := by
  induction p generalizing s with
  | done a =>
    constructor
    · exact .inr
    · rintro (h | h)
      · rw [show t = s from h]
        exact visits_start (f a) s
      · exact h
  | ask c next ih =>
    simp only [bind_ask, Visits, ih, run]
    exact or_assoc.symm

namespace Pass

/-- A pass run against a server: its result, and the state that it leaves. -/
def perform (serve : (c : Call) → σ → Answer c × σ) (p : Pass Answer ε α) (s : σ) : Except ε α × σ :=
  p.run.run serve s

/-- A pass ends on its way. -/
theorem visits_of_perform {p : Pass Answer ε α} {s t : σ} {result : Except ε α}
    (h : perform serve p s = (result, t)) : p.run.Visits serve s t := by
  have hend : p.run.Visits serve s (p.run.run serve s).2 := visits_end p.run s
  unfold perform at h
  rwa [h] at hend

/-- The pass that follows a successful one is performed where that one ends. -/
theorem perform_bind_of_ok {p : Pass Answer ε α} {f : α → Pass Answer ε β} {s t : σ} {a : α}
    (h : perform serve p s = (.ok a, t)) : perform serve (p >>= f) s = perform serve (f a) t := by
  unfold perform at *
  rw [run_bind, Program.run_bind, h, andThen_ok]

/-- Nothing follows a failed pass. -/
theorem perform_bind_of_error {p : Pass Answer ε α} {f : α → Pass Answer ε β} {s t : σ} {e : ε}
    (h : perform serve p s = (.error e, t)) : perform serve (p >>= f) s = (.error e, t) := by
  unfold perform at *
  rw [run_bind, Program.run_bind, h, andThen_error]
  rfl

/-- A pass that starts with another succeeds only if that one does. -/
theorem perform_bind_ok_iff {p : Pass Answer ε α} {f : α → Pass Answer ε β} {s u : σ} {b : β} :
    perform serve (p >>= f) s = (.ok b, u) ↔
      ∃ a t, perform serve p s = (.ok a, t) ∧ perform serve (f a) t = (.ok b, u) := by
  constructor
  · intro h
    cases hp : perform serve p s with
    | mk result t =>
      cases result with
      | error e =>
        rw [perform_bind_of_error hp] at h
        cases h
      | ok a => exact ⟨a, t, rfl, by rwa [perform_bind_of_ok hp] at h⟩
  · rintro ⟨a, t, hp, hf⟩
    rw [perform_bind_of_ok hp, hf]

/-- The way of two passes one after the other: the second one is only reached if the first succeeds. -/
theorem visits_bind (p : Pass Answer ε α) (f : α → Pass Answer ε β) (s t : σ) :
    (p >>= f).run.Visits serve s t ↔
      p.run.Visits serve s t ∨
        ∃ a u, perform serve p s = (.ok a, u) ∧ (f a).run.Visits serve u t := by
  rw [run_bind, Program.visits_bind]
  unfold perform
  cases hp : p.run.run serve s with
  | mk result u =>
    cases result with
    | ok a =>
      constructor
      · rintro (h | h)
        · exact .inl h
        · exact .inr ⟨a, u, rfl, h⟩
      · rintro (h | ⟨b, v, heq, h⟩)
        · exact .inl h
        · cases heq
          exact .inr h
    | error e =>
      constructor
      · rintro (h | h)
        · exact .inl h
        · have hend : p.run.Visits serve s (p.run.run serve s).2 := visits_end p.run s
          rw [hp] at hend
          rw [show t = u from h]
          exact .inl hend
      · rintro (h | ⟨b, v, heq, -⟩)
        · exact .inl h
        · cases heq

/-- On the way of a loop some of its first rounds are done, if each round either is done or is not. -/
theorem visits_forM {f : α → Pass Answer ε PUnit} (round : σ → α → σ)
    (hvisits : ∀ a s t, (f a).run.Visits serve s t → t = s ∨ t = round s a)
    (hok : ∀ a s t, perform serve (f a) s = (.ok ⟨⟩, t) → t = round s a) (xs : List α) {s t : σ}
    (h : (xs.forM f).run.Visits serve s t) : ∃ k, t = (xs.take k).foldl round s := by
  induction xs generalizing s with
  | nil => exact ⟨0, h⟩
  | cons x rest ih =>
    have hsplit : (f x >>= fun _ => rest.forM f).run.Visits serve s t := h
    rw [visits_bind] at hsplit
    rcases hsplit with hfirst | ⟨_, mid, hround, hrest⟩
    · rcases hvisits x s t hfirst with rfl | rfl
      · exact ⟨0, rfl⟩
      · exact ⟨1, by simp⟩
    · cases hok x s mid hround
      obtain ⟨k, rfl⟩ := ih hrest
      exact ⟨k + 1, by simp⟩

/-- A loop succeeds if every round does, from wherever the rounds before it lead. -/
theorem perform_forM {f : α → Pass Answer ε PUnit} (round : σ → α → σ) (ready : σ → Prop)
    {xs : List α} (hround : ∀ a ∈ xs, ∀ s, ready s →
      perform serve (f a) s = (.ok ⟨⟩, round s a) ∧ ready (round s a)) {s : σ} (hs : ready s) :
    perform serve (xs.forM f) s = (.ok ⟨⟩, xs.foldl round s) := by
  induction xs generalizing s with
  | nil => rfl
  | cons x rest ih =>
    obtain ⟨hfirst, hready⟩ := hround x List.mem_cons_self s hs
    show perform serve (f x >>= fun _ => rest.forM f) s = _
    rw [perform_bind_of_ok hfirst, List.foldl_cons]
    exact ih (fun a ha => hround a (List.mem_cons_of_mem x ha)) hready

end Pass

end GatewayOperator.Program
