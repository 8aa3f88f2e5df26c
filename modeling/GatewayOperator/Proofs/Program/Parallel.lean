import GatewayOperator.Proofs.Program.Conversation
import Mathlib.Data.List.Forall2

/-!
# Programs in parallel

Two programs go in parallel if their calls are alike, if they go on in parallel after answers that are alike, and if
their results are alike. What counts as alike is given once for an interface, as a relation between calls and one
between exchanges. Against two servers that give alike answers to alike calls, two parallel programs have alike
conversations, call by call, and come to alike results.
-/

set_option autoImplicit false

namespace GatewayOperator.Program

variable {Call Lower ε δ σ τ α β γ ζ : Type} {Answer : Call → Type} {LowerAnswer : Lower → Type}

/-- What counts as alike at an interface. -/
structure Likeness {Call : Type} (Answer : Call → Type) where
  calls : Call → Call → Prop
  exchanges : Exchange Answer → Exchange Answer → Prop

/-- Only what is the same is alike. -/
def Likeness.same (Answer : Call → Type) : Likeness Answer := ⟨Eq, Eq⟩

/-- Whether two programs go in parallel, to results that are related. -/
def Parallel (like : Likeness Answer) (results : α → β → Prop) :
    Program Answer α → Program Answer β → Prop
  | done a, done b => results a b
  | ask c next, ask d more =>
    like.calls c d ∧ ∀ answer other, like.exchanges ⟨c, answer⟩ ⟨d, other⟩ →
      (next answer).Parallel like results (more other)
  | _, _ => False

variable {like : Likeness Answer} {results : α → β → Prop}

/-- Programs with related results have results that are related more widely. -/
theorem Parallel.mono {wider : α → β → Prop} {p : Program Answer α} {q : Program Answer β}
    (h : p.Parallel like results q) (hwider : ∀ a b, results a b → wider a b) :
    p.Parallel like wider q := by
  induction p generalizing q with
  | done a =>
    cases q with
    | done b => exact hwider a b h
    | ask d more => exact h
  | ask c next ih =>
    cases q with
    | done b => exact h
    | ask d more =>
      obtain ⟨hcalls, hnext⟩ := h
      exact ⟨hcalls, fun answer other halike => ih answer (hnext answer other halike)⟩

/-- Two programs one after the other go in parallel with two others. -/
theorem Parallel.bind {final : γ → ζ → Prop} {p : Program Answer α} {q : Program Answer β}
    {f : α → Program Answer γ} {g : β → Program Answer ζ} (h : p.Parallel like results q)
    (hrest : ∀ a b, results a b → (f a).Parallel like final (g b)) :
    (p.bind f).Parallel like final (q.bind g) := by
  induction p generalizing q with
  | done a =>
    cases q with
    | done b => exact hrest a b h
    | ask d more => exact h.elim
  | ask c next ih =>
    cases q with
    | done b => exact h.elim
    | ask d more =>
      obtain ⟨hcalls, hnext⟩ := h
      exact ⟨hcalls, fun answer other halike => ih answer (hnext answer other halike)⟩

/-- A program goes in parallel with itself if its calls tell no alike answers apart. -/
theorem Asks.parallel {p : Program Answer α}
    (h : p.Asks fun c => like.calls c c ∧ ∀ answer other,
      like.exchanges ⟨c, answer⟩ ⟨c, other⟩ → answer = other) : p.Parallel like Eq p := by
  induction p with
  | done a => rfl
  | ask c next ih =>
    obtain ⟨⟨hcall, hanswers⟩, hnext⟩ := h
    refine ⟨hcall, fun answer other halike => ?_⟩
    obtain rfl := hanswers answer other halike
    exact ih answer (hnext answer)

/-- Every program goes in parallel with itself if answers are the same. -/
theorem parallel_same (p : Program Answer α) : p.Parallel (Likeness.same Answer) Eq p := by
  refine (asks_of_forall (fun c => ⟨rfl, fun answer other halike => ?_⟩) p).parallel
  cases halike
  rfl

/-- Programs over a lower level go in parallel if their calls are replaced by programs that do. -/
theorem Parallel.interpret {lower : Likeness LowerAnswer} {p : Program Answer α} {q : Program Answer β}
    {implement implement' : (c : Call) → Program LowerAnswer (Answer c)} (h : p.Parallel like results q)
    (hcalls : ∀ c d, like.calls c d → (implement c).Parallel lower
      (fun answer other => like.exchanges ⟨c, answer⟩ ⟨d, other⟩) (implement' d)) :
    (p.interpret implement).Parallel lower results (q.interpret implement') := by
  induction p generalizing q with
  | done a =>
    cases q with
    | done b => exact h
    | ask d more => exact h.elim
  | ask c next ih =>
    cases q with
    | done b => exact h.elim
    | ask d more =>
      obtain ⟨hcall, hnext⟩ := h
      exact (hcalls c d hcall).bind fun answer other halike => ih answer (hnext answer other halike)

/-! ## Servers -/

/-- Whether two servers, in states that are related, give alike answers to alike calls, and stay related. -/
def Twins (like : Likeness Answer) (states : σ → τ → Prop) (serve : (c : Call) → σ → Answer c × σ)
    (serve' : (c : Call) → τ → Answer c × τ) : Prop :=
  ∀ c d s t, like.calls c d → states s t →
    like.exchanges ⟨c, (serve c s).1⟩ ⟨d, (serve' d t).1⟩ ∧ states (serve c s).2 (serve' d t).2

section Twins

variable {states : σ → τ → Prop} {serve : (c : Call) → σ → Answer c × σ}
  {serve' : (c : Call) → τ → Answer c × τ}

/-- Against such servers parallel programs come to alike results, by alike conversations. -/
theorem Parallel.run (htwins : Twins like states serve serve') {p : Program Answer α}
    {q : Program Answer β} (h : p.Parallel like results q) {s : σ} {t : τ} (hst : states s t) :
    results (p.run serve s).1 (q.run serve' t).1 ∧
      states (p.run serve s).2 (q.run serve' t).2 ∧
      List.Forall₂ like.exchanges (p.conversation serve s) (q.conversation serve' t) := by
  induction p generalizing q s t with
  | done a =>
    cases q with
    | done b => exact ⟨h, hst, .nil⟩
    | ask d more => exact h.elim
  | ask c next ih =>
    cases q with
    | done b => exact h.elim
    | ask d more =>
      obtain ⟨hcall, hnext⟩ := h
      obtain ⟨halike, hstates⟩ := htwins c d s t hcall hst
      obtain ⟨hresults, hlast, hlogs⟩ := ih _ (hnext _ _ halike) hstates
      exact ⟨hresults, hlast, .cons halike hlogs⟩

end Twins

/-! ## Passes -/

namespace Pass

/-- Whether two results are alike: both are successes of related values, or both are the same failure. -/
inductive Agree (values : α → β → Prop) : Except ε α → Except ε β → Prop
  | ok {a : α} {b : β} (h : values a b) : Agree values (.ok a) (.ok b)
  | error (e : ε) : Agree values (.error e) (.error e)

/-- Outcomes with equal values are equal. -/
theorem agree_eq {r r' : Except ε α} : Agree Eq r r' ↔ r = r' := by
  constructor
  · rintro (h | e)
    · rw [h]
    · rfl
  · rintro rfl
    cases r with
    | ok a => exact .ok rfl
    | error e => exact .error e

/-- Outcomes agree after steps that keep related values related. -/
theorem Agree.bind {values : α → β → Prop} {final : γ → ζ → Prop} {r : Except ε α} {r' : Except ε β}
    {f : α → Except ε γ} {g : β → Except ε ζ} (h : Agree values r r')
    (hrest : ∀ a b, values a b → Agree final (f a) (g b)) : Agree final (r >>= f) (r' >>= g) := by
  cases h with
  | ok h => exact hrest _ _ h
  | error e => exact .error e

/-- Outcomes agree whatever their failures are called. -/
theorem Agree.mapError {values : α → β → Prop} {g : ε → δ} {r : Except ε α} {r' : Except ε β}
    (h : Agree values r r') : Agree values (r.mapError g) (r'.mapError g) := by
  cases h with
  | ok h => exact .ok h
  | error e => exact .error (g e)

/-- Whether two passes go in parallel, to results that agree. -/
structure Parallel (like : Likeness Answer) (values : α → β → Prop) (p : Pass Answer ε α)
    (q : Pass Answer ε β) : Prop where
  run : p.run.Parallel like (Agree values) q.run

variable {values : α → β → Prop} {final : γ → ζ → Prop}

/-- Related results go in parallel. -/
theorem parallel_pure {a : α} {b : β} (h : values a b) :
    Parallel like values (pure a : Pass Answer ε α) (pure b) := ⟨.ok h⟩

/-- The same failure goes in parallel with itself. -/
theorem parallel_throw (e : ε) : Parallel like values (throw e : Pass Answer ε α) (throw e) := ⟨.error e⟩

/-- Outcomes that agree go in parallel. -/
theorem parallel_ofResult {r : Except ε α} {r' : Except ε β} (h : Agree values r r') :
    Parallel like values (ofResult r : Pass Answer ε α) (ofResult r') := ⟨h⟩

/-- Sequences go in parallel if their parts do, the second one for all related results of the first. -/
theorem Parallel.bind {p : Pass Answer ε α} {q : Pass Answer ε β} {f : α → Pass Answer ε γ}
    {g : β → Pass Answer ε ζ} (h : Parallel like values p q)
    (hrest : ∀ a b, values a b → Parallel like final (f a) (g b)) :
    Parallel like final (p >>= f) (q >>= g) := by
  refine ⟨h.run.bind fun r r' hagree => ?_⟩
  cases hagree with
  | ok h => exact (hrest _ _ h).run
  | error e => exact .error e

/-- Sequences go in parallel if their first parts have the same result and their second parts go in parallel for
each. -/
theorem Parallel.bind_same {p q : Pass Answer ε α} {f : α → Pass Answer ε γ} {g : α → Pass Answer ε ζ}
    (h : Parallel like Eq p q) (hrest : ∀ a, Parallel like final (f a) (g a)) :
    Parallel like final (p >>= f) (q >>= g) := by
  refine h.bind fun a b heq => ?_
  subst heq
  exact hrest a

/-- Passes go in parallel whatever their failures are called. -/
theorem Parallel.adapt {g : ε → δ} {p : Pass Answer ε α} {q : Pass Answer ε β}
    (h : Parallel like values p q) :
    Parallel like values (ExceptT.adapt g p) (ExceptT.adapt g q) :=
  ⟨h.run.bind fun _ _ hagree => hagree.mapError⟩

/-- Passes go in parallel if their failures are caught, and then their outcomes agree. -/
theorem Parallel.attempt {p : Pass Answer ε α} {q : Pass Answer ε β} (h : Parallel like values p q) :
    Parallel like (Agree values) (Pass.attempt p : Pass Answer δ (Except ε α)) (Pass.attempt q) :=
  ⟨h.run.bind fun _ _ hagree => .ok hagree⟩

/-- Passes with the same results have the same outcomes if their failures are caught. -/
theorem Parallel.attempt_same {p q : Pass Answer ε α} (h : Parallel like Eq p q) :
    Parallel like Eq (Pass.attempt p : Pass Answer δ (Except ε α)) (Pass.attempt q) :=
  ⟨h.run.bind fun _ _ hagree => .ok (agree_eq.mp hagree)⟩

/-- A pass goes in parallel with itself if its calls tell no alike answers apart. -/
theorem parallel_of_asks {p : Pass Answer ε α}
    (h : p.run.Asks fun c => like.calls c c ∧ ∀ answer other,
      like.exchanges ⟨c, answer⟩ ⟨c, other⟩ → answer = other) : Parallel like Eq p p :=
  ⟨h.parallel.mono fun _ _ heq => agree_eq.mpr heq⟩

end Pass

end GatewayOperator.Program
