import GatewayOperator.Proofs.Program.Pass

/-!
# Conversations

A conversation of a program is the list of its calls with their answers. A program can have many: one for
every way in which its calls can be answered. Whether one is possible follows the tree of the program, so
the conversation of two programs one after the other falls into two, and the one of a program over a lower
level into one for each call of the higher level.
-/

set_option autoImplicit false

namespace GatewayOperator.Program

variable {Call Lower ε δ σ α β : Type} {Answer : Call → Type} {LowerAnswer : Lower → Type}

/-- A call with its answer. -/
abbrev Exchange {Call : Type} (Answer : Call → Type) := (c : Call) × Answer c

/-- Whether a program can have a conversation and end with a result. -/
def Yields : Program Answer α → List (Exchange Answer) → α → Prop
  | done a, log, b => log = [] ∧ b = a
  | ask c next, log, b => ∃ answer rest, log = ⟨c, answer⟩ :: rest ∧ (next answer).Yields rest b

/-- A conversation with a program that asks starts with its call and goes on as the answer has it. -/
@[simp]
theorem yields_ask {c : Call} {next : Answer c → Program Answer α} {log : List (Exchange Answer)}
    {b : α} :
    (ask c next).Yields log b ↔
      ∃ answer rest, log = ⟨c, answer⟩ :: rest ∧ (next answer).Yields rest b := Iff.rfl

/-- The conversation of a single call is the call with the answer that is the result. -/
@[simp]
theorem yields_call {c : Call} {log : List (Exchange Answer)} {answer : Answer c} :
    (call c : Program Answer (Answer c)).Yields log answer ↔ log = [⟨c, answer⟩] := by
  constructor
  · rintro ⟨_, _, rfl, rfl, rfl⟩
    rfl
  · rintro rfl
    exact ⟨answer, [], rfl, rfl, rfl⟩

/-- The conversation of two programs one after the other. -/
theorem yields_bind {p : Program Answer α} {f : α → Program Answer β} {log : List (Exchange Answer)}
    {b : β} :
    (p.bind f).Yields log b ↔
      ∃ first second a, log = first ++ second ∧ p.Yields first a ∧ (f a).Yields second b := by
  -- the first call belongs to the first program as long as that is not done
  induction p generalizing log with
  | done a =>
    constructor
    · intro h
      exact ⟨[], log, a, rfl, ⟨rfl, rfl⟩, h⟩
    · rintro ⟨_, second, _, rfl, ⟨rfl, rfl⟩, h⟩
      exact h
  | ask c next ih =>
    simp only [bind_ask, yields_ask, ih]
    constructor
    · rintro ⟨answer, _, rfl, first, second, a, rfl, hp, hf⟩
      exact ⟨⟨c, answer⟩ :: first, second, a, rfl, ⟨answer, first, rfl, hp⟩, hf⟩
    · rintro ⟨_, second, a, rfl, ⟨answer, first, rfl, hp⟩, hf⟩
      exact ⟨answer, first ++ second, rfl, first, second, a, rfl, hp, hf⟩

/-- Of all that may be said from now on, only one beginning is a conversation of the program, and it has one
result. -/
theorem Yields.unique {p : Program Answer α} {log log' rest rest' : List (Exchange Answer)} {a b : α}
    (ha : p.Yields log a) (hb : p.Yields log' b) (h : log ++ rest = log' ++ rest') :
    log = log' ∧ a = b := by
  induction p generalizing log log' with
  | done r => exact ⟨ha.1.trans hb.1.symm, ha.2.trans hb.2.symm⟩
  | ask c next ih =>
    obtain ⟨answer, more, rfl, ha⟩ := ha
    obtain ⟨_, more', rfl, hb⟩ := hb
    obtain ⟨hfirst, hrest⟩ := List.cons.inj h
    cases hfirst
    obtain ⟨rfl, rfl⟩ := ih answer ha hb hrest
    exact ⟨rfl, rfl⟩

/-- Where every call has an answer, a program has a conversation. -/
theorem exists_yields (h : ∀ c, Nonempty (Answer c)) (p : Program Answer α) :
    ∃ log a, p.Yields log a := by
  induction p with
  | done a => exact ⟨[], a, rfl, rfl⟩
  | ask c next ih =>
    obtain ⟨answer⟩ := h c
    obtain ⟨log, a, hrest⟩ := ih answer
    exact ⟨⟨c, answer⟩ :: log, a, answer, log, rfl, hrest⟩

/-- Whether a conversation of a lower level is made of conversations that answer the calls of one of a
higher level. -/
inductive Carries (implement : (c : Call) → Program LowerAnswer (Answer c)) :
    List (Exchange LowerAnswer) → List (Exchange Answer) → Prop
  | nil : Carries implement [] []
  | cons (part lower : List (Exchange LowerAnswer)) (e : Exchange Answer)
      (upper : List (Exchange Answer)) (answers : (implement e.1).Yields part e.2)
      (rest : Carries implement lower upper) : Carries implement (part ++ lower) (e :: upper)

section Levels

variable {implement : (c : Call) → Program LowerAnswer (Answer c)} {lower : List (Exchange LowerAnswer)}
  {upper : List (Exchange Answer)}

/-- The conversation of a program over a lower level carries one of the program itself. -/
theorem yields_interpret {p : Program Answer α} {a : α} (h : (p.interpret implement).Yields lower a) :
    ∃ upper, p.Yields upper a ∧ Carries implement lower upper := by
  induction p generalizing lower with
  | done b =>
    obtain ⟨rfl, rfl⟩ := h
    exact ⟨[], ⟨rfl, rfl⟩, .nil⟩
  | ask c next ih =>
    obtain ⟨part, rest, answer, rfl, hpart, hrest⟩ := yields_bind.mp h
    obtain ⟨upper, hupper, hcarries⟩ := ih answer hrest
    exact ⟨⟨c, answer⟩ :: upper, ⟨answer, upper, rfl, hupper⟩,
      .cons part rest ⟨c, answer⟩ upper hpart hcarries⟩

/-- Calls that were never made are carried out by none of the lower level. -/
theorem Carries.eq_nil (h : Carries implement lower []) : lower = [] := by
  cases h
  rfl

/-- The first call of the higher level is answered by the beginning of the lower one. -/
theorem Carries.exists_append {e : Exchange Answer} (h : Carries implement lower (e :: upper)) :
    ∃ part rest, lower = part ++ rest ∧ (implement e.1).Yields part e.2 ∧ Carries implement rest upper := by
  cases h with
  | cons part rest _ _ answers hrest => exact ⟨part, rest, rfl, answers, hrest⟩

/-- An exchange of the lower level belongs to a call of the higher one. -/
theorem Carries.exists_upper (h : Carries implement lower upper) {x : Exchange LowerAnswer}
    (hx : x ∈ lower) : ∃ e ∈ upper, ∃ part, (implement e.1).Yields part e.2 ∧ x ∈ part := by
  induction h with
  | nil => cases hx
  | cons part lower e upper answers _ ih =>
    rcases List.mem_append.mp hx with hx | hx
    · exact ⟨e, List.mem_cons_self, part, answers, hx⟩
    · obtain ⟨other, hother, hpart⟩ := ih hx
      exact ⟨other, List.mem_cons_of_mem e hother, hpart⟩

/-- A call of the higher level is answered by a conversation of the lower one. -/
theorem Carries.exists_part (h : Carries implement lower upper) {e : Exchange Answer}
    (he : e ∈ upper) : ∃ part, (implement e.1).Yields part e.2 ∧ ∀ x ∈ part, x ∈ lower := by
  induction h with
  | nil => cases he
  | cons part lower first upper answers _ ih =>
    rcases List.mem_cons.mp he with rfl | he
    · exact ⟨part, answers, fun x hx => List.mem_append_left lower hx⟩
    · obtain ⟨other, hother, hmem⟩ := ih he
      exact ⟨other, hother, fun x hx => List.mem_append_right part (hmem x hx)⟩

end Levels

/-! ## Calls -/

/-- Whether all calls that a program can make are of a sort, whatever they are answered. -/
def Asks (sort : Call → Prop) : Program Answer α → Prop
  | done _ => True
  | ask c next => sort c ∧ ∀ answer, (next answer).Asks sort

section Asks

variable {sort : Call → Prop}

/-- A sequence asks what its parts ask. -/
theorem Asks.bind {p : Program Answer α} {f : α → Program Answer β} (hp : p.Asks sort)
    (hf : ∀ a, (f a).Asks sort) : (p.bind f).Asks sort := by
  induction p with
  | done a => exact hf a
  | ask c next ih => exact ⟨hp.1, fun answer => ih answer (hp.2 answer)⟩

/-- What asks calls of one sort only asks calls of a wider sort. -/
theorem Asks.mono {other : Call → Prop} {p : Program Answer α} (hp : p.Asks sort)
    (h : ∀ c, sort c → other c) : p.Asks other := by
  induction p with
  | done a => trivial
  | ask c next ih => exact ⟨h c hp.1, fun answer => ih answer (hp.2 answer)⟩

/-- A single call asks itself. -/
theorem asks_call {c : Call} (h : sort c) : (call c : Program Answer (Answer c)).Asks sort :=
  ⟨h, fun _ => trivial⟩

/-- If every call is of a sort, then so is whatever a program asks. -/
theorem asks_of_forall (h : ∀ c, sort c) (p : Program Answer α) : p.Asks sort := by
  induction p with
  | done a => trivial
  | ask c next ih => exact ⟨h c, ih⟩

/-- A program over a lower level asks there what its own calls are replaced by. -/
theorem Asks.interpret {implement : (c : Call) → Program LowerAnswer (Answer c)}
    {lower : Lower → Prop} {p : Program Answer α} (hp : p.Asks sort)
    (h : ∀ c, sort c → (implement c).Asks lower) : (p.interpret implement).Asks lower := by
  induction p with
  | done a => trivial
  | ask c next ih => exact (h c hp.1).bind fun answer => ih answer (hp.2 answer)

/-- The calls of a conversation are of the sort. -/
theorem Asks.of_mem {p : Program Answer α} (h : p.Asks sort) {log : List (Exchange Answer)} {a : α}
    (hlog : p.Yields log a) : ∀ e ∈ log, sort e.1 := by
  induction p generalizing log with
  | done b =>
    obtain ⟨rfl, -⟩ := hlog
    exact List.forall_mem_nil _
  | ask c next ih =>
    obtain ⟨answer, rest, rfl, hrest⟩ := hlog
    exact List.forall_mem_cons.mpr ⟨h.1, ih answer (h.2 answer) hrest⟩

end Asks

/-! ## Servers -/

/-- The conversation of a program with a server. -/
def conversation (serve : (c : Call) → σ → Answer c × σ) :
    Program Answer α → σ → List (Exchange Answer)
  | done _, _ => []
  | ask c next, s => ⟨c, (serve c s).1⟩ :: (next (serve c s).1).conversation serve (serve c s).2

variable {serve : (c : Call) → σ → Answer c × σ}

/-- Two programs one after the other have their conversations one after the other. -/
theorem conversation_bind (p : Program Answer α) (f : α → Program Answer β) (s : σ) :
    (p.bind f).conversation serve s =
      p.conversation serve s ++
        (f (p.run serve s).1).conversation serve (p.run serve s).2 := by
  induction p generalizing s with
  | done a => rfl
  | ask c next ih => exact congrArg _ (ih (serve c s).1 (serve c s).2)

/-- The conversation with a server is one that the program can have. -/
theorem yields_conversation (p : Program Answer α) (s : σ) :
    p.Yields (p.conversation serve s) (p.run serve s).1 := by
  induction p generalizing s with
  | done a => exact ⟨rfl, rfl⟩
  | ask c next ih => exact ⟨(serve c s).1, _, rfl, ih _ _⟩

/-- Every answer in the conversation with a server is one that it gives. -/
theorem answer_of_mem_conversation {p : Program Answer α} {s : σ} {e : Exchange Answer}
    (h : e ∈ p.conversation serve s) : ∃ u, (serve e.1 u).1 = e.2 := by
  induction p generalizing s with
  | done a => cases h
  | ask c next ih =>
    rcases List.mem_cons.mp h with rfl | h
    · exact ⟨s, rfl⟩
    · exact ih _ h

/-- A run ends in the state that the last call left. -/
theorem run_of_conversation_eq {p : Program Answer α} {s : σ} {log : List (Exchange Answer)}
    {e : Exchange Answer} (h : p.conversation serve s = log ++ [e]) :
    ∃ u, serve e.1 u = (e.2, (p.run serve s).2) := by
  induction p generalizing s log with
  | done a => simp [conversation] at h
  | ask c next ih =>
    cases log with
    | nil =>
      obtain ⟨rfl, hrest⟩ := List.cons.inj h
      refine ⟨s, ?_⟩
      -- the call was the last one, so the program is done after it
      show serve c s = ((serve c s).1, ((next (serve c s).1).run serve (serve c s).2).2)
      cases hnext : next (serve c s).1 with
      | done a => rfl
      | ask d more =>
        rw [hnext] at hrest
        cases hrest
    | cons first rest =>
      exact ih _ (List.cons.inj h).2

/-- Whether a server gives the answers of a conversation one after the other, from a state to another one. -/
def Follows (serve : (c : Call) → σ → Answer c × σ) : σ → List (Exchange Answer) → σ → Prop
  | s, [], t => t = s
  | s, e :: rest, t => (serve e.1 s).1 = e.2 ∧ Follows serve (serve e.1 s).2 rest t

/-- A server follows a conversation part by part. -/
theorem follows_append {s t : σ} {first second : List (Exchange Answer)} :
    Follows serve s (first ++ second) t ↔ ∃ u, Follows serve s first u ∧ Follows serve u second t := by
  induction first generalizing s with
  | nil =>
    constructor
    · intro h
      exact ⟨s, rfl, h⟩
    · rintro ⟨_, rfl, h⟩
      exact h
  | cons e first ih =>
    simp only [List.cons_append, Follows, ih]
    constructor
    · rintro ⟨hanswer, u, hfirst, hsecond⟩
      exact ⟨u, ⟨hanswer, hfirst⟩, hsecond⟩
    · rintro ⟨u, ⟨hanswer, hfirst⟩, hsecond⟩
      exact ⟨hanswer, u, hfirst, hsecond⟩

/-- A server without a state follows a conversation if it gives each of its answers. -/
theorem follows_of_forall {serve : (c : Call) → Unit → Answer c × Unit} {log : List (Exchange Answer)}
    (h : ∀ e ∈ log, (serve e.1 ()).1 = e.2) : Follows serve () log () := by
  induction log with
  | nil => rfl
  | cons e rest ih =>
    obtain ⟨hfirst, hrest⟩ := List.forall_mem_cons.mp h
    exact ⟨hfirst, ih hrest⟩

/-- A server follows its own conversation to the state that the run leaves. -/
theorem follows_conversation (p : Program Answer α) (s : σ) :
    Follows serve s (p.conversation serve s) (p.run serve s).2 := by
  induction p generalizing s with
  | done a => rfl
  | ask c next ih => exact ⟨rfl, ih _ _⟩

/-- A conversation that a server follows is the one that it has with the program. -/
theorem run_of_follows {p : Program Answer α} {s t : σ} {log : List (Exchange Answer)} {a : α}
    (hp : p.Yields log a) (h : Follows serve s log t) : p.run serve s = (a, t) := by
  induction p generalizing s log with
  | done b =>
    obtain ⟨rfl, rfl⟩ := hp
    exact Prod.ext rfl h.symm
  | ask c next ih =>
    obtain ⟨answer, rest, rfl, hrest⟩ := hp
    obtain ⟨hanswer, hfollows⟩ := h
    have hserved : (serve c s).1 = answer := hanswer
    rw [← hserved] at hrest
    exact ih _ hrest hfollows

/-- A server of the lower level answers the calls of the higher one by what they are replaced by. -/
theorem Carries.follows {lowerServe : (c : Lower) → σ → LowerAnswer c × σ}
    {implement : (c : Call) → Program LowerAnswer (Answer c)} {lower : List (Exchange LowerAnswer)}
    {upper : List (Exchange Answer)} (h : Carries implement lower upper) {s t : σ}
    (hlower : Follows lowerServe s lower t) :
    Follows (fun c s => (implement c).run lowerServe s) s upper t := by
  induction h generalizing s with
  | nil => exact hlower
  | cons part lower e upper answers _ ih =>
    obtain ⟨u, hpart, hrest⟩ := follows_append.mp hlower
    have hrun := run_of_follows answers hpart
    refine ⟨congrArg Prod.fst hrun, ?_⟩
    show Follows _ ((implement e.1).run lowerServe s).2 upper t
    rw [hrun]
    exact ih hrest

/-! ## Passes -/

namespace Pass

/-- The conversation of two passes one after the other: there is a second one only if the first succeeds. -/
theorem yields_bind {p : Pass Answer ε α} {f : α → Pass Answer ε β} {log : List (Exchange Answer)}
    {r : Except ε β} :
    (p >>= f).run.Yields log r ↔
      (∃ e, r = .error e ∧ p.run.Yields log (.error e)) ∨
        ∃ first second a, log = first ++ second ∧ p.run.Yields first (.ok a) ∧
          (f a).run.Yields second r := by
  rw [run_bind, Program.yields_bind]
  constructor
  · rintro ⟨first, second, result, rfl, hp, hf⟩
    cases result with
    | ok a => exact .inr ⟨first, second, a, rfl, hp, hf⟩
    | error e =>
      obtain ⟨rfl, rfl⟩ := hf
      rw [List.append_nil]
      exact .inl ⟨e, rfl, hp⟩
  · rintro (⟨e, rfl, hp⟩ | ⟨first, second, a, rfl, hp, hf⟩)
    · exact ⟨log, [], .error e, (List.append_nil log).symm, hp, rfl, rfl⟩
    · exact ⟨first, second, .ok a, rfl, hp, hf⟩

section Runs

variable {serve : (c : Call) → σ → Answer c × σ} {p : Pass Answer ε α} {f : α → Pass Answer ε β} {s t : σ}

/-- A successful pass and the one that follows have their conversations one after the other. -/
theorem conversation_bind_of_ok {a : α} (h : p.run.run serve s = (.ok a, t)) :
    (p >>= f).run.conversation serve s =
      p.run.conversation serve s ++ (f a).run.conversation serve t := by
  rw [run_bind, conversation_bind, h, andThen_ok]

/-- Nothing is said after a failed pass. -/
theorem conversation_bind_of_error {e : ε} (h : p.run.run serve s = (.error e, t)) :
    (p >>= f).run.conversation serve s = p.run.conversation serve s := by
  rw [run_bind, conversation_bind, h, andThen_error]
  exact List.append_nil _

end Runs

/-- A pass whose failures are renamed has the same conversations. -/
theorem yields_adapt {g : ε → δ} {p : Pass Answer ε α} {log : List (Exchange Answer)}
    {r : Except δ α} :
    (ExceptT.adapt g p).run.Yields log r ↔
      ∃ result, p.run.Yields log result ∧ r = result.mapError g := by
  show (p.run.bind fun result => done (result.mapError g)).Yields log r ↔ _
  rw [Program.yields_bind]
  constructor
  · rintro ⟨first, _, result, rfl, hp, rfl, rfl⟩
    exact ⟨result, by rwa [List.append_nil], rfl⟩
  · rintro ⟨result, hp, rfl⟩
    exact ⟨log, [], result, (List.append_nil log).symm, hp, rfl, rfl⟩

/-- A pass that is attempted has the same conversations, and its failure is a result. -/
theorem yields_attempt {p : Pass Answer ε α} {log : List (Exchange Answer)}
    {r : Except δ (Except ε α)} :
    (attempt p : Pass Answer δ (Except ε α)).run.Yields log r ↔
      ∃ result, p.run.Yields log result ∧ r = .ok result := by
  show (p.run.bind fun result => done (.ok result)).Yields log r ↔ _
  rw [Program.yields_bind]
  constructor
  · rintro ⟨first, _, result, rfl, hp, rfl, rfl⟩
    exact ⟨result, by rwa [List.append_nil], rfl⟩
  · rintro ⟨result, hp, rfl⟩
    exact ⟨log, [], result, (List.append_nil log).symm, hp, rfl, rfl⟩

/-- Whether every failure of a pass is of a sort, given the conversation that it ends. -/
def Fails (sort : List (Exchange Answer) → ε → Prop) (p : Pass Answer ε α) : Prop :=
  ∀ log e, p.run.Yields log (.error e) → sort log e

/-- Two passes one after the other fail as each of them does, if what went before does not matter. -/
theorem Fails.bind {sort : List (Exchange Answer) → ε → Prop}
    (hafter : ∀ first second e, sort second e → sort (first ++ second) e) {p : Pass Answer ε α}
    {f : α → Pass Answer ε β} (hp : Fails sort p) (hf : ∀ a, Fails sort (f a)) :
    Fails sort (p >>= f) := by
  intro log failure h
  rcases yields_bind.mp h with ⟨e, heq, hfirst⟩ | ⟨first, second, a, rfl, -, hsecond⟩
  · cases heq
    exact hp log failure hfirst
  · exact hafter first second failure (hf a second failure hsecond)

/-- A pass without calls that gives a result does not fail. -/
theorem fails_pure {sort : List (Exchange Answer) → ε → Prop} (a : α) :
    Fails sort (pure a : Pass Answer ε α) := by
  rintro log failure ⟨-, heq⟩
  cases heq

/-- A sequence of passes asks what its parts ask. -/
theorem asks_bind {sort : Call → Prop} {p : Pass Answer ε α} {f : α → Pass Answer ε β}
    (hp : p.run.Asks sort) (hf : ∀ a, (f a).run.Asks sort) : (p >>= f).run.Asks sort := by
  rw [run_bind]
  apply hp.bind
  intro r
  cases r with
  | ok a => exact hf a
  | error e => trivial

/-- A loop asks what its rounds ask. -/
theorem asks_forM {sort : Call → Prop} {f : α → Pass Answer ε PUnit} {xs : List α}
    (hf : ∀ a ∈ xs, (f a).run.Asks sort) : (xs.forM f).run.Asks sort := by
  induction xs with
  | nil => trivial
  | cons x rest ih =>
    obtain ⟨hfirst, hrest⟩ := List.forall_mem_cons.mp hf
    exact asks_bind hfirst fun _ => ih hrest

/-- A pass asks the same whatever its failures are called. -/
theorem asks_adapt {sort : Call → Prop} {g : ε → δ} {p : Pass Answer ε α} (h : p.run.Asks sort) :
    (ExceptT.adapt g p).run.Asks sort :=
  h.bind fun _ => trivial

/-- A pass asks the same if its failure is caught. -/
theorem asks_attempt {sort : Call → Prop} {p : Pass Answer ε α} (h : p.run.Asks sort) :
    (attempt p : Pass Answer δ (Except ε α)).run.Asks sort :=
  h.bind fun _ => trivial

end Pass

end GatewayOperator.Program
