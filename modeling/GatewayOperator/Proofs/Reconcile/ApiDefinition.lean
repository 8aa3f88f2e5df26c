import GatewayOperator.Proofs.Management.Setback
import GatewayOperator.Proofs.Reconcile.Guarded
import GatewayOperator.Reconcile.ApiDefinition

/-!
# What a pass over an API definition asks

The parts of a pass are few and each asks calls of its own sort: the context and its credentials come from
the cluster, the backend is reached over HTTP, and users are told by events. A clean-up in which the backend
has a setback does not succeed.
-/

set_option autoImplicit false

namespace GatewayOperator.Reconcile

open GatewayOperator.Resource GatewayOperator.Management
open Program (Exchange Asks)

section Asks

variable {sort : Call → Prop}

namespace Api

variable {settings : Settings} {api : ApiDefinition}

/-- The look-up of a context reads one, nothing else. -/
theorem asks_context? (h : ∀ ns name, sort (.cluster (.context ns name))) :
    (context? api).run.Asks sort := by
  unfold context?
  cases contextKey api with
  | none => trivial
  | some key =>
    refine Program.Pass.asks_bind (asks_cluster (h key.1 key.2)) fun found => ?_
    cases found <;> trivial

/-- The look-up of a backend reads a secret, nothing else. -/
theorem asks_backend {context : ManagementContext}
    (h : ∀ ns name, sort (.cluster (.secret ns name))) :
    (backend settings context).run.Asks sort := by
  refine Program.Pass.asks_bind ?_ fun _ => trivial
  unfold credentials
  cases inlineCredentials context with
  | some found => trivial
  | none =>
    cases secretKey context with
    | none => trivial
    | some key =>
      refine Program.Pass.asks_bind (asks_cluster (h key.1 key.2)) fun found => ?_
      cases found <;> trivial

/-- A session asks what its requests ask, and is counted. -/
theorem asks_converse {α : Type} {b : Backend} {operation : String} {session : Session α}
    (hhttp : (b.converse session).Asks fun c => sort (.http c))
    (hcount : ∀ failed, sort (.countRequest operation failed)) :
    (converse b operation session).run.Asks sort := by
  have hsession : ((b.converse session).interpret fun c => Program.call (Call.http c) :
      Work (Except Management.Failure α)).Asks sort :=
    hhttp.interpret fun c hc => Program.asks_call (c := Call.http c) hc
  refine Program.Pass.asks_bind ?_ fun result => ?_
  · exact hsession.bind fun _ => trivial
  · exact Program.Pass.asks_bind (asks_ask (hcount _)) fun _ => trivial

/-- What a pass has to tell is published, if it has anything to tell. -/
theorem asks_tell {notice : Option Kube.Notice} (h : ∀ event, sort (.cluster (.publish event))) :
    (tell api notice).run.Asks sort := by
  cases notice with
  | none => trivial
  | some notice => exact asks_cluster (h _)

/-- The withdrawal of a definition asks for context and secret, sends requests and counts them. -/
theorem asks_withdrawn (hcontext : ∀ ns name, sort (.cluster (.context ns name)))
    (hsecret : ∀ ns name, sort (.cluster (.secret ns name)))
    (hhttp : ∀ b : Backend, (b.converse (withdraw (crossId api))).Asks fun c => sort (.http c))
    (hcount : ∀ failed, sort (.countRequest "delete" failed)) :
    (withdrawn settings api).run.Asks sort := by
  refine Program.Pass.asks_bind (Program.Pass.asks_attempt (asks_context? hcontext)) fun found => ?_
  match found with
  | .ok none => trivial
  | .error failure =>
    show (if isContextMissing failure then pure DeleteOutcome.notPublished
      else throw failure : Pass _).run.Asks sort
    cases isContextMissing failure <;> trivial
  | .ok (some context) =>
    exact Program.Pass.asks_bind (asks_backend hsecret) fun b => asks_converse (hhttp b) hcount

/-- A clean-up withdraws the definition, publishes what it has to tell and settles the object. -/
theorem asks_cleanedUp (hcontext : ∀ ns name, sort (.cluster (.context ns name)))
    (hsecret : ∀ ns name, sort (.cluster (.secret ns name)))
    (hhttp : ∀ b : Backend, (b.converse (withdraw (crossId api))).Asks fun c => sort (.http c))
    (hcount : ∀ failed, sort (.countRequest "delete" failed))
    (hpublish : ∀ event, sort (.cluster (.publish event))) (hsettle : ∀ key, sort (.settle key)) :
    (cleanedUp settings api).run.Asks sort := by
  refine Program.Pass.asks_bind (Program.Pass.asks_attempt
    (asks_withdrawn hcontext hsecret hhttp hcount)) fun result => ?_
  refine Program.Pass.asks_bind (asks_tell hpublish) fun _ => ?_
  cases (resolveDelete result).retry with
  | some failure => trivial
  | none => exact Program.Pass.asks_bind (asks_ask (hsettle _)) fun _ => trivial

end Api

end Asks

/-! ## Clean-ups -/

/-- Whether a call is one of HTTP. -/
def IsHttp : Call → Prop
  | .http _ => True
  | _ => False

/-- Whether an exchange with the backend is a setback. -/
def IsDisturbed : Exchange Call.Answer → Prop
  | ⟨.http c, answer⟩ => IsSetback c answer
  | _ => False

instance : DecidablePred IsDisturbed
  | ⟨.http c, answer⟩ => inferInstanceAs (Decidable (IsSetback c answer))
  | ⟨.cluster _, _⟩ => .isFalse id
  | ⟨.now, _⟩ => .isFalse id
  | ⟨.countPass _, _⟩ => .isFalse id
  | ⟨.countFailure _ _ _, _⟩ => .isFalse id
  | ⟨.countRequest _ _, _⟩ => .isFalse id
  | ⟨.followUp _ _, _⟩ => .isFalse id
  | ⟨.settle _, _⟩ => .isFalse id

/-- A setback is an exchange of HTTP. -/
theorem IsDisturbed.isHttp {e : Exchange Call.Answer} (h : IsDisturbed e) : IsHttp e.1 := by
  obtain ⟨c, answer⟩ := e
  cases c with
  | http c => trivial
  | _ => cases h

namespace Api

variable {settings : Settings} {api : ApiDefinition} {log : List (Exchange Call.Answer)}

/-- HTTP calls over the calls of a pass are those calls. -/
theorem eq_map_of_carries {wire : List (Exchange Http.Call.Answer)}
    (h : Program.Carries (fun c => Program.call (Call.http c)) log wire) :
    log = wire.map fun e => ⟨.http e.1, e.2⟩ := by
  induction h with
  | nil => rfl
  | cons part lower e upper answers _ ih =>
    rw [Program.yields_call.mp answers, ih]
    rfl

/-- A conversation with a backend is one over HTTP and then a count, and it ends as the session does. -/
theorem converse_cases {α : Type} {b : Backend} {operation : String} {session : Session α}
    {r : Except PassFailure α} (h : (converse b operation session).run.Yields log r) :
    ∃ wire result, (b.converse session).Yields wire result ∧
      log = wire.map (fun e => ⟨.http e.1, e.2⟩) ++
        [⟨.countRequest operation (failureLabel? result), ()⟩] ∧
      r = result.mapError .management := by
  obtain ⟨first, rest, lifted, rfl, hlift, hrest⟩ := Program.yields_bind.mp h
  obtain ⟨lower, _, result, rfl, hsession, rfl, rfl⟩ := Program.yields_bind.mp hlift
  obtain ⟨wire, hwire, hcarries⟩ := Program.yields_interpret hsession
  obtain ⟨_, _, rfl, rfl, rfl⟩ := hrest
  refine ⟨wire, result, hwire, ?_, rfl⟩
  rw [List.append_nil, eq_map_of_carries hcarries]

/-- A withdrawal that meets with a setback fails, and is worth another attempt. -/
theorem withdrawn_fails {r : Except PassFailure DeleteOutcome}
    (h : (withdrawn settings api).run.Yields log r) (hlog : ∃ e ∈ log, IsDisturbed e) :
    ∃ failure, r = .error failure ∧ failure.requeue = .withBackoff := by
  obtain ⟨x, hx, hdisturbed⟩ := hlog
  have hcontext : (context? api).run.Asks fun c => ¬ IsHttp c := asks_context? fun _ _ h => h
  rcases Program.Pass.yields_bind.mp h with ⟨e, -, hfound⟩ | ⟨first, rest, found, rfl, hfound, hrest⟩
  · obtain ⟨_, -, heq⟩ := Program.Pass.yields_attempt.mp hfound
    cases heq
  obtain ⟨_, hcontextRun, heq⟩ := Program.Pass.yields_attempt.mp hfound
  cases heq
  rcases List.mem_append.mp hx with hx | hx
  · exact absurd hdisturbed.isHttp (hcontext.of_mem hcontextRun x hx)
  match found with
  | .ok none =>
    obtain ⟨rfl, -⟩ := hrest
    cases hx
  | .error failure =>
    simp only at hrest
    cases hmissing : isContextMissing failure with
    | true =>
      simp only [hmissing, if_true] at hrest
      obtain ⟨rfl, -⟩ := hrest
      cases hx
    | false =>
      simp only [hmissing] at hrest
      obtain ⟨rfl, -⟩ := hrest
      cases hx
  | .ok (some context) =>
    -- only the conversation with the backend is one over HTTP
    have hbackend : (backend settings context).run.Asks fun c => ¬ IsHttp c :=
      asks_backend fun _ _ h => h
    rcases Program.Pass.yields_bind.mp hrest with
      ⟨e, -, hreached⟩ | ⟨first, last, b, rfl, hreached, hlast⟩
    · exact absurd hdisturbed.isHttp (hbackend.of_mem hreached x hx)
    rcases List.mem_append.mp hx with hx | hx
    · exact absurd hdisturbed.isHttp (hbackend.of_mem hreached x hx)
    obtain ⟨wire, result, hwire, rfl, rfl⟩ := converse_cases hlast
    rcases List.mem_append.mp hx with hx | hx
    · obtain ⟨e, he, rfl⟩ := List.mem_map.mp hx
      obtain ⟨failure, rfl, hseverity⟩ := isRecoverable_of_withdraw hwire ⟨e, he, hdisturbed⟩
      refine ⟨.management failure, rfl, ?_⟩
      unfold PassFailure.requeue
      rw [hseverity]
    · obtain rfl := List.mem_singleton.mp hx
      cases hdisturbed

/-- Telling is no request, and it fails only if the event is refused. -/
theorem tell_cases {notice : Option Kube.Notice} {r : Except PassFailure Unit}
    (h : (tell api notice).run.Yields log r) :
    (∀ e ∈ log, ¬ IsHttp e.1) ∧ (r = .ok () ∨ ∃ refusal, r = .error (.kube refusal)) := by
  have htell : (tell api notice).run.Asks fun c => ¬ IsHttp c := asks_tell fun _ h => h
  refine ⟨htell.of_mem h, ?_⟩
  cases notice with
  | none =>
    obtain ⟨-, rfl⟩ := h
    exact .inl rfl
  | some notice =>
    obtain ⟨answer, -, rfl⟩ := yields_cluster.mp h
    cases answer with
    | ok u => exact .inl rfl
    | error refusal => exact .inr ⟨refusal, rfl⟩

/-- A clean-up: the backend is withdrawn from, and then nothing more is asked of it. The clean-up fails
because users cannot be told, or with the failure that is to be tried again, or it succeeds. -/
theorem cleanedUp_cases {r : Except PassFailure Action}
    (h : (cleanedUp settings api).run.Yields log r) :
    ∃ before after result, (withdrawn settings api).run.Yields before result ∧
      log = before ++ after ∧ (∀ e ∈ after, ¬ IsHttp e.1) ∧
      ((∃ refusal, r = .error (.kube refusal)) ∨
        (∃ failure, (resolveDelete result).retry = some failure ∧ r = .error failure) ∨
        ((resolveDelete result).retry = none ∧ r = .ok .awaitChange)) := by
  rcases Program.Pass.yields_bind.mp h with ⟨e, -, hdone⟩ | ⟨first, rest, done, rfl, hdone, hrest⟩
  · obtain ⟨_, -, heq⟩ := Program.Pass.yields_attempt.mp hdone
    cases heq
  obtain ⟨_, hwithdrawn, heq⟩ := Program.Pass.yields_attempt.mp hdone
  cases heq
  refine ⟨first, rest, done, hwithdrawn, rfl, ?_⟩
  rcases Program.Pass.yields_bind.mp hrest with ⟨e, rfl, htold⟩ | ⟨told, last, _, rfl, htold, hlast⟩
  · obtain ⟨hquiet, hresult⟩ := tell_cases htold
    refine ⟨hquiet, .inl ?_⟩
    rcases hresult with heq | ⟨refusal, heq⟩
    · cases heq
    · cases heq
      exact ⟨refusal, rfl⟩
  · obtain ⟨hquiet, -⟩ := tell_cases htold
    cases hretry : (resolveDelete done).retry with
    | some failure =>
      simp only [hretry] at hlast
      obtain ⟨rfl, rfl⟩ := hlast
      refine ⟨by rwa [List.append_nil], .inr (.inl ⟨failure, rfl, rfl⟩)⟩
    | none =>
      simp only [hretry] at hlast
      obtain ⟨_, _, rfl, rfl, rfl⟩ := hlast
      refine ⟨?_, .inr (.inr ⟨rfl, rfl⟩)⟩
      intro e he
      rcases List.mem_append.mp he with he | he
      · exact hquiet e he
      · obtain rfl := List.mem_singleton.mp he
        exact id

end Api

end GatewayOperator.Reconcile
