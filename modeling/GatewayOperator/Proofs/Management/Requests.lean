import GatewayOperator.Proofs.Management.Setback

/-!
# Requests of a session

A call of the management API is one request, and the method of the request tells lookups, creations, updates
and deletions apart. Nothing else is sent for a call. So what a session may send is known from the calls that
it may make: one that publishes a payload never deletes, and one that withdraws never writes.
-/

set_option autoImplicit false

namespace GatewayOperator.Management

open Program (Asks Exchange)

/-- The request of a call, if the credentials can be sent. -/
def Backend.requestFor? (b : Backend) : Call → Option Http.Request
  | .lookup crossId => b.request? .get (Endpoint.lookup b.collection crossId) none
  | .create payload => b.request? .post (Endpoint.creation b.collection) (some payload)
  | .update id payload => b.request? .put (Endpoint.change b.collection id) (some payload)
  | .delete id => b.request? .delete (Endpoint.record b.collection id) none

/-- The method of the request of a call. -/
def Call.method : Call → Http.Method
  | .lookup _ => .get
  | .create _ => .post
  | .update _ _ => .put
  | .delete _ => .delete

/-- The request of a call has its method. -/
theorem Backend.method_of_requestFor? {b : Backend} {c : Call} {request : Http.Request}
    (h : b.requestFor? c = some request) : request.method = c.method := by
  cases c with
  | lookup crossId => exact method_of_request? h
  | create payload => exact method_of_request? h
  | update id payload => exact method_of_request? h
  | delete id => exact method_of_request? h

/-- The calls that publish a payload. -/
inductive Call.Publishes (payload : Payload) : Call → Prop
  | lookup : Publishes payload (.lookup payload.crossId)
  | create : Publishes payload (.create payload)
  | update (id : String) : Publishes payload (.update id (payload.withId id))

/-- The calls that withdraw what carries a cross ID. -/
inductive Call.Withdraws (crossId : String) : Call → Prop
  | lookup : Withdraws crossId (.lookup crossId)
  | delete (id : String) : Withdraws crossId (.delete id)

/-- A synchronization makes calls that publish its payload, and no others. -/
theorem asks_synchronize (payload : Payload) :
    (synchronize payload).run.Asks (Call.Publishes payload) := by
  refine ⟨.lookup, fun found => ?_⟩
  match found with
  | .error failure => trivial
  | .ok none =>
    refine ⟨.create, fun created => ?_⟩
    cases created <;> trivial
  | .ok (some r) =>
    refine ⟨.update r.id, fun updated => ?_⟩
    cases updated <;> trivial

/-- A withdrawal makes calls that withdraw what carries its cross ID, and no others. -/
theorem asks_withdraw (crossId : String) : (withdraw crossId).run.Asks (Call.Withdraws crossId) := by
  refine ⟨.lookup, fun found => ?_⟩
  match found with
  | .error failure => trivial
  | .ok none => trivial
  | .ok (some r) =>
    refine ⟨.delete r.id, fun deleted => ?_⟩
    cases deleted <;> trivial

section Requests

variable {b : Backend} {sort : Http.Call → Prop}

/-- A client asks for the signal to stop and sends the request, nothing else. -/
theorem Backend.asks_send {method : Http.Method} {url : Url} {payload : Option Payload}
    (hstopping : sort .isStopping)
    (hsend : ∀ request, b.request? method url payload = some request → sort (.send request)) :
    (b.send method url payload).run.Asks sort := by
  refine ⟨hstopping, fun stopping => ?_⟩
  cases stopping with
  | true => trivial
  | false =>
    cases hrequest : b.request? method url payload with
    | none => trivial
    | some request =>
      cases haddress : isAddress request.url with
      | false =>
        simp only [haddress]
        trivial
      | true =>
        simp only [haddress]
        refine ⟨hsend request hrequest, fun outcome => ?_⟩
        cases outcome <;> trivial

/-- All that is sent for a call is its request. -/
theorem Backend.asks_perform {c : Call} (hstopping : sort .isStopping)
    (hsend : ∀ request, b.requestFor? c = some request → sort (.send request)) :
    (b.perform c).Asks sort := by
  cases c with
  | lookup crossId => exact Program.Pass.asks_bind (asks_send hstopping hsend) fun _ => trivial
  | create payload => exact Program.Pass.asks_bind (asks_send hstopping hsend) fun _ => trivial
  | update id payload => exact Program.Pass.asks_bind (asks_send hstopping hsend) fun _ => trivial
  | delete id => exact Program.Pass.asks_bind (asks_send hstopping hsend) fun _ => trivial

/-- A session asks for the signal to stop and sends the requests of its calls, nothing else. -/
theorem Backend.asks_converse {α : Type} {session : Session α} {calls : Call → Prop}
    (hsession : session.run.Asks calls) (hstopping : sort .isStopping)
    (hsend : ∀ c request, calls c → b.requestFor? c = some request → sort (.send request)) :
    (b.converse session).Asks sort :=
  hsession.interpret fun c hc => asks_perform hstopping fun request => hsend c request hc

/-- The request of a call that succeeds is sent. -/
theorem Backend.sent_of_ok {c : Call} {log : List (Exchange Http.Call.Answer)} {result : c.Result}
    (h : (b.perform c).Yields log (.ok result)) :
    ∃ request outcome, b.requestFor? c = some request ∧ ⟨.send request, outcome⟩ ∈ log := by
  have hsend {method : Http.Method} {url : Url} {payload : Option Payload} {α : Type} {a : α}
      {read : Http.Status × List UInt8 → Wire α}
      (hread : (b.send method url payload >>= read).run.Yields log (.ok a)) :
      ∃ request outcome, b.request? method url payload = some request ∧
        ⟨.send request, outcome⟩ ∈ log := by
    rcases Program.Pass.yields_bind.mp hread with ⟨_, heq, -⟩ | ⟨first, last, answer, rfl, hsent, -⟩
    · cases heq
    · rcases send_cases hsent with ⟨-, heq⟩ | ⟨_, -, heq⟩ | ⟨request, outcome, hrequest, rfl, -⟩
      · cases heq
      · cases heq
      · exact ⟨request, outcome, hrequest, by simp⟩
  cases c with
  | lookup crossId => exact hsend h
  | create payload => exact hsend h
  | update id payload => exact hsend h
  | delete id => exact hsend h

end Requests

end GatewayOperator.Management
