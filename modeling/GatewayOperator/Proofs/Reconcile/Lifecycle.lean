import GatewayOperator.Proofs.Management.Requests
import GatewayOperator.Proofs.Reconcile.Retention
import GatewayOperator.Proofs.Reconcile.Synchronization

/-!
# Backend access and the life of a definition

Whether a definition may touch its backend depends on where it is in its life. Before it has the finalizer
nothing is sent, because nothing that is left behind could be cleaned up later. While it is live its payload is
published and nothing is deleted, and while it is dying its record is withdrawn and nothing is written. If there
is news, the users see that the operator is at work before it starts: the announcement was accepted before the
first request, and without that there is no request.
-/

set_option autoImplicit false

namespace GatewayOperator.Reconcile.Lifecycle

open GatewayOperator.Resource GatewayOperator.Management
open Program (Exchange)

/-- Whether a pass over a definition has something new to say: nothing was recorded so far, or a failure, or
what was recorded is about another generation. -/
def HasNews (api : ApiDefinition) : Prop :=
  ∀ s, api.status = some s → s.processingStatus = .failed ∨ s.observedGeneration ≠ api.metadata.generation

instance (api : ApiDefinition) : Decidable (HasNews api) :=
  decidable_of_iff
    (api.status.all fun s =>
      s.processingStatus = .failed ∨ s.observedGeneration ≠ api.metadata.generation) <| by
    cases h : api.status <;> simp [HasNews, h]

/-- A pass is announced exactly if there is news. -/
theorem announces_iff (api : ApiDefinition) :
    announces api.status api.metadata.generation = true ↔ HasNews api := by
  cases h : api.status with
  | none => simp [announces, HasNews, h]
  | some s => simp [announces, HasNews, h, or_comm]

/-- Whether a call sends nothing, or a request of a call of the management API of a sort. -/
def IsRequestOf (calls : Management.Call → Prop) : Http.Call → Prop
  | .isStopping => True
  | .send request => ∃ (b : Backend) (c : Management.Call), calls c ∧ b.requestFor? c = some request

section Passes

variable {settings : Settings} {api : ApiDefinition} {log : List (Exchange Call.Answer)} {ending : Ending}

/-- A request is a call over HTTP. -/
theorem isHttp_send (request : Http.Request) : IsHttp (.http (.send request)) := trivial

/-- A record of a result is never the announcement of the pass, for it comes with a message. -/
theorem recording_ne_announcing {ns : String} (version : Option String)
    (result : Except PassFailure SyncOutcome) :
    Api.recording ns api version result ≠ Api.announcing ns api := by
  have hmessage : (Api.decision api result).status.message ≠ none := by
    match result with
    | .ok .localOnly => simp [Api.decision, resolveSync, completed]
    | .ok (.created record) => simp [Api.decision, resolveSync, completed]
    | .ok (.updated record) => simp [Api.decision, resolveSync, completed]
    | .error failure => simp [Api.decision, resolveSync, resolveFailure]
  intro heq
  have hstatus : (Api.decision api result).status = announcement api.status (Api.crossId api) := by
    injection heq
  apply hmessage
  rw [hstatus]
  rfl

/-- With news, a pass over a live definition goes one of three ways: there is none, it is over once the
announcement is refused, or the announcement is accepted before anything else is asked. -/
theorem news_cases (hinUse : InUse .apiDefinition api.metadata) (hnews : HasNews api)
    (h : (Api.attend settings api).Yields log ending) :
    log = [Api.counted] ∨
      (∃ ns refusal after,
        log = Api.counted :: ⟨.cluster (Api.announcing ns api), .error refusal⟩ :: after ∧
          ∀ e ∈ after, IsReport e.1) ∨
      ∃ ns version rest, api.metadata.namespace = some ns ∧
        log = Api.counted :: ⟨.cluster (Api.announcing ns api), .ok version⟩ :: rest ∧
          ∀ other refusal, ⟨.cluster (Api.announcing other api), .error refusal⟩ ∉ rest := by
  rw [← announces_iff] at hnews
  rcases Api.attend_cases hinUse.stage h with
    ⟨-, hlog⟩ | ⟨-, ns, refusal, after, hlog, hafter, -⟩ |
      ⟨ns, first, version, middle, result, answer, after, hns, hopen, hmiddle, hlog, hafter, -⟩
  · exact .inl hlog
  · exact .inr (.inl ⟨ns, refusal, after, hlog, hafter⟩)
  right
  right
  obtain rfl := hopen.eq_of_news hnews
  refine ⟨ns, version, middle ++ ⟨.cluster (Api.recording ns api version result), answer⟩ :: after, hns, hlog, ?_⟩
  intro other refusal hmem
  have hwrite : IsStatusWrite (.cluster (Api.announcing other api)) := trivial
  rcases List.mem_append.mp hmem with hmem | hmem
  · have hquiet : ∀ e ∈ middle, ¬ IsStatusWrite e.1 :=
      Api.not_of_synchronized hmiddle (fun _ _ => id) (fun _ _ => id) (fun _ => id) fun _ => id
    exact hquiet _ hmem hwrite
  · rcases List.mem_cons.mp hmem with heq | hmem
    · -- the only other status write is the record of the result
      have hcall : Call.cluster (Api.announcing other api) =
          .cluster (Api.recording ns api version result) := congrArg Sigma.fst heq
      have hname : Api.announcing other api = Api.recording ns api version result := by
        injection hcall
      have hns' : other = ns := by
        injection hname
      rw [hns'] at hname
      exact recording_ne_announcing version result hname.symm
    · exact (hafter _ hmem).not_statusWrite hwrite

/-- A definition without the finalizer sends nothing, a dying one only looks its record up and deletes it, and a
live one only looks its record up, creates it and replaces it. With news, the announcement that keeps the id
and the generation on record was accepted before the first request, and nothing is sent if it was refused. -/
theorem backend_access_follows_lifecycle (settings : Settings) (api : ApiDefinition)
    (log : List (Exchange Call.Answer)) (ending : Ending)
    (h : (Api.attend settings api).Yields log ending) :
    (api.metadata.hasFinalizer Controller.apiDefinition.finalizer = false →
      ∀ request outcome, ⟨.http (.send request), outcome⟩ ∉ log) ∧
    (HeldUp .apiDefinition api.metadata →
      ∀ request outcome, ⟨.http (.send request), outcome⟩ ∈ log →
        ∃ (b : Backend) (c : Management.Call),
          c.Withdraws (Api.crossId api) ∧ b.requestFor? c = some request) ∧
    (InUse .apiDefinition api.metadata →
      ∀ request outcome, ⟨.http (.send request), outcome⟩ ∈ log →
        ∃ (b : Backend) (c : Management.Call),
          c.Publishes (Api.payload api) ∧ b.requestFor? c = some request) ∧
    (InUse .apiDefinition api.metadata → HasNews api →
      ∃ status : ApiStatus, status.processingStatus = .reconciling ∧
        status.id = api.status.bind (·.id) ∧
        status.observedGeneration = api.status.bind (·.observedGeneration) ∧
        (∀ before request outcome after, log = before ++ ⟨.http (.send request), outcome⟩ :: after →
          ∃ ns version, api.metadata.namespace = some ns ∧
            ⟨.cluster (.writeStatus ns api.metadata.anyName api.metadata.resourceVersion status),
              .ok version⟩ ∈ before) ∧
        ∀ ns refusal,
          ⟨.cluster (.writeStatus ns api.metadata.anyName api.metadata.resourceVersion status),
            .error refusal⟩ ∈ log →
          ∀ request outcome, ⟨.http (.send request), outcome⟩ ∉ log) := by
  refine ⟨?_, ?_, ?_, ?_⟩
  · intro hfinalizer request outcome hmem
    have hasks : (Api.attend settings api).Asks (Api.OverHttp fun _ => False) :=
      Api.asks_attend_of_not_hasFinalizer hfinalizer
    exact hasks.of_mem h _ hmem
  · intro hheld request outcome hmem
    have hasks : (Api.attend settings api).Asks
        (Api.OverHttp (IsRequestOf (Call.Withdraws (Api.crossId api)))) := by
      refine Api.asks_attend ?_ fun _ _ b => ?_
      · intro happly
        obtain ⟨index, hstage⟩ := hheld.stage
        rw [happly] at hstage
        cases hstage
      · exact Backend.asks_converse (asks_withdraw _) trivial fun c _ hc hrequest => ⟨b, c, hc, hrequest⟩
    exact hasks.of_mem h _ hmem
  · intro hinUse request outcome hmem
    have hasks : (Api.attend settings api).Asks
        (Api.OverHttp (IsRequestOf (Call.Publishes (Api.payload api)))) := by
      refine Api.asks_attend (fun _ b => ?_) ?_
      · exact Backend.asks_converse (asks_synchronize _) trivial
          fun c _ hc hrequest => ⟨b, c, hc, hrequest⟩
      · intro index hcleanUp
        rw [hinUse.stage] at hcleanUp
        cases hcleanUp
    exact hasks.of_mem h _ hmem
  · intro hinUse hnews
    refine ⟨announcement api.status (Api.crossId api), rfl, rfl, rfl, ?_, ?_⟩
    · intro before request outcome after hlog
      rcases news_cases hinUse hnews h with
        rfl | ⟨ns, refusal, reports, rfl, hreports⟩ | ⟨ns, version, rest, hns, rfl, -⟩
      · have hmem : ⟨.http (.send request), outcome⟩ ∈ [Api.counted] := by
          rw [hlog]
          simp
        simp [Api.counted] at hmem
      · have hmem : ⟨.http (.send request), outcome⟩ ∈ reports := by
          have hall : ⟨.http (.send request), outcome⟩ ∈
              Api.counted :: ⟨.cluster (Api.announcing ns api), .error refusal⟩ :: reports := by
            rw [hlog]
            simp
          simpa [Api.counted] using hall
        exact absurd (isHttp_send request) (hreports _ hmem).not_http
      · -- neither the count nor the announcement is a request
        have hfirst : ∀ x ∈ [Api.counted, ⟨.cluster (Api.announcing ns api), .ok version⟩],
            ¬ IsHttp x.1 := by simp [IsHttp, Api.counted]
        have hsplit : [Api.counted, ⟨.cluster (Api.announcing ns api), .ok version⟩] ++ rest =
            before ++ ⟨.http (.send request), outcome⟩ :: after := hlog
        obtain ⟨between, rfl, -⟩ := exists_eq_append hsplit hfirst (isHttp_send request)
        exact ⟨ns, version, hns, by simp [Api.announcing]⟩
    · intro ns refusal hrefused request outcome hmem
      rcases news_cases hinUse hnews h with
        rfl | ⟨_, _, reports, rfl, hreports⟩ | ⟨_, version, rest, -, rfl, hrest⟩
      · simp [Api.counted] at hmem
      · have hmem : ⟨.http (.send request), outcome⟩ ∈ reports := by
          simpa [Api.counted] using hmem
        exact (hreports _ hmem).not_http (isHttp_send request)
      · apply hrest ns refusal
        simpa [Api.announcing, Api.counted] using hrefused

end Passes

/-! ## A life -/

section Life

/-- A definition before it has the finalizer. -/
def young : ApiDefinition :=
  { Retention.orders with metadata :=
      { Retention.orders.metadata with deletionTimestamp := none, finalizers := none } }

/-- A live definition that carries the finalizer. -/
def live : ApiDefinition :=
  { Retention.orders with metadata := { Retention.orders.metadata with deletionTimestamp := none } }

/-- A dying definition that carries the finalizer. -/
def dying : ApiDefinition := Retention.orders

/-- The response with a status and a body. -/
def reply (code : Nat) (body : String) : Http.Outcome :=
  match Http.Status.ofNat? code with
  | some status => .response status (Text.utf8 body)
  | none => .unreachable

/-- A cluster that knows the context and accepts every change, and a backend that knows no record and does not
answer a creation in time. -/
def willing : Surroundings Unit where
  cluster := fun c s =>
    match c with
    | .context _ _ => (.ok (some Retention.context), s)
    | .writeStatus _ _ _ _ => (.ok (some "2"), s)
    | .changeFinalizers _ _ _ _ => (.ok (), s)
    | .publish _ => (.ok (), s)
    | _ => (.error (.unreachable "connection refused"), s)
  http := fun c s =>
    match c with
    | .isStopping => (false, s)
    | .send request =>
      (if request.method = .get then reply 404 "" else .timedOut, s)
  now := fun s => (⟨0, 0⟩, s)

/-- All that is asked and answered in a pass over a definition. -/
def trace (api : ApiDefinition) : List (Exchange Call.Answer) :=
  willing.log (Api.attend Retention.settings api) () Retention.books

/-- Whether a request is sent by a method. -/
def IsSentBy (method : Http.Method) : Call → Prop
  | .http (.send request) => request.method = method
  | _ => False

instance (method : Http.Method) : DecidablePred (IsSentBy method)
  | .http (.send request) => inferInstanceAs (Decidable (request.method = method))
  | .http .isStopping => .isFalse id
  | .cluster _ => .isFalse id
  | .now => .isFalse id
  | .countPass _ => .isFalse id
  | .countFailure _ _ _ => .isFalse id
  | .countRequest _ _ => .isFalse id
  | .followUp _ _ => .isFalse id
  | .settle _ => .isFalse id

/-- What is sent by a method is a request. -/
theorem IsSentBy.exists_eq {method : Http.Method} {e : Exchange Call.Answer} (h : IsSentBy method e.1) :
    ∃ request outcome, e = ⟨.http (.send request), outcome⟩ := by
  obtain ⟨c, answer⟩ := e
  match c with
  | .http (.send request) => exact ⟨request, answer, rfl⟩
  | .http .isStopping => cases h
  | .cluster _ => cases h
  | .now => cases h
  | .countPass _ => cases h
  | .countFailure _ _ _ => cases h
  | .countRequest _ _ => cases h
  | .followUp _ _ => cases h
  | .settle _ => cases h

/-- The young definition sends nothing, the dying one looks for its record, and the live one creates it after
the announcement was accepted. -/
theorem traces_follow_lifecycle :
    young.metadata.hasFinalizer Controller.apiDefinition.finalizer = false ∧
      HeldUp .apiDefinition dying.metadata ∧ InUse .apiDefinition live.metadata ∧ HasNews live ∧
      (∀ request outcome, ⟨.http (.send request), outcome⟩ ∉ trace young) ∧
      (∃ e ∈ trace dying, IsSentBy .get e.1 ∧ ∃ request outcome, e = ⟨.http (.send request), outcome⟩ ∧
        ∃ (b : Backend) (c : Management.Call),
          c.Withdraws (Api.crossId dying) ∧ b.requestFor? c = some request) ∧
      (∃ before e after, trace live = before ++ e :: after ∧ IsSentBy .post e.1 ∧
        ∃ ns status version, status.processingStatus = .reconciling ∧
          ⟨.cluster (.writeStatus ns live.metadata.anyName live.metadata.resourceVersion status),
            .ok version⟩ ∈ before) := by
  have hyoung : young.metadata.hasFinalizer Controller.apiDefinition.finalizer = false := by decide
  have hdying : HeldUp .apiDefinition dying.metadata := ⟨by decide, by decide⟩
  have hlive : InUse .apiDefinition live.metadata := ⟨by decide, by decide⟩
  have hnews : HasNews live := by decide
  have hlookup : ∃ e ∈ trace dying, IsSentBy .get e.1 := by decide +kernel
  have hcreation : ∃ e ∈ trace live, IsSentBy .post e.1 := by decide +kernel
  have hfollows (api : ApiDefinition) :=
    backend_access_follows_lifecycle Retention.settings api (trace api) _
      (willing.yields_log (Api.attend Retention.settings api) () Retention.books)
  refine ⟨hyoung, hdying, hlive, hnews, (hfollows young).1 hyoung, ?_, ?_⟩
  · obtain ⟨e, he, hget⟩ := hlookup
    obtain ⟨request, outcome, rfl⟩ := hget.exists_eq
    exact ⟨_, he, hget, request, outcome, rfl, (hfollows dying).2.1 hdying request outcome he⟩
  · obtain ⟨e, he, hpost⟩ := hcreation
    obtain ⟨request, outcome, rfl⟩ := hpost.exists_eq
    obtain ⟨before, after, hsplit⟩ := List.append_of_mem he
    obtain ⟨status, hreconciling, -, -, hbefore, -⟩ := (hfollows live).2.2.2 hlive hnews
    obtain ⟨ns, version, -, hmem⟩ := hbefore before request outcome after hsplit
    exact ⟨before, _, after, hsplit, hpost, ns, status, version, hreconciling, hmem⟩

end Life

end GatewayOperator.Reconcile.Lifecycle
