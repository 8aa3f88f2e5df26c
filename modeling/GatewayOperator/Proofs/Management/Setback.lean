import GatewayOperator.Management.Convergence
import GatewayOperator.Management.HttpClient
import GatewayOperator.Proofs.Program.Conversation

/-!
# Setbacks

A request can come to nothing for a reason that may be gone later: the backend is not reached or does not
answer in time, it is too busy or in trouble, its answer cannot be read, or the operator is stopping. A
session that meets with any of these fails, and with a failure that is worth another attempt.
-/

set_option autoImplicit false

namespace GatewayOperator.Management

open Backend
open Program (Exchange Yields)

/-- Whether a status says that the same request may succeed later: the request took too long, came too early
or too often or met another one, or the server is in trouble. -/
def IsTransient (status : Http.Status) : Prop :=
  status.code = 408 ∨ status.code = 409 ∨ status.code = 425 ∨ status.code = 429 ∨
    (500 ≤ status.code ∧ status.code ≤ 599)

/-- Whether the body of a success does not hold what the answer to a request has to hold. -/
def IsUnreadable : Http.Method → List UInt8 → Prop
  | .get, body => Record.listOfBody? body = none
  | .post, body => Record.ofBody? body = none
  | .put, body => Record.ofBody? body = none
  | .delete, _ => False

instance (status : Http.Status) : Decidable (IsTransient status) :=
  inferInstanceAs (Decidable (_ ∨ _ ∨ _ ∨ _ ∨ (_ ∧ _)))

instance : (method : Http.Method) → (body : List UInt8) → Decidable (IsUnreadable method body)
  | .get, body => inferInstanceAs (Decidable (Record.listOfBody? body = none))
  | .post, body => inferInstanceAs (Decidable (Record.ofBody? body = none))
  | .put, body => inferInstanceAs (Decidable (Record.ofBody? body = none))
  | .delete, _ => .isFalse id

/-- Whether the response to a request is a setback. -/
def IsSetbackResponse (method : Http.Method) (status : Http.Status) (body : List UInt8) : Prop :=
  IsTransient status ∨ (status.isSuccess = true ∧ IsUnreadable method body)

/-- Whether what a client is told is a setback. -/
def IsSetback : (c : Http.Call) → c.Answer → Prop
  | .isStopping, stopping => stopping = true
  | .send request, .response status body => IsSetbackResponse request.method status body
  | .send _, .unreachable => True
  | .send _, .timedOut => True
  | .send _, .stopped => True

instance : (c : Http.Call) → (answer : c.Answer) → Decidable (IsSetback c answer)
  | .isStopping, stopping => inferInstanceAs (Decidable (stopping = true))
  | .send _, .response _ _ => inferInstanceAs (Decidable (_ ∨ (_ ∧ _)))
  | .send _, .unreachable => .isTrue trivial
  | .send _, .timedOut => .isTrue trivial
  | .send _, .stopped => .isTrue trivial

/-- Whether a result is a failure that is worth another attempt. -/
def IsRecoverable {α : Type} (r : Except Failure α) : Prop :=
  ∃ failure, r = .error failure ∧ failure.severity = .recoverable

/-- A transient status is neither a success nor the news that there is no record, and it is worth another
attempt. -/
theorem IsTransient.cases {status : Http.Status} (h : IsTransient status) :
    status.isSuccess = false ∧ isMissing status = false ∧
      Severity.ofStatus status = .recoverable := by
  unfold IsTransient at h
  unfold Http.Status.isSuccess isMissing Severity.ofStatus
  refine ⟨?_, ?_, ?_⟩
  · simp only [Bool.and_eq_false_iff, decide_eq_false_iff_not]
    omega
  · simp only [decide_eq_false_iff_not]
    omega
  · by_cases hcode : 400 ≤ status.code ∧ status.code ≤ 499
    · have hlisted : status.code = 404 ∨ status.code = 408 ∨ status.code = 409 ∨ status.code = 425 ∨
          status.code = 429 := by omega
      simp only [hlisted, if_true]
    · simp only [hcode, if_false, ite_self]

/-! ## Reading answers -/

section Reading

variable {α : Type} {read? : List UInt8 → Option α} {status : Http.Status} {body : List UInt8}

/-- A status that may be different later is a recoverable failure. -/
theorem statusFailure_of_transient (h : IsTransient status) (body : List UInt8) :
    ∃ failure, statusFailure? status body = some failure ∧ failure.severity = .recoverable := by
  obtain ⟨hsuccess, -, hseverity⟩ := h.cases
  refine ⟨.status status (excerpt (Text.Utf8.readLossy body)), ?_, hseverity⟩
  simp only [statusFailure?, hsuccess, Bool.false_eq_true, if_false]

/-- A transient status, and a success with an unreadable body, are recoverable failures. -/
theorem isRecoverable_readAnswer
    (h : IsTransient status ∨ (status.isSuccess = true ∧ read? body = none)) :
    IsRecoverable (readAnswer read? status body) := by
  rcases h with htransient | ⟨hsuccess, hnone⟩
  · obtain ⟨failure, hfailure, hseverity⟩ := statusFailure_of_transient htransient body
    exact ⟨failure, by simp only [readAnswer, hfailure], hseverity⟩
  · have hnofailure : statusFailure? status body = none := by
      simp only [statusFailure?, hsuccess, if_true]
    exact ⟨unreadable, by simp only [readAnswer, hnofailure, hnone], rfl⟩

/-- A success does not say that something is missing. -/
theorem isMissing_of_success (h : status.isSuccess = true) : isMissing status = false := by
  simp only [Http.Status.isSuccess, Bool.and_eq_true, decide_eq_true_eq] at h
  simp only [isMissing, decide_eq_false_iff_not]
  omega

/-- A setback of a lookup is a recoverable failure. -/
theorem isRecoverable_readLookup (h : IsSetbackResponse .get status body) :
    IsRecoverable (readLookup status body) := by
  have hread : IsTransient status ∨
      (status.isSuccess = true ∧ Record.listOfBody? body = none) := h
  have hmissing : isMissing status = false := by
    rcases hread with htransient | ⟨hsuccess, -⟩
    · exact htransient.cases.2.1
    · exact isMissing_of_success hsuccess
  obtain ⟨failure, hfailure, hseverity⟩ := isRecoverable_readAnswer hread
  refine ⟨failure, ?_, hseverity⟩
  simp only [readLookup, hmissing, hfailure]
  rfl

/-- A setback of a deletion is a recoverable failure. -/
theorem isRecoverable_readDeletion (h : IsSetbackResponse .delete status body) :
    IsRecoverable (readDeletion status body) := by
  -- the body of a deletion is not read
  have htransient : IsTransient status := by
    simpa only [IsSetbackResponse, IsUnreadable, and_false, or_false] using h
  obtain ⟨failure, hfailure, hseverity⟩ := statusFailure_of_transient htransient body
  refine ⟨failure, ?_, hseverity⟩
  simp only [readDeletion, htransient.cases.2.1, hfailure]
  rfl

end Reading

/-! ## Requests -/

section Requests

variable {b : Backend} {log : List (Exchange Http.Call.Answer)}

/-- What the outcome of a request is to the one who sent it. -/
def received (request : Http.Request) : Http.Outcome → Except Failure (Http.Status × List UInt8)
  | .response status body => .ok (status, body)
  | .unreachable =>
    .error (.transport ("error sending request for url (" ++ request.url.text ++ ")"))
  | .timedOut => .error .timeout
  | .stopped => .error .cancelled

/-- What can become of a request: the operator is stopping, or there is none that can be sent, or it is sent
and has an outcome. -/
theorem send_cases {method : Http.Method} {url : Url} {payload : Option Payload}
    {r : Except Failure (Http.Status × List UInt8)}
    (h : (b.send method url payload).run.Yields log r) :
    (log = [⟨.isStopping, true⟩] ∧ r = .error .cancelled) ∨
      (∃ text, log = [⟨.isStopping, false⟩] ∧ r = .error (.invalidUrl text)) ∨
      ∃ request outcome, b.request? method url payload = some request ∧
        log = [⟨.isStopping, false⟩, ⟨.send request, outcome⟩] ∧ r = received request outcome := by
  obtain ⟨stopping, rest, rfl, h⟩ := h
  cases stopping with
  | true =>
    obtain ⟨rfl, rfl⟩ := h
    exact .inl ⟨rfl, rfl⟩
  | false =>
    right
    cases hrequest : b.request? method url payload with
    | none =>
      simp only [hrequest] at h
      obtain ⟨rfl, rfl⟩ := h
      exact .inl ⟨_, rfl, rfl⟩
    | some request =>
      simp only [hrequest] at h
      cases haddress : isAddress request.url with
      | false =>
        simp only [haddress] at h
        obtain ⟨rfl, rfl⟩ := h
        exact .inl ⟨_, rfl, rfl⟩
      | true =>
        simp only [haddress] at h
        obtain ⟨outcome, _, rfl, h⟩ := h
        refine .inr ⟨request, outcome, rfl, ?_⟩
        cases outcome <;> obtain ⟨rfl, rfl⟩ := h <;> exact ⟨rfl, rfl⟩

/-- A request has the method that it was made for. -/
theorem method_of_request? {method : Http.Method} {url : Url} {payload : Option Payload}
    {request : Http.Request} (h : b.request? method url payload = some request) :
    request.method = method := by
  unfold request? at h
  by_cases hvalue : isHeaderValue (authorization b.credentials) = true
  · simp only [hvalue, if_true, Option.some.injEq] at h
    rw [← h]
  · simp only [hvalue] at h
    cases h

/-- A request that meets with a setback fails, or its response is the setback. -/
theorem setback_of_send {method : Http.Method} {url : Url} {payload : Option Payload}
    {r : Except Failure (Http.Status × List UInt8)}
    (h : (b.send method url payload).run.Yields log r) (hlog : ∃ e ∈ log, IsSetback e.1 e.2) :
    IsRecoverable r ∨
      ∃ status body, r = .ok (status, body) ∧ IsSetbackResponse method status body := by
  rcases send_cases h with ⟨-, rfl⟩ | ⟨text, rfl, -⟩ | ⟨request, outcome, hrequest, rfl, rfl⟩
  · exact .inl ⟨.cancelled, rfl, rfl⟩
  · -- nothing was sent
    simp [IsSetback] at hlog
  · cases outcome with
    | unreachable => exact .inl ⟨_, rfl, rfl⟩
    | timedOut => exact .inl ⟨_, rfl, rfl⟩
    | stopped => exact .inl ⟨_, rfl, rfl⟩
    | response status body =>
      have hresponse : IsSetbackResponse request.method status body := by
        simpa [IsSetback] using hlog
      rw [method_of_request? hrequest] at hresponse
      exact .inr ⟨status, body, rfl, hresponse⟩

/-- A request whose response is read fails if it meets with a setback, and with a failure that is worth
another attempt, if the reading of a setback is such a failure. -/
theorem isRecoverable_of_reading {α : Type} {method : Http.Method} {url : Url}
    {payload : Option Payload} {read : Http.Status → List UInt8 → Except Failure α}
    (hread : ∀ status body, IsSetbackResponse method status body → IsRecoverable (read status body))
    {r : Except Failure α}
    (h : (b.send method url payload >>= fun answer =>
      Program.Pass.ofResult (read answer.1 answer.2)).run.Yields log r)
    (hlog : ∃ e ∈ log, IsSetback e.1 e.2) : IsRecoverable r := by
  rw [Program.Pass.yields_bind] at h
  rcases h with ⟨failure, rfl, hsend⟩ | ⟨first, _, ⟨status, body⟩, rfl, hsend, rfl, rfl⟩
  · rcases setback_of_send hsend hlog with ⟨same, heq, hseverity⟩ | ⟨status, body, heq, -⟩
    · rw [Except.error.injEq] at heq
      exact ⟨failure, rfl, heq ▸ hseverity⟩
    · cases heq
  · rw [List.append_nil] at hlog
    rcases setback_of_send hsend hlog with ⟨failure, heq, -⟩ | ⟨status', body', heq, hresponse⟩
    · cases heq
    · cases heq
      exact hread status body hresponse

/-- A call of the management API that meets with a setback fails, and with a failure that is worth another
attempt. -/
theorem isRecoverable_of_perform {c : Call} {answer : c.Answer} (h : (b.perform c).Yields log answer)
    (hlog : ∃ e ∈ log, IsSetback e.1 e.2) : IsRecoverable answer := by
  have hpost : ∀ status body, IsSetbackResponse .post status body →
      IsRecoverable (readAnswer Record.ofBody? status body) := fun _ _ => isRecoverable_readAnswer
  have hput : ∀ status body, IsSetbackResponse .put status body →
      IsRecoverable (readAnswer Record.ofBody? status body) := fun _ _ => isRecoverable_readAnswer
  cases c with
  | lookup crossId => exact isRecoverable_of_reading (fun _ _ => isRecoverable_readLookup) h hlog
  | create payload => exact isRecoverable_of_reading hpost h hlog
  | update id payload => exact isRecoverable_of_reading hput h hlog
  | delete id => exact isRecoverable_of_reading (fun _ _ => isRecoverable_readDeletion) h hlog

/-- A deletion ends with the first of its calls that fails. -/
theorem withdraw_fails {crossId : String} {upper : List (Exchange Call.Answer)}
    {r : Except Failure DeleteOutcome} (h : (withdraw crossId).run.Yields upper r)
    {e : Exchange Call.Answer} (he : e ∈ upper) {failure : Failure} (hfailure : e.2 = .error failure) :
    r = .error failure := by
  obtain ⟨looked, rest, rfl, h⟩ := h
  match looked with
  | .error first =>
    obtain ⟨rfl, rfl⟩ := h
    obtain rfl := List.mem_singleton.mp he
    rw [Except.error.injEq] at hfailure
    rw [hfailure]
  | .ok none =>
    obtain ⟨rfl, rfl⟩ := h
    obtain rfl := List.mem_singleton.mp he
    cases hfailure
  | .ok (some record) =>
    obtain ⟨deleted, _, rfl, h⟩ := h
    rcases List.mem_cons.mp he with rfl | he
    · cases hfailure
    · cases deleted with
      | error first =>
        obtain ⟨rfl, rfl⟩ := h
        obtain rfl := List.mem_singleton.mp he
        rw [Except.error.injEq] at hfailure
        rw [hfailure]
      | ok u =>
        obtain ⟨rfl, rfl⟩ := h
        obtain rfl := List.mem_singleton.mp he
        cases hfailure

/-- A deletion that meets with a setback fails, and with a failure that is worth another attempt. -/
theorem isRecoverable_of_withdraw {crossId : String} {r : Except Failure DeleteOutcome}
    (h : (b.converse (withdraw crossId)).Yields log r) (hlog : ∃ e ∈ log, IsSetback e.1 e.2) :
    IsRecoverable r := by
  obtain ⟨upper, hupper, hcarries⟩ := Program.yields_interpret h
  obtain ⟨x, hx, hsetback⟩ := hlog
  obtain ⟨e, he, part, hpart, hxpart⟩ := hcarries.exists_upper hx
  obtain ⟨failure, hfailure, hseverity⟩ := isRecoverable_of_perform hpart ⟨x, hxpart, hsetback⟩
  exact ⟨failure, withdraw_fails hupper he hfailure, hseverity⟩

end Requests

end GatewayOperator.Management
