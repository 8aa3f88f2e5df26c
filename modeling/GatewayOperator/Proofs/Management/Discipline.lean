import GatewayOperator.Proofs.Management.Requests
import GatewayOperator.Reconcile.Decision
import Mathlib.Data.List.Basic

/-!
# What a session sends

A session that converges or clears the backend sends a lookup first. A second request goes out only if the answer
says which record there is, or that there is none, and the answer decides which one it is. Any other answer ends
the session. A client that asks whether the operator is stopping before each request sends none after the signal,
and a session that is cut off that way is neither given up nor taken for a deletion.
-/

set_option autoImplicit false

namespace GatewayOperator.Management

open Backend
open Program (Exchange Carries Yields)

/-! ## The signal to stop -/

/-- Whether the answers of a conversation fit with a signal to stop that is given when so many exchanges are over.
From then on whoever asks is told of it, and no pending request is given up before. -/
structure Signalled (moment : Nat) (log : List (Exchange Http.Call.Answer)) : Prop where
  told : ∀ i stopping, log[i]? = some ⟨.isStopping, stopping⟩ → (stopping = true ↔ moment ≤ i)
  givenUp : ∀ i request, log[i]? = some ⟨.send request, .stopped⟩ → moment ≤ i

/-- Whether each request of a conversation comes right after the news that the operator is not stopping. -/
def Guarded (log : List (Exchange Http.Call.Answer)) : Prop :=
  ∀ i request outcome, log[i]? = some ⟨.send request, outcome⟩ →
    ∃ j, i = j + 1 ∧ log[j]? = some ⟨.isStopping, false⟩

section Signal

variable {first second log : List (Exchange Http.Call.Answer)}

/-- A conversation without exchanges is guarded. -/
theorem guarded_nil : Guarded [] := fun _ _ _ h => by cases h

/-- Guarded conversations make a guarded one. -/
theorem Guarded.append (hfirst : Guarded first) (hsecond : Guarded second) : Guarded (first ++ second) := by
  intro i request outcome h
  rcases Nat.lt_or_ge i first.length with hlt | hge
  · rw [List.getElem?_append_left hlt] at h
    obtain ⟨j, rfl, hj⟩ := hfirst i request outcome h
    exact ⟨j, rfl, by rwa [List.getElem?_append_left (by omega)]⟩
  · rw [List.getElem?_append_right hge] at h
    obtain ⟨j, hij, hj⟩ := hsecond _ request outcome h
    refine ⟨first.length + j, by omega, ?_⟩
    rwa [List.getElem?_append_right (Nat.le_add_right _ _), Nat.add_sub_cancel_left]

/-- No request is begun after the signal. -/
theorem Guarded.le_moment (h : Guarded log) {moment : Nat} (hsignalled : Signalled moment log) {i : Nat}
    {request : Http.Request} {outcome : Http.Outcome} (hi : log[i]? = some ⟨.send request, outcome⟩) :
    i ≤ moment := by
  obtain ⟨j, rfl, hj⟩ := h i request outcome hi
  have hearly : ¬ moment ≤ j := fun hle => Bool.false_ne_true ((hsignalled.told j false hj).mpr hle)
  omega

end Signal

/-! ## Single calls -/

/-- What the response to the request of a call means. -/
def Call.read : (c : Call) → Http.Status → List UInt8 → Except Failure c.Result
  | .lookup _ => readLookup
  | .create _ => readAnswer Record.ofBody?
  | .update _ _ => readAnswer Record.ofBody?
  | .delete _ => readDeletion

/-- What a call comes to: the operator is stopping, or its request cannot be sent, or the request is sent and what
comes of it is read. -/
inductive Attempt (b : Backend) (c : Call) : List (Exchange Http.Call.Answer) → c.Answer → Prop
  | stopping : Attempt b c [⟨.isStopping, true⟩] (.error .cancelled)
  | unsendable (text : String) : Attempt b c [⟨.isStopping, false⟩] (.error (.invalidUrl text))
  | asked (request : Http.Request) (outcome : Http.Outcome) (built : b.requestFor? c = some request) :
      Attempt b c [⟨.isStopping, false⟩, ⟨.send request, outcome⟩]
        ((received request outcome).bind fun answer => c.read answer.1 answer.2)

section Calls

variable {b : Backend} {c : Call} {log : List (Exchange Http.Call.Answer)}

/-- What a client does for a call is an attempt at it. -/
theorem attempt_of_perform {answer : c.Answer} (h : (b.perform c).Yields log answer) : Attempt b c log answer := by
  -- the calls differ in their requests and in how a response is read
  obtain ⟨method, url, payload, hrequest, hexchange⟩ : ∃ method url payload,
      b.requestFor? c = b.request? method url payload ∧
        b.perform c = (b.send method url payload >>= fun answer =>
          Program.Pass.ofResult (c.read answer.1 answer.2) : Wire c.Result).run := by
    cases c <;> exact ⟨_, _, _, rfl, rfl⟩
  rw [hexchange, Program.Pass.yields_bind] at h
  rcases h with ⟨failure, rfl, hsend⟩ | ⟨first, _, ⟨status, body⟩, rfl, hsend, rfl, rfl⟩
  · rcases send_cases hsend with ⟨rfl, heq⟩ | ⟨text, rfl, heq⟩ | ⟨request, outcome, hbuilt, rfl, heq⟩
    · cases heq
      exact .stopping
    · cases heq
      exact .unsendable text
    · have hasked := Attempt.asked request outcome (hrequest.trans hbuilt)
      rwa [← heq] at hasked
  · rw [List.append_nil]
    rcases send_cases hsend with ⟨-, heq⟩ | ⟨text, -, heq⟩ | ⟨request, outcome, hbuilt, rfl, heq⟩
    · cases heq
    · cases heq
    · have hasked := Attempt.asked request outcome (hrequest.trans hbuilt)
      rwa [← heq] at hasked

/-- An attempt asks for the signal right before it sends. -/
theorem Attempt.guarded {answer : c.Answer} (h : Attempt b c log answer) : Guarded log := by
  intro i request outcome hi
  cases h with
  | stopping => rcases i with - | i <;> simp at hi
  | unsendable text => rcases i with - | i <;> simp at hi
  | asked request' outcome' built =>
    rcases i with - | i
    · simp at hi
    · refine ⟨i, rfl, ?_⟩
      rcases i with - | i
      · rfl
      · simp at hi

/-- Whatever is said over HTTP, each request comes after the news that the operator is not stopping. -/
theorem guarded_of_carries {upper : List (Exchange Call.Answer)} (h : Carries b.perform log upper) :
    Guarded log := by
  induction h with
  | nil => exact guarded_nil
  | cons part lower e upper answers _ ih => exact (attempt_of_perform answers).guarded.append ih

/-- A call that is made after the signal sends nothing and is cancelled. -/
theorem cancelled_of_signalled {answer : c.Answer} (h : (b.perform c).Yields log answer)
    (hsignalled : Signalled 0 log) : log = [⟨.isStopping, true⟩] ∧ answer = .error .cancelled := by
  cases attempt_of_perform h with
  | stopping => exact ⟨rfl, rfl⟩
  | unsendable text => cases (hsignalled.told 0 false rfl).mpr (Nat.le_refl 0)
  | asked request outcome built => cases (hsignalled.told 0 false rfl).mpr (Nat.le_refl 0)

end Calls

/-! ## Answers to a lookup -/

/-- What the answer to a lookup says: that there is no record, or which records there are, of which the first one
counts. Any other answer says nothing. -/
inductive Finds : Http.Outcome → Option Record → Prop
  | missing (status : Http.Status) (body : List UInt8) (unknown : status.code = 404) :
      Finds (.response status body) none
  | listed (status : Http.Status) (body : List UInt8) (records : List Record)
      (success : status.isSuccess = true) (list : Record.listOfBody? body = some records) :
      Finds (.response status body) records.head?

/-- The reading of a response to a lookup finds what the response says. -/
theorem readLookup_eq_ok_iff {status : Http.Status} {body : List UInt8} {found : Option Record} :
    readLookup status body = .ok found ↔ Finds (.response status body) found := by
  constructor
  · intro h
    by_cases hmissing : isMissing status = true
    · rw [readLookup, if_pos hmissing, Except.ok.injEq] at h
      subst h
      exact .missing status body (of_decide_eq_true hmissing)
    · rw [readLookup, if_neg hmissing, readAnswer, statusFailure?] at h
      by_cases hsuccess : status.isSuccess = true
      · rw [if_pos hsuccess] at h
        cases hlist : Record.listOfBody? body with
        | none =>
          rw [hlist] at h
          cases h
        | some records =>
          rw [hlist] at h
          cases h
          exact .listed status body records hsuccess hlist
      · rw [if_neg hsuccess] at h
        cases h
  · rintro (⟨_, _, hunknown⟩ | ⟨_, _, records, hsuccess, hlist⟩)
    · exact if_pos (decide_eq_true hunknown)
    · have hmissing : ¬ isMissing status = true := by
        rw [isMissing_of_success hsuccess]
        exact Bool.false_ne_true
      rw [readLookup, if_neg hmissing, readAnswer, statusFailure?, if_pos hsuccess, hlist]
      rfl

/-- A lookup succeeds exactly with what the answer says. -/
theorem read_lookup_eq_ok_iff {request : Http.Request} {outcome : Http.Outcome} {found : Option Record} :
    ((received request outcome).bind fun answer => readLookup answer.1 answer.2) = .ok found ↔
      Finds outcome found := by
  cases outcome with
  | response status body => exact readLookup_eq_ok_iff
  | unreachable => exact ⟨fun h => (by cases h), fun h => (by cases h)⟩
  | timedOut => exact ⟨fun h => (by cases h), fun h => (by cases h)⟩
  | stopped => exact ⟨fun h => (by cases h), fun h => (by cases h)⟩

/-! ## Sessions -/

/-- How a session of one lookup goes on when it knows what there is: it is over, or one more call is made. -/
abbrev Plan (α : Type) := Option Record → α ⊕ Call

/-- A record that exists is replaced by the payload with its id, and without one the payload is created. -/
def synchronizing (payload : Payload) : Plan SyncOutcome
  | some record => .inr (.update record.id { payload with id := some record.id })
  | none => .inr (.create payload)

/-- A record that exists is deleted, and without one there is nothing to do. -/
def withdrawing : Plan DeleteOutcome
  | some record => .inr (.delete record.id)
  | none => .inl .alreadyGone

/-- The calls of a session of one lookup, and its result. A call that fails ends the session with its failure. -/
inductive Course {α : Type} (crossId : String) (plan : Plan α) :
    List (Exchange Call.Answer) → Except Failure α → Prop
  | failed (failure : Failure) : Course crossId plan [⟨.lookup crossId, .error failure⟩] (.error failure)
  | settled (found : Option Record) (a : α) (planned : plan found = .inl a) :
      Course crossId plan [⟨.lookup crossId, .ok found⟩] (.ok a)
  | wrote (found : Option Record) (c : Call) (answer : c.Answer) (r : Except Failure α)
      (planned : plan found = .inr c) (passed : ∀ failure, answer = .error failure → r = .error failure) :
      Course crossId plan [⟨.lookup crossId, .ok found⟩, ⟨c, answer⟩] r

/-- Whether a failure says that a request was not sent: the operator is stopping, or there is no address for the
request. -/
def IsUnsent (failure : Failure) : Prop := failure = .cancelled ∨ ∃ text, failure = .invalidUrl text

/-- The requests of a session of one lookup, with what came of each, and the result of the session. -/
inductive Sends {α : Type} (b : Backend) (crossId : String) (plan : Plan α) :
    List (Http.Request × Http.Outcome) → Except Failure α → Prop
  /-- Not even the lookup could be sent. -/
  | nothing (failure : Failure) (unsent : IsUnsent failure) : Sends b crossId plan [] (.error failure)
  /-- The answer to the lookup does not say what there is. -/
  | unanswered (lookup : Http.Request) (outcome : Http.Outcome) (failure : Failure)
      (built : b.requestFor? (.lookup crossId) = some lookup) (silent : ∀ found, ¬ Finds outcome found) :
      Sends b crossId plan [(lookup, outcome)] (.error failure)
  /-- The answer to the lookup says that nothing is to be done. -/
  | settled (lookup : Http.Request) (outcome : Http.Outcome) (found : Option Record) (a : α)
      (built : b.requestFor? (.lookup crossId) = some lookup) (finds : Finds outcome found)
      (planned : plan found = .inl a) : Sends b crossId plan [(lookup, outcome)] (.ok a)
  /-- The answer to the lookup says what is to be done, but the request for it could not be sent. -/
  | cut (lookup : Http.Request) (outcome : Http.Outcome) (found : Option Record) (c : Call) (failure : Failure)
      (built : b.requestFor? (.lookup crossId) = some lookup) (finds : Finds outcome found)
      (planned : plan found = .inr c) (unsent : IsUnsent failure) :
      Sends b crossId plan [(lookup, outcome)] (.error failure)
  /-- The answer to the lookup says what is to be done, and the request for it is sent. -/
  | wrote (lookup write : Http.Request) (outcome answer : Http.Outcome) (found : Option Record) (c : Call)
      (r : Except Failure α) (built : b.requestFor? (.lookup crossId) = some lookup) (finds : Finds outcome found)
      (planned : plan found = .inr c) (follows : b.requestFor? c = some write) :
      Sends b crossId plan [(lookup, outcome), (write, answer)] r

/-- The requests of a conversation, with what came of each. -/
def sent (log : List (Exchange Http.Call.Answer)) : List (Http.Request × Http.Outcome) :=
  log.filterMap fun
    | ⟨.send request, outcome⟩ => some (request, outcome)
    | ⟨.isStopping, _⟩ => none

/-- Whether a conversation and the result of its session heed the signal to stop, whenever it is given: no request
is begun after it, and whoever is told of it is cancelled. -/
structure Heeds {α : Type} (log : List (Exchange Http.Call.Answer)) (r : Except Failure α) : Prop where
  begun : ∀ moment, Signalled moment log → ∀ i request outcome,
    log[i]? = some ⟨.send request, outcome⟩ → i ≤ moment
  called : ∀ moment, Signalled moment log → ∀ i stopping,
    log[i]? = some ⟨.isStopping, stopping⟩ → moment ≤ i → r = .error .cancelled
  pending : ∀ request, ⟨.send request, .stopped⟩ ∈ log → r = .error .cancelled

section Sessions

variable {α : Type} {b : Backend} {c : Call} {crossId : String} {plan : Plan α} {r : Except Failure α}
  {lower : List (Exchange Http.Call.Answer)} {upper : List (Exchange Call.Answer)}

/-- A session that ends with its second call ends with what the call gives. -/
theorem Course.map (found : Option Record) (c : Call) (g : c.Result → α) (planned : plan found = .inr c)
    (answer : c.Answer) :
    Course crossId plan [⟨.lookup crossId, .ok found⟩, ⟨c, answer⟩] (Except.map g answer) := by
  refine .wrote found c answer _ planned fun failure heq => ?_
  rw [heq]
  rfl

/-- A synchronization is a session of one lookup, after which it replaces or creates. -/
theorem course_synchronize {payload : Payload} {r : Except Failure SyncOutcome}
    (h : (synchronize payload).run.Yields upper r) : Course payload.crossId (synchronizing payload) upper r := by
  obtain ⟨looked, rest, rfl, h⟩ := h
  match looked with
  | .error failure =>
    obtain ⟨rfl, rfl⟩ := h
    exact .failed failure
  | .ok none =>
    obtain ⟨created, rest, rfl, h⟩ := h
    obtain ⟨rfl, rfl⟩ : rest = [] ∧ r = created.map SyncOutcome.created := by cases created <;> exact h
    exact .map none (.create payload) SyncOutcome.created rfl created
  | .ok (some record) =>
    obtain ⟨updated, rest, rfl, h⟩ := h
    obtain ⟨rfl, rfl⟩ : rest = [] ∧ r = updated.map SyncOutcome.updated := by cases updated <;> exact h
    exact .map (some record) (.update record.id (payload.withId record.id)) SyncOutcome.updated rfl updated

/-- A withdrawal is a session of one lookup, after which it deletes or is done. -/
theorem course_withdraw {r : Except Failure DeleteOutcome} (h : (withdraw crossId).run.Yields upper r) :
    Course crossId withdrawing upper r := by
  obtain ⟨looked, rest, rfl, h⟩ := h
  match looked with
  | .error failure =>
    obtain ⟨rfl, rfl⟩ := h
    exact .failed failure
  | .ok none =>
    obtain ⟨rfl, rfl⟩ := h
    exact .settled none _ rfl
  | .ok (some record) =>
    obtain ⟨deleted, rest, rfl, h⟩ := h
    obtain ⟨rfl, rfl⟩ : rest = [] ∧ r = deleted.map fun _ => DeleteOutcome.deleted record.id := by
      cases deleted <;> exact h
    exact .map (some record) (.delete record.id) (fun _ => DeleteOutcome.deleted record.id) rfl deleted

/-- A session in which a call fails has the failure of the call. -/
theorem Course.fails (h : Course crossId plan upper r) {e : Exchange Call.Answer} (he : e ∈ upper)
    {failure : Failure} (hfailure : e.2 = .error failure) : r = .error failure := by
  cases h with
  | failed first =>
    obtain rfl := List.mem_singleton.mp he
    cases hfailure
    rfl
  | settled found a planned =>
    obtain rfl := List.mem_singleton.mp he
    cases hfailure
  | wrote found c answer r planned passed =>
    rcases List.mem_cons.mp he with rfl | he
    · cases hfailure
    · obtain rfl := List.mem_singleton.mp he
      exact passed failure hfailure

/-- A call sends its request, or it fails because it does not. -/
theorem Attempt.sent_cases {answer : c.Answer} (h : Attempt b c lower answer) :
    (∃ failure, answer = .error failure ∧ IsUnsent failure ∧ sent lower = []) ∨
      ∃ request outcome, b.requestFor? c = some request ∧ sent lower = [(request, outcome)] ∧
        answer = (received request outcome).bind fun response => c.read response.1 response.2 := by
  cases h with
  | stopping => exact .inl ⟨.cancelled, rfl, .inl rfl, rfl⟩
  | unsendable text => exact .inl ⟨.invalidUrl text, rfl, .inr ⟨text, rfl⟩, rfl⟩
  | asked request outcome built => exact .inr ⟨request, outcome, built, rfl, rfl⟩

/-- A lookup sends its request and gives what the answer to it says, or it fails because it does not. -/
theorem lookup_cases {answer : Except Failure (Option Record)}
    (h : (b.perform (.lookup crossId)).Yields lower answer) :
    (∃ failure, answer = .error failure ∧ IsUnsent failure ∧ sent lower = []) ∨
      ∃ request outcome, b.requestFor? (.lookup crossId) = some request ∧ sent lower = [(request, outcome)] ∧
        ∀ found, answer = .ok found ↔ Finds outcome found := by
  rcases (attempt_of_perform h).sent_cases with hunsent | ⟨request, outcome, hbuilt, hsent, rfl⟩
  · exact .inl hunsent
  · exact .inr ⟨request, outcome, hbuilt, hsent, fun found => read_lookup_eq_ok_iff⟩

/-- The requests of a conversation are those of its parts. -/
theorem sent_append (first second : List (Exchange Http.Call.Answer)) :
    sent (first ++ second) = sent first ++ sent second := List.filterMap_append

/-- A call is cancelled if it is told to stop. -/
theorem Attempt.cancelled {answer : c.Answer} (h : Attempt b c lower answer)
    (hstop : ⟨.isStopping, true⟩ ∈ lower ∨ ∃ request, ⟨.send request, .stopped⟩ ∈ lower) :
    answer = .error .cancelled := by
  cases h with
  | stopping => rfl
  | unsendable text => simp at hstop
  | asked request outcome built =>
    obtain rfl : outcome = .stopped := by
      rcases hstop with hstop | ⟨other, hstop⟩
      · simp at hstop
      · simp at hstop
        exact hstop.2.symm
    rfl

/-- What a session of one lookup sends follows from its calls. -/
theorem sends_of_course (hcourse : Course crossId plan upper r) (hcarries : Carries b.perform lower upper) :
    Sends b crossId plan (sent lower) r := by
  cases hcourse with
  | failed failure =>
    obtain ⟨part, rest, rfl, hlookup, hrest⟩ := hcarries.exists_append
    rw [hrest.eq_nil, List.append_nil]
    rcases lookup_cases hlookup with ⟨same, heq, hunsent, hsent⟩ | ⟨request, outcome, hbuilt, hsent, hfinds⟩
    · cases heq
      rw [hsent]
      exact .nothing failure hunsent
    · rw [hsent]
      refine .unanswered request outcome failure hbuilt fun found hfound => ?_
      cases (hfinds found).mpr hfound
  | settled found a planned =>
    obtain ⟨part, rest, rfl, hlookup, hrest⟩ := hcarries.exists_append
    rw [hrest.eq_nil, List.append_nil]
    rcases lookup_cases hlookup with ⟨_, heq, -, -⟩ | ⟨request, outcome, hbuilt, hsent, hfinds⟩
    · cases heq
    · rw [hsent]
      exact .settled request outcome found a hbuilt ((hfinds found).mp rfl) planned
  | wrote found c answer r planned passed =>
    obtain ⟨part, rest, rfl, hlookup, hrest⟩ := hcarries.exists_append
    obtain ⟨last, after, rfl, hwrite, hafter⟩ := hrest.exists_append
    rw [hafter.eq_nil, List.append_nil, sent_append]
    rcases lookup_cases hlookup with ⟨_, heq, -, -⟩ | ⟨request, outcome, hbuilt, hsent, hfinds⟩
    · cases heq
    have hfound : Finds outcome found := (hfinds found).mp rfl
    rw [hsent]
    rcases (attempt_of_perform hwrite).sent_cases with
      ⟨failure, heq, hunsent, hlast⟩ | ⟨write, result, hwritten, hlast, -⟩
    · rw [hlast, passed failure heq]
      exact .cut request outcome found c failure hbuilt hfound planned hunsent
    · rw [hlast]
      exact .wrote request write outcome result found c r hbuilt hfound planned hwritten

/-- A session of one lookup heeds the signal to stop. -/
theorem heeds_of_course (hcourse : Course crossId plan upper r) (hcarries : Carries b.perform lower upper) :
    Heeds lower r := by
  have hcancelled {x : Exchange Http.Call.Answer} (hx : x ∈ lower)
      (hstop : x = ⟨.isStopping, true⟩ ∨ ∃ request, x = ⟨.send request, .stopped⟩) : r = .error .cancelled := by
    obtain ⟨e, he, part, hpart, hxpart⟩ := hcarries.exists_upper hx
    refine hcourse.fails he ((attempt_of_perform hpart).cancelled ?_)
    rcases hstop with rfl | ⟨request, rfl⟩
    · exact .inl hxpart
    · exact .inr ⟨request, hxpart⟩
  refine ⟨fun moment hsignalled i request outcome hi => (guarded_of_carries hcarries).le_moment hsignalled hi,
    fun moment hsignalled i stopping hi hle => ?_, fun request hmem => hcancelled hmem (.inr ⟨request, rfl⟩)⟩
  obtain rfl : stopping = true := (hsignalled.told i stopping hi).mpr hle
  exact hcancelled (List.mem_of_getElem? hi) (.inl rfl)

/-- A session of one lookup sends what its plan says and heeds the signal to stop. -/
theorem sends_of_converse {session : Session α}
    (hsession : ∀ upper, session.run.Yields upper r → Course crossId plan upper r)
    (h : (b.converse session).Yields lower r) : Sends b crossId plan (sent lower) r ∧ Heeds lower r := by
  obtain ⟨upper, hupper, hcarries⟩ := Program.yields_interpret h
  exact ⟨sends_of_course (hsession upper hupper) hcarries, heeds_of_course (hsession upper hupper) hcarries⟩

end Sessions

/-- A session that converges or clears the backend sends a lookup, and then no more than what the answer to the
lookup calls for, whatever it is answered. Whenever the signal to stop is given, no request is begun after it, a
call that is made after it is cancelled, and a session that is cancelled is neither recorded as failed nor does it
release the finalizer. -/
theorem requests_follow_lookup (b : Backend) :
    (∀ payload log r, (b.converse (synchronize payload)).Yields log r →
      Sends b payload.crossId (synchronizing payload) (sent log) r ∧ Heeds log r ∧
        (r = .error .cancelled → ∀ previous crossId generation,
          (Reconcile.resolveSync previous crossId generation (r.mapError .management)).status.processingStatus ≠
            .failed)) ∧
      (∀ crossId log r, (b.converse (withdraw crossId)).Yields log r →
        Sends b crossId withdrawing (sent log) r ∧ Heeds log r ∧
          (r = .error .cancelled → (Reconcile.resolveDelete (r.mapError .management)).releases = false)) ∧
      ∀ c log answer, (b.perform c).Yields log answer → Signalled 0 log →
        log = [⟨.isStopping, true⟩] ∧ answer = .error .cancelled := by
  refine ⟨fun payload log r h => ?_, fun crossId log r h => ?_, fun c log answer => cancelled_of_signalled⟩
  · obtain ⟨hsends, hheeds⟩ := sends_of_converse (fun _ => course_synchronize) h
    refine ⟨hsends, hheeds, ?_⟩
    rintro rfl previous crossId generation
    exact fun hfailed => by cases hfailed
  · obtain ⟨hsends, hheeds⟩ := sends_of_converse (fun _ => course_withdraw) h
    refine ⟨hsends, hheeds, ?_⟩
    rintro rfl
    rfl

/-- A world that stops the operator after some exchanges, and until then gives every request the same answer. -/
def stoppingAfter (moment : Nat) (outcome : Http.Outcome) : (c : Http.Call) → Nat → c.Answer × Nat
  | .isStopping, n => (decide (moment ≤ n), n + 1)
  | .send _, n => (if moment ≤ n then .stopped else outcome, n + 1)

/-- A backend in the neighbourhood. -/
def nearby : Backend :=
  ⟨⟨.http, none, .name "apim".toList, none, ["apis".toList], none, none⟩, .bearer "t", ⟨1⟩⟩

/-- The answer that lists one record, with the status that is the default one. -/
def oneListed : Http.Outcome := .response default (Text.utf8 "[\x7b\"id\":\"a1\"\x7d]")

/-- A deletion whose operator is stopped after the lookup keeps the finalizer. -/
theorem stopped_deletion_not_released :
    (nearby.converse (withdraw "shop")).Yields
        ((nearby.converse (withdraw "shop")).conversation (stoppingAfter 2 oneListed) 0) (.error .cancelled) ∧
      (Reconcile.resolveDelete (.error (.management .cancelled))).releases = false := by
  have hcancelled :
      ((nearby.converse (withdraw "shop")).run (stoppingAfter 2 oneListed) 0).1 = .error .cancelled := by
    decide +kernel
  have hrun : (nearby.converse (withdraw "shop")).Yields
      ((nearby.converse (withdraw "shop")).conversation (stoppingAfter 2 oneListed) 0) (.error .cancelled) :=
    hcancelled ▸ Program.yields_conversation _ _
  exact ⟨hrun, ((requests_follow_lookup nearby).2.1 "shop" _ _ hrun).2.2 rfl⟩

end GatewayOperator.Management
