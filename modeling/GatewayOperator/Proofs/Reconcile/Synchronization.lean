import GatewayOperator.Proofs.Reconcile.ApiDefinition

/-!
# How a pass over a live definition goes

A pass over a live definition has three parts. It announces itself if there is news, it synchronizes the
backend, and it records and reports what came of that. The first part and the last one write the status, and
nothing else does. The part in between is the only one that talks to a backend. So the conversation of a pass
is known up to what the cluster and the backend say: an announcement or none, a synchronization, one more
status, and reports.
-/

set_option autoImplicit false

namespace GatewayOperator.Reconcile

open GatewayOperator.Resource GatewayOperator.Management
open Program (Exchange Asks)

/-! ## Sorts of calls -/

/-- Whether a call writes the status of a definition. -/
def IsStatusWrite : Call → Prop
  | .cluster (.writeStatus _ _ _ _) => True
  | _ => False

/-- Whether a call only tells or notes what happened: to users, in the metrics or in the books. -/
def IsReport : Call → Prop
  | .cluster (.publish _) => True
  | .countPass _ => True
  | .countFailure _ _ _ => True
  | .followUp _ _ => True
  | .settle _ => True
  | _ => False

/-- Whether a call follows up on a failure. -/
def IsFollowUp : Call → Prop
  | .followUp _ _ => True
  | _ => False

/-- Whether the cluster refuses to write a status or to tell something. -/
def IsRefusal : Exchange Call.Answer → Prop
  | ⟨.cluster (.writeStatus _ _ _ _), .error _⟩ => True
  | ⟨.cluster (.publish _), .error _⟩ => True
  | _ => False

/-- A report is not sent to the backend. -/
theorem IsReport.not_http {c : Call} (h : IsReport c) : ¬ IsHttp c := by
  intro hhttp
  cases c with
  | http c => exact h
  | _ => exact hhttp

/-- A report is not written to the status. -/
theorem IsReport.not_statusWrite {c : Call} (h : IsReport c) : ¬ IsStatusWrite c := by
  intro hwrite
  cases c with
  | cluster c => cases c <;> first | exact h | exact hwrite
  | _ => exact hwrite

/-- What lies before a call of a sort takes in everything up to which there is no call of the sort. -/
theorem exists_eq_append {sort : Call → Prop} {first rest before after : List (Exchange Call.Answer)}
    {e : Exchange Call.Answer} (h : first ++ rest = before ++ e :: after)
    (hfirst : ∀ x ∈ first, ¬ sort x.1) (he : sort e.1) :
    ∃ between, before = first ++ between ∧ rest = between ++ e :: after := by
  rcases List.append_eq_append_iff.mp h with ⟨between, hbefore, hrest⟩ | ⟨between, hfirst', hrest⟩
  · exact ⟨between, hbefore, hrest⟩
  · cases between with
    | nil =>
      refine ⟨[], ?_, ?_⟩
      · simpa using hfirst'.symm
      · simpa using hrest.symm
    | cons x more =>
      -- the call would be one of the first part
      obtain ⟨rfl, -⟩ := List.cons.inj hrest
      have hmem : e ∈ first := by
        rw [hfirst']
        simp
      exact absurd he (hfirst e hmem)

/-- How a controller is done with an object: there was no pass, or the pass under the finalizer succeeded and
that was all, or it failed and then there are reports and the choice of the follow-up. -/
theorem attended_reported_cases {controller : Controller} {m : Meta} {pass : String → Guarded Action}
    {log : List (Exchange Call.Answer)} {ending : Ending}
    (h : (attended controller m fun ns => reported controller m (pass ns)).Yields log ending) :
    (m.namespace = none ∧ log = [⟨.countPass controller.kindName, ()⟩] ∧ ending = .unscoped) ∨
      ∃ ns inner r after, m.namespace = some ns ∧ (pass ns).run.Yields inner r ∧
        log = ⟨.countPass controller.kindName, ()⟩ :: (inner ++ after) ∧ (∀ e ∈ after, IsReport e.1) ∧
        ((∃ action, r = .ok action ∧ after = [] ∧ ending = .acted action) ∨
          ((∃ failure, r = .error failure) ∧
            ∃ failure action, ⟨.followUp m.key failure, action⟩ ∈ after)) := by
  rcases attended_cases h with hunscoped | ⟨ns, rest, hns, hpass⟩
  · exact .inl hunscoped
  right
  rcases hpass with ⟨action, hok, rfl, rfl⟩ | ⟨failure, action, hfailed, rfl, rfl⟩
  · rcases reported_cases hok with ⟨_, hinner, heq⟩ | ⟨_, _, -, ⟨_, heq, -⟩ | ⟨heq, -⟩⟩
    · cases heq
      exact ⟨ns, rest, .ok action, [], hns, hinner, by simp, List.forall_mem_nil _,
        .inl ⟨action, rfl, rfl, rfl⟩⟩
    · cases heq
    · cases heq
  · rcases reported_cases hfailed with ⟨_, -, heq⟩ | ⟨inner, before, hinner, hreport⟩
    · cases heq
    · -- the report of the failure and the follow-up come after the pass
      have hreports : ∃ reports, rest = before ++ reports ∧ ∀ e ∈ reports, IsReport e.1 := by
        rcases hreport with ⟨_, -, rfl⟩ | ⟨-, rfl⟩
        · exact ⟨_, rfl, List.forall_mem_singleton.mpr trivial⟩
        · exact ⟨_, rfl, List.forall_mem_cons.mpr ⟨trivial, List.forall_mem_singleton.mpr trivial⟩⟩
      obtain ⟨reports, rfl, hreports⟩ := hreports
      refine ⟨ns, before, .error inner, reports ++ [⟨.followUp m.key failure, action⟩], hns, hinner,
        by simp, ?_, .inr ⟨⟨inner, rfl⟩, failure, action, by simp⟩⟩
      intro e he
      rcases List.mem_append.mp he with he | he
      · exact hreports e he
      · obtain rfl := List.mem_singleton.mp he
        trivial

/-- The only call of a sort in a conversation is told by its place. -/
theorem eq_of_only {sort : Call → Prop} {first last before after : List (Exchange Call.Answer)}
    {x e : Exchange Call.Answer} (h : first ++ x :: last = before ++ e :: after)
    (hfirst : ∀ y ∈ first, ¬ sort y.1) (hlast : ∀ y ∈ last, ¬ sort y.1) (he : sort e.1) :
    first = before ∧ x = e := by
  obtain ⟨between, rfl, hrest⟩ := exists_eq_append h hfirst he
  cases between with
  | nil =>
    obtain ⟨hx, -⟩ := List.cons.inj hrest
    exact ⟨(List.append_nil first).symm, hx⟩
  | cons y more =>
    obtain ⟨-, hmem⟩ := List.cons.inj hrest
    exact absurd he (hlast e (by simp [hmem]))

namespace Api

variable {settings : Settings} {api : ApiDefinition} {ns : String}
  {log : List (Exchange Call.Answer)}

/-! ## The parts of a pass -/

/-- The payload that a definition is published with. -/
def payload (api : ApiDefinition) : Payload := Payload.ofSpec api.spec (crossId api) none

/-- The call that announces a pass. -/
def announcing (ns : String) (api : ApiDefinition) : Cluster.Call :=
  .writeStatus ns api.metadata.anyName api.metadata.resourceVersion
    (announcement api.status (crossId api))

/-- What a pass decides on the result of its synchronization. -/
def decision (api : ApiDefinition) (result : Except PassFailure SyncOutcome) : SyncDecision :=
  resolveSync api.status (crossId api) api.metadata.generation result

/-- The call that records the result of a synchronization, given the version that the pass knows. -/
def recording (ns : String) (api : ApiDefinition) (version : Option String)
    (result : Except PassFailure SyncOutcome) : Cluster.Call :=
  .writeStatus ns api.metadata.anyName version (decision api result).status

/-- The last part of a pass over a live definition: to record, tell and follow up on the result. -/
def concluded (settings : Settings) (ns : String) (api : ApiDefinition) (version : Option String)
    (result : Except PassFailure SyncOutcome) : Pass Action := do
  let _ ← writeStatus ns api version (decision api result).status
  tell api (decision api result).notice
  match (decision api result).retry with
  | some failure =>
    ask (.countFailure Controller.apiDefinition.kindName api.metadata.anyName failure.label)
    ask (.followUp api.metadata.key failure)
  | none =>
    ask (.settle api.metadata.key)
    return .requeue settings.resync

/-- A pass over a live definition announces itself, synchronizes the backend and concludes. -/
theorem applied_eq (settings : Settings) (ns : String) (api : ApiDefinition) :
    applied settings ns api = (do
      let version ← announced ns api
      let result ← Program.Pass.attempt (synchronized settings api)
      concluded settings ns api version result) := rfl

/-- The first part of a pass that goes on, and the version of the definition that the pass knows then. -/
inductive Opening (ns : String) (api : ApiDefinition) :
    List (Exchange Call.Answer) → Option String → Prop
  | silent (quiet : announces api.status api.metadata.generation = false) :
      Opening ns api [] api.metadata.resourceVersion
  | announced (news : announces api.status api.metadata.generation = true) (version : Option String) :
      Opening ns api [⟨.cluster (announcing ns api), .ok version⟩] version

/-- With news the pass opens with its announcement. -/
theorem Opening.eq_of_news {first : List (Exchange Call.Answer)} {version : Option String}
    (h : Opening ns api first version) (hnews : announces api.status api.metadata.generation = true) :
    first = [⟨.cluster (announcing ns api), .ok version⟩] := by
  cases h with
  | silent quiet =>
    rw [hnews] at quiet
    cases quiet
  | announced _ _ => rfl

/-- Either the announcement is refused, or the pass is open. -/
theorem announced_cases {r : Except PassFailure (Option String)}
    (h : (announced ns api).run.Yields log r) :
    (announces api.status api.metadata.generation = true ∧ ∃ refusal,
      log = [⟨.cluster (announcing ns api), .error refusal⟩] ∧ r = .error (.kube refusal)) ∨
    ∃ version, Opening ns api log version ∧ r = .ok version := by
  unfold announced at h
  by_cases hnews : announces api.status api.metadata.generation = true
  · simp only [hnews, if_true] at h
    obtain ⟨answer, rfl, rfl⟩ := yields_cluster.mp h
    cases answer with
    | error refusal => exact .inl ⟨hnews, refusal, rfl, rfl⟩
    | ok version => exact .inr ⟨version, .announced hnews version, rfl⟩
  · simp only [hnews] at h
    obtain ⟨rfl, rfl⟩ := h
    exact .inr ⟨_, .silent (by simpa using hnews), rfl⟩

/-- A pass over a live definition: its announcement is refused, or it goes on to the synchronization, and
records what came of that. -/
theorem applied_cases {r : Except PassFailure Action} (h : (applied settings ns api).run.Yields log r) :
    (announces api.status api.metadata.generation = true ∧ ∃ refusal,
      log = [⟨.cluster (announcing ns api), .error refusal⟩] ∧ r = .error (.kube refusal)) ∨
    ∃ first version middle result last, Opening ns api first version ∧
      (synchronized settings api).run.Yields middle result ∧
      (concluded settings ns api version result).run.Yields last r ∧
      log = first ++ (middle ++ last) := by
  rw [applied_eq] at h
  rcases Program.Pass.yields_bind.mp h with ⟨e, rfl, hopen⟩ | ⟨first, rest, version, rfl, hopen, hrest⟩
  · rcases announced_cases hopen with ⟨hnews, refusal, hlog, heq⟩ | ⟨version, -, heq⟩
    · cases heq
      exact .inl ⟨hnews, refusal, hlog, rfl⟩
    · cases heq
  · right
    rcases announced_cases hopen with ⟨-, refusal, -, heq⟩ | ⟨_, hopening, heq⟩
    · cases heq
    cases heq
    rcases Program.Pass.yields_bind.mp hrest with
      ⟨e, -, hattempt⟩ | ⟨middle, last, result, rfl, hattempt, hlast⟩
    · -- an attempt does not fail
      obtain ⟨_, -, heq⟩ := Program.Pass.yields_attempt.mp hattempt
      cases heq
    · obtain ⟨_, hmiddle, heq⟩ := Program.Pass.yields_attempt.mp hattempt
      cases heq
      exact ⟨first, version, middle, result, last, hopening, hmiddle, hlast, rfl⟩

/-- Users cannot be told something only if the cluster refuses that. -/
theorem exists_refusal_of_tell {notice : Option Kube.Notice} {failure : PassFailure}
    (h : (tell api notice).run.Yields log (.error failure)) : ∃ e ∈ log, IsRefusal e := by
  cases notice with
  | none => cases h.2
  | some notice =>
    obtain ⟨answer, rfl, heq⟩ := yields_cluster.mp h
    cases answer with
    | ok u => cases heq
    | error refusal => exact ⟨_, List.mem_singleton_self _, trivial⟩

/-- The last part of a pass: the status is written first, and only reports come after it. The part fails because
the cluster refuses something, or the synchronization failed and there is a follow-up, or the record of a success
was accepted and there is none. -/
theorem concluded_cases {version : Option String} {result : Except PassFailure SyncOutcome}
    {r : Except PassFailure Action} (h : (concluded settings ns api version result).run.Yields log r) :
    ∃ answer after, log = ⟨.cluster (recording ns api version result), answer⟩ :: after ∧
      (∀ e ∈ after, IsReport e.1) ∧
      (((∃ failure, r = .error failure) ∧ ∃ e ∈ log, IsRefusal e) ∨
        ((∃ failure, result = .error failure) ∧ ∃ e ∈ after, IsFollowUp e.1) ∨
        ∃ outcome next action, result = .ok outcome ∧ answer = .ok next ∧ r = .ok action ∧
          ∀ e ∈ after, ¬ IsFollowUp e.1) := by
  rcases Program.Pass.yields_bind.mp h with ⟨e, rfl, hwrite⟩ | ⟨first, rest, next, rfl, hwrite, hrest⟩
  · obtain ⟨answer, rfl, heq⟩ := yields_cluster.mp hwrite
    cases answer with
    | ok _ => cases heq
    | error refusal =>
      exact ⟨.error refusal, [], rfl, List.forall_mem_nil _,
        .inl ⟨⟨e, rfl⟩, _, List.mem_singleton_self _, trivial⟩⟩
  obtain ⟨answer, rfl, heq⟩ := yields_cluster.mp hwrite
  cases answer with
  | error refusal => cases heq
  | ok _ =>
    cases heq
    refine ⟨.ok next, rest, rfl, ?_⟩
    have htell : (tell api (decision api result).notice).run.Asks fun c => IsReport c ∧ ¬ IsFollowUp c :=
      asks_tell fun _ => ⟨trivial, id⟩
    rcases Program.Pass.yields_bind.mp hrest with ⟨e, rfl, htold⟩ | ⟨told, last, _, rfl, htold, hlast⟩
    · obtain ⟨refused, hmem, hrefusal⟩ := exists_refusal_of_tell htold
      exact ⟨fun e he => (htell.of_mem htold e he).1,
        .inl ⟨⟨e, rfl⟩, refused, List.mem_cons_of_mem _ hmem, hrefusal⟩⟩
    · cases hretry : (decision api result).retry with
      | some failure =>
        simp only [hretry] at hlast
        obtain ⟨_, _, rfl, action, _, rfl, rfl, rfl⟩ := hlast
        refine ⟨?_, .inr (.inl ⟨?_, ⟨.followUp api.metadata.key failure, action⟩, by simp, trivial⟩)⟩
        · intro e he
          rcases List.mem_append.mp he with he | he
          · exact (htell.of_mem htold e he).1
          · simp only [List.mem_cons, List.not_mem_nil, or_false] at he
            rcases he with rfl | rfl <;> trivial
        · match result with
          | .error failure => exact ⟨failure, rfl⟩
          | .ok .localOnly => cases hretry
          | .ok (.created _) => cases hretry
          | .ok (.updated _) => cases hretry
      | none =>
        simp only [hretry] at hlast
        obtain ⟨_, _, rfl, rfl, rfl⟩ := hlast
        have hafter : ∀ e ∈ told ++ [⟨.settle api.metadata.key, ()⟩], IsReport e.1 ∧ ¬ IsFollowUp e.1 := by
          intro e he
          rcases List.mem_append.mp he with he | he
          · exact htell.of_mem htold e he
          · obtain rfl := List.mem_singleton.mp he
            exact ⟨trivial, id⟩
        refine ⟨fun e he => (hafter e he).1, .inr (.inr ?_)⟩
        cases result with
        | error failure => cases hretry
        | ok outcome => exact ⟨outcome, next, _, rfl, rfl, rfl, fun e he => (hafter e he).2⟩

/-! ## Contexts and backends -/

/-- Either the context is not found and the pass fails, or it is. -/
theorem context?_cases {key : Key} (hkey : contextKey api = some key)
    {result : Except PassFailure (Option ManagementContext)}
    (h : (context? api).run.Yields log result) :
    ∃ answer, log = [⟨.cluster (.context key.1 key.2), answer⟩] ∧
      (((∀ context, answer ≠ .ok (some context)) ∧ ∃ failure, result = .error failure) ∨
        ∃ context, answer = .ok (some context) ∧ result = .ok (some context)) := by
  unfold context? at h
  rw [hkey] at h
  rcases Program.Pass.yields_bind.mp h with ⟨failure, rfl, hlookup⟩ | ⟨_, _, found, rfl, hlookup, hrest⟩
  · obtain ⟨answer, rfl, heq⟩ := yields_cluster.mp hlookup
    cases answer with
    | ok found => cases heq
    | error refusal => exact ⟨.error refusal, rfl, .inl ⟨by simp, failure, rfl⟩⟩
  · obtain ⟨answer, rfl, heq⟩ := yields_cluster.mp hlookup
    cases answer with
    | error refusal => cases heq
    | ok found =>
      cases heq
      cases found with
      | none =>
        obtain ⟨rfl, rfl⟩ := hrest
        exact ⟨.ok none, rfl, .inl ⟨by simp, _, rfl⟩⟩
      | some context =>
        obtain ⟨rfl, rfl⟩ := hrest
        exact ⟨_, rfl, .inr ⟨context, rfl, rfl⟩⟩

/-- A session with the backend of a context: the backend is not reached, or the session is held over HTTP, and
nothing else is. -/
theorem session_cases {α : Type} {context : ManagementContext} {operation : String} {session : Session α}
    {result : Except PassFailure α}
    (h : (do converse (← backend settings context) operation session : Pass α).run.Yields log result) :
    (∃ failure, (backend settings context).run.Yields log (.error failure) ∧ result = .error failure ∧
        ∀ e ∈ log, ¬ IsHttp e.1) ∨
      ∃ (b : Backend) (before after : List (Exchange Call.Answer)) (wire : List (Exchange Http.Call.Answer))
          (r : Except Failure α),
        log = before ++ (wire.map (fun e => ⟨.http e.1, e.2⟩) ++ after) ∧
        (∀ e ∈ before, ¬ IsHttp e.1) ∧ (∀ e ∈ after, ¬ IsHttp e.1) ∧
        (backend settings context).run.Yields before (.ok b) ∧
        (b.converse session).Yields wire r ∧ result = r.mapError .management := by
  have hquiet : (backend settings context).run.Asks fun c => ¬ IsHttp c := asks_backend fun _ _ h => h
  rcases Program.Pass.yields_bind.mp h with ⟨failure, rfl, hreached⟩ | ⟨before, _, b, rfl, hreached, hheld⟩
  · exact .inl ⟨failure, hreached, rfl, hquiet.of_mem hreached⟩
  · obtain ⟨wire, r, hwire, rfl, rfl⟩ := converse_cases hheld
    exact .inr ⟨b, before, _, wire, r, rfl, hquiet.of_mem hreached, List.forall_mem_singleton.mpr id,
      hreached, hwire, rfl⟩

/-- A synchronization with a context looks for it, and then holds its session with the backend. -/
theorem synchronized_cases {key : Key} (hkey : contextKey api = some key)
    {result : Except PassFailure SyncOutcome} (h : (synchronized settings api).run.Yields log result) :
    ∃ answer rest, log = ⟨.cluster (.context key.1 key.2), answer⟩ :: rest ∧
      ((rest = [] ∧ (∀ context, answer ≠ .ok (some context)) ∧ ∃ failure, result = .error failure) ∨
        ∃ context, answer = .ok (some context) ∧
          (do converse (← backend settings context) "sync" (synchronize (payload api)) :
            Pass SyncOutcome).run.Yields rest result) := by
  rcases Program.Pass.yields_bind.mp h with ⟨failure, rfl, hfound⟩ | ⟨_, rest, found, rfl, hfound, hrest⟩
  · obtain ⟨answer, rfl, ⟨hmissing, -⟩ | ⟨_, -, heq⟩⟩ := context?_cases hkey hfound
    · exact ⟨answer, [], rfl, .inl ⟨rfl, hmissing, failure, rfl⟩⟩
    · cases heq
  · obtain ⟨answer, rfl, ⟨-, _, heq⟩ | ⟨context, rfl, heq⟩⟩ := context?_cases hkey hfound
    · cases heq
    · cases heq
      exact ⟨_, rest, rfl, .inr ⟨context, rfl, hrest⟩⟩

/-- A withdrawal with a context looks for it, and then holds its session with the backend. -/
theorem withdrawn_cases {key : Key} (hkey : contextKey api = some key)
    {result : Except PassFailure DeleteOutcome} (h : (withdrawn settings api).run.Yields log result) :
    ∃ answer rest, log = ⟨.cluster (.context key.1 key.2), answer⟩ :: rest ∧
      ((rest = [] ∧ (∀ context, answer ≠ .ok (some context)) ∧
          ((∃ failure, result = .error failure) ∨ result = .ok .notPublished)) ∨
        ∃ context, answer = .ok (some context) ∧
          (do converse (← backend settings context) "delete" (withdraw (crossId api)) :
            Pass DeleteOutcome).run.Yields rest result) := by
  rcases Program.Pass.yields_bind.mp h with ⟨_, -, hfound⟩ | ⟨_, rest, found, rfl, hfound, hrest⟩
  · -- an attempt does not fail
    obtain ⟨_, -, heq⟩ := Program.Pass.yields_attempt.mp hfound
    cases heq
  · obtain ⟨_, hfound, heq⟩ := Program.Pass.yields_attempt.mp hfound
    cases heq
    obtain ⟨answer, rfl, ⟨hnone, failure, rfl⟩ | ⟨context, rfl, rfl⟩⟩ := context?_cases hkey hfound
    · refine ⟨answer, rest, rfl, .inl ?_⟩
      simp only at hrest
      cases hmissing : isContextMissing failure with
      | true =>
        simp only [hmissing, if_true] at hrest
        exact ⟨hrest.1, hnone, .inr hrest.2⟩
      | false =>
        simp only [hmissing] at hrest
        exact ⟨hrest.1, hnone, .inl ⟨failure, hrest.2⟩⟩
    · exact ⟨_, rest, rfl, .inr ⟨context, rfl, hrest⟩⟩

/-! ## Whole passes -/

/-- The first thing of every pass: it is counted. -/
def counted : Exchange Call.Answer := ⟨.countPass Controller.apiDefinition.kindName, ()⟩

/-- How the controller is done with a definition that is to be applied. Without a namespace there is no pass. With
news the pass fails if its announcement is refused. Otherwise it synchronizes the backend and records the result.
It follows up on a failure of that or a refusal of the cluster, or a success was recorded. -/
theorem attend_cases (hstage : Stage.of Controller.apiDefinition.finalizer api.metadata = .apply)
    {ending : Ending} (h : (attend settings api).Yields log ending) :
    (api.metadata.namespace = none ∧ log = [counted]) ∨
      (announces api.status api.metadata.generation = true ∧ ∃ ns refusal after,
        log = counted :: ⟨.cluster (announcing ns api), .error refusal⟩ :: after ∧
          (∀ e ∈ after, IsReport e.1) ∧ ∃ e ∈ after, IsFollowUp e.1) ∨
      ∃ ns first version middle result answer after, api.metadata.namespace = some ns ∧
        Opening ns api first version ∧ (synchronized settings api).run.Yields middle result ∧
        log = counted :: (first ++ (middle ++ ⟨.cluster (recording ns api version result), answer⟩ :: after)) ∧
        (∀ e ∈ after, IsReport e.1) ∧
        (((∃ e ∈ after, IsFollowUp e.1) ∧ ((∃ failure, result = .error failure) ∨ ∃ e ∈ log, IsRefusal e)) ∨
          ∃ outcome next, result = .ok outcome ∧ answer = .ok next ∧
            ∀ e ∈ after, ¬ IsFollowUp e.1) := by
  rcases attended_reported_cases h with
    ⟨hnone, hlog, -⟩ | ⟨ns, inner, r, reports, hns, hinner, hlog, hreports, hend⟩
  · exact .inl ⟨hnone, hlog⟩
  right
  obtain ⟨result, happlied, rfl⟩ := apply_cases hstage hinner
  have hfollowUp : (∃ failure, result = .error failure) → ∃ e ∈ reports, IsFollowUp e.1 := by
    rintro ⟨failure, rfl⟩
    rcases hend with ⟨action, heq, -⟩ | ⟨-, failure, action, hmem⟩
    · cases heq
    · exact ⟨_, hmem, trivial⟩
  rcases applied_cases happlied with
    ⟨hnews, refusal, rfl, rfl⟩ | ⟨first, version, middle, result, last, hopen, hmiddle, hlast, rfl⟩
  · exact .inl ⟨hnews, ns, refusal, reports, hlog, hreports, hfollowUp ⟨_, rfl⟩⟩
  right
  obtain ⟨answer, after, rfl, hafter, hconcluded⟩ := concluded_cases hlast
  refine ⟨ns, first, version, middle, result, answer, after ++ reports, hns, hopen, hmiddle, ?_, ?_, ?_⟩
  · rw [hlog]
    simp [counted]
  · intro e he
    rcases List.mem_append.mp he with he | he
    · exact hafter e he
    · exact hreports e he
  · rcases hconcluded with
      ⟨hfailed, x, hx, hrefusal⟩ | ⟨hfailed, e, he, hfollow⟩ | ⟨outcome, next, action, rfl, rfl, rfl, hdone⟩
    · obtain ⟨e, he, hfollow⟩ := hfollowUp hfailed
      have hmem : x ∈ log := by
        rw [hlog]
        exact List.mem_cons_of_mem _ (List.mem_append_left reports
          (List.mem_append_right first (List.mem_append_right middle hx)))
      exact .inl ⟨⟨e, List.mem_append_right after he, hfollow⟩, .inr ⟨x, hmem, hrefusal⟩⟩
    · exact .inl ⟨⟨e, List.mem_append_left reports he, hfollow⟩, .inl hfailed⟩
    · -- a pass that succeeds is not reported on
      rcases hend with ⟨_, -, rfl, -⟩ | ⟨⟨_, heq⟩, -⟩
      · exact .inr ⟨outcome, next, rfl, rfl, by simpa using hdone⟩
      · cases heq

/-- How the controller is done with a definition that is to be cleaned up: there is only something to report,
because it has no namespace or no name, or there is a withdrawal, and nothing else is asked of a backend. -/
theorem attend_cases_of_heldUp (hheld : HeldUp .apiDefinition api.metadata) {ending : Ending}
    (h : (attend settings api).Yields log ending) :
    ((api.metadata.namespace = none ∨ api.metadata.name = none) ∧
        ∃ after, log = counted :: after ∧ ∀ e ∈ after, IsReport e.1) ∨
      ∃ middle result after, log = counted :: (middle ++ after) ∧
        (withdrawn settings api).run.Yields middle result ∧ ∀ e ∈ after, ¬ IsHttp e.1 := by
  obtain ⟨index, hstage⟩ := hheld.stage
  have hwithdrawn {w : List (Exchange Call.Answer)} {done : Except PassFailure Action}
      (hw : (cleanedUp settings api).run.Yields w done) {rest : List (Exchange Call.Answer)}
      (hlog : log = counted :: (w ++ rest)) (hrest : ∀ e ∈ rest, ¬ IsHttp e.1) :
      ∃ middle result after, log = counted :: (middle ++ after) ∧
        (withdrawn settings api).run.Yields middle result ∧ ∀ e ∈ after, ¬ IsHttp e.1 := by
    obtain ⟨middle, after, result, hmiddle, rfl, hafter, -⟩ := cleanedUp_cases hw
    refine ⟨middle, result, after ++ rest, ?_, hmiddle, ?_⟩
    · rw [hlog]
      simp
    · intro e he
      rcases List.mem_append.mp he with he | he
      · exact hafter e he
      · exact hrest e he
  rcases attended_reported_cases h with
    ⟨hnone, hlog, -⟩ | ⟨ns, inner, r, reports, -, hinner, hlog, hreports, -⟩
  · exact .inl ⟨.inl hnone, [], hlog, List.forall_mem_nil _⟩
  have hquiet : ∀ e ∈ reports, ¬ IsHttp e.1 := fun e he => (hreports e he).not_http
  rcases cleanUp_cases hstage hinner with
    ⟨hnone, rfl, -⟩ | ⟨failure, hcleanedUp, -⟩ | ⟨name, action, before, answer, -, hcleanedUp, rfl, -⟩
  · exact .inl ⟨.inr hnone, reports, hlog, hreports⟩
  · exact .inr (hwithdrawn hcleanedUp hlog hquiet)
  · have hrest : ∀ e ∈ ⟨removal .apiDefinition ns name index, answer⟩ :: reports, ¬ IsHttp e.1 :=
      List.forall_mem_cons.mpr ⟨id, hquiet⟩
    refine .inr (hwithdrawn hcleanedUp ?_ hrest)
    rw [hlog, List.append_assoc]
    rfl

section Asks

variable {sort : Call → Prop}

/-- A synchronization looks for context and secret, sends requests and counts them. -/
theorem asks_synchronized (hcontext : ∀ ns name, sort (.cluster (.context ns name)))
    (hsecret : ∀ ns name, sort (.cluster (.secret ns name)))
    (hhttp : ∀ b : Backend, (b.converse (synchronize (payload api))).Asks fun c => sort (.http c))
    (hcount : ∀ failed, sort (.countRequest "sync" failed)) :
    (synchronized settings api).run.Asks sort := by
  refine Program.Pass.asks_bind (asks_context? hcontext) fun found => ?_
  cases found with
  | none => trivial
  | some context =>
    exact Program.Pass.asks_bind (asks_backend hsecret) fun b => asks_converse (hhttp b) hcount

/-- An announcement writes the status, nothing else. -/
theorem asks_announced (hwrite : ∀ ns name version status, sort (.cluster (.writeStatus ns name version status))) :
    (announced ns api).run.Asks sort := by
  unfold announced
  cases announces api.status api.metadata.generation with
  | true => exact asks_cluster (hwrite _ _ _ _)
  | false => trivial

/-- To conclude is to write the status, to tell, to count and to book. -/
theorem asks_concluded {version : Option String} {result : Except PassFailure SyncOutcome}
    (hwrite : ∀ ns name version status, sort (.cluster (.writeStatus ns name version status)))
    (hpublish : ∀ event, sort (.cluster (.publish event)))
    (hcount : ∀ kind object cause, sort (.countFailure kind object cause))
    (hfollowUp : ∀ key failure, sort (.followUp key failure)) (hsettle : ∀ key, sort (.settle key)) :
    (concluded settings ns api version result).run.Asks sort := by
  refine Program.Pass.asks_bind (asks_cluster (hwrite _ _ _ _)) fun _ => ?_
  refine Program.Pass.asks_bind (asks_tell hpublish) fun _ => ?_
  cases (decision api result).retry with
  | some failure =>
    exact Program.Pass.asks_bind (asks_ask (hcount _ _ _)) fun _ => asks_ask (hfollowUp _ _)
  | none => exact Program.Pass.asks_bind (asks_ask (hsettle _)) fun _ => trivial

/-- The calls whose HTTP calls are of a sort. -/
def OverHttp (sort : Http.Call → Prop) : Call → Prop
  | .http c => sort c
  | _ => True

/-- What a pass asks of a backend is what the stage of the definition calls for. -/
theorem asks_attend {sort : Http.Call → Prop}
    (hsync : Stage.of Controller.apiDefinition.finalizer api.metadata = .apply →
      ∀ b : Backend, (b.converse (synchronize (payload api))).Asks sort)
    (hwithdraw : ∀ index, Stage.of Controller.apiDefinition.finalizer api.metadata = .cleanUp index →
      ∀ b : Backend, (b.converse (withdraw (crossId api))).Asks sort) :
    (attend settings api).Asks (OverHttp sort) := by
  refine asks_attended (fun ns => ?_) (fun _ => trivial) (fun _ _ => trivial)
  refine asks_reported (asks_guarded (fun _ _ => trivial) ?_ ?_) (fun _ => trivial)
    (fun _ _ _ => trivial)
  · intro hstage
    have hsynchronized : (synchronized settings api).run.Asks (OverHttp sort) :=
      asks_synchronized (fun _ _ => trivial) (fun _ _ => trivial) (hsync hstage) (fun _ => trivial)
    rw [applied_eq]
    refine Program.Pass.asks_bind (asks_announced fun _ _ _ _ => trivial) fun version => ?_
    refine Program.Pass.asks_bind (Program.Pass.asks_attempt hsynchronized) fun result => ?_
    exact asks_concluded (fun _ _ _ _ => trivial) (fun _ => trivial) (fun _ _ _ => trivial)
      (fun _ _ => trivial) fun _ => trivial
  · intro index hstage
    exact asks_cleanedUp (fun _ _ => trivial) (fun _ _ => trivial) (hwithdraw index hstage)
      (fun _ => trivial) (fun _ => trivial) (fun _ => trivial)

/-- A definition without the finalizer asks nothing of a backend. -/
theorem asks_attend_of_not_hasFinalizer
    (h : api.metadata.hasFinalizer Controller.apiDefinition.finalizer = false) :
    (attend settings api).Asks (OverHttp fun _ => False) := by
  have hstage := stage_of_not_hasFinalizer h
  refine asks_attend ?_ ?_
  · intro happly
    rw [happly] at hstage
    simp at hstage
  · intro index hcleanUp
    rw [hcleanUp] at hstage
    simp at hstage

end Asks

/-- The synchronization of the backend asks nothing of a sort that takes in none of its calls: readings of contexts
and secrets, requests, and the count of these. -/
theorem not_of_synchronized {sort : Call → Prop} {result : Except PassFailure SyncOutcome}
    (h : (synchronized settings api).run.Yields log result)
    (hcontext : ∀ ns name, ¬ sort (.cluster (.context ns name)))
    (hsecret : ∀ ns name, ¬ sort (.cluster (.secret ns name))) (hhttp : ∀ c, ¬ sort (.http c))
    (hcount : ∀ failed, ¬ sort (.countRequest "sync" failed)) : ∀ e ∈ log, ¬ sort e.1 := by
  have hasks : (synchronized settings api).run.Asks fun c => ¬ sort c :=
    asks_synchronized hcontext hsecret (fun _ => Program.asks_of_forall hhttp _) hcount
  exact hasks.of_mem h

/-! ## Status writes -/

/-- Only a definition that is to be applied has its status written. -/
theorem stage_of_statusWrite {ending : Ending} (h : (attend settings api).Yields log ending)
    {e : Exchange Call.Answer} (he : e ∈ log) (hwrite : IsStatusWrite e.1) :
    Stage.of Controller.apiDefinition.finalizer api.metadata = .apply := by
  refine Decidable.byContradiction fun hstage => ?_
  have hcleanedUp : (cleanedUp settings api).run.Asks fun c => ¬ IsStatusWrite c :=
    asks_cleanedUp (fun _ _ h => h) (fun _ _ h => h)
      (fun _ => Program.asks_of_forall (fun _ h => h) _) (fun _ h => h) (fun _ h => h) (fun _ h => h)
  have hasks : (attend settings api).Asks fun c => ¬ IsStatusWrite c := by
    refine asks_attended (fun ns => ?_) (fun _ h => h) (fun _ _ h => h)
    refine asks_reported ?_ (fun _ h => h) (fun _ _ _ h => h)
    exact asks_guarded (fun _ _ h => h) (fun h => absurd h hstage) fun _ _ => hcleanedUp
  exact hasks.of_mem h e he hwrite

/-- A status write of a pass is its announcement, before which nothing is asked, or the record of its result,
before which there are an announcement if there is news, and the synchronization. -/
theorem statusWrite_cases {before after : List (Exchange Call.Answer)} {ns name : String}
    {version : Option String} {status : ApiStatus} {answer : Except Kube.Failure (Option String)}
    {ending : Ending}
    (h : (attend settings api).Yields
      (before ++ ⟨.cluster (.writeStatus ns name version status), answer⟩ :: after) ending) :
    (announces api.status api.metadata.generation = true ∧ before = [counted] ∧
        version = api.metadata.resourceVersion ∧ status = announcement api.status (crossId api)) ∨
      ∃ ns first middle result, Opening ns api first version ∧
        (synchronized settings api).run.Yields middle result ∧
        before = counted :: (first ++ middle) ∧ status = (decision api result).status := by
  have hwrite : IsStatusWrite (.cluster (.writeStatus ns name version status)) := trivial
  have hcounted : ∀ e ∈ [counted], ¬ IsStatusWrite e.1 := List.forall_mem_singleton.mpr id
  have hstage := stage_of_statusWrite h
    (e := ⟨.cluster (.writeStatus ns name version status), answer⟩) (by simp) hwrite
  rcases attend_cases hstage h with
    ⟨-, hlog⟩ | ⟨hnews, own, refusal, reports, hlog, hreports, -⟩ |
      ⟨own, first, known, middle, result, answer', reports, -, hopen, hmiddle, hlog, hreports, -⟩
  · -- nothing but the count
    have hsplit : [counted] ++ [] =
        before ++ ⟨.cluster (.writeStatus ns name version status), answer⟩ :: after := hlog.symm
    obtain ⟨between, -, hrest⟩ := exists_eq_append hsplit hcounted hwrite
    simp at hrest
  · left
    have hsplit : [counted] ++ ⟨.cluster (announcing own api), .error refusal⟩ :: reports =
        before ++ ⟨.cluster (.writeStatus ns name version status), answer⟩ :: after := hlog.symm
    obtain ⟨rfl, hcall⟩ :=
      eq_of_only hsplit hcounted (fun e he => (hreports e he).not_statusWrite) hwrite
    cases hcall
    exact ⟨hnews, rfl, rfl, rfl⟩
  have hreports : ∀ e ∈ reports, ¬ IsStatusWrite e.1 := fun e he => (hreports e he).not_statusWrite
  have hquiet : ∀ e ∈ middle, ¬ IsStatusWrite e.1 :=
    not_of_synchronized hmiddle (fun _ _ => id) (fun _ _ => id) (fun _ => id) fun _ => id
  cases hopen with
  | silent quiet =>
    right
    have hsplit : (counted :: middle) ++ ⟨.cluster (recording own api _ result), answer'⟩ :: reports =
        before ++ ⟨.cluster (.writeStatus ns name version status), answer⟩ :: after := hlog.symm
    obtain ⟨rfl, hcall⟩ := eq_of_only hsplit (List.forall_mem_cons.mpr ⟨id, hquiet⟩) hreports hwrite
    cases hcall
    exact ⟨ns, [], middle, result, .silent quiet, hmiddle, rfl, rfl⟩
  | announced news known =>
    have hsplit : [counted] ++ ⟨.cluster (announcing own api), .ok known⟩ ::
        (middle ++ ⟨.cluster (recording own api known result), answer'⟩ :: reports) =
        before ++ ⟨.cluster (.writeStatus ns name version status), answer⟩ :: after := hlog.symm
    obtain ⟨between, rfl, hrest⟩ := exists_eq_append hsplit hcounted hwrite
    cases between with
    | nil =>
      left
      obtain ⟨hcall, -⟩ := List.cons.inj hrest
      cases hcall
      exact ⟨news, rfl, rfl, rfl⟩
    | cons x between =>
      right
      obtain ⟨rfl, htail⟩ := List.cons.inj hrest
      obtain ⟨rfl, hcall⟩ := eq_of_only (e := ⟨.cluster (.writeStatus ns name version status), answer⟩)
        htail hquiet hreports hwrite
      cases hcall
      exact ⟨ns, _, middle, result, .announced news version, hmiddle, by simp, rfl⟩

/-! ## What a pass knows -/

/-- What a pass knows of the definition: its version and its status. -/
abbrev Known := Option String × Option ApiStatus

/-- What a pass knows after an answer: a status write that was accepted gives the version of what was written. -/
def note : Known → Exchange Call.Answer → Known
  | _, ⟨.cluster (.writeStatus _ _ _ status), .ok version⟩ => (version, some status)
  | known, _ => known

/-- What a pass knows that had read a definition. -/
def known (api : ApiDefinition) (log : List (Exchange Call.Answer)) : Known :=
  log.foldl note (api.metadata.resourceVersion, api.status)

/-- A pass learns only from status writes. -/
theorem note_of_not_statusWrite (k : Known) {e : Exchange Call.Answer} (h : ¬ IsStatusWrite e.1) :
    note k e = k := by
  obtain ⟨c, answer⟩ := e
  cases c with
  | cluster c =>
    cases c with
    | writeStatus ns name version status => exact absurd trivial h
    | _ => rfl
  | _ => rfl

/-- Without status writes a pass knows what it knew. -/
theorem foldl_note_of_not_statusWrite (k : Known) {log : List (Exchange Call.Answer)}
    (h : ∀ e ∈ log, ¬ IsStatusWrite e.1) : log.foldl note k = k := by
  induction log with
  | nil => rfl
  | cons e log ih =>
    obtain ⟨he, hlog⟩ := List.forall_mem_cons.mp h
    rw [List.foldl_cons, note_of_not_statusWrite k he, ih hlog]

/-- A pass knows the last status that it has written. -/
theorem known_of_last {before after : List (Exchange Call.Answer)} {name : String}
    {version next : Option String} {status : ApiStatus} (hafter : ∀ e ∈ after, ¬ IsStatusWrite e.1) :
    known api (before ++ ⟨.cluster (.writeStatus ns name version status), .ok next⟩ :: after) =
      (next, some status) := by
  unfold known
  rw [List.foldl_append, List.foldl_cons]
  exact foldl_note_of_not_statusWrite _ hafter

/-- What a pass knows is what it knew before the last answer, and what it learns from that. -/
theorem known_snoc (api : ApiDefinition) (log : List (Exchange Call.Answer)) (e : Exchange Call.Answer) :
    known api (log ++ [e]) = note (known api log) e := by
  simp [known]

/-- At first a pass knows what it has read. -/
theorem known_counted (api : ApiDefinition) :
    known api [counted] = (api.metadata.resourceVersion, api.status) := rfl

/-- When a pass is about to record its result, it knows the version that it names and the id that was recorded
before. -/
theorem known_of_opening {first middle : List (Exchange Call.Answer)} {version : Option String}
    {result : Except PassFailure SyncOutcome} (hopen : Opening ns api first version)
    (hmiddle : (synchronized settings api).run.Yields middle result) :
    (known api (counted :: (first ++ middle))).1 = version ∧
      (known api (counted :: (first ++ middle))).2.bind (·.id) = api.status.bind (·.id) := by
  have hquiet : ∀ e ∈ middle, ¬ IsStatusWrite e.1 :=
    not_of_synchronized hmiddle (fun _ _ => id) (fun _ _ => id) (fun _ => id) fun _ => id
  have hfold (k : Known) : middle.foldl note k = k := foldl_note_of_not_statusWrite k hquiet
  cases hopen with
  | silent quiet =>
    simp [known, hfold, note, counted]
  | announced news version =>
    simp [known, hfold, note, counted, announcing, announcement]

end Api

end GatewayOperator.Reconcile
