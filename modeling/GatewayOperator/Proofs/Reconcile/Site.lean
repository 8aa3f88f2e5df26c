import GatewayOperator.Proofs.Management.Lawful
import GatewayOperator.Proofs.Reconcile.Lifecycle

/-!
# Passes at a site

A site is what the passes over the definitions of one context work on: the surroundings, and in them the records
of the backend that the context leads to. If the backend is lawful, then what a pass makes of the records is what
its session with the backend makes of them, because nothing else in the pass sends a request. If nothing is
missing and nothing is refused, then the pass succeeds as its session does.
-/

set_option autoImplicit false

namespace GatewayOperator.Reconcile

open GatewayOperator.Resource GatewayOperator.Management
open Program (Exchange Asks Follows Carries)

/-- What the passes over the definitions of a context work on. -/
structure Site (σ : Type) where
  settings : Settings
  around : Surroundings σ
  context : Key
  /-- The records of the backend that the context leads to. -/
  store : σ → Store

/-- A pass: the definition as it was read, and the surroundings and the books before. -/
structure Visit (σ : Type) where
  api : ApiDefinition
  state : σ
  books : Backoff

namespace Site

variable {σ : Type} (site : Site σ)

/-- All that is asked and answered in a pass. -/
def log (v : Visit σ) : List (Exchange Call.Answer) :=
  site.around.log (Api.attend site.settings v.api) v.state v.books

/-- The surroundings after a pass. -/
def left (v : Visit σ) : σ := site.around.after (Api.attend site.settings v.api) v.state v.books

/-- The status on record after a pass, if nobody else writes it. -/
def recorded (v : Visit σ) : Option ApiStatus := (Api.known v.api (site.log v)).2

/-- Whether a pass leaves no failure to follow up on. -/
def Succeeds (v : Visit σ) : Prop := ∀ e ∈ site.log v, ¬ IsFollowUp e.1

/-- Whether the clean-up of a pass found that the record is gone, or deleted it. -/
def Clears (v : Visit σ) : Prop :=
  HeldUp .apiDefinition v.api.metadata ∧ ∃ middle rest outcome,
    site.log v = Api.counted :: (middle ++ rest) ∧
      (Api.withdrawn site.settings v.api).run.Yields middle (.ok outcome) ∧ outcome ≠ .notPublished

/-- Whether the context can be found to be this one. -/
def Finds (found : ManagementContext) : Prop :=
  ∃ s, (site.around.cluster (.context site.context.1 site.context.2) s).1 = .ok (some found)

/-- Whether a backend is one that the context gives access to. -/
def Reaches (b : Backend) : Prop :=
  ∃ found p, site.Finds found ∧ ((Api.backend site.settings found).run.run site.around.serve p).1 = .ok b

/-- Whether the backend is lawful about some calls: nothing but requests changes the records, and the calls are
served, or fail without an effect if there can be faults. -/
structure Lawful (faults : Prop) (calls : Management.Call → Prop) : Prop where
  keeps : ∀ c p, ¬ IsHttp c → site.store (site.around.serve c p).2.1 = site.store p.1
  obliges : ∀ (b : Backend) (c : Management.Call) (s : σ), site.Reaches b → calls c → (site.store s).Admits c →
    (site.store s).Obliges faults c ((b.perform c).run site.around.http s).1
      (site.store ((b.perform c).run site.around.http s).2)

/-- Whether nothing is missing and nothing is refused: the context is there and gives access to a backend, and the
cluster accepts what a pass writes and tells. -/
structure Willing : Prop where
  finds : ∀ s, ∃ found, (site.around.cluster (.context site.context.1 site.context.2) s).1 = .ok (some found)
  reaches : ∀ found p, site.Finds found →
    ∃ b, ((Api.backend site.settings found).run.run site.around.serve p).1 = .ok b
  accepts : ∀ c s, ¬ IsRefusal ⟨.cluster c, (site.around.cluster c s).1⟩

variable {site} in
/-- A backend that is lawful about some calls is lawful about fewer. -/
theorem Lawful.mono {faults : Prop} {calls fewer : Management.Call → Prop} (h : site.Lawful faults calls)
    (hfewer : ∀ c, fewer c → calls c) : site.Lawful faults fewer where
  keeps := h.keeps
  obliges := fun b c s hreached hc => h.obliges b c s hreached (hfewer c hc)

/-! ## Sessions -/

/-- Whether a session with a lawful backend is all that is sent in a conversation, from one store to another. -/
def Held (faults : Prop) {α : Type} (session : Session α) (s t : Store) (log : List (Exchange Call.Answer))
    (r : Except Management.Failure α) : Prop :=
  ∃ (b : Backend) (wire : List (Exchange Http.Call.Answer)) (upper : List (Exchange Management.Call.Answer)),
    site.Reaches b ∧ session.run.Yields upper r ∧ Carries b.perform wire upper ∧ s.Along faults upper t ∧
      ∀ request outcome, ⟨.http (.send request), outcome⟩ ∈ log ↔ ⟨.send request, outcome⟩ ∈ wire

section Sessions

variable {site} {faults : Prop} {calls : Management.Call → Prop}
  {log before after : List (Exchange Call.Answer)} {p q : σ × Backoff} {α : Type} {session : Session α}
  {s t : Store} {r : Except Management.Failure α}

/-- What is not sent may go before a session and after it. -/
theorem Held.extend (h : site.Held faults session s t log r) (hbefore : ∀ e ∈ before, ¬ IsHttp e.1)
    (hafter : ∀ e ∈ after, ¬ IsHttp e.1) : site.Held faults session s t (before ++ (log ++ after)) r := by
  obtain ⟨b, wire, upper, hreached, hyields, hcarries, halong, hsent⟩ := h
  refine ⟨b, wire, upper, hreached, hyields, hcarries, halong, ?_⟩
  intro request outcome
  have hhttp : IsHttp (.http (.send request)) := trivial
  rw [← hsent request outcome]
  constructor
  · intro hmem
    rcases List.mem_append.mp hmem with hmem | hmem
    · exact absurd hhttp (hbefore _ hmem)
    · rcases List.mem_append.mp hmem with hmem | hmem
      · exact hmem
      · exact absurd hhttp (hafter _ hmem)
  · intro hmem
    exact List.mem_append_right before (List.mem_append_left after hmem)

/-- As long as nothing is sent, the records stay as they are. -/
theorem Lawful.keeps_of_follows (hlawful : site.Lawful faults calls) (h : Follows site.around.serve p log q)
    (hlog : ∀ e ∈ log, ¬ IsHttp e.1) : site.store q.1 = site.store p.1 := by
  induction log generalizing p with
  | nil =>
    obtain rfl := h
    rfl
  | cons e log ih =>
    obtain ⟨he, hlog⟩ := List.forall_mem_cons.mp hlog
    obtain ⟨-, hrest⟩ := h
    rw [ih hrest hlog]
    exact hlawful.keeps e.1 p he

/-- HTTP calls among the calls of a pass are answered by the server of those. -/
theorem follows_wire {wire : List (Exchange Http.Call.Answer)}
    (h : Follows site.around.serve p (wire.map fun e => ⟨.http e.1, e.2⟩) q) :
    Follows site.around.http p.1 wire q.1 := by
  induction wire generalizing p with
  | nil => exact congrArg Prod.fst h
  | cons e wire ih =>
    obtain ⟨hanswer, hrest⟩ := h
    exact ⟨hanswer, ih hrest⟩

/-- The calls of a session lead from the records before it to the records after it. -/
theorem Lawful.along (hlawful : site.Lawful faults calls) {b : Backend} (hreached : site.Reaches b)
    {upper : List (Exchange Management.Call.Answer)} {s t : σ}
    (h : Follows (fun c s => (b.perform c).run site.around.http s) s upper t)
    (hupper : ∀ e ∈ upper, calls e.1) : (site.store s).Along faults upper (site.store t) := by
  induction upper generalizing s with
  | nil => exact congrArg site.store h
  | cons e upper ih =>
    obtain ⟨he, hupper⟩ := List.forall_mem_cons.mp hupper
    obtain ⟨hanswer, hrest⟩ := h
    refine ⟨_, fun hadmits => ?_, ih hrest hupper⟩
    have hobliges := hlawful.obliges b e.1 s hreached he hadmits
    rw [hanswer] at hobliges
    exact hobliges

/-- A session with the backend of the context: it is not held, or it is, and nothing else changes the records. -/
theorem Lawful.held (hlawful : site.Lawful faults calls) (hcalls : session.run.Asks calls)
    {context : ManagementContext} {operation : String} {result : Except PassFailure α}
    (hfinds : site.Finds context)
    (h : (do Api.converse (← Api.backend site.settings context) operation session :
      Pass α).run.Yields log result)
    (hfollows : Follows site.around.serve p log q) :
    ((∃ failure, result = .error failure) ∧ ¬ site.Willing ∧ ∀ e ∈ log, ¬ IsHttp e.1) ∨
      ∃ r, site.Held faults session (site.store p.1) (site.store q.1) log r ∧
        result = r.mapError .management := by
  rcases Api.session_cases h with
    ⟨failure, hfailed, rfl, hquiet⟩ |
      ⟨b, before, after, wire, r, rfl, hbefore, hafter, hbackend, hwire, rfl⟩
  · refine .inl ⟨⟨failure, rfl⟩, fun hwilling => ?_, hquiet⟩
    obtain ⟨b, hb⟩ := hwilling.reaches context p hfinds
    rw [Program.run_of_follows hfailed hfollows] at hb
    cases hb
  right
  obtain ⟨u, hfirst, hrest⟩ := Program.follows_append.mp hfollows
  obtain ⟨v, hspoken, hlast⟩ := Program.follows_append.mp hrest
  have hreached : site.Reaches b :=
    ⟨context, p, hfinds, congrArg Prod.fst (Program.run_of_follows hbackend hfirst)⟩
  obtain ⟨upper, hupper, hcarries⟩ := Program.yields_interpret hwire
  have halong : (site.store u.1).Along faults upper (site.store v.1) :=
    hlawful.along hreached (hcarries.follows (follows_wire hspoken)) (hcalls.of_mem hupper)
  rw [hlawful.keeps_of_follows hfirst hbefore, ← hlawful.keeps_of_follows hlast hafter] at halong
  have hheld : site.Held faults session (site.store p.1) (site.store q.1)
      (wire.map fun e => ⟨.http e.1, e.2⟩) r := by
    refine ⟨b, wire, upper, hreached, hupper, hcarries, halong, fun request outcome => ?_⟩
    constructor
    · intro hmem
      obtain ⟨⟨c, answer⟩, he, heq⟩ := List.mem_map.mp hmem
      cases heq
      exact he
    · intro hmem
      exact List.mem_map.mpr ⟨_, hmem, rfl⟩
  exact ⟨r, hheld.extend hbefore hafter, rfl⟩

end Sessions

/-! ## Passes -/

section Passes

variable {site} {faults : Prop} {calls : Management.Call → Prop} {v : Visit σ}

/-- The conversation of a pass is one that it can have. -/
theorem yields_log (site : Site σ) (v : Visit σ) :
    ∃ ending, (Api.attend site.settings v.api).Yields (site.log v) ending :=
  ⟨_, site.around.yields_log (Api.attend site.settings v.api) v.state v.books⟩

/-- The surroundings answer the conversation of a pass. -/
theorem follows_log (site : Site σ) (v : Visit σ) :
    ∃ books, Follows site.around.serve (v.state, v.books) (site.log v) (site.left v, books) :=
  ⟨_, Program.follows_conversation (Api.attend site.settings v.api) (v.state, v.books)⟩

/-- In a pass the cluster answers as it does. -/
theorem answer_of_mem_log {c : Cluster.Call} {answer : c.Answer} (h : ⟨.cluster c, answer⟩ ∈ site.log v) :
    ∃ s, (site.around.cluster c s).1 = answer := by
  obtain ⟨p, hp⟩ := Program.answer_of_mem_conversation h
  exact ⟨p.1, hp⟩

/-- Where nothing is refused, no pass meets with a refusal. -/
theorem Willing.not_refusal (hwilling : site.Willing) : ∀ e ∈ site.log v, ¬ IsRefusal e := by
  rintro ⟨c, answer⟩ he hrefusal
  cases c with
  | cluster c =>
    obtain ⟨s, rfl⟩ := answer_of_mem_log he
    exact hwilling.accepts c s hrefusal
  | _ => exact hrefusal

/-- Where a context is not found, something is missing. -/
theorem not_willing_of_missing {answer : Except Kube.Failure (Option ManagementContext)}
    (h : ⟨.cluster (.context site.context.1 site.context.2), answer⟩ ∈ site.log v)
    (hmissing : ∀ context, answer ≠ .ok (some context)) : ¬ site.Willing := by
  intro hwilling
  obtain ⟨s, hs⟩ := answer_of_mem_log h
  obtain ⟨context, hcontext⟩ := hwilling.finds s
  exact hmissing context (hs.symm.trans hcontext)

/-- A conversation sends nothing if it sends nothing before a call of the cluster and nothing after it. -/
theorem not_http_of_split {before after : List (Exchange Call.Answer)} {c : Cluster.Call} {answer : c.Answer}
    (hlog : site.log v = before ++ ([⟨.cluster c, answer⟩] ++ after)) (hbefore : ∀ e ∈ before, ¬ IsHttp e.1)
    (hafter : ∀ e ∈ after, ¬ IsHttp e.1) : ∀ e ∈ site.log v, ¬ IsHttp e.1 := by
  rw [hlog]
  intro e he
  rcases List.mem_append.mp he with he | he
  · exact hbefore e he
  · rcases List.mem_cons.mp he with rfl | he
    · exact id
    · exact hafter e he

/-- A pass that sends no request leaves the records as they are. -/
theorem Lawful.store_left_of_quiet (hlawful : site.Lawful faults calls)
    (hquiet : ∀ e ∈ site.log v, ¬ IsHttp e.1) : site.store (site.left v) = site.store v.state := by
  obtain ⟨books, hfollows⟩ := site.follows_log v
  exact hlawful.keeps_of_follows hfollows hquiet

/-- A session in the middle of a pass, after the context was found. -/
theorem Lawful.held_of_log {α : Type} {session : Session α} (hlawful : site.Lawful faults calls)
    (hcalls : session.run.Asks calls) {before middle after : List (Exchange Call.Answer)}
    {context : ManagementContext} {operation : String} {result : Except PassFailure α}
    (hlog : site.log v = before ++
      (⟨.cluster (.context site.context.1 site.context.2), .ok (some context)⟩ :: middle ++ after))
    (hbefore : ∀ e ∈ before, ¬ IsHttp e.1) (hafter : ∀ e ∈ after, ¬ IsHttp e.1)
    (h : (do Api.converse (← Api.backend site.settings context) operation session :
      Pass α).run.Yields middle result) :
    ((∃ failure, result = .error failure) ∧ ¬ site.Willing ∧ ∀ e ∈ site.log v, ¬ IsHttp e.1) ∨
      ∃ r, site.Held faults session (site.store v.state) (site.store (site.left v)) (site.log v) r ∧
        result = r.mapError .management := by
  obtain ⟨books, hfollows⟩ := site.follows_log v
  rw [hlog] at hfollows ⊢
  obtain ⟨p, hfirst, hrest⟩ := Program.follows_append.mp hfollows
  obtain ⟨q, ⟨hanswer, hmiddle⟩, hlast⟩ := Program.follows_append.mp hrest
  have hstate : site.store (site.around.serve (.cluster (.context site.context.1 site.context.2)) p).2.1 =
      site.store v.state :=
    (hlawful.keeps _ p id).trans (hlawful.keeps_of_follows hfirst hbefore)
  rcases hlawful.held hcalls ⟨p.1, hanswer⟩ h hmiddle with
    ⟨hfailed, hunwilling, hquiet⟩ | ⟨r, hheld, hresult⟩
  · refine .inl ⟨hfailed, hunwilling, ?_⟩
    intro e he
    simp only [List.mem_append, List.mem_cons] at he
    rcases he with he | (rfl | he) | he
    · exact hbefore e he
    · exact id
    · exact hquiet e he
    · exact hafter e he
  · rw [hstate, ← hlawful.keeps_of_follows hlast hafter] at hheld
    have hcontext : ∀ e ∈ before ++ [⟨.cluster (.context site.context.1 site.context.2), .ok (some context)⟩],
        ¬ IsHttp e.1 := by
      intro e he
      rcases List.mem_append.mp he with he | he
      · exact hbefore e he
      · obtain rfl := List.mem_singleton.mp he
        exact id
    exact .inr ⟨r, by simpa using hheld.extend hcontext hafter, hresult⟩

/-- A pass over a live definition: it sends nothing and fails because something is refused, or there is a
synchronization, before and after which nothing is sent. If the pass succeeds then so did the synchronization, and
its outcome is on record. If the synchronization succeeds then so does the pass, unless something is refused. -/
theorem live_cases (hinUse : InUse .apiDefinition v.api.metadata) (hscoped : v.api.metadata.namespace ≠ none) :
    ((∀ e ∈ site.log v, ¬ IsHttp e.1) ∧ ¬ site.Succeeds v ∧ ¬ site.Willing) ∨
      ∃ before middle after result, site.log v = before ++ (middle ++ after) ∧
        (∀ e ∈ before, ¬ IsHttp e.1) ∧ (∀ e ∈ after, ¬ IsHttp e.1) ∧
        (Api.synchronized site.settings v.api).run.Yields middle result ∧
        (site.Succeeds v → ∃ outcome, result = .ok outcome ∧
          site.recorded v = some (Api.decision v.api (.ok outcome)).status) ∧
        (site.Willing → (∃ outcome, result = .ok outcome) → site.Succeeds v) := by
  obtain ⟨ending, hyields⟩ := site.yields_log v
  rcases Api.attend_cases hinUse.stage hyields with
    ⟨hnone, -⟩ | ⟨-, ns, refusal, after, hlog, hafter, e, he, hfollow⟩ |
      ⟨ns, first, version, middle, result, answer, after, -, hopen, hmiddle, hlog, hafter, hend⟩
  · exact absurd hnone hscoped
  · -- the announcement was refused
    refine .inl ⟨?_, fun hsucceeds => hsucceeds e (by simp [hlog, he]) hfollow, fun hwilling => ?_⟩
    · rw [hlog]
      refine List.forall_mem_cons.mpr ⟨id, List.forall_mem_cons.mpr ⟨id, ?_⟩⟩
      exact fun e he => (hafter e he).not_http
    · have hmem : ⟨.cluster (Api.announcing ns v.api), .error refusal⟩ ∈ site.log v := by
        rw [hlog]
        exact List.mem_cons_of_mem _ List.mem_cons_self
      exact hwilling.not_refusal _ hmem trivial
  have hfirst : ∀ e ∈ Api.counted :: first, ¬ IsHttp e.1 ∧ ¬ IsFollowUp e.1 := by
    cases hopen with
    | silent quiet => exact List.forall_mem_singleton.mpr ⟨id, id⟩
    | announced news version => exact List.forall_mem_cons.mpr ⟨⟨id, id⟩, List.forall_mem_singleton.mpr ⟨id, id⟩⟩
  refine .inr ⟨_, middle, _, result, hlog, fun e he => (hfirst e he).1, ?_, hmiddle, ?_, ?_⟩
  · exact List.forall_mem_cons.mpr ⟨id, fun e he => (hafter e he).not_http⟩
  · intro hsucceeds
    rcases hend with ⟨⟨e, he, hfollow⟩, -⟩ | ⟨outcome, next, rfl, rfl, -⟩
    · exact absurd hfollow (hsucceeds e (by simp [hlog, he]))
    · have hsplit : site.log v = (Api.counted :: (first ++ middle)) ++
          ⟨.cluster (Api.recording ns v.api version (.ok outcome)), .ok next⟩ :: after := by
        rw [hlog]
        simp
      have hlast : Api.known v.api (site.log v) = (next, some (Api.decision v.api (.ok outcome)).status) := by
        rw [hsplit]
        exact Api.known_of_last fun e he => (hafter e he).not_statusWrite
      exact ⟨outcome, rfl, congrArg Prod.snd hlast⟩
  · rintro hwilling ⟨done, hdone⟩
    rcases hend with ⟨-, ⟨failure, heq⟩ | ⟨e, he, hrefusal⟩⟩ | ⟨outcome, next, -, -, hnone⟩
    · rw [hdone] at heq
      cases heq
    · exact absurd hrefusal (hwilling.not_refusal e he)
    · intro e he
      rw [hlog, ← List.cons_append] at he
      rcases List.mem_append.mp he with he | he
      · exact (hfirst e he).2
      · rcases List.mem_append.mp he with he | he
        · have hquiet : ∀ e ∈ middle, ¬ IsFollowUp e.1 :=
            Api.not_of_synchronized hmiddle (fun _ _ => id) (fun _ _ => id) (fun _ => id) fun _ => id
          exact hquiet e he
        · rcases List.mem_cons.mp he with rfl | he
          · exact id
          · exact hnone e he

/-- A pass over a live definition: it sends nothing and fails because something is missing or refused, or it holds
its session with the backend. If it succeeds then so did the session, and its outcome is on record. If the session
succeeds then so does the pass, unless something is refused. -/
theorem Lawful.synchronization_cases (hlawful : site.Lawful faults calls)
    (hcalls : ∀ c, c.Publishes (Api.payload v.api) → calls c)
    (hinUse : InUse .apiDefinition v.api.metadata) (hscoped : v.api.metadata.namespace ≠ none)
    (hkey : contextKey v.api = some site.context) :
    ((∀ e ∈ site.log v, ¬ IsHttp e.1) ∧ ¬ site.Succeeds v ∧ ¬ site.Willing) ∨
      ∃ r, site.Held faults (synchronize (Api.payload v.api)) (site.store v.state) (site.store (site.left v))
          (site.log v) r ∧
        (site.Succeeds v → ∃ outcome, r = .ok outcome ∧
          site.recorded v = some (Api.decision v.api (.ok outcome)).status) ∧
        (site.Willing → (∃ outcome, r = .ok outcome) → site.Succeeds v) := by
  rcases live_cases hinUse hscoped with
    hquiet | ⟨before, middle, after, result, hlog, hbefore, hafter, hmiddle, hsuccess, hwill⟩
  · exact .inl hquiet
  have hfails {failure : PassFailure} (hresult : result = .error failure) : ¬ site.Succeeds v := by
    intro hsucceeds
    obtain ⟨outcome, heq, -⟩ := hsuccess hsucceeds
    rw [hresult] at heq
    cases heq
  obtain ⟨found, rest, rfl, hsession⟩ := Api.synchronized_cases hkey hmiddle
  rcases hsession with ⟨rfl, hmissing, failure, hfailed⟩ | ⟨context, rfl, hsession⟩
  · exact .inl ⟨not_http_of_split hlog hbefore hafter, hfails hfailed,
      not_willing_of_missing (by rw [hlog]; simp) hmissing⟩
  · have hasks : (synchronize (Api.payload v.api)).run.Asks calls :=
      (asks_synchronize (Api.payload v.api)).mono hcalls
    rcases hlawful.held_of_log hasks hlog hbefore hafter hsession with
      ⟨⟨failure, hfailed⟩, hunwilling, hquiet⟩ | ⟨r, hheld, rfl⟩
    · exact .inl ⟨hquiet, hfails hfailed, hunwilling⟩
    · refine .inr ⟨r, hheld, fun hsucceeds => ?_, fun hwilling hdone => ?_⟩
      · obtain ⟨outcome, heq, hrecorded⟩ := hsuccess hsucceeds
        cases r with
        | error failure => cases heq
        | ok done =>
          cases heq
          exact ⟨outcome, rfl, hrecorded⟩
      · obtain ⟨outcome, rfl⟩ := hdone
        exact hwill hwilling ⟨outcome, rfl⟩

/-- Without faults a pass over a live definition succeeds, unless something is missing or refused. -/
theorem Lawful.succeeds (hlawful : site.Lawful faults (Call.Publishes (Api.payload v.api)))
    (hfaultless : ¬ faults) (hwilling : site.Willing) (hinUse : InUse .apiDefinition v.api.metadata)
    (hscoped : v.api.metadata.namespace ≠ none) (hkey : contextKey v.api = some site.context) :
    site.Succeeds v := by
  rcases hlawful.synchronization_cases (fun _ h => h) hinUse hscoped hkey with
    ⟨-, -, hunwilling⟩ | ⟨r, ⟨b, wire, upper, -, hupper, -, halong, -⟩, -, hwill⟩
  · exact absurd hwilling hunwilling
  · rcases synchronize_along hupper halong with
      ⟨-, fault, -⟩ | ⟨record, hok, -⟩ | ⟨record, hok, -⟩
    · exact absurd fault hfaultless
    · exact hwill hwilling ⟨_, hok⟩
    · exact hwill hwilling ⟨_, hok⟩

/-- A definition that is neither applied nor cleaned up sends nothing. -/
theorem not_http_of_not_hasFinalizer
    (h : v.api.metadata.hasFinalizer Controller.apiDefinition.finalizer = false) :
    ∀ e ∈ site.log v, ¬ IsHttp e.1 := by
  obtain ⟨ending, hyields⟩ := site.yields_log v
  have hasks : (Api.attend site.settings v.api).Asks (Api.OverHttp fun _ => False) :=
    Api.asks_attend_of_not_hasFinalizer h
  intro e he hhttp
  have hsort := hasks.of_mem hyields e he
  cases hcall : e.1 with
  | http c =>
    rw [hcall] at hsort
    exact hsort
  | _ =>
    rw [hcall] at hhttp
    exact hhttp

/-- A pass over a dying definition: it sends nothing and clears nothing because the definition has no namespace or
no name, or there is a withdrawal, before and after which nothing is sent, and which decides whether it clears. -/
theorem dying_cases (hheld : HeldUp .apiDefinition v.api.metadata) (hkey : contextKey v.api = some site.context) :
    ((v.api.metadata.namespace = none ∨ v.api.metadata.name = none) ∧ (∀ e ∈ site.log v, ¬ IsHttp e.1) ∧
        ¬ site.Clears v) ∨
      ∃ before middle after result, site.log v = before ++ (middle ++ after) ∧
        (∀ e ∈ before, ¬ IsHttp e.1) ∧ (∀ e ∈ after, ¬ IsHttp e.1) ∧
        (Api.withdrawn site.settings v.api).run.Yields middle result ∧
        (site.Clears v ↔ ∃ outcome, result = .ok outcome ∧ outcome ≠ .notPublished) := by
  obtain ⟨ending, hyields⟩ := site.yields_log v
  rcases Api.attend_cases_of_heldUp hheld hyields with
    ⟨hnone, after, hlog, hafter⟩ | ⟨middle, result, after, hlog, hmiddle, hafter⟩
  · refine .inl ⟨hnone, ?_, ?_⟩
    · rw [hlog]
      exact List.forall_mem_cons.mpr ⟨id, fun e he => (hafter e he).not_http⟩
    · -- a clean-up would have looked for the context
      rintro ⟨-, middle, rest, outcome, hlog', hmiddle, -⟩
      obtain ⟨answer, more, rfl, -⟩ := Api.withdrawn_cases hkey hmiddle
      rw [hlog] at hlog'
      have hreport : IsReport (.cluster (.context site.context.1 site.context.2)) :=
        hafter ⟨_, answer⟩ (by rw [(List.cons.inj hlog').2]; simp)
      exact hreport
  · refine .inr ⟨[Api.counted], middle, after, result, hlog, List.forall_mem_singleton.mpr id, hafter, hmiddle, ?_⟩
    constructor
    · rintro ⟨-, middle', rest, outcome, hlog', hmiddle', hne⟩
      rw [hlog] at hlog'
      obtain ⟨-, heq⟩ := hmiddle.unique hmiddle' (List.cons.inj hlog').2
      exact ⟨outcome, heq, hne⟩
    · rintro ⟨outcome, rfl, hne⟩
      exact ⟨hheld, middle, after, outcome, hlog, hmiddle, hne⟩

/-- A pass over a dying definition: it leaves the records as they are and clears nothing because something is
missing or fails, or it clears the cross ID of the definition, which no record or only one carried. -/
theorem Lawful.withdrawal_cases (hlawful : site.Lawful faults calls)
    (hcalls : ∀ c, c.Withdraws (Api.crossId v.api) → calls c)
    (hheld : HeldUp .apiDefinition v.api.metadata) (hkey : contextKey v.api = some site.context) :
    (site.store (site.left v) = site.store v.state ∧ ¬ site.Clears v ∧
        (v.api.metadata.namespace ≠ none → v.api.metadata.name ≠ none → ¬ faults → ¬ site.Willing)) ∨
      (site.Clears v ∧ ((site.store (site.left v) = site.store v.state ∧
          (site.store v.state).Lacks (Api.crossId v.api)) ∨
        ∃ id, (site.store v.state).Carries (Api.crossId v.api) id ∧
          site.store (site.left v) = (site.store v.state).put id none)) := by
  rcases dying_cases hheld hkey with
    ⟨hnone, hquiet, hkept⟩ | ⟨before, middle, after, result, hlog, hbefore, hafter, hmiddle, hclears⟩
  · refine .inl ⟨hlawful.store_left_of_quiet hquiet, hkept, fun hscoped hnamed => ?_⟩
    rcases hnone with hnone | hnone
    · exact absurd hnone hscoped
    · exact absurd hnone hnamed
  have hkept {failure : PassFailure} (hfailed : result = .error failure) : ¬ site.Clears v := by
    intro h
    obtain ⟨outcome, heq, -⟩ := hclears.mp h
    rw [hfailed] at heq
    cases heq
  obtain ⟨found, rest, rfl, hsession⟩ := Api.withdrawn_cases hkey hmiddle
  rcases hsession with ⟨rfl, hmissing, hresult⟩ | ⟨context, rfl, hsession⟩
  · refine .inl ⟨hlawful.store_left_of_quiet (not_http_of_split hlog hbefore hafter), ?_, fun _ _ _ => ?_⟩
    · rcases hresult with ⟨failure, hfailed⟩ | rfl
      · exact hkept hfailed
      · intro h
        obtain ⟨outcome, heq, hne⟩ := hclears.mp h
        cases heq
        exact hne rfl
    · exact not_willing_of_missing (by rw [hlog]; simp) hmissing
  · have hasks : (withdraw (Api.crossId v.api)).run.Asks calls := (asks_withdraw _).mono hcalls
    rcases hlawful.held_of_log hasks hlog hbefore hafter hsession with
      ⟨⟨failure, hfailed⟩, hunwilling, hquiet⟩ | ⟨r, ⟨b, wire, upper, -, hupper, -, halong, -⟩, rfl⟩
    · exact .inl ⟨hlawful.store_left_of_quiet hquiet, hkept hfailed, fun _ _ _ => hunwilling⟩
    · rcases withdraw_along hupper halong with
        ⟨hsame, fault, failure, rfl⟩ | ⟨hsame, rfl, hlacks⟩ | ⟨id, rfl, hcarries, hput⟩
      · exact .inl ⟨hsame, hkept rfl, fun _ _ hfaultless => absurd fault hfaultless⟩
      · exact .inr ⟨hclears.mpr ⟨.alreadyGone, rfl, by simp⟩, .inl ⟨hsame, hlacks⟩⟩
      · exact .inr ⟨hclears.mpr ⟨.deleted id, rfl, by simp⟩, .inr ⟨id, hcarries, hput⟩⟩

/-- Without faults a pass over a dying definition clears its cross ID, unless something is missing. -/
theorem Lawful.clears (hlawful : site.Lawful faults (Call.Withdraws (Api.crossId v.api)))
    (hfaultless : ¬ faults) (hwilling : site.Willing) (hheld : HeldUp .apiDefinition v.api.metadata)
    (hscoped : v.api.metadata.namespace ≠ none) (hnamed : v.api.metadata.name ≠ none)
    (hkey : contextKey v.api = some site.context) : site.Clears v := by
  rcases hlawful.withdrawal_cases (fun _ h => h) hheld hkey with ⟨-, -, hunwilling⟩ | ⟨hclears, -⟩
  · exact absurd hwilling (hunwilling hscoped hnamed hfaultless)
  · exact hclears

end Passes

end Site

/-! ## A backend with one record -/

/-- A live definition with a cross ID of its own. -/
def edition (crossId : String) : ApiDefinition :=
  { Lifecycle.live with spec := { Lifecycle.live.spec with crossId := some crossId } }

/-- What there is of a record: nothing, what was created, or what has replaced that. -/
inductive Slot where
  | vacant
  | created
  | replaced
  deriving DecidableEq

namespace Slot

open Lifecycle (reply)

/-- The payload of the record, which carries the cross ID `a`. -/
def payload? : Slot → Option Payload
  | vacant => none
  | created => some (Api.payload (edition "a"))
  | replaced => some ((Api.payload (edition "a")).withId "api-1")

/-- The records of the backend. -/
def store (s : Slot) : Store := (⟨fun _ => none⟩ : Store).put "api-1" s.payload?

/-- The record as the backend shows it. -/
def shown : String := "\x7b\"id\":\"api-1\"\x7d"

/-- What the backend answers to a request, and what it makes of the record. -/
def answer (request : Http.Request) : Slot → Http.Outcome × Slot
  | vacant =>
    match request.method with
    | .post => (reply 201 shown, created)
    | _ => (reply 404 "", vacant)
  | s =>
    match request.method with
    | .get =>
      if request.url.text = "https://apim/management/organizations/org/environments/env/apis?crossId=a" then
        (reply 200 ("[" ++ shown ++ "]"), s)
      else (reply 404 "", s)
    | .post => (reply 409 "", s)
    | .put => (reply 200 shown, replaced)
    | .delete => (reply 204 "", vacant)

/-- A cluster that knows the context and accepts every change, and the backend. -/
def around : Surroundings Slot where
  cluster := fun c s =>
    match c with
    | .context _ _ => (.ok (some Retention.context), s)
    | .writeStatus _ _ _ _ => (.ok (some "2"), s)
    | .changeFinalizers _ _ _ _ => (.ok (), s)
    | .publish _ => (.ok (), s)
    | _ => (.error (.unreachable "connection refused"), s)
  http := fun c s =>
    match c with
    | .isStopping => (false, s)
    | .send request => answer request s
  now := fun s => (⟨0, 0⟩, s)

/-- The cluster with the one backend that its context leads to. -/
def site : Site Slot where
  settings := Retention.settings
  around := around
  context := ("shop", "apim")
  store := store

/-- The calls that publish the definition with the cross ID `a`, or withdraw what carries `a` or `b`. -/
def Handles (c : Management.Call) : Prop :=
  c.Publishes (Api.payload (edition "a")) ∨ c.Withdraws "a" ∨ c.Withdraws "b"

/-- The backend that the context gives access to, if it does. -/
def backend? : Except Management.Failure Backend :=
  Backend.ofBase "https://apim" "org" "env" (.bearer "token") Retention.settings.requestTimeout

/-- The only backend that can be reached is the one that the context gives access to. -/
theorem reaches_iff (b : Backend) : site.Reaches b ↔ backend? = .ok b := by
  have hrun (p : Slot × Backoff) :
      ((Api.backend site.settings Retention.context).run.run site.around.serve p).1 =
        backend?.mapError PassFailure.management := rfl
  constructor
  · rintro ⟨found, p, ⟨s, hs⟩, hb⟩
    cases hs
    rw [hrun] at hb
    cases h : backend? with
    | error failure =>
      rw [h] at hb
      cases hb
    | ok other =>
      rw [h] at hb
      cases hb
      rfl
  · intro h
    refine ⟨Retention.context, (vacant, Retention.books), ⟨vacant, rfl⟩, ?_⟩
    rw [hrun, h]
    rfl

/-- The result of a call, if it has one, and what becomes of the record. -/
def result? (b : Backend) (c : Management.Call) (s : Slot) : Option c.Result × Slot :=
  (((b.perform c).run around.http s).1.toOption, ((b.perform c).run around.http s).2)

/-- A call that has a result returns it. -/
theorem run_of_result? {b : Backend} {c : Management.Call} {s t : Slot} {result : c.Result}
    (h : result? b c s = (some result, t)) : (b.perform c).run around.http s = (.ok result, t) := by
  obtain ⟨hresult, hslot⟩ := Prod.mk.inj h
  refine Prod.ext ?_ hslot
  cases hanswer : ((b.perform c).run around.http s).1 with
  | error failure =>
    rw [hanswer] at hresult
    cases hresult
  | ok found =>
    rw [hanswer] at hresult
    cases hresult
    rfl

/-- Whether a backend makes of the calls that are handled what it should. -/
def Answers (b : Backend) (s : Slot) : Prop :=
  result? b (.lookup "a") s = (some (if s = vacant then none else some ⟨"api-1", none, none⟩), s) ∧
    result? b (.lookup "b") s = (some none, s) ∧
    (s = vacant → result? b (.create (Api.payload (edition "a"))) s =
      (some ⟨"api-1", none, none⟩, created)) ∧
    (s ≠ vacant → result? b (.update "api-1" ((Api.payload (edition "a")).withId "api-1")) s =
      (some ⟨"api-1", none, none⟩, replaced)) ∧
    (s ≠ vacant → result? b (.delete "api-1") s = (some (), vacant))

instance (b : Backend) (s : Slot) : Decidable (Answers b s) :=
  inferInstanceAs (Decidable (_ ∧ _ ∧ (_ → _) ∧ (_ → _) ∧ (_ → _)))

/-- The context gives access to a backend, which answers as it should. -/
theorem exists_backend : ∃ b, backend? = .ok b ∧ ∀ s, Answers b s := by
  have hall : (backend?.toOption.any fun b =>
      Answers b vacant ∧ Answers b created ∧ Answers b replaced) = true := by decide +kernel
  cases h : backend? with
  | error failure =>
    rw [h] at hall
    cases hall
  | ok b =>
    rw [h] at hall
    obtain ⟨hvacant, hcreated, hreplaced⟩ := of_decide_eq_true hall
    refine ⟨b, rfl, ?_⟩
    intro s
    cases s with
    | vacant => exact hvacant
    | created => exact hcreated
    | replaced => exact hreplaced

/-- The cross ID of a definition that has its own is that. -/
theorem crossId_edition : Api.crossId (edition "a") = "a" := by decide +kernel

/-- If there is a record, then it carries the cross ID `a`. -/
theorem carries_iff (s : Slot) (x id : String) :
    s.store.Carries x id ↔ s ≠ vacant ∧ id = "api-1" ∧ x = "a" := by
  by_cases hid : id = "api-1"
  · subst hid
    have hx : (Api.payload (edition "a")).crossId = x ↔ x = "a" := by
      rw [show (Api.payload (edition "a")).crossId = "a" from crossId_edition]
      exact eq_comm
    cases s with
    | vacant => simp [Store.Carries, store, payload?]
    | created => simp [Store.Carries, store, payload?, hx]
    | replaced => simp [Store.Carries, store, payload?, Payload.withId, hx]
  · have hnone : s.store.stored id = none := Store.stored_put_of_ne _ _ hid
    simp [Store.Carries, hnone, hid]

/-- Where there is no record, nothing is stored. -/
theorem store_vacant : vacant.store = ⟨fun _ => none⟩ := by
  unfold store Store.put
  congr 1
  funext id
  simp [payload?]

/-- To put a record in the place of what there is leaves only that. -/
theorem store_put (s t : Slot) : s.store.put "api-1" t.payload? = t.store := Store.put_put _ _ _ _

/-- The only record that can be replaced or deleted. -/
theorem eq_of_stored {s : Slot} {id : String} (h : s.store.stored id ≠ none) : s ≠ vacant ∧ id = "api-1" := by
  obtain ⟨p, hp⟩ := Option.ne_none_iff_exists'.mp h
  obtain ⟨hs, hid, -⟩ := (carries_iff s p.crossId id).mp ⟨p, hp, rfl⟩
  exact ⟨hs, hid⟩

/-- A call whose result is what the store calls for is served. -/
theorem obliges_of_result? {b : Backend} {c : Management.Call} {s t : Slot} {result : c.Result}
    (h : result? b c s = (some result, t)) (hserves : s.store.Serves c (.ok result) t.store)
    (hreturns : Store.Returns c (.ok result)) :
    s.store.Obliges False c ((b.perform c).run around.http s).1
      ((b.perform c).run around.http s).2.store := by
  rw [run_of_result? h]
  exact .served _ _ hserves hreturns

/-- The backend is lawful about the calls that it handles. -/
theorem lawful : site.Lawful False Handles where
  keeps := by
    intro c p hquiet
    cases c with
    | cluster c => cases c <;> rfl
    | http c => exact absurd trivial hquiet
    | _ => rfl
  obliges := by
    intro b c s hreached hcalls hadmits
    obtain ⟨own, hown, hanswers⟩ := exists_backend
    rw [reaches_iff, hown, Except.ok.injEq] at hreached
    subst hreached
    obtain ⟨hlookupA, hlookupB, hcreate, hupdate, hdelete⟩ := hanswers s
    have hfirst : s.store.Obliges False (.lookup "a") ((own.perform (.lookup "a")).run around.http s).1
        ((own.perform (.lookup "a")).run around.http s).2.store := by
      by_cases hs : s = vacant
      · refine obliges_of_result? hlookupA ?_ trivial
        rw [if_pos hs]
        exact .missing "a" fun id hid => absurd hs ((carries_iff s "a" id).mp hid).1
      · refine obliges_of_result? hlookupA ?_ trivial
        rw [if_neg hs]
        exact .found "a" _ ((carries_iff s "a" "api-1").mpr ⟨hs, rfl, rfl⟩)
    have hlast {id : String} (hstored : s.store.stored id ≠ none) :
        s.store.Obliges False (.delete id) ((own.perform (.delete id)).run around.http s).1
          ((own.perform (.delete id)).run around.http s).2.store := by
      obtain ⟨hs, rfl⟩ := eq_of_stored hstored
      refine obliges_of_result? (hdelete hs) ?_ trivial
      rw [← store_put s vacant]
      exact .deleted "api-1"
    rcases hcalls with hpublishes | hwithdraws | hwithdraws
    · cases hpublishes with
      | lookup =>
        rw [show (Api.payload (edition "a")).crossId = "a" from crossId_edition]
        exact hfirst
      | create =>
        have hs : s = vacant := by
          refine Decidable.byContradiction fun hs => ?_
          exact hadmits "api-1" ((carries_iff s _ "api-1").mpr ⟨hs, rfl, crossId_edition⟩)
        have hfresh : s.store.stored "api-1" = none := by
          rw [hs]
          rfl
        refine obliges_of_result? (hcreate hs) ?_ trivial
        rw [← store_put s created]
        exact .created _ ⟨"api-1", none, none⟩ hfresh
      | update id =>
        obtain ⟨hs, rfl⟩ := eq_of_stored hadmits
        refine obliges_of_result? (hupdate hs) ?_ rfl
        rw [← store_put s replaced]
        exact .updated "api-1" _ _ hadmits
    · cases hwithdraws with
      | lookup => exact hfirst
      | delete id => exact hlast hadmits
    · cases hwithdraws with
      | lookup =>
        refine obliges_of_result? hlookupB ?_ trivial
        exact .missing "b" fun id hid => absurd ((carries_iff s "b" id).mp hid).2.2 (by decide)
      | delete id => exact hlast hadmits

/-- Nothing is missing, and nothing is refused. -/
theorem willing : site.Willing where
  finds := fun s => ⟨Retention.context, rfl⟩
  reaches := by
    intro found p hfinds
    obtain ⟨own, hown, -⟩ := exists_backend
    obtain ⟨s, hs⟩ := hfinds
    cases hs
    refine ⟨own, ?_⟩
    show backend?.mapError PassFailure.management = .ok own
    rw [hown]
    rfl
  accepts := by
    intro c s hrefusal
    cases c <;> exact hrefusal

end Slot

end GatewayOperator.Reconcile
