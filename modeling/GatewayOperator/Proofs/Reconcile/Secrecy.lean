import GatewayOperator.Proofs.Management.Secrecy
import GatewayOperator.Proofs.Reconcile.Dependents
import GatewayOperator.Proofs.Reconcile.Lifecycle

/-!
# Credentials stay secret

Two clusters that differ in the values of credentials alone, with backends that do not look at these, cannot be told
apart by what a pass over a definition reports. The passes go in parallel: they make the same calls in the same order,
but for the header that carries the credentials, and they end in the same way.
-/

set_option autoImplicit false

namespace GatewayOperator.Reconcile

open GatewayOperator.Resource GatewayOperator.Management
open Program (Exchange Likeness Asks)
open Program.Pass (Agree Parallel)

/-- A call without credentials. -/
def Call.withoutSecrets : Call → Call
  | .http c => .http (Management.withoutSecrets c)
  | c => c

/-- Whether two answers to a call agree but for the values of credentials, which contexts and secrets hold. -/
def AnswerAlike : (c : Call) → c.Answer → c.Answer → Prop
  | .cluster (.context _ _), found, found' => Agree (Option.Rel ContextAlike) found found'
  | .cluster (.secret _ _), found, found' => Agree (Option.Rel SecretAlike) found found'
  | _, answer, answer' => answer = answer'

/-- Whether two exchanges agree but for credentials. -/
inductive Alike : Exchange Call.Answer → Exchange Call.Answer → Prop
  | answer {c : Call} {a b : c.Answer} (h : AnswerAlike c a b) : Alike ⟨c, a⟩ ⟨c, b⟩
  | http {c d : Http.Call} {a : c.Answer} {b : d.Answer} (h : ExchangeAlike ⟨c, a⟩ ⟨d, b⟩) :
      Alike ⟨.http c, a⟩ ⟨.http d, b⟩

/-- Calls and exchanges are alike if they agree but for credentials. -/
def butForSecrets : Likeness Call.Answer := ⟨fun c d => c.withoutSecrets = d.withoutSecrets, Alike⟩

/-- Whether a call reads what may hold credentials. -/
def ReadsSecrets : Call → Prop
  | .cluster (.context _ _) => True
  | .cluster (.secret _ _) => True
  | _ => False

/-- Answers that hold no credentials are alike only if they are equal. -/
theorem eq_of_alike {c : Call} (hc : ¬ ReadsSecrets c) {a b : c.Answer} (h : Alike ⟨c, a⟩ ⟨c, b⟩) : a = b := by
  cases h with
  | answer h =>
    cases c with
    | cluster c =>
      cases c with
      | context ns name => exact absurd trivial hc
      | secret ns name => exact absurd trivial hc
      | _ => exact h
    | _ => exact h
  | http h => cases h <;> rfl

/-- A pass that reads nothing that may hold credentials goes in parallel with itself. -/
theorem parallel_self {ε α : Type} {p : Program.Pass Call.Answer ε α}
    (h : p.run.Asks fun c => ¬ ReadsSecrets c) : Parallel butForSecrets Eq p p :=
  Program.Pass.parallel_of_asks (h.mono fun _ hc => ⟨rfl, fun _ _ => eq_of_alike hc⟩)

/-- A call of the cluster goes in parallel with itself, for whatever its alike answers have in common. -/
theorem parallel_cluster (c : Cluster.Call) {values : c.Result → c.Result → Prop}
    (h : ∀ a b, AnswerAlike (.cluster c) a b → Agree values a b) :
    Parallel butForSecrets values (cluster c) (cluster c) := by
  have hcall : Parallel butForSecrets values (ExceptT.mk (askCluster c)) (ExceptT.mk (askCluster c)) := by
    refine ⟨rfl, fun a b halike => ?_⟩
    cases halike with
    | answer hanswer => exact h a b hanswer
  exact hcall.adapt

namespace Api

variable {settings : Settings} {api : ApiDefinition} {context context' : ManagementContext}

/-- The contexts that two passes find agree but for credentials. -/
theorem parallel_context? (api : ApiDefinition) :
    Parallel butForSecrets (Option.Rel ContextAlike) (context? api) (context? api) := by
  unfold context?
  cases contextKey api with
  | none => exact Program.Pass.parallel_pure .none
  | some key =>
    have hread : Parallel butForSecrets (Option.Rel ContextAlike) (cluster (.context key.1 key.2))
        (cluster (.context key.1 key.2)) := parallel_cluster (.context key.1 key.2) fun _ _ h => h
    refine hread.bind fun found found' halike => ?_
    cases halike with
    | none => exact Program.Pass.parallel_throw _
    | some h => exact Program.Pass.parallel_pure (.some h)

/-- Contexts that agree but for credentials lead to credentials of one kind. -/
theorem parallel_credentials (h : ContextAlike context context') :
    Parallel butForSecrets CredentialsAlike (credentials context) (credentials context') := by
  have hinline := h.inlineCredentials
  unfold credentials
  generalize inlineCredentials context = inline at hinline ⊢
  generalize inlineCredentials context' = inline' at hinline ⊢
  -- both contexts carry credentials of their own, or both point at the same secret
  cases hinline with
  | some hfound => exact Program.Pass.parallel_pure hfound
  | none =>
    rw [h.secretKey, h.metadata]
    cases secretKey context' with
    | none => exact Program.Pass.parallel_throw _
    | some key =>
      have hread : Parallel butForSecrets (Option.Rel SecretAlike) (cluster (.secret key.1 key.2))
          (cluster (.secret key.1 key.2)) := parallel_cluster (.secret key.1 key.2) fun _ _ h => h
      refine hread.bind fun found found' halike => ?_
      cases halike with
      | none => exact Program.Pass.parallel_throw _
      | some hsecret => exact Program.Pass.parallel_ofResult hsecret.credentials

/-- Contexts that agree but for credentials lead to backends that do. -/
theorem parallel_backend (settings : Settings) (h : ContextAlike context context') :
    Parallel butForSecrets BackendAlike (backend settings context) (backend settings context') := by
  refine (parallel_credentials h).bind fun found found' hfound => ?_
  refine Program.Pass.parallel_ofResult ?_
  rw [h.baseUrl, h.organizationId, h.environmentId]
  exact (ofBase_alike hfound _ _ _ _).mapError

/-- With backends that agree but for credentials, a session takes the same course. -/
theorem parallel_converse {α : Type} {b b' : Backend} (h : BackendAlike b b') (operation : String)
    (session : Session α) :
    Parallel butForSecrets Eq (converse b operation session) (converse b' operation session) := by
  have hsession : ((b.converse session).interpret fun c => Program.call (Call.http c)).Parallel
      butForSecrets Eq ((b'.converse session).interpret fun c => Program.call (Call.http c)) := by
    refine (h.converse session).interpret fun c d hcalls => ⟨congrArg Call.http hcalls, ?_⟩
    intro answer other halike
    cases halike with
    | answer h =>
      cases h
      exact ExchangeAlike.refl _
    | http h => exact h
  have hlifted : Parallel butForSecrets Eq
      (ExceptT.lift ((b.converse session).interpret fun c => Program.call (Call.http c)) :
        Pass (Except Management.Failure α))
      (ExceptT.lift ((b'.converse session).interpret fun c => Program.call (Call.http c))) :=
    ⟨hsession.bind fun _ _ heq => .ok heq⟩
  -- what comes of the session has nothing of the credentials in it, so the rest is the same pass twice
  refine hlifted.bind_same fun result => ?_
  refine (parallel_self (asks_ask id)).bind_same fun _ => ?_
  exact Program.Pass.parallel_ofResult (Program.Pass.agree_eq.mpr rfl)

/-- A synchronization takes the same course, whatever the credentials. -/
theorem parallel_synchronized (settings : Settings) (api : ApiDefinition) :
    Parallel butForSecrets Eq (synchronized settings api) (synchronized settings api) := by
  refine (parallel_context? api).bind fun found found' halike => ?_
  cases halike with
  | none => exact Program.Pass.parallel_pure rfl
  | some h => exact (parallel_backend settings h).bind fun b b' hb => parallel_converse hb _ _

/-- A withdrawal takes the same course, whatever the credentials. -/
theorem parallel_withdrawn (settings : Settings) (api : ApiDefinition) :
    Parallel butForSecrets Eq (withdrawn settings api) (withdrawn settings api) := by
  refine (parallel_context? api).attempt.bind fun found found' hagree => ?_
  cases hagree with
  | error failure =>
    dsimp only
    cases isContextMissing failure with
    | true => exact Program.Pass.parallel_pure rfl
    | false => exact Program.Pass.parallel_throw _
  | ok halike =>
    cases halike with
    | none => exact Program.Pass.parallel_pure rfl
    | some h => exact (parallel_backend settings h).bind fun b b' hb => parallel_converse hb _ _

/-- A pass over a live definition takes the same course, whatever the credentials. -/
theorem parallel_applied (settings : Settings) (ns : String) (api : ApiDefinition) :
    Parallel butForSecrets Eq (applied settings ns api) (applied settings ns api) := by
  rw [applied_eq]
  refine (parallel_self (asks_announced fun _ _ _ _ => id)).bind_same fun version => ?_
  refine (parallel_synchronized settings api).attempt_same.bind_same fun result => ?_
  exact parallel_self (asks_concluded (fun _ _ _ _ => id) (fun _ => id) (fun _ _ _ => id)
    (fun _ _ => id) fun _ => id)

/-- A clean-up takes the same course, whatever the credentials. -/
theorem parallel_cleanedUp (settings : Settings) (api : ApiDefinition) :
    Parallel butForSecrets Eq (cleanedUp settings api) (cleanedUp settings api) := by
  refine (parallel_withdrawn settings api).attempt_same.bind_same fun result => ?_
  refine (parallel_self (asks_tell fun _ => id)).bind_same fun _ => ?_
  cases (resolveDelete result).retry with
  | some failure => exact Program.Pass.parallel_throw _
  | none => exact (parallel_self (asks_ask id)).bind_same fun _ => Program.Pass.parallel_pure rfl

end Api

/-! ## Controllers -/

section Controllers

variable {controller : Controller} {m : Meta} {ns : String}

/-- The finalizer does not depend on credentials. -/
theorem parallel_guarded {apply cleanUp : Pass Action} (happly : Parallel butForSecrets Eq apply apply)
    (hcleanUp : Parallel butForSecrets Eq cleanUp cleanUp) :
    Parallel butForSecrets Eq (guarded controller ns m apply cleanUp) (guarded controller ns m apply cleanUp) := by
  have hname : Parallel butForSecrets Eq (nameOf m) (nameOf m) := by
    unfold nameOf
    cases m.name with
    | some name => exact Program.Pass.parallel_pure rfl
    | none => exact Program.Pass.parallel_throw _
  have hchange (name : String) (change : Cluster.FinalizerChange)
      (failure : Kube.Failure → FinalizerFailure PassFailure) :
      Parallel butForSecrets Eq (changeFinalizers controller ns name change failure)
        (changeFinalizers controller ns name change failure) :=
    parallel_self (Program.Pass.asks_adapt (Program.asks_call id))
  unfold guarded
  cases Stage.of controller.finalizer m with
  | attach =>
    refine hname.bind_same fun name => ?_
    exact (hchange name _ _).bind_same fun _ => Program.Pass.parallel_pure rfl
  | apply => exact happly.adapt
  | cleanUp index =>
    refine hname.bind_same fun name => hcleanUp.adapt.bind_same fun action => ?_
    exact (hchange name _ _).bind_same fun _ => Program.Pass.parallel_pure rfl
  | leave => exact Program.Pass.parallel_pure rfl

/-- The report of a failure does not depend on credentials. -/
theorem parallel_reported {pass : Guarded Action} (h : Parallel butForSecrets Eq pass pass) :
    Parallel butForSecrets Eq (reported controller m pass) (reported controller m pass) := by
  refine h.attempt_same.bind_same fun result => ?_
  cases result with
  | ok action => exact Program.Pass.parallel_pure rfl
  | error failure =>
    refine (parallel_self (asks_cluster id)).bind_same fun _ => ?_
    exact (parallel_self (asks_ask id)).bind_same fun _ => Program.Pass.parallel_throw _

/-- The follow-up to a failure does not depend on credentials. -/
theorem parallel_attended {pass : String → Pass Action}
    (h : ∀ ns, Parallel butForSecrets Eq (pass ns) (pass ns)) :
    (attended controller m pass).Parallel butForSecrets Eq (attended controller m pass) := by
  unfold attended
  refine ⟨rfl, fun _ _ _ => ?_⟩
  cases m.namespace with
  | none => exact rfl
  | some ns =>
    refine (h ns).run.bind fun result _ hagree => ?_
    obtain rfl := Program.Pass.agree_eq.mp hagree
    cases result with
    | ok action => exact rfl
    | error failure =>
      refine ⟨rfl, fun action other halike => ?_⟩
      obtain rfl := eq_of_alike id halike
      exact rfl

/-- Attending to a definition goes in parallel with itself. -/
theorem Api.parallel_attend (settings : Settings) (api : ApiDefinition) :
    (Api.attend settings api).Parallel butForSecrets Eq (Api.attend settings api) :=
  parallel_attended fun ns => parallel_reported
    (parallel_guarded (Api.parallel_applied settings ns api) (Api.parallel_cleanedUp settings api))

end Controllers

/-! ## Twins -/

/-- Whether two surroundings differ at most in the values of credentials: their clusters give answers that agree but
for these, and their backends give the same answers to requests that agree without the headers that show them. How
the states of the two belong together is for the surroundings to say. -/
structure Surroundings.Twins {σ τ : Type} (states : σ → τ → Prop) (around : Surroundings σ)
    (around' : Surroundings τ) : Prop where
  cluster : ∀ c s t, states s t →
    AnswerAlike (.cluster c) (around.cluster c s).1 (around'.cluster c t).1 ∧
      states (around.cluster c s).2 (around'.cluster c t).2
  isStopping : ∀ s t, states s t →
    (around.http .isStopping s).1 = (around'.http .isStopping t).1 ∧
      states (around.http .isStopping s).2 (around'.http .isStopping t).2
  send : ∀ request request' s t, withoutAuthorization request = withoutAuthorization request' → states s t →
    (around.http (.send request) s).1 = (around'.http (.send request') t).1 ∧
      states (around.http (.send request) s).2 (around'.http (.send request') t).2
  now : ∀ s t, states s t → (around.now s).1 = (around'.now t).1 ∧ states (around.now s).2 (around'.now t).2

/-- Calls that agree but for credentials are the same call, or requests that differ in how they are authorized. -/
theorem eq_of_withoutSecrets {c d : Call} (h : c.withoutSecrets = d.withoutSecrets) :
    c = d ∨ ∃ request request', c = .http (.send request) ∧ d = .http (.send request') ∧
      withoutAuthorization request = withoutAuthorization request' := by
  cases c with
  | http c =>
    cases d with
    | http d =>
      have hcalls : Management.withoutSecrets c = Management.withoutSecrets d := Call.http.inj h
      cases c with
      | isStopping =>
        cases d with
        | isStopping => exact .inl rfl
        | send request' => cases hcalls
      | send request =>
        cases d with
        | isStopping => cases hcalls
        | send request' => exact .inr ⟨request, request', rfl, rfl, Http.Call.send.inj hcalls⟩
    | _ => cases h
  | _ =>
    cases d with
    | http d => cases h
    | _ => exact .inl h

section Twins

variable {σ τ : Type} {states : σ → τ → Prop} {around : Surroundings σ} {around' : Surroundings τ}

/-- Twins with the same books serve calls alike. -/
theorem Surroundings.Twins.serve (h : Surroundings.Twins states around around') :
    Program.Twins butForSecrets (fun (s : σ × Backoff) (t : τ × Backoff) => states s.1 t.1 ∧ s.2 = t.2)
      around.serve around'.serve := by
  rintro c d ⟨s, books⟩ ⟨t, _⟩ hcalls ⟨hst, rfl⟩
  rcases eq_of_withoutSecrets hcalls with rfl | ⟨request, request', rfl, rfl, hrequests⟩
  · cases c with
    | cluster c =>
      obtain ⟨halike, hstates⟩ := h.cluster c s t hst
      exact ⟨.answer halike, hstates, rfl⟩
    | http c =>
      cases c with
      | isStopping =>
        obtain ⟨heq, hstates⟩ := h.isStopping s t hst
        exact ⟨.answer heq, hstates, rfl⟩
      | send request =>
        obtain ⟨heq, hstates⟩ := h.send request request s t rfl hst
        exact ⟨.answer heq, hstates, rfl⟩
    | now =>
      obtain ⟨heq, hstates⟩ := h.now s t hst
      exact ⟨.answer heq, hstates, rfl⟩
    | _ =>
      -- the operator keeps its own books
      exact ⟨.answer rfl, hst, rfl⟩
  · obtain ⟨heq, hstates⟩ := h.send request request' s t hrequests hst
    refine ⟨.http ?_, hstates, rfl⟩
    show ExchangeAlike ⟨.send request, (around.http (.send request) s).1⟩
      ⟨.send request', (around'.http (.send request') t).1⟩
    rw [heq]
    exact .send _ hrequests

/-- Exchanges that are alike have calls that agree but for credentials. -/
theorem Alike.withoutSecrets {e e' : Exchange Call.Answer} (h : Alike e e') :
    e.1.withoutSecrets = e'.1.withoutSecrets := by
  cases h with
  | answer h => rfl
  | http h =>
    cases h with
    | isStopping stopping => rfl
    | send outcome h => exact congrArg (fun request => Call.http (.send request)) h

/-- Between such surroundings a pass over a definition ends in the same way, and makes the same calls but for the
headers that show credentials: the same statuses are written, the same events are published, the same is counted under
the same labels, the same requests are sent, and the same is done about a failure. And credentials are shown by their
kind and user name alone. -/
theorem credentials_stay_secret (htwins : Surroundings.Twins states around around') {s : σ} {t : τ}
    (hst : states s t) (settings : Settings) (api : ApiDefinition) (books : Backoff) :
    around.outcome (Api.attend settings api) s books = around'.outcome (Api.attend settings api) t books ∧
      ((around.log (Api.attend settings api) s books).map fun e => e.1.withoutSecrets) =
        ((around'.log (Api.attend settings api) t books).map fun e => e.1.withoutSecrets) ∧
      (∀ token token', (Credentials.bearer token).redacted = (Credentials.bearer token').redacted) ∧
      ∀ user password password',
        (Credentials.basic user password).redacted = (Credentials.basic user password').redacted := by
  obtain ⟨houtcome, -, hlogs⟩ := (Api.parallel_attend settings api).run htwins.serve
    (s := (s, books)) (t := (t, books)) ⟨hst, rfl⟩
  refine ⟨houtcome, ?_, fun _ _ => rfl, fun _ _ _ => rfl⟩
  unfold Surroundings.log
  generalize (Api.attend settings api).conversation around.serve (s, books) = log at hlogs ⊢
  generalize (Api.attend settings api).conversation around'.serve (t, books) = log' at hlogs ⊢
  induction hlogs with
  | nil => rfl
  | cons h _ ih => rw [List.map_cons, List.map_cons, h.withoutSecrets, ih]

end Twins

/-! ## Two tokens -/

section Sample

/-- A secret with a token. -/
def vaultSecret (token : String) : Secret where
  metadata := { Meta.empty with «namespace» := some "shop", name := some "apim-token" }
  data := some (Dict.empty.insert bearerTokenKey (Text.utf8 token))
  stringData := none

/-- A cluster that keeps the token of a context in a secret, and a backend that knows no record and does not answer a
creation in time. -/
def vault (token : String) : Surroundings Unit where
  cluster := fun c s =>
    match c with
    | .context _ _ => (.ok (some Dependents.gateway), s)
    | .secret _ _ => (.ok (some (vaultSecret token)), s)
    | c => Lifecycle.willing.cluster c s
  http := Lifecycle.willing.http
  now := Lifecycle.willing.now

/-- Secrets that hold clean tokens agree but for the token. -/
theorem vaultSecret_alike {token token' : String} (h : IsClean token) (h' : IsClean token')
    (hread : Text.Utf8.read? (Text.utf8 token) = some token)
    (hread' : Text.Utf8.read? (Text.utf8 token') = some token') :
    SecretAlike (vaultSecret token) (vaultSecret token') := by
  refine ⟨rfl, fun key _ => ?_, fun key _ => .none⟩
  show Option.Rel BytesAlike ((Dict.empty.insert bearerTokenKey (Text.utf8 token)).find? key)
    ((Dict.empty.insert bearerTokenKey (Text.utf8 token')).find? key)
  rw [Dict.find?_insert, Dict.find?_insert]
  by_cases hkey : bearerTokenKey = key
  · rw [if_pos hkey, if_pos hkey]
    exact .some (.inr ⟨token, token', hread, hread', h, h'⟩)
  · rw [if_neg hkey, if_neg hkey]
    exact .none

/-- Clusters that keep such secrets are twins. -/
theorem vault_twins {token token' : String} (h : SecretAlike (vaultSecret token) (vaultSecret token')) :
    Surroundings.Twins Eq (vault token) (vault token') := by
  refine ⟨?_, fun _ _ _ => ⟨rfl, rfl⟩, ?_, fun _ _ _ => ⟨rfl, rfl⟩⟩
  · intro c s t hst
    cases c with
    | context ns name => exact ⟨.ok (.some ⟨rfl, rfl, rfl, rfl, rfl, .none, .none⟩), hst⟩
    | secret ns name => exact ⟨.ok (.some h), hst⟩
    | _ => exact ⟨rfl, rfl⟩
  · intro request request' s t hrequests hst
    have hmethod : request.method = request'.method := (Http.Request.mk.inj hrequests).1
    refine ⟨?_, hst⟩
    show (if request.method = .get then _ else _) = if request'.method = .get then _ else _
    rw [hmethod]

/-- What becomes of the definition does not tell which of two tokens the cluster keeps. -/
theorem vault_keeps_secret :
    Surroundings.Twins Eq (vault "t0k3n") (vault "s3cr3t") ∧
      (vault "t0k3n").outcome (Api.attend Retention.settings Lifecycle.live) () Retention.books =
        (vault "s3cr3t").outcome (Api.attend Retention.settings Lifecycle.live) () Retention.books := by
  have hclean : IsClean "t0k3n" := ⟨by decide, by simp [isControl]⟩
  have hclean' : IsClean "s3cr3t" := ⟨by decide, by simp [isControl]⟩
  have htwins := vault_twins (vaultSecret_alike hclean hclean' (by decide) (by decide))
  exact ⟨htwins, (credentials_stay_secret htwins rfl Retention.settings Lifecycle.live Retention.books).1⟩

end Sample

end GatewayOperator.Reconcile
