import GatewayOperator.Management.HttpClient
import GatewayOperator.Management.Resolution
import GatewayOperator.Proofs.Program.Parallel
import GatewayOperator.Proofs.Text.Blank

/-!
# What credentials have an influence on

Credentials show in the value of one header of a request, and whether they can be sent at all depends only on their
being free of control characters. So two backends with other credentials are sent the same requests but for that
header, and a conversation with one goes in parallel with the same conversation with the other.
-/

set_option autoImplicit false

namespace GatewayOperator.Management

open GatewayOperator.Resource
open Program (Exchange Likeness)
open Program.Pass (Agree)

/-! ## Texts -/

/-- Whether a character is a control character. -/
def isControl (c : Char) : Bool := c.toNat < 0x20 || (0x7F ≤ c.toNat && c.toNat ≤ 0x9F)

/-- A text that is fit to be a credential: it is not blank, and it is free of control characters. -/
structure IsClean (s : String) : Prop where
  nonBlank : (Text.nonBlank? s).isSome = true
  printable : ∀ c ∈ s.toList, isControl c = false

/-- Whether two texts are the same, or both fit to be credentials. -/
def TextAlike (a b : String) : Prop := a = b ∨ IsClean a ∧ IsClean b

/-- Whether two runs of bytes are the same, or both hold texts that are fit to be credentials. -/
def BytesAlike (a b : List UInt8) : Prop :=
  a = b ∨ ∃ s t, Text.Utf8.read? a = some s ∧ Text.Utf8.read? b = some t ∧ IsClean s ∧ IsClean t

/-- An optional value is related to itself if its value is. -/
theorem rel_self {α : Type} {r : α → α → Prop} (hr : ∀ a, r a a) (x : Option α) : Option.Rel r x x := by
  cases x with
  | none => exact .none
  | some a => exact .some (hr a)

section Headers

open Backend (isHeaderValue authorization basicAuthorization)

/-- Whether two texts are both fit to be in a header, or neither. -/
def SameFitness (s t : String) : Prop := isHeaderValue s = isHeaderValue t

/-- A text is as fit for a header as itself. -/
theorem SameFitness.refl (s : String) : SameFitness s s := rfl

/-- A text is fit for a header if its parts are. -/
theorem isHeaderValue_append (s t : String) :
    isHeaderValue (s ++ t) = (isHeaderValue s && isHeaderValue t) := by
  unfold isHeaderValue
  rw [String.toList_append, List.all_append]

/-- A text that is fit to be a credential has a core that is fit for a header. -/
theorem IsClean.exists_core {s : String} (h : IsClean s) :
    ∃ core, Text.nonBlank? s = some core ∧ isHeaderValue core = true := by
  obtain ⟨core, hcore⟩ := Option.isSome_iff_exists.mp h.nonBlank
  refine ⟨core, hcore, List.all_eq_true.mpr ?_⟩
  intro c hc
  have hcontrol := h.printable c (((Text.nonBlank?_eq_some_iff s core).mp hcore).subset hc)
  unfold isControl at hcontrol
  simp at hcontrol ⊢
  omega

/-- A text that is fit to be a credential is not taken for a missing one. -/
theorem nonBlank?_alike {a b : String} (h : TextAlike a b) :
    Option.Rel SameFitness (Text.nonBlank? a) (Text.nonBlank? b) := by
  rcases h with rfl | ⟨ha, hb⟩
  · exact rel_self SameFitness.refl _
  · obtain ⟨core, hcore, hfit⟩ := ha.exists_core
    obtain ⟨core', hcore', hfit'⟩ := hb.exists_core
    rw [hcore, hcore']
    exact .some (hfit.trans hfit'.symm)

/-- Base64 is fit for a header. -/
theorem isHeaderValue_encode (bytes : List UInt8) :
    isHeaderValue (String.ofList (Text.Base64.encode bytes)) = true := by
  have hsmall : ∀ v < 64, isHeaderValue (String.singleton (Text.Base64.symbol v)) = true := by decide
  have hsymbol (v : Nat) : isHeaderValue (String.singleton (Text.Base64.symbol v)) = true := by
    by_cases hv : v < 64
    · exact hsmall v hv
    · have hslash : Text.Base64.symbol v = '/' := by
        unfold Text.Base64.symbol
        rw [if_neg (by omega), if_neg (by omega), if_neg (by omega), if_neg (by omega)]
      rw [hslash]
      decide
  unfold isHeaderValue at hsymbol ⊢
  rw [String.toList_ofList]
  simp only [String.toList_singleton, List.all_cons, List.all_nil, Bool.and_true] at hsymbol
  -- whatever the bytes are, they are written in symbols and padding
  fun_induction Text.Base64.encode bytes with
  | case1 => rfl
  | case2 a n => simp only [List.all_cons, hsymbol]; decide
  | case3 a b n => simp only [List.all_cons, hsymbol]; decide
  | case4 a b c rest n ih => simp only [List.all_cons, hsymbol, ih]; decide

/-- Whatever the user name and the password are, they can be sent. -/
theorem isHeaderValue_basic (user password : String) :
    isHeaderValue (basicAuthorization user password) = true := by
  unfold basicAuthorization
  rw [isHeaderValue_append, isHeaderValue_encode]
  decide

end Headers

/-! ## Credentials -/

/-- Whether two credentials can both be sent, or neither. -/
def CredentialsAlike (c d : Credentials) : Prop :=
  SameFitness (Backend.authorization c) (Backend.authorization d)

/-- Tokens that are equally fit are alike as credentials. -/
theorem bearer_alike {s t : String} (h : SameFitness s t) : CredentialsAlike (.bearer s) (.bearer t) := by
  have hprefix : Backend.isHeaderValue "Bearer " = true := by decide
  show Backend.isHeaderValue ("Bearer " ++ s) = Backend.isHeaderValue ("Bearer " ++ t)
  rw [isHeaderValue_append, isHeaderValue_append, h]

/-- Pairs are alike as credentials, since base64 hides what is in them from the header. -/
theorem basic_alike (user password user' password' : String) :
    CredentialsAlike (.basic user password) (.basic user' password') :=
  (isHeaderValue_basic user password).trans (isHeaderValue_basic user' password').symm

/-- Whether two contexts differ at most in their token and in their password. -/
structure ContextAlike (a b : ManagementContext) : Prop where
  metadata : a.metadata = b.metadata
  baseUrl : a.spec.baseUrl = b.spec.baseUrl
  organizationId : a.spec.organizationId = b.spec.organizationId
  environmentId : a.spec.environmentId = b.spec.environmentId
  secretRef : a.spec.auth.secretRef = b.spec.auth.secretRef
  bearerToken : Option.Rel TextAlike a.spec.auth.bearerToken b.spec.auth.bearerToken
  credentials : Option.Rel (fun x y => x.username = y.username)
    a.spec.auth.credentials b.spec.auth.credentials

/-- The keys of a secret that hold credentials. -/
def credentialKeys : List String := [bearerTokenKey, usernameKey, passwordKey]

/-- Whether two secrets agree but for the values of their credentials. -/
structure SecretAlike (a b : Secret) : Prop where
  metadata : a.metadata = b.metadata
  data : ∀ key ∈ credentialKeys,
    Option.Rel BytesAlike (a.data.bind fun d => d.find? key) (b.data.bind fun d => d.find? key)
  stringData : ∀ key ∈ credentialKeys,
    Option.Rel TextAlike (a.stringData.bind fun d => d.find? key) (b.stringData.bind fun d => d.find? key)

/-- Texts that are alike have values that are equally fit, or neither has one. -/
theorem bind_nonBlank?_alike {x y : Option String} (h : Option.Rel TextAlike x y) :
    Option.Rel SameFitness (x.bind Text.nonBlank?) (y.bind Text.nonBlank?) := by
  cases h with
  | none => exact .none
  | some h =>
    rw [Option.bind_some, Option.bind_some]
    exact nonBlank?_alike h

/-- Contexts that are alike offer credentials that are alike, or neither offers any. -/
theorem ContextAlike.inlineCredentials {a b : ManagementContext} (h : ContextAlike a b) :
    Option.Rel CredentialsAlike (inlineCredentials a) (inlineCredentials b) := by
  have htoken := bind_nonBlank?_alike h.bearerToken
  unfold Management.inlineCredentials
  generalize a.spec.auth.bearerToken.bind Text.nonBlank? = token at htoken ⊢
  generalize b.spec.auth.bearerToken.bind Text.nonBlank? = token' at htoken ⊢
  cases htoken with
  | some htoken => exact .some (bearer_alike htoken)
  | none =>
    have hbasic := h.credentials
    generalize a.spec.auth.credentials = basic at hbasic ⊢
    generalize b.spec.auth.credentials = basic' at hbasic ⊢
    cases hbasic with
    | none => exact .none
    | some hbasic => exact .some (basic_alike _ _ _ _)

/-- Contexts that are alike point at the same secret. -/
theorem ContextAlike.secretKey {a b : ManagementContext} (h : ContextAlike a b) :
    secretKey a = secretKey b := by
  unfold Management.secretKey
  rw [h.secretRef, h.metadata]

/-- Secrets that are alike have values that are equally fit, or fail alike. -/
theorem SecretAlike.secretValue {a b : Secret} (h : SecretAlike a b) {key : String}
    (hkey : key ∈ credentialKeys) :
    Agree (Option.Rel SameFitness) (secretValue a key) (secretValue b key) := by
  have hdata := h.data key hkey
  have htext := bind_nonBlank?_alike (h.stringData key hkey)
  unfold Management.secretValue
  generalize (a.data.bind fun d => d.find? key) = bytes at hdata ⊢
  generalize (b.data.bind fun d => d.find? key) = bytes' at hdata ⊢
  cases hdata with
  | none => exact .ok htext
  | @some x y hbytes =>
    dsimp only
    rw [h.metadata]
    rcases hbytes with rfl | ⟨s, t, hs, ht, hclean⟩
    · cases Text.Utf8.read? x with
      | none => exact .error _
      | some s => exact .ok (rel_self SameFitness.refl (Text.nonBlank? s))
    · rw [hs, ht]
      exact .ok (nonBlank?_alike (.inr hclean))

/-- Secrets that are alike give credentials that are alike, or fail alike. -/
theorem SecretAlike.credentials {a b : Secret} (h : SecretAlike a b) :
    Agree CredentialsAlike (credentialsOfSecret a) (credentialsOfSecret b) := by
  have htoken := h.secretValue (show bearerTokenKey ∈ credentialKeys by decide)
  have huser := h.secretValue (show usernameKey ∈ credentialKeys by decide)
  have hpassword := h.secretValue (show passwordKey ∈ credentialKeys by decide)
  unfold credentialsOfSecret
  rw [h.metadata]
  refine htoken.bind fun token token' htoken => ?_
  cases htoken with
  | some htoken => exact .ok (bearer_alike htoken)
  | none =>
    refine huser.bind fun user user' huser => hpassword.bind fun password password' hpassword => ?_
    cases huser with
    | none => exact .error _
    | some _ =>
      cases hpassword with
      | none => exact .error _
      | some _ => exact .ok (basic_alike _ _ _ _)

/-! ## Requests -/

/-- A request without the headers that show credentials. -/
def withoutAuthorization (request : Http.Request) : Http.Request :=
  { request with headers := request.headers.filter fun header => header.1 ≠ "authorization" }

/-- A call without credentials. -/
def withoutSecrets : Http.Call → Http.Call
  | .isStopping => .isStopping
  | .send request => .send (withoutAuthorization request)

/-- Whether two exchanges agree but for the credentials that are sent. -/
inductive ExchangeAlike : Exchange Http.Call.Answer → Exchange Http.Call.Answer → Prop
  | isStopping (stopping : Bool) : ExchangeAlike ⟨.isStopping, stopping⟩ ⟨.isStopping, stopping⟩
  | send {request request' : Http.Request} (outcome : Http.Outcome)
      (h : withoutAuthorization request = withoutAuthorization request') :
      ExchangeAlike ⟨.send request, outcome⟩ ⟨.send request', outcome⟩

/-- An exchange agrees with itself. -/
theorem ExchangeAlike.refl (e : Exchange Http.Call.Answer) : ExchangeAlike e e := by
  obtain ⟨c, answer⟩ := e
  cases c with
  | isStopping => exact .isStopping answer
  | send request => exact .send answer rfl

/-- Calls are alike if they agree without credentials. -/
def overHttp : Likeness Http.Call.Answer := ⟨fun c d => withoutSecrets c = withoutSecrets d, ExchangeAlike⟩

/-- Whether two backends differ at most in their credentials. -/
structure BackendAlike (b b' : Backend) : Prop where
  collection : b.collection = b'.collection
  timeout : b.timeout = b'.timeout
  credentials : CredentialsAlike b.credentials b'.credentials

/-- Clients with credentials that are alike are built or refused alike. -/
theorem ofBase_alike {c d : Credentials} (h : CredentialsAlike c d) (base organization environment : String)
    (timeout : Span) :
    Agree BackendAlike (Backend.ofBase base organization environment c timeout)
      (Backend.ofBase base organization environment d timeout) := by
  unfold Backend.ofBase
  generalize Endpoint.collection base organization environment = collection
  cases collection with
  | error failure => exact .error failure
  | ok url => exact .ok ⟨rfl, rfl, h⟩

section Backends

variable {b b' : Backend} {method : Http.Method} {url : Url} {payload : Option Payload}

/-- Of the headers that show credentials none remains once these are left out. -/
theorem filter_authorization (values : List String) :
    ((values.map fun value => ("authorization", value)).filter fun header => header.1 ≠ "authorization") =
      [] := by
  rw [List.filter_eq_nil_iff]
  intro header hheader
  obtain ⟨value, -, rfl⟩ := List.mem_map.mp hheader
  simp

/-- To both backends the same request is sent, apart from the credentials, or to neither. -/
theorem BackendAlike.request? (h : BackendAlike b b') (method : Http.Method) (url : Url)
    (payload : Option Payload) :
    Option.Rel (fun request request' => withoutAuthorization request = withoutAuthorization request')
      (b.request? method url payload) (b'.request? method url payload) := by
  have hsent : Backend.isHeaderValue (Backend.authorization b.credentials) =
      Backend.isHeaderValue (Backend.authorization b'.credentials) := h.credentials
  unfold Backend.request?
  dsimp only
  rw [hsent]
  split
  · -- the credentials are in headers of one name, which are left out on both sides
    refine .some ?_
    unfold withoutAuthorization
    simp only [List.filter_append, filter_authorization, h.timeout]
  · exact .none

/-- The sending of requests that agree but for credentials goes in parallel. -/
theorem parallel_send {request request' : Http.Request}
    (h : withoutAuthorization request = withoutAuthorization request') :
    Program.Pass.Parallel overHttp Eq (Program.Pass.ask (Http.Call.send request) : Backend.Wire Http.Outcome)
      (Program.Pass.ask (Http.Call.send request')) := by
  refine ⟨congrArg Http.Call.send h, fun answer other halike => ?_⟩
  cases halike
  exact .ok rfl

/-- Backends that are alike send in parallel. -/
theorem BackendAlike.send (h : BackendAlike b b') (method : Http.Method) (url : Url)
    (payload : Option Payload) :
    Program.Pass.Parallel overHttp Eq (b.send method url payload) (b'.send method url payload) := by
  unfold Backend.send
  refine Program.Pass.Parallel.bind_same ?_ fun stopping => ?_
  · refine ⟨rfl, fun answer other halike => ?_⟩
    cases halike
    exact .ok rfl
  cases stopping with
  | true => exact ⟨.error _⟩
  | false =>
    have hrequest := h.request? method url payload
    generalize b.request? method url payload = request at hrequest ⊢
    generalize b'.request? method url payload = request' at hrequest ⊢
    cases hrequest with
    | none => exact ⟨.error _⟩
    | @some request request' hrequest =>
      have htarget : request.url = request'.url := (Http.Request.mk.inj hrequest).2.1
      dsimp only
      rw [htarget]
      cases Backend.isAddress request'.url with
      | false => exact ⟨.error _⟩
      | true =>
        refine (parallel_send hrequest).bind_same fun outcome => ?_
        cases outcome with
        | response status body => exact Program.Pass.parallel_pure rfl
        | _ => exact Program.Pass.parallel_throw _

/-- Backends that are alike hold each exchange in parallel. -/
theorem BackendAlike.exchange (h : BackendAlike b b') (c : Call) :
    Program.Pass.Parallel overHttp Eq (b.exchange c) (b'.exchange c) := by
  have hread {α : Type} (method : Http.Method) (url : Url) (payload : Option Payload)
      (read : Http.Status → List UInt8 → Except Failure α) :
      Program.Pass.Parallel overHttp Eq
        (b.send method url payload >>= fun response => Program.Pass.ofResult (read response.1 response.2))
        (b'.send method url payload >>= fun response => Program.Pass.ofResult (read response.1 response.2)) := by
    refine (h.send method url payload).bind_same fun response => ?_
    exact Program.Pass.parallel_ofResult (Program.Pass.agree_eq.mpr rfl)
  unfold Backend.exchange
  rw [h.collection]
  cases c with
  | lookup crossId => exact hread _ _ _ _
  | create payload => exact hread _ _ _ _
  | update id payload => exact hread _ _ _ _
  | delete id => exact hread _ _ _ _

/-- A session with one backend goes in parallel with the same session with the other. -/
theorem BackendAlike.converse {α : Type} (h : BackendAlike b b') (session : Session α) :
    (b.converse session).Parallel overHttp Eq (b'.converse session) := by
  refine (Program.parallel_same session.run).interpret fun c d hcalls => ?_
  obtain rfl : c = d := hcalls
  refine (h.exchange c).run.mono fun answer other hagree => ?_
  rw [Program.Pass.agree_eq.mp hagree]
  exact rfl

end Backends

end GatewayOperator.Management
