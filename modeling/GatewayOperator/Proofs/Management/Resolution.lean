import GatewayOperator.Management.Resolution
import GatewayOperator.Proofs.Text.Blank
import GatewayOperator.Proofs.Text.Utf8

/-!
# What a secret and a context hold

Under a key a secret has a text with a core, no text or a blank one, or bytes that are no text. Which
credentials it gives is told by these three cases for each of its keys. A context itself holds a token, a pair
of user name and password, or neither.
-/

set_option autoImplicit false

namespace GatewayOperator.Management

open GatewayOperator.Resource
open Text (utf8 IsBlankText IsTrimmed IsCoreOf nonBlank?)

/-! ## The values of a secret -/

/-- The bytes that a secret has under a key. Data hides a text of the same key, whatever its bytes are. -/
def valueAt (secret : Secret) (key : String) : Option (List UInt8) :=
  (secret.data.bind fun d => d.find? key).or ((secret.stringData.bind fun d => d.find? key).map utf8)

/-- Whether a secret has a text under a key of which this is what stands between the blanks. -/
def Offers (secret : Secret) (key core : String) : Prop :=
  ∃ s, valueAt secret key = some (utf8 s) ∧ IsCoreOf core s

/-- Whether a secret has nothing under a key, or a blank text. -/
def Lacks (secret : Secret) (key : String) : Prop :=
  ∀ bytes ∈ valueAt secret key, ∃ s, bytes = utf8 s ∧ IsBlankText s

/-- Whether what a secret has under a key is no text. -/
def IsGarbled (secret : Secret) (key : String) : Prop :=
  ∃ bytes ∈ valueAt secret key, ∀ s, bytes ≠ utf8 s

variable {secret : Secret} {key : String}

/-- A value is found in the same way whether data or a text holds it. -/
theorem secretValue_eq (secret : Secret) (key : String) :
    secretValue secret key =
      match valueAt secret key with
      | none => .ok none
      | some bytes =>
        match Text.Utf8.read? bytes with
        | some s => .ok (nonBlank? s)
        | none => .error (.invalidCredentials secret.metadata.key) := by
  unfold secretValue valueAt
  cases secret.data.bind fun d => d.find? key with
  | some bytes => rfl
  | none =>
    cases secret.stringData.bind fun d => d.find? key with
    | none => rfl
    | some s =>
      have hread : Text.Utf8.read? (utf8 s) = some s := Text.Utf8.read?_eq_some_iff.mpr rfl
      simp [hread]

/-- The value of a text in a secret is what is not blank of it. -/
theorem secretValue_of_text {s : String} (h : valueAt secret key = some (utf8 s)) :
    secretValue secret key = .ok (nonBlank? s) := by
  have hread : Text.Utf8.read? (utf8 s) = some s := Text.Utf8.read?_eq_some_iff.mpr rfl
  simp only [secretValue_eq, h, hread]

/-- A value that is offered is found. -/
theorem Offers.secretValue_eq {core : String} (h : Offers secret key core) :
    secretValue secret key = .ok (some core) := by
  obtain ⟨s, hvalue, hcore⟩ := h
  rw [secretValue_of_text hvalue, (Text.nonBlank?_eq_some_iff s core).mpr hcore]

/-- A value that is lacking is not found. -/
theorem Lacks.secretValue_eq (h : Lacks secret key) : secretValue secret key = .ok none := by
  cases hvalue : valueAt secret key with
  | none => simp only [Management.secretValue_eq, hvalue]
  | some bytes =>
    obtain ⟨s, rfl, hblank⟩ := h bytes hvalue
    rw [secretValue_of_text hvalue, (Text.nonBlank?_eq_none_iff s).mpr hblank]

/-- A value that is garbled makes the credentials of the secret invalid. -/
theorem IsGarbled.secretValue_eq (h : IsGarbled secret key) :
    secretValue secret key = .error (.invalidCredentials secret.metadata.key) := by
  obtain ⟨bytes, hvalue, hno⟩ := h
  have hread : Text.Utf8.read? bytes = none := Text.Utf8.read?_eq_none_iff.mpr hno
  simp only [Management.secretValue_eq, Option.mem_def.mp hvalue, hread]

/-- There is no fourth case. -/
theorem value_cases (secret : Secret) (key : String) :
    (∃ core, Offers secret key core) ∨ Lacks secret key ∨ IsGarbled secret key := by
  cases hvalue : valueAt secret key with
  | none =>
    refine .inr (.inl ?_)
    intro bytes hbytes
    simp [hvalue] at hbytes
  | some bytes =>
    by_cases htext : ∃ s, bytes = utf8 s
    · obtain ⟨s, rfl⟩ := htext
      cases hcore : nonBlank? s with
      | some core => exact .inl ⟨core, s, hvalue, (Text.nonBlank?_eq_some_iff s core).mp hcore⟩
      | none =>
        refine .inr (.inl ?_)
        intro bytes hbytes
        obtain rfl := Option.some.inj (hvalue.symm.trans hbytes)
        exact ⟨s, rfl, (Text.nonBlank?_eq_none_iff s).mp hcore⟩
    · refine .inr (.inr ⟨bytes, hvalue, ?_⟩)
      intro s hs
      exact htext ⟨s, hs⟩

/-- A value that is not garbled is found or lacking. -/
theorem exists_secretValue (h : ¬ IsGarbled secret key) : ∃ found, secretValue secret key = .ok found := by
  rcases value_cases secret key with ⟨core, hoffers⟩ | hlacks | hgarbled
  · exact ⟨some core, hoffers.secretValue_eq⟩
  · exact ⟨none, hlacks.secretValue_eq⟩
  · exact absurd hgarbled h

/-! ## The credentials of a secret -/

/-- What a secret gives. Its token comes before a pair, so what it has of a pair is only looked at where there
is no token. -/
inductive Gives (secret : Secret) : Except PassFailure Credentials → Prop
  | token {token : String} (htoken : Offers secret bearerTokenKey token) : Gives secret (.ok (.bearer token))
  | garbledToken (htoken : IsGarbled secret bearerTokenKey) :
    Gives secret (.error (.invalidCredentials secret.metadata.key))
  | pair {username password : String} (htoken : Lacks secret bearerTokenKey)
    (husername : Offers secret usernameKey username) (hpassword : Offers secret passwordKey password) :
    Gives secret (.ok (.basic username password))
  | garbledPair (htoken : Lacks secret bearerTokenKey)
    (hpair : IsGarbled secret usernameKey ∨ IsGarbled secret passwordKey) :
    Gives secret (.error (.invalidCredentials secret.metadata.key))
  | noPassword {username : String} (htoken : Lacks secret bearerTokenKey)
    (husername : Offers secret usernameKey username) (hpassword : Lacks secret passwordKey) :
    Gives secret (.error (.secretKeyNotFound passwordKey secret.metadata.key))
  | noUsername (htoken : Lacks secret bearerTokenKey) (husername : Lacks secret usernameKey)
    (hpassword : ¬ IsGarbled secret passwordKey) :
    Gives secret (.error (.secretKeyNotFound bearerTokenKey secret.metadata.key))

variable {result : Except PassFailure Credentials}

/-- The credentials of a secret are what it gives. -/
theorem gives_credentialsOfSecret (secret : Secret) : Gives secret (credentialsOfSecret secret) := by
  unfold credentialsOfSecret
  rcases value_cases secret bearerTokenKey with ⟨token, htoken⟩ | htoken | htoken
  · rw [htoken.secretValue_eq]
    exact .token htoken
  · rw [htoken.secretValue_eq]
    rcases value_cases secret usernameKey with ⟨username, husername⟩ | husername | husername
    · rcases value_cases secret passwordKey with ⟨password, hpassword⟩ | hpassword | hpassword
      · simp only [husername.secretValue_eq, hpassword.secretValue_eq]
        exact .pair htoken husername hpassword
      · simp only [husername.secretValue_eq, hpassword.secretValue_eq]
        exact .noPassword htoken husername hpassword
      · simp only [husername.secretValue_eq, hpassword.secretValue_eq]
        exact .garbledPair htoken (.inr hpassword)
    · by_cases hpassword : IsGarbled secret passwordKey
      · simp only [husername.secretValue_eq, hpassword.secretValue_eq]
        exact .garbledPair htoken (.inr hpassword)
      · obtain ⟨found, hfound⟩ := exists_secretValue hpassword
        simp only [husername.secretValue_eq, hfound]
        exact .noUsername htoken husername hpassword
    · simp only [husername.secretValue_eq]
      exact .garbledPair htoken (.inl husername)
  · rw [htoken.secretValue_eq]
    exact .garbledToken htoken

/-- A secret gives one thing only. -/
theorem Gives.eq_credentialsOfSecret (h : Gives secret result) : credentialsOfSecret secret = result := by
  unfold credentialsOfSecret
  cases h with
  | token htoken =>
    rw [htoken.secretValue_eq]
    rfl
  | garbledToken htoken =>
    rw [htoken.secretValue_eq]
    rfl
  | pair htoken husername hpassword =>
    rw [htoken.secretValue_eq, husername.secretValue_eq, hpassword.secretValue_eq]
    rfl
  | garbledPair htoken hpair =>
    rw [htoken.secretValue_eq]
    -- whichever of the two cannot be read, the failure names the secret only
    by_cases husername : IsGarbled secret usernameKey
    · rw [husername.secretValue_eq]
      rfl
    · obtain ⟨found, hfound⟩ := exists_secretValue husername
      have hpassword := hpair.resolve_left husername
      rw [hfound, hpassword.secretValue_eq]
      rfl
  | noPassword htoken husername hpassword =>
    rw [htoken.secretValue_eq, husername.secretValue_eq, hpassword.secretValue_eq]
    rfl
  | noUsername htoken husername hpassword =>
    obtain ⟨found, hfound⟩ := exists_secretValue hpassword
    rw [htoken.secretValue_eq, husername.secretValue_eq, hfound]
    rfl

/-- What a secret gives is unique. -/
theorem credentialsOfSecret_eq_iff : credentialsOfSecret secret = result ↔ Gives secret result := by
  constructor
  · rintro rfl
    exact gives_credentialsOfSecret secret
  · intro h
    exact h.eq_credentialsOfSecret

/-! ## The credentials of a context -/

/-- Whether a context has no token itself, or a blank one. -/
def LacksToken (context : ManagementContext) : Prop := ∀ s ∈ context.spec.auth.bearerToken, IsBlankText s

instance (context : ManagementContext) : Decidable (LacksToken context) :=
  inferInstanceAs (Decidable (∀ s ∈ context.spec.auth.bearerToken, IsBlankText s))

variable {context : ManagementContext}

/-- A context that does not lack a token of its own has one with a core. -/
theorem exists_token (h : ¬ LacksToken context) :
    ∃ s token, context.spec.auth.bearerToken = some s ∧ IsCoreOf token s := by
  obtain ⟨s, hs, hblank⟩ : ∃ s, context.spec.auth.bearerToken = some s ∧ ¬ IsBlankText s := by
    simpa [LacksToken] using h
  obtain ⟨token, hcore⟩ := Text.exists_isCoreOf hblank
  exact ⟨s, token, hs, hcore⟩

/-- A token of the context comes first among what it holds. -/
theorem inlineCredentials_of_token {s token : String} (hs : context.spec.auth.bearerToken = some s)
    (htoken : IsCoreOf token s) : inlineCredentials context = some (.bearer token) := by
  have hfound : nonBlank? s = some token := (Text.nonBlank?_eq_some_iff s token).mpr htoken
  simp [inlineCredentials, hs, hfound]

/-- Without a token the context offers its pair, if it has one. -/
theorem inlineCredentials_of_lacksToken (h : LacksToken context) :
    inlineCredentials context =
      context.spec.auth.credentials.map fun pair => .basic pair.username pair.password := by
  have hnone : context.spec.auth.bearerToken.bind nonBlank? = none := by
    rw [Option.bind_eq_none_iff]
    intro s hs
    exact (Text.nonBlank?_eq_none_iff s).mpr (h s hs)
  simp [inlineCredentials, hnone]

/-- A context offers nothing itself if it lacks a token and has no pair. -/
theorem inlineCredentials_eq_none_iff :
    inlineCredentials context = none ↔ LacksToken context ∧ context.spec.auth.credentials = none := by
  by_cases htoken : LacksToken context
  · simp [inlineCredentials_of_lacksToken htoken, htoken]
  · obtain ⟨s, token, hs, hcore⟩ := exists_token htoken
    simp [inlineCredentials_of_token hs hcore, htoken]

/-- A context points at no secret if it refers to none. -/
theorem secretKey_eq_none_iff : secretKey context = none ↔ context.spec.auth.secretRef = none := by
  simp [secretKey]

/-! ## What is worth sending -/

/-- Whether credentials are no blanks: a token that is not blank and has no blanks around it, or a pair of
which neither part is blank. -/
def Credentials.IsUsable : Credentials → Prop
  | .bearer token => ¬ IsBlankText token ∧ IsTrimmed token
  | .basic username password => ¬ IsBlankText username ∧ ¬ IsBlankText password

/-- A token with a core is usable. -/
theorem isUsable_bearer {token s : String} (h : IsCoreOf token s) : (Credentials.bearer token).IsUsable :=
  ⟨h.not_isBlankText, h.2.1⟩

/-- What a secret gives is never blank. -/
theorem Gives.isUsable {found : Credentials} (h : Gives secret (.ok found)) : found.IsUsable := by
  cases h with
  | token htoken =>
    obtain ⟨s, -, hcore⟩ := htoken
    exact isUsable_bearer hcore
  | pair htoken husername hpassword =>
    obtain ⟨s, -, hcore⟩ := husername
    obtain ⟨t, -, hcore'⟩ := hpassword
    exact ⟨hcore.not_isBlankText, hcore'.not_isBlankText⟩

end GatewayOperator.Management
