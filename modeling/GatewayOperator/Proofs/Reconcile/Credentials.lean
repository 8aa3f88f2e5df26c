import GatewayOperator.Proofs.Management.Resolution
import GatewayOperator.Proofs.Reconcile.Dependents

/-!
# Which credentials are taken

A pass takes the credentials of a context from three places: its own token, its own pair of user name and
password, and the secret it names. Each place hides those after it, and only the last one is looked up. A place
is passed over when it holds a blank token, but not when it holds a blank pair.
-/

set_option autoImplicit false

namespace GatewayOperator.Reconcile.Api

open GatewayOperator.Resource GatewayOperator.Management
open Program (Exchange)
open Text (IsBlankText IsCoreOf)

variable {context : ManagementContext} {key : Key} {log : List (Exchange Call.Answer)}
  {result : Except PassFailure Credentials}

/-- The look-up of a secret with its answer. -/
def secretRead (key : Key) (answer : Except Kube.Failure (Option Secret)) : Exchange Call.Answer :=
  ⟨.cluster (.secret key.1 key.2), answer⟩

/-- What a look-up of a secret comes to: the failure of the look-up, the lack of the secret, or what the secret
gives. -/
def Told (key : Key) : Except Kube.Failure (Option Secret) → Except PassFailure Credentials → Prop
  | .error failure, result => result = .error (.kube failure)
  | .ok none, result => result = .error (.secretNotFound key.text)
  | .ok (some secret), result => Gives secret result

/-! ## The places one after the other -/

/-- Credentials of the context itself are taken without a look-up. -/
theorem yields_of_inline {found : Credentials} (h : inlineCredentials context = some found) :
    (credentials context).run.Yields log result ↔ log = [] ∧ result = .ok found := by
  unfold credentials
  rw [h]
  rfl

/-- A context without credentials and without a secret is told so, without a look-up. -/
theorem yields_of_nothing (hinline : inlineCredentials context = none) (hkey : secretKey context = none) :
    (credentials context).run.Yields log result ↔
      log = [] ∧ result = .error (.missingCredentials context.metadata.key) := by
  unfold credentials
  rw [hinline, hkey]
  rfl

/-- Otherwise the secret is looked up, and what it comes to is the result. -/
theorem yields_of_secret (hinline : inlineCredentials context = none) (hkey : secretKey context = some key) :
    (credentials context).run.Yields log result ↔
      ∃ answer, log = [secretRead key answer] ∧ Told key answer result := by
  unfold credentials
  rw [hinline, hkey]
  constructor
  · rintro ⟨answer, rest, rfl, hrest⟩
    cases answer with
    | error failure =>
      obtain ⟨rfl, rfl⟩ := hrest
      exact ⟨.error failure, rfl, rfl⟩
    | ok found =>
      cases found with
      | none =>
        obtain ⟨rfl, rfl⟩ := hrest
        exact ⟨.ok none, rfl, rfl⟩
      | some secret =>
        obtain ⟨rfl, rfl⟩ := hrest
        exact ⟨.ok (some secret), rfl, credentialsOfSecret_eq_iff.mp rfl⟩
  · rintro ⟨answer, rfl, htold⟩
    refine ⟨answer, [], rfl, ?_⟩
    match answer, htold with
    | .error failure, htold => exact ⟨rfl, htold⟩
    | .ok none, htold => exact ⟨rfl, htold⟩
    | .ok (some secret), htold => exact ⟨rfl, (credentialsOfSecret_eq_iff.mpr htold).symm⟩

/-- No look-up says that a context has no credentials. -/
theorem not_told_missing {answer : Except Kube.Failure (Option Secret)} {name : String} :
    ¬ Told key answer (.error (.missingCredentials name)) := by
  intro htold
  match answer, htold with
  | .error failure, htold => cases htold
  | .ok none, htold => cases htold
  | .ok (some secret), htold => cases htold

/-- Credentials are missing only if the context has none and names no secret. -/
theorem missing_iff {name : String} :
    (credentials context).run.Yields log (.error (.missingCredentials name)) ↔
      log = [] ∧ name = context.metadata.key ∧ inlineCredentials context = none ∧
        secretKey context = none := by
  cases hinline : inlineCredentials context with
  | some found => simp [yields_of_inline hinline]
  | none =>
    cases hkey : secretKey context with
    | none => simp [yields_of_nothing hinline hkey]
    | some key =>
      have hno : ¬ (credentials context).run.Yields log (.error (.missingCredentials name)) := by
        rw [yields_of_secret hinline hkey]
        rintro ⟨answer, -, htold⟩
        exact not_told_missing htold
      simp [hno]

/-! ## Precedence -/

/-- A token of the context that is not blank is taken without the blanks around it, else a pair of the context
as it is. In both cases nothing is looked up, so neither the rest of the context nor the cluster makes a
difference. Else the secret that the context names decides alone. That credentials are missing is said exactly
if there is none of the three. -/
theorem credentials_by_precedence (context : ManagementContext) :
    (∀ s, context.spec.auth.bearerToken = some s → ¬ IsBlankText s →
      ∃ token, IsCoreOf token s ∧ ∀ log result,
        (credentials context).run.Yields log result ↔ log = [] ∧ result = .ok (.bearer token)) ∧
    (LacksToken context →
      (∀ pair, context.spec.auth.credentials = some pair → ∀ log result,
        (credentials context).run.Yields log result ↔
          log = [] ∧ result = .ok (.basic pair.username pair.password)) ∧
      (context.spec.auth.credentials = none → ∀ key, secretKey context = some key → ∀ log result,
        (credentials context).run.Yields log result ↔
          ∃ answer, log = [secretRead key answer] ∧ Told key answer result)) ∧
    ∀ log name,
      (credentials context).run.Yields log (.error (.missingCredentials name)) ↔
        log = [] ∧ name = context.metadata.key ∧ LacksToken context ∧
          context.spec.auth.credentials = none ∧ context.spec.auth.secretRef = none := by
  refine ⟨?_, ?_, ?_⟩
  · intro s hs hblank
    obtain ⟨token, hcore⟩ := Text.exists_isCoreOf hblank
    refine ⟨token, hcore, ?_⟩
    intro log result
    exact yields_of_inline (inlineCredentials_of_token hs hcore)
  · intro htoken
    have hinline := inlineCredentials_of_lacksToken htoken
    constructor
    · intro pair hpair log result
      rw [hpair] at hinline
      exact yields_of_inline hinline
    · intro hpair key hkey log result
      rw [hpair] at hinline
      exact yields_of_secret hinline hkey
  · intro log name
    rw [missing_iff, inlineCredentials_eq_none_iff, secretKey_eq_none_iff, and_assoc]

section Sample

/-- A context that holds all there is: a token with blanks around it, a pair, and the name of a secret. -/
def crowded : ManagementContext :=
  { Dependents.gateway with
    spec := { Dependents.gateway.spec with
      auth := ⟨some "\tt1 ", some ⟨"admin", "pw"⟩, some ⟨"apim-token", none⟩⟩ } }

/-- A secret with a pair, and with a token that is no text. -/
def smudged : Secret :=
  { Dependents.token with
    data := some (((Dict.empty.insert bearerTokenKey [0xFF, 0xFE]).insert usernameKey
      (Text.utf8 "admin")).insert passwordKey (Text.utf8 "pw")) }

/-- The token of the smudged secret is garbled. -/
theorem isGarbled_smudged : IsGarbled smudged bearerTokenKey := by
  refine ⟨[0xFF, 0xFE], by decide, ?_⟩
  exact Text.Utf8.read?_eq_none_iff.mp (by decide)

/-- The smudged secret makes the credentials invalid. -/
theorem gives_smudged : Gives smudged (.error (.invalidCredentials smudged.metadata.key)) :=
  .garbledToken isGarbled_smudged

/-- The context points at the secret beside it. -/
theorem secretKey_gateway : secretKey Dependents.gateway = some ("shop", "apim-token") := by decide

/-- A token hides the rest, and a secret is what is left when there is neither a token nor a pair. -/
theorem crowded_keeps_token :
    (crowded.spec.auth.bearerToken = some "\tt1 " ∧ ¬ IsBlankText "\tt1 " ∧
      ∃ token, IsCoreOf token "\tt1 " ∧ ∀ log result,
        (credentials crowded).run.Yields log result ↔ log = [] ∧ result = .ok (.bearer token)) ∧
    LacksToken Dependents.gateway ∧ Dependents.gateway.spec.auth.credentials = none ∧
      secretKey Dependents.gateway = some ("shop", "apim-token") ∧
      (credentials Dependents.gateway).run.Yields [secretRead ("shop", "apim-token") (.ok (some smudged))]
        (.error (.invalidCredentials smudged.metadata.key)) := by
  have hblank : ¬ IsBlankText "\tt1 " := by decide
  have htoken : LacksToken Dependents.gateway := by decide
  obtain ⟨hcrowded, -⟩ := credentials_by_precedence crowded
  obtain ⟨-, hgateway, -⟩ := credentials_by_precedence Dependents.gateway
  obtain ⟨-, hsecret⟩ := hgateway htoken
  refine ⟨⟨by decide, hblank, hcrowded "\tt1 " (by decide) hblank⟩, htoken, by decide, secretKey_gateway, ?_⟩
  rw [hsecret (by decide) _ secretKey_gateway]
  exact ⟨.ok (some smudged), rfl, gives_smudged⟩

/-- A pair does not help where the token of the secret is no text. -/
theorem garbled_token_bars_pair :
    LacksToken Dependents.gateway ∧ Dependents.gateway.spec.auth.credentials = none ∧
      secretKey Dependents.gateway = some ("shop", "apim-token") ∧
      (∀ token, ¬ Offers smudged bearerTokenKey token) ∧ Offers smudged usernameKey "admin" ∧
      Offers smudged passwordKey "pw" ∧
      ¬ (credentials Dependents.gateway).run.Yields [secretRead ("shop", "apim-token") (.ok (some smudged))]
        (.ok (.basic "admin" "pw")) := by
  have hinline : inlineCredentials Dependents.gateway = none := by decide
  refine ⟨by decide, by decide, secretKey_gateway, ?_, ?_, ?_, ?_⟩
  · intro token htoken
    have hvalue := isGarbled_smudged.secretValue_eq
    rw [htoken.secretValue_eq] at hvalue
    cases hvalue
  · exact ⟨"admin", by decide, (Text.nonBlank?_eq_some_iff "admin" "admin").mp (by decide)⟩
  · exact ⟨"pw", by decide, (Text.nonBlank?_eq_some_iff "pw" "pw").mp (by decide)⟩
  · rw [yields_of_secret hinline secretKey_gateway]
    rintro ⟨answer, hlog, htold⟩
    cases hlog
    have hpair := credentialsOfSecret_eq_iff.mpr htold
    rw [credentialsOfSecret_eq_iff.mpr gives_smudged] at hpair
    cases hpair

end Sample

/-! ## Blanks -/

/-- A secret with a token. -/
def bearing : Secret :=
  { Dependents.token with data := some (Dict.empty.insert bearerTokenKey (Text.utf8 "t0k3n")) }

/-- The secret with a token gives that token. -/
theorem gives_bearing : Gives bearing (.ok (.bearer "t0k3n")) := by
  have hcore : IsCoreOf "t0k3n" "t0k3n" := (Text.nonBlank?_eq_some_iff "t0k3n" "t0k3n").mp (by decide)
  exact .token ⟨"t0k3n", by decide, hcore⟩

/-- Credentials from a secret are usable. -/
theorem Told.isUsable {answer : Except Kube.Failure (Option Secret)} {found : Credentials}
    (h : Told key answer (.ok found)) : found.IsUsable := by
  match answer, h with
  | .error failure, h => cases h
  | .ok none, h => cases h
  | .ok (some secret), h => exact Gives.isUsable h

/-- What is taken from a context or from its secret is usable, except for a pair of the context itself. -/
theorem isUsable_of_yields {found : Credentials} (h : (credentials context).run.Yields log (.ok found))
    (hpair : LacksToken context → ∀ pair ∈ context.spec.auth.credentials,
      (Credentials.basic pair.username pair.password).IsUsable) : found.IsUsable := by
  by_cases htoken : LacksToken context
  · have hinline := inlineCredentials_of_lacksToken htoken
    cases hown : context.spec.auth.credentials with
    | some pair =>
      rw [hown] at hinline
      obtain ⟨-, heq⟩ := (yields_of_inline hinline).mp h
      obtain rfl := Except.ok.inj heq
      exact hpair htoken pair hown
    | none =>
      rw [hown] at hinline
      cases hkey : secretKey context with
      | none =>
        obtain ⟨-, heq⟩ := (yields_of_nothing hinline hkey).mp h
        cases heq
      | some key =>
        obtain ⟨answer, -, htold⟩ := (yields_of_secret hinline hkey).mp h
        exact htold.isUsable
  · obtain ⟨s, token, hs, hcore⟩ := exists_token htoken
    obtain ⟨-, heq⟩ := (yields_of_inline (inlineCredentials_of_token hs hcore)).mp h
    obtain rfl := Except.ok.inj heq
    exact isUsable_bearer hcore

/-- All that is taken is usable exactly if a pair that the context holds itself is, unless a token hides it. And
where all that a context holds is blank, a secret with usable credentials serves exactly if there is no pair. -/
theorem usable_iff_pair_usable (context : ManagementContext) :
    ((∀ log found, (credentials context).run.Yields log (.ok found) → found.IsUsable) ↔
      (LacksToken context → ∀ pair ∈ context.spec.auth.credentials,
        (Credentials.basic pair.username pair.password).IsUsable)) ∧
    (LacksToken context →
      (∀ pair ∈ context.spec.auth.credentials, IsBlankText pair.username ∨ IsBlankText pair.password) →
      ∀ key, secretKey context = some key →
        ((∀ secret found, Gives secret (.ok found) →
          (credentials context).run.Yields [secretRead key (.ok (some secret))] (.ok found)) ↔
            context.spec.auth.credentials = none)) := by
  constructor
  · constructor
    · intro husable htoken pair hpair
      have hinline := inlineCredentials_of_lacksToken htoken
      rw [Option.mem_def.mp hpair] at hinline
      exact husable [] _ ((yields_of_inline hinline).mpr ⟨rfl, rfl⟩)
    · intro hpair log found h
      exact isUsable_of_yields h hpair
  · intro htoken hblank key hkey
    have hinline := inlineCredentials_of_lacksToken htoken
    constructor
    · intro hserves
      cases hown : context.spec.auth.credentials with
      | none => rfl
      | some pair =>
        -- nothing is looked up, so the secret cannot serve
        rw [hown] at hinline
        obtain ⟨hlog, -⟩ := (yields_of_inline hinline).mp (hserves bearing _ gives_bearing)
        cases hlog
    · intro hown secret found hgives
      rw [hown] at hinline
      exact (yields_of_secret hinline hkey).mpr ⟨.ok (some secret), rfl, hgives⟩

section Sample

/-- A context with an empty pair that names a secret. -/
def blanked : ManagementContext :=
  { Dependents.gateway with
    spec := { Dependents.gateway.spec with
      auth := { Dependents.gateway.spec.auth with credentials := some ⟨"", ""⟩ } } }

/-- Without a pair, whatever is taken is usable, and the secret serves. -/
theorem gateway_served :
    (∀ log found, (credentials Dependents.gateway).run.Yields log (.ok found) → found.IsUsable) ∧
      LacksToken Dependents.gateway ∧ secretKey Dependents.gateway = some ("shop", "apim-token") ∧
      Gives bearing (.ok (.bearer "t0k3n")) ∧
      (credentials Dependents.gateway).run.Yields [secretRead ("shop", "apim-token") (.ok (some bearing))]
        (.ok (.bearer "t0k3n")) := by
  have htoken : LacksToken Dependents.gateway := by decide
  have hnone : Dependents.gateway.spec.auth.credentials = none := by decide
  obtain ⟨husable, hserves⟩ := usable_iff_pair_usable Dependents.gateway
  refine ⟨husable.mpr ?_, htoken, secretKey_gateway, gives_bearing, ?_⟩
  · intro _ pair hpair
    simp [hnone] at hpair
  · have hblank : ∀ pair ∈ Dependents.gateway.spec.auth.credentials,
        IsBlankText pair.username ∨ IsBlankText pair.password := by
      intro pair hpair
      simp [hnone] at hpair
    exact (hserves htoken hblank _ secretKey_gateway).mpr hnone bearing _ gives_bearing

/-- An empty pair is taken, and hides a secret with a token. -/
theorem blank_pair_taken :
    (credentials blanked).run.Yields [] (.ok (.basic "" "")) ∧ ¬ (Credentials.basic "" "").IsUsable ∧
      secretKey blanked = some ("shop", "apim-token") ∧ Gives bearing (.ok (.bearer "t0k3n")) ∧
      ∀ answer log result, ¬ (credentials blanked).run.Yields
        (secretRead ("shop", "apim-token") answer :: log) result := by
  have hinline : inlineCredentials blanked = some (.basic "" "") := by decide
  refine ⟨(yields_of_inline hinline).mpr ⟨rfl, rfl⟩, ?_, by decide, gives_bearing, ?_⟩
  · rintro ⟨hblank, -⟩
    exact hblank (by decide)
  · intro answer log result h
    obtain ⟨hlog, -⟩ := (yields_of_inline hinline).mp h
    cases hlog

end Sample

end GatewayOperator.Reconcile.Api
