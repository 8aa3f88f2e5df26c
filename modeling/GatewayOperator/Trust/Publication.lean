import GatewayOperator.PassFailure
import GatewayOperator.Program
import GatewayOperator.Tls.Keypair
import GatewayOperator.Trust.Registry

/-!
# Publishing the secrets of an ingress

A live ingress has its TLS secrets published: each must exist, must not be going away, gets a finalizer
that holds up its deletion while it is in use, and must hold a usable keypair. Only when all are good is
the list written to every registry of the class, and then the secrets that the registries listed before
and the ingress no longer names are released.

An ingress that is going away, has no secrets left or moved to another class is withdrawn: first its
secrets are released, those that it names and those that the registries list for it, and then its entries
are removed. The entries are the only memory of what was published, so they go last.

A secret is released by taking the finalizer off, unless another live ingress of the namespace and class
names it.
-/

set_option autoImplicit false

namespace GatewayOperator.Trust

open GatewayOperator.Resource

/-- The finalizer that holds up the deletion of a secret in use. -/
def keypairFinalizer : String := "finalizers.apim.io/keypair"

/-- What a publication asks of the cluster. -/
inductive Call where
  | getSecret («namespace» name : String)
  /-- Add the keypair finalizer to a secret, if it is still as it was read. -/
  | addFinalizer (secret : Secret)
  /-- Remove the keypair finalizer from a secret, if it is still as it was read. -/
  | removeFinalizer (secret : Secret)
  | listIngresses («namespace» : String)
  /-- List the registries of every class. -/
  | listRegistries
  /-- Set or remove an entry of a registry. -/
  | writeEntry (registry : ConfigMap) (key : String) (value : Option String)
  deriving Repr

/-- What a successful call gives. -/
abbrev Call.Result : Call → Type
  | .getSecret _ _ => Option Secret
  | .addFinalizer _ => Unit
  | .removeFinalizer _ => Unit
  | .listIngresses _ => List Ingress
  | .listRegistries => List ConfigMap
  | .writeEntry _ _ _ => Unit

/-- What a call gives. -/
abbrev Call.Answer (c : Call) : Type := Except PassFailure c.Result

/-- A pass over the secrets of an ingress. -/
abbrev Publication := Program.Pass Call.Answer PassFailure

/-- The pass of a single call. -/
def Call.perform (c : Call) : Publication c.Result := ExceptT.mk (Program.call c)

/-- The finalizers of a secret in use. -/
def claimedFinalizers (secret : Secret) : List String :=
  secret.metadata.finalizerList ++ [keypairFinalizer]

/-- The finalizers of a secret that is released. -/
def releasedFinalizers (secret : Secret) : List String :=
  secret.metadata.finalizerList.filter fun f => f ≠ keypairFinalizer

/-- The keypair finalizer is put on a secret that lacks it. -/
def attach (secret : Secret) : Publication Unit :=
  if secret.metadata.hasFinalizer keypairFinalizer then pure ()
  else (Call.addFinalizer secret).perform

/-- The keypair finalizer is taken off a secret that has it. -/
def detach (secret : Secret) : Publication Unit :=
  if secret.metadata.hasFinalizer keypairFinalizer then (Call.removeFinalizer secret).perform
  else pure ()

/-- Claim a secret for an ingress: it must exist and stay, and it must be usable. -/
def claim (ns ingress name : String) : Publication Unit := do
  match ← (Call.getSecret ns name).perform with
  | none => throw (.secretNotFound (Registry.fullName ns name))
  | some secret =>
    if secret.metadata.isDeleting then
      throw (.secretReferenced (Registry.fullName ns name) ingress)
    else
      attach secret
      match Tls.validate secret with
      | .ok () => return ()
      | .error fault => throw (.invalidTlsSecret fault)

/-- The ingresses whose secrets an ingress must leave alone: other live ingresses of the class. -/
def otherUsers (ingress : Ingress) (cls : String) (ingresses : List Ingress) : List Ingress :=
  ingresses.filter fun other =>
    other.metadata.anyName ≠ ingress.metadata.anyName && !other.metadata.isDeleting &&
      isTracked other cls

/-- Whether one of some ingresses names a secret. -/
def isUsed (users : List Ingress) (name : String) : Bool :=
  users.any fun user => (secretNames user).contains name

/-- Release a secret, unless it is used or gone. -/
def releaseOne (ns : String) (users : List Ingress) (name : String) : Publication Unit :=
  if isUsed users name then pure ()
  else do
    match ← (Call.getSecret ns name).perform with
    | none => return ()
    | some secret => detach secret

/-- Release secrets that an ingress names or named, unless others use them. -/
def release (ingress : Ingress) (cls : String) : List String → Publication Unit
  | [] => pure ()
  | candidates => do
    let ns := ingress.metadata.anyNamespace
    let ingresses ← (Call.listIngresses ns).perform
    candidates.forM (releaseOne ns (otherUsers ingress cls ingresses))

/-- The key of the entries of an ingress. -/
def entryKeyOf (ingress : Ingress) : String :=
  Registry.entryKey ingress.metadata.anyNamespace ingress.metadata.anyName

/-- The secrets that registries list for an ingress, each once. -/
def publishedSecrets (registries : List ConfigMap) (ingress : Ingress) : List String :=
  distinct
    (registries.flatMap fun registry =>
      Registry.entrySecrets registry (entryKeyOf ingress) ingress.metadata.anyNamespace) []

/-- The registries of a class among all. -/
def ofClass (cls : String) (registries : List ConfigMap) : List ConfigMap :=
  registries.filter fun registry => Registry.serves registry cls

/-- Set or remove the entries of an ingress in registries. -/
def writeEntries (ingress : Ingress) (value : Option String) (registries : List ConfigMap) :
    Publication Unit :=
  registries.forM fun registry => (Call.writeEntry registry (entryKeyOf ingress) value).perform

/-- The registries of a class. To find none of any class is a failure. -/
def registriesFor (cls : String) : Publication (List ConfigMap) := do
  let all ← Call.listRegistries.perform
  if all.isEmpty then throw .registryNotFound
  else return ofClass cls all

/-- Withdraw an ingress from registries. -/
def withdrawFrom (ingress : Ingress) (cls : String) (registries : List ConfigMap) : Publication Unit := do
  let candidates := distinct (publishedSecrets registries ingress ++ secretNames ingress) []
  release ingress cls candidates
  writeEntries ingress none registries

/-- Withdraw an ingress from the registries of a class. Where there is no registry nothing was published, so
then there are only the secrets to release. -/
def withdraw (ingress : Ingress) (cls : String) : Publication Unit := do
  match ← (registriesFor cls).attempt with
  | .ok registries => withdrawFrom ingress cls registries
  | .error .registryNotFound => withdrawFrom ingress cls []
  | .error failure => throw failure

/-- What a withdrawal does once it has an answer about the registries of every class. -/
def withdrawAnswered (ingress : Ingress) (cls : String) : Call.listRegistries.Answer → Publication Unit
  | .ok all => withdrawFrom ingress cls (ofClass cls all)
  | .error .registryNotFound => withdrawFrom ingress cls []
  | .error failure => throw failure

/-- A withdrawal lists the registries, and goes on by the answer. -/
theorem run_withdraw (ingress : Ingress) (cls : String) :
    (withdraw ingress cls).run =
      .ask .listRegistries fun answer => (withdrawAnswered ingress cls answer).run := by
  show Program.ask _ _ = _
  congr 1
  funext answer
  match answer with
  | .ok [] => rfl
  | .ok (first :: rest) => rfl
  | .error failure => cases failure <;> rfl

/-- Every failure but the lack of registries is handed on. -/
theorem withdrawAnswered_error (ingress : Ingress) (cls : String) {failure : PassFailure}
    (h : failure ≠ .registryNotFound) :
    withdrawAnswered ingress cls (.error failure) = throw failure := by
  unfold withdrawAnswered
  split
  · next heq => cases heq
  · next heq => exact absurd (Except.error.inj heq) h
  · next heq => rw [Except.error.inj heq]

/-- Whatever the answer is, a withdrawal goes on with some registries or hands on the failure. -/
theorem withdrawAnswered_cases (ingress : Ingress) (cls : String) (answer : Call.listRegistries.Answer) :
    (∃ registries, withdrawAnswered ingress cls answer = withdrawFrom ingress cls registries) ∨
      ∃ failure, answer = .error failure ∧ withdrawAnswered ingress cls answer = throw failure := by
  match answer with
  | .ok all => exact .inl ⟨ofClass cls all, rfl⟩
  | .error failure =>
    by_cases h : failure = .registryNotFound
    · exact .inl ⟨[], by rw [h]; rfl⟩
    · exact .inr ⟨failure, rfl, withdrawAnswered_error ingress cls h⟩

/-- What goes on with the registries of a class lists those of every class before. -/
theorem registriesFor_bind {α : Type} (cls : String) (f : List ConfigMap → Publication α) :
    registriesFor cls >>= f =
      Call.listRegistries.perform >>= fun all =>
        if all.isEmpty then throw .registryNotFound else f (ofClass cls all) := by
  rw [registriesFor, bind_assoc]
  congr 1
  funext all
  cases all <;> rfl

/-- Publish the secrets of a live ingress, all of which are named. -/
def publishSecrets (ingress : Ingress) (cls : String) (names : List String) : Publication Unit := do
  let ns := ingress.metadata.anyNamespace
  names.forM (claim ns ingress.metadata.anyName)
  let registries ← registriesFor cls
  let dropped := (publishedSecrets registries ingress).filter fun name => !names.contains name
  writeEntries ingress (some (Registry.entryValue ns names)) registries
  release ingress cls dropped

/-- Bring the registries of a class in line with an ingress. -/
def publish (ingress : Ingress) (cls : String) : Publication Unit :=
  match ingress.metadata.isDeleting, secretNames ingress with
  | false, name :: more => publishSecrets ingress cls (name :: more)
  | _, _ => withdraw ingress cls

end GatewayOperator.Trust
