import GatewayOperator.Resource.Core
import GatewayOperator.Tls.Certificate
import GatewayOperator.Tls.Pem
import GatewayOperator.Tls.Reason

/-!
# Keypairs in secrets

A secret holds a keypair if its entry `tls.key` starts with the PEM block of a private key and its entry
`tls.crt` with the PEM block of a certificate. The key is checked first, and the first fault found is
the one that is reported.
-/

set_option autoImplicit false

namespace GatewayOperator.Tls

/-- The entry with the private key. -/
def keyEntry : String := "tls.key"

/-- The entry with the certificate. -/
def certificateEntry : String := "tls.crt"

/-- Whether a label is that of a private key of some kind. -/
def isKeyLabel (label : String) : Bool :=
  Pem.holds "PRIVATE KEY".toList label.toList

/-- The bytes of an entry of a secret. -/
def entry? (secret : Resource.Secret) (key : String) : Option (List UInt8) :=
  secret.data.bind fun data => data.find? key

/-- The check of the private key. -/
def checkKey (secret : Resource.Secret) : Except Reason Unit :=
  match entry? secret keyEntry with
  | none => .error .missingKey
  | some bytes =>
    match Pem.read? bytes with
    | none => .error .undecodableKey
    | some pem => if isKeyLabel pem.label then .ok () else .error (.wrongKeyType pem.label)

/-- The check of the certificate. -/
def checkCertificate (secret : Resource.Secret) : Except Reason Unit :=
  match entry? secret certificateEntry with
  | none => .error .missingCertificate
  | some bytes =>
    match Pem.read? bytes with
    | none => .error .undecodableCertificate
    | some pem =>
      if pem.label ≠ "CERTIFICATE" then .error (.wrongCertificateType pem.label)
      else
        match Certificate.read pem.contents with
        | .ok () => .ok ()
        | .error fault => .error (.invalidCertificate fault.text)

/-- The first fault of the keypair in a secret. -/
def checkKeypair (secret : Resource.Secret) : Except Reason Unit :=
  match checkKey secret with
  | .error reason => .error reason
  | .ok () => checkCertificate secret

/-- The keypair in a secret is usable, or the secret is named with the first fault. -/
def validate (secret : Resource.Secret) : Except InvalidSecret Unit :=
  match checkKeypair secret with
  | .ok () => .ok ()
  | .error reason => .error ⟨secret.metadata.key, reason⟩

end GatewayOperator.Tls
