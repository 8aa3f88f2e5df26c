/-!
# Unusable keypairs

A gateway loads a keypair from a TLS secret: a private key and a certificate, both in PEM form. A
secret that it could not load has one of seven faults.
-/

set_option autoImplicit false

namespace GatewayOperator.Tls

/-- Why a secret holds no usable keypair. -/
inductive Reason where
  | missingKey
  | undecodableKey
  | wrongKeyType (label : String)
  | missingCertificate
  | undecodableCertificate
  | wrongCertificateType (label : String)
  | invalidCertificate (detail : String)
  deriving DecidableEq, Repr

/-- The wording of a reason. -/
def Reason.message : Reason → String
  | .missingKey => "tls key not found in secret"
  | .undecodableKey => "can not decode the tls key"
  | .wrongKeyType label => "wrong tls key type " ++ label
  | .missingCertificate => "tls cert not found in secret"
  | .undecodableCertificate => "can not decode the tls certificate"
  | .wrongCertificateType label => "wrong tls certificate type " ++ label
  | .invalidCertificate detail => "invalid X.509 certificate: " ++ detail

/-- A secret, by its full name, that the gateway could not load. -/
structure InvalidSecret where
  secret : String
  reason : Reason
  deriving DecidableEq, Repr

/-- The wording for an unusable secret. -/
def InvalidSecret.message (s : InvalidSecret) : String :=
  "TLS secret " ++ s.secret ++ " is invalid: " ++ s.reason.message

end GatewayOperator.Tls
