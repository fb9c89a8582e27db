import RitspLtv.Error
import RitspLtv.Crypto.Algorithm

/-!
# Signature verification

The signature-algorithm policy, and the verification entry points every path
validation goes through.  Which signatures verify is left open: the development
is about what is asked of them, and of whom.
-/

namespace RitspLtv.Crypto.Verify

open RitspLtv.RustStd
open RitspLtv.Crypto.Algorithm

/-- Whether signatures over weak digests are accepted. -/
structure SignaturePolicy where
  allowLegacy : Bool
  deriving DecidableEq, Repr

namespace SignaturePolicy

/-- Signatures over MD5, SHA-1 and SHA-224 are rejected. -/
def strict : SignaturePolicy := ⟨false⟩

/-- Signatures over MD5, SHA-1 and SHA-224 are accepted as well. -/
def legacy : SignaturePolicy := ⟨true⟩

/-- `SignaturePolicy::legacy_allowed`. -/
def legacyAllowed (policy : SignaturePolicy) : Bool :=
  policy.allowLegacy

end SignaturePolicy

/-- The verification entry points, as oracles. -/
structure Signatures where
  /-- `verify_certificate_signature_with_policy` on a certificate and its issuer. -/
  verifyCertificateSignatureWithPolicy :
    Certificate → Certificate → SignaturePolicy → Except TrustError Unit
  /-- `verify_signature_by_algid_with_policy` on data, signature and public key. -/
  verifySignatureByAlgidWithPolicy :
    Bytes → Bytes → Bytes → AlgorithmIdentifier → SignaturePolicy →
      Except TrustError Unit
  /-- `verify_signature_by_oid` on data, signature, public key and algorithm. -/
  verifySignatureByOid :
    Bytes → Bytes → Bytes → ObjectIdentifier → Except TrustError Unit
  /-- `verify_rsa_pss_signature_strict`, which returns the digest it was made with. -/
  verifyRsaPssSignatureStrict :
    Bytes → Bytes → Bytes → Option Any → Except TrustError DigestAlgorithm

/-- The issuer's key verifies the certificate's signature under the policy. -/
def Signatures.SigOk (signatures : Signatures) (policy : SignaturePolicy)
    (cert issuer : Certificate) : Prop :=
  signatures.verifyCertificateSignatureWithPolicy cert issuer policy = .ok ()

end RitspLtv.Crypto.Verify
