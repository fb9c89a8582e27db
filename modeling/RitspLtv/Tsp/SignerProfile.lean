import RitspLtv.Error
import RitspLtv.DerUtils

/-!
# The extension profile of a timestamp signer

The three checks on the certificate that signs a timestamp token: a critical
extended key usage naming timestamping and nothing else, a key usage that
permits signing, and no CA flag.
-/

namespace RitspLtv.Tsp.SignerProfile

open RitspLtv.Foundation.Checks
open RitspLtv.RustStd
open RitspLtv.DerUtils

/-- `id-ce-extKeyUsage`. -/
def idCeExtKeyUsage : ObjectIdentifier := .newUnwrap [2, 5, 29, 37]

/-- `id-ce-basicConstraints`. -/
def idCeBasicConstraints : ObjectIdentifier := .newUnwrap [2, 5, 29, 19]

/-- `id-ce-keyUsage`. -/
def idCeKeyUsage : ObjectIdentifier := .newUnwrap [2, 5, 29, 15]

/-- `id-kp-timeStamping`. -/
def idKpTimeStamping : ObjectIdentifier :=
  .newUnwrap [1, 3, 6, 1, 5, 5, 7, 3, 8]

/-- The low bits of an octet that a BIT STRING leaves unused. -/
def paddingMask (unusedBits : UInt8) : UInt8 :=
  (1 <<< unusedBits) - 1

/-- Require the `id-kp-timeStamping` EKU, marked critical, and no other. -/
def requireTimestampingEku (crates : Crates) (cert : Certificate) :
    Except TspError Unit := do
  rejectIf (cert.tbsCertificate.extensions = none)
    (.verificationFailed "TSA certificate has no extensions (no EKU)")
  match cert.extensionsWith idCeExtKeyUsage with
  | [] =>
      .error
        (.verificationFailed
          "TSA certificate lacks an extendedKeyUsage extension")
  | _ :: _ :: _ =>
      .error
        (.verificationFailed
          "TSA certificate has duplicate extendedKeyUsage extensions")
  | [ekuExt] =>
      rejectIf (ekuExt.critical = false)
        (.verificationFailed
          "TSA certificate extendedKeyUsage is not marked critical (RFC 3161 §2.3)")
      let eku ←
        (crates.extendedKeyUsageFromDer ekuExt.extnValue).mapError fun e =>
          .verificationFailed s!"TSA extendedKeyUsage: {e}"
      rejectIf (eku ≠ [idKpTimeStamping])
        (.verificationFailed
          "TSA certificate extendedKeyUsage must contain only id-kp-timeStamping (RFC 3161 §2.3)")

/-- A present key usage must permit signing; an absent one restricts nothing. -/
def requireTimestampSigningKeyUsage (crates : Crates) (cert : Certificate) :
    Except TspError Unit :=
  match cert.extensionsWith idCeKeyUsage with
  | [] => .ok ()
  | _ :: _ :: _ =>
      .error (.verificationFailed "TSA certificate has duplicate keyUsage")
  | [extension] => do
      let bits ←
        (crates.bitStringFromDer extension.extnValue).mapError fun e =>
          .verificationFailed s!"TSA keyUsage: {e}"
      match bits.rawBytes with
      | [] =>
          .error
            (.verificationFailed "TSA keyUsage has invalid padding/content")
      | first :: following =>
          rejectIf
            ((first :: following).getLast (List.cons_ne_nil _ _) &&&
              paddingMask bits.unusedBits ≠ 0)
            (.verificationFailed "TSA keyUsage has invalid padding/content")
          rejectIf (first &&& 0xC0 = 0)
            (.verificationFailed "TSA keyUsage does not permit signing")

/-- A TSA certificate must not assert `cA:TRUE`; an absent extension is `FALSE`. -/
def requireNotCa (cert : Certificate) : Except TspError Unit :=
  match cert.extensionsWith idCeBasicConstraints with
  | [] => .ok ()
  | _ :: _ :: _ =>
      .error
        (.verificationFailed
          "TSA certificate has duplicate basicConstraints extensions")
  | [bcExt] => do
      let (isCa, _) ←
        (parseBasicConstraints bcExt.extnValue).mapError fun e =>
          .verificationFailed s!"TSA basicConstraints: {e}"
      rejectIf (isCa = true)
        (.verificationFailed
          "TSA certificate asserts basicConstraints CA:TRUE (RFC 3161 §2.3)")

end RitspLtv.Tsp.SignerProfile
