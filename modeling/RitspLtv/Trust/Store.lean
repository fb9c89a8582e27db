import RitspLtv.Foundation.MarkerScan
import RitspLtv.Crypto.Verify
import RitspLtv.Ltv.X509Ext
import RitspLtv.Ltv.NameConstraints

/-!
# The trust store

Trust anchors, how they are loaded from PEM and DER, and the verification of a
certificate chain against them.
-/

namespace RitspLtv.Trust.Store

open RitspLtv.Foundation.Checks
open RitspLtv.Foundation.MarkerScan
open RitspLtv.RustStd
open RitspLtv.DerUtils
open RitspLtv.Crypto.Verify
open RitspLtv.Ltv.X509Ext
open RitspLtv.Ltv.NameConstraints
open RitspLtv.Tsp.SignerProfile

/-! ## Extension checks -/

/-- The CA flag and path length of a certificate; the first extension counts. -/
def basicConstraints (cert : Certificate) :
    Except TrustError (Bool × Option Nat) :=
  match cert.findExtension basicConstraintsOid with
  | none => .ok (false, none)
  | some ext =>
      (parseBasicConstraints ext.extnValue).mapError .certificateParse

/-- The subject and the issuer of the certificate are the same name. -/
def isSelfIssued (cert : Certificate) : Bool :=
  cert.tbsCertificate.subject == cert.tbsCertificate.issuer

/-- The `keyCertSign` bit of a strictly parsed key-usage value. -/
def parseKeyCertSignBit (extnValue : Bytes) : Except TrustError Bool := do
  let (tag, body, rest) ←
    (parseTlvWithRest extnValue).mapError fun e =>
      .certificateParse s!"keyUsage: {e}"
  rejectIf (rest ≠ [])
    (.certificateParse "keyUsage: trailing data after BIT STRING")
  rejectIf (tag ≠ 0x03)
    (.certificateParse
      s!"keyUsage: expected BIT STRING (0x03), got 0x{hexByte tag}")
  match body with
  | [] =>
      .error
        (.certificateParse
          "keyUsage: BIT STRING missing the unused-bits octet")
  | unusedBits :: bitBytes =>
      rejectIf (unusedBits > 7)
        (.certificateParse
          s!"keyUsage: invalid unused-bits count {unusedBits.toNat} (must be 0..=7)")
      match bitBytes with
      | [] =>
          .error
            (.certificateParse
              "keyUsage: BIT STRING has no content octets (no key-usage bits set)")
      | first :: following =>
          rejectIf
            (unusedBits > 0 ∧
              (first :: following).getLastD 0 &&& paddingMask unusedBits ≠ 0)
            (.certificateParse
              s!"keyUsage: BIT STRING has {unusedBits.toNat} non-zero unused bit(s) (not valid DER)")
          pure ((first >>> 2) &&& 1 == 1)

/-- The `keyCertSign` bit of a certificate, when it has a key usage. -/
def keyCertSign (cert : Certificate) : Except TrustError (Option Bool) :=
  match cert.findExtension keyUsageOid with
  | none => .ok none
  | some ext => do
      let bit ← parseKeyCertSignBit ext.extnValue
      pure (some bit)

/-- An issuer must assert `cA:TRUE`, and `keyCertSign` if it has a key usage. -/
def validateIntermediateCaExtensions (cert : Certificate) (label : String) :
    Except TrustError Unit := do
  let (isCa, _) ← basicConstraints cert
  rejectIf (isCa = false)
    (.profileViolation
      s!"{label} is not a CA (basicConstraints cA is not TRUE)")
  let bit ← keyCertSign cert
  rejectIf (bit = some false)
    (.profileViolation
      s!"{label} keyUsage is present but does not assert keyCertSign")

/-- The CA certificates below `label` that are not self-issued. -/
def countSubordinateCas (label : String) :
    Nat → List Certificate → Except TrustError Nat
  | count, [] => .ok count
  | count, cert :: below => do
      let (isCa, _) ←
        (basicConstraints cert).mapError fun e =>
          .profileViolation
            s!"failed to parse basicConstraints below {label}: {e.display}"
      countSubordinateCas label
        (if isCa ∧ isSelfIssued cert = false then count + 1 else count) below

/-- Enforce an issuer's path length against the certificates below it. -/
def enforcePathLen (issuer : Certificate) (below : List Certificate)
    (label : String) : Except TrustError Unit := do
  let (_, pathLen) ←
    (basicConstraints issuer).mapError fun e =>
      .profileViolation
        s!"failed to parse basicConstraints for {label}: {e.display}"
  match pathLen with
  | none => pure ()
  | some maxDepth =>
      let subordinateCaCount ← countSubordinateCas label 0 below
      rejectIf (subordinateCaCount > maxDepth)
        (.profileViolation
          s!"pathLenConstraint ({maxDepth}) exceeded for {label}: {subordinateCaCount} non-self-issued subordinate CA certs below")

/-- The critical extensions recognised in every build. -/
def recognizedCriticalExtOids : List String :=
  ["2.5.29.19", "2.5.29.15", "2.5.29.37"]

/-- The critical extensions recognised with long-term validation. -/
def recognizedCriticalExtOidsLtv : List String :=
  ["2.5.29.17", "2.5.29.31", "1.3.6.1.5.5.7.1.1", "2.5.29.30"]

/-- Reject a repeated extension. -/
def rejectDuplicateExtensions (cert : Certificate) (label : String) :
    Except TrustError Unit :=
  match firstDuplicate [] cert.extensions with
  | none => .ok ()
  | some ext =>
      .error
        (.profileViolation
          s!"{label} has duplicate extension {ext.extnId.toString}")

/-- A critical extended key usage on a CA would restrict what is below it. -/
def rejectCriticalCaEku (cert : Certificate) (label oid : String) :
    Except TrustError Unit :=
  if oid = "2.5.29.37" then do
    let (isCa, _) ← basicConstraints cert
    rejectIf (isCa = true)
      (.profileViolation
        s!"{label} has an unsupported critical CA extendedKeyUsage restriction")
  else .ok ()

/-- Reject one extension if it is critical and not recognised. -/
def rejectUnknownCriticalExtension (cert : Certificate) (label : String)
    (ext : Extension) : Except TrustError Unit :=
  if ext.critical = false then .ok ()
  else do
    let oid := ext.extnId.toString
    rejectCriticalCaEku cert label oid
    rejectIf
      (oid ∉ recognizedCriticalExtOids ∧ oid ∉ recognizedCriticalExtOidsLtv)
      (.profileViolation
        s!"{label} has an unrecognized critical extension {oid} (RFC 5280 §4.2 MUST reject)")

/-- Reject a certificate with an unrecognised critical extension. -/
def rejectUnknownCriticalExtensions (cert : Certificate) (label : String) :
    Except TrustError Unit :=
  cert.extensions.forM (rejectUnknownCriticalExtension cert label)

/-! ## Name constraints over a path -/

section NameConstraintsPath

variable (crates : Crates)

def nameConstraintToTrustError (cert : Certificate)
    (e : NameConstraintError) : TrustError :=
  .profileViolation
    s!"certificate '{crates.nameToString cert.tbsCertificate.subject}': {e.display}"

/-- Fold in the constraints of the issuer at `top`, then check what is below it. -/
def enforceNameConstraintsAt (path : List Certificate)
    (state : NameConstraintState) (top : Nat) :
    Except TrustError NameConstraintState :=
  match path[top]? with
  | none => .ok state
  | some issuer => do
      let state ←
        (state.addFromCert issuer).mapError
          (nameConstraintToTrustError crates issuer)
      if state.isEmpty then pure state
      else
        (path.take top).forM fun sub =>
          (state.checkCert crates sub).mapError
            (nameConstraintToTrustError crates sub)
        pure state

/-- Walk a path `[leaf, …, anchor]` from its anchor down to the leaf. -/
def enforceNameConstraintsPath (path : List Certificate) :
    Except TrustError Unit := do
  let _ ←
    ((List.range' 1 (path.length - 1)).reverse).foldlM
      (enforceNameConstraintsAt crates path) .default
  pure ()

end NameConstraintsPath

/-! ## The store -/

/-- A trust anchor: a certificate and its DER encoding. -/
structure TrustAnchor where
  cert : Certificate
  der : Bytes
  deriving DecidableEq

/-- A collection of trust anchors. -/
structure TrustStore where
  anchors : List TrustAnchor
  label : Option String
  signaturePolicy : SignaturePolicy
  deriving DecidableEq

namespace TrustStore

/-- An empty trust store. -/
def new : TrustStore :=
  ⟨[], none, .strict⟩

def withSignaturePolicy (store : TrustStore) (policy : SignaturePolicy) :
    TrustStore :=
  { store with signaturePolicy := policy }

def push (store : TrustStore) (anchor : TrustAnchor) : TrustStore :=
  { store with anchors := store.anchors ++ [anchor] }

/-! ### Loading -/

section Loading

variable (crates : Crates)

/-- Add an anchor from its DER encoding; the store is unchanged on an error. -/
def addDerCertificate (store : TrustStore) (der : Bytes) :
    TrustStore × Except TrustError Unit :=
  match crates.certificateFromDer der with
  | .error e => (store, .error (.certificateParse s!"DER decode failed: {e}"))
  | .ok cert => (store.push ⟨cert, der⟩, .ok ())

/-- Add an anchor that has already been parsed. -/
def addCertificate (store : TrustStore) (cert : Certificate) :
    TrustStore × Except TrustError Unit :=
  match crates.certificateToDer cert with
  | .error e => (store, .error (.certificateParse s!"DER encode failed: {e}"))
  | .ok der => (store.push ⟨cert, der⟩, .ok ())

/-- `-----BEGIN CERTIFICATE-----`. -/
def beginMarker : Bytes := asciiBytes "-----BEGIN CERTIFICATE-----"

/-- `-----END CERTIFICATE-----`. -/
def endMarker : Bytes := asciiBytes "-----END CERTIFICATE-----"

/-- `-----`, the start of an armor line. -/
def armorDashes : Bytes := asciiBytes "-----"

/-- `-----BEGIN`, which tells a PEM file from raw DER. -/
def pemArmor : Bytes := asciiBytes "-----BEGIN"

/-- Decode the base64 text between the markers of a block. -/
def decodePemBlock (pemBlock : Bytes) : Except TrustError Bytes :=
  let b64 :=
    ((lines pemBlock).filter fun line =>
      !armorDashes.isPrefixOf line).flatten
  (crates.base64Decode b64).mapError fun e =>
    .certificateParse s!"base64 decode error: {e}"

/--
Add every complete block of the remaining text, and report whether any block
has been found.  Anchors stay in the store when a later block fails.
-/
def addPemBlocks : Nat → TrustStore → Bool → Bytes →
    TrustStore × Except TrustError Bool
  | 0, store, foundAny, _ => (store, .ok foundAny)
  | fuel + 1, store, foundAny, remaining =>
      match nextBlock beginMarker endMarker remaining with
      | none => (store, .ok foundAny)
      | some (_, pemBlock, remaining) =>
          match decodePemBlock crates pemBlock with
          | .error e => (store, .error e)
          | .ok der =>
              match store.addDerCertificate crates der with
              | (store, .error e) => (store, .error e)
              | (store, .ok ()) => addPemBlocks fuel store true remaining

/-- Add anchors from PEM data. -/
def addPemData (store : TrustStore) (pemData : Bytes) :
    TrustStore × Except TrustError Unit :=
  match fromUtf8 pemData with
  | .error e =>
      (store, .error (.certificateParse s!"invalid UTF-8 in PEM: {e.display}"))
  | .ok pemStr =>
      match addPemBlocks crates pemStr.length store false pemStr with
      | (store, .error e) => (store, .error e)
      | (store, .ok true) => (store, .ok ())
      | (store, .ok false) =>
          (store,
            .error
              (.certificateParse "no CERTIFICATE blocks found in PEM data"))

/-- Add the anchors of one file, PEM or a single DER certificate. -/
def addAnchorFileData (store : TrustStore) (data : Bytes) :
    TrustStore × Except TrustError Unit :=
  if pemArmor.isPrefixOf (trimAsciiStart data) then store.addPemData crates data
  else store.addDerCertificate crates data

/-- Load the anchors of a PEM file, given what reading it gives. -/
def fromPemFile (contents : Except String Bytes) :
    Except TrustError TrustStore := do
  let data ← contents.mapError .io
  match new.addPemData crates data with
  | (store, .ok ()) => pure store
  | (_, .error e) => .error e

/-- One entry of a directory: its file name, its path, and what reading it gives. -/
structure DirEntry where
  fileName : Bytes
  path : String
  contents : Except String Bytes

/-- `Path::extension`: what follows the last dot of a name that has more before it. -/
def fileExtension (fileName : Bytes) : Option Bytes :=
  match afterLast 0x2E fileName with
  | none => none
  | some ext =>
      if fileName.length = ext.length + 1 ∨ fileName = asciiBytes ".." then none
      else some ext

/-- Whether a file name has a certificate extension. -/
def isCandidate (entry : DirEntry) : Bool :=
  match fileExtension entry.fileName with
  | none => false
  | some ext =>
      toAsciiLowercase ext ∈
        [asciiBytes "pem", asciiBytes "crt", asciiBytes "cer"]

/-- Load one candidate file, recording it as skipped if it fails. -/
def loadLenient (state : TrustStore × List (String × String))
    (entry : DirEntry) : TrustStore × List (String × String) :=
  let (store, skipped) := state
  if isCandidate entry then
    match entry.contents with
    | .error e => (store, skipped ++ [(entry.path, e)])
    | .ok data =>
        match store.addAnchorFileData crates data with
        | (store, .error e) => (store, skipped ++ [(entry.path, e.display)])
        | (store, .ok ()) => (store, skipped)
  else (store, skipped)

/-- Insert an entry behind those with a smaller or equal file name. -/
def insertEntry (entry : DirEntry) : List DirEntry → List DirEntry
  | [] => [entry]
  | head :: tail =>
      if entry.fileName < head.fileName then entry :: head :: tail
      else head :: insertEntry entry tail

/-- The stable sort of entries by file name. -/
def sortEntries (entries : List DirEntry) : List DirEntry :=
  entries.foldl (fun sorted entry => insertEntry entry sorted) []

/--
Load every certificate file of a directory, reporting the files that fail.  A
directory is its path, whether it is one, and what enumerating it gives.
-/
def fromPemDirectoryLenient (dir : String) (isDir : Bool)
    (readDir : Except String (List (Except String DirEntry))) :
    Except TrustError (TrustStore × List (String × String)) :=
  if isDir = false then .error (.notADirectory dir)
  else
    match readDir with
    | .error e => .error (.io e)
    | .ok results =>
        let entries :=
          results.filterMap fun result =>
            match result with
            | .ok entry => some entry
            | .error _ => none
        let skipped :=
          results.filterMap fun result =>
            match result with
            | .ok _ => none
            | .error e => some (dir, s!"directory entry error: {e}")
        .ok ((sortEntries entries).foldl (loadLenient crates) (new, skipped))

/-- What is said about an anchor file that does not parse. -/
def parseDetail : TrustError → String
  | .certificateParse m => m
  | other => other.display

/-- Load one candidate file, or fail with its name. -/
def loadStrict (store : TrustStore) (entry : DirEntry) :
    Except TrustError TrustStore :=
  if isCandidate entry then do
    let data ←
      entry.contents.mapError fun e =>
        .io s!"failed to read trust anchor file {entry.path}: {e}"
    match store.addAnchorFileData crates data with
    | (store, .ok ()) => pure store
    | (_, .error e) =>
        .error
          (.certificateParse
            s!"failed to parse trust anchor file {entry.path}: {parseDetail e}")
  else pure store

/-- Load every certificate file of a directory, or fail at the first problem. -/
def fromPemDirectory (dir : String) (isDir : Bool)
    (readDir : Except String (List (Except String DirEntry))) :
    Except TrustError TrustStore :=
  if isDir = false then .error (.notADirectory dir)
  else do
    let results ← readDir.mapError .io
    let entries ← (results.mapM id).mapError .io
    (sortEntries entries).foldlM (loadStrict crates) new

end Loading

/-! ### Queries -/

/-- Whether a certificate is one of the anchors, by its DER encoding. -/
def containsDer (store : TrustStore) (certDer : Bytes) : Bool :=
  store.anchors.any fun anchor => anchor.der == certDer

/-- The first anchor whose subject is the issuer of a certificate. -/
def findIssuer (store : TrustStore) (cert : Certificate) :
    Option Certificate :=
  store.anchors.findSome? fun anchor =>
    if anchor.cert.tbsCertificate.subject = cert.tbsCertificate.issuer then
      some anchor.cert
    else none

/-- Every anchor whose subject is the issuer of a certificate. -/
def findAllIssuers (store : TrustStore) (cert : Certificate) :
    List Certificate :=
  (store.anchors.map TrustAnchor.cert).filter fun anchor =>
    anchor.tbsCertificate.subject == cert.tbsCertificate.issuer

end TrustStore

/-! ## Verifying a chain -/

section VerifyChain

variable (crates : Crates) (signatures : Signatures)

/-- A certificate is inside its validity window at a time, if one is given. -/
def checkValidity (validationTime : Option Der.DateTime)
    (positiveFraction : Bool) (index : Nat) (cert : Certificate) :
    Except TrustError Unit :=
  match validationTime with
  | none => .ok ()
  | some time => do
      let notBefore := cert.tbsCertificate.validity.notBefore.toDateTime
      let notAfter := cert.tbsCertificate.validity.notAfter.toDateTime
      rejectIf (time < notBefore) (.notYetValid index notBefore)
      rejectIf (notAfter < time ∨ positiveFraction = true ∧ time = notAfter)
        (.expired index notAfter)

/-- The leaf fits the role it is used in, if one is given. -/
def checkLeafPurpose (leafPurpose : Option CertRole) (leaf : Certificate) :
    Except TrustError Unit :=
  match leafPurpose with
  | none => .ok ()
  | some role =>
      (validateExtensionsForRole crates leaf role).mapError fun e =>
        .profileViolation
          s!"leaf certificate does not satisfy required purpose {role.display}: {e.display}"

/-- The checks on the certificate at position `index` of the chain and its issuer. -/
def verifyLink (policy : SignaturePolicy) (chain : List Certificate)
    (index : Nat) : Except TrustError Unit :=
  match chain[index]?, chain[index + 1]? with
  | some cert, some issuerCert => do
      rejectIf (cert.tbsCertificate.issuer ≠ issuerCert.tbsCertificate.subject)
        (.chainBroken index
          (crates.nameToString cert.tbsCertificate.issuer)
          (crates.nameToString issuerCert.tbsCertificate.subject))
      signatures.verifyCertificateSignatureWithPolicy cert issuerCert policy
      validateIntermediateCaExtensions issuerCert s!"issuer at index {index + 1}"
      enforcePathLen issuerCert (chain.take (index + 1))
        s!"intermediate index {index + 1}"
  | _, _ => .ok ()

/-- Treat one candidate anchor as the end of a complete path. -/
def verifyCandidate (policy : SignaturePolicy) (chain : List Certificate)
    (last : Certificate) (validationTime : Option Der.DateTime)
    (positiveFraction : Bool) (anchor : Certificate) :
    Except TrustError Certificate := do
  signatures.verifyCertificateSignatureWithPolicy last anchor policy
  rejectDuplicateExtensions anchor "trust anchor"
  rejectUnknownCriticalExtensions anchor "trust anchor"
  validateIntermediateCaExtensions anchor "trust anchor"
  enforcePathLen anchor chain "trust anchor"
  checkValidity validationTime positiveFraction chain.length anchor
  enforceNameConstraintsPath crates (chain ++ [anchor])
  pure anchor

/-- The checks on the chain itself, in front of anchor selection. -/
def verifyChainCerts (policy : SignaturePolicy) (chain : List Certificate)
    (leaf : Certificate) (validationTime : Option Der.DateTime)
    (leafPurpose : Option CertRole) (positiveFraction : Bool) :
    Except TrustError Unit := do
  chain.zipIdx.forM fun (cert, index) => do
    rejectDuplicateExtensions cert s!"certificate at index {index}"
    rejectUnknownCriticalExtensions cert s!"certificate at index {index}"
  checkLeafPurpose crates leafPurpose leaf
  chain.zipIdx.forM fun (cert, index) =>
    checkValidity validationTime positiveFraction index cert
  (List.range (chain.length - 1)).forM
    (verifyLink crates signatures policy chain)

namespace TrustStore

/-- The anchor that is the last certificate of the chain itself, when it is self-issued. -/
def findInChainRoot (store : TrustStore) (last : Certificate) :
    Except TrustError (Option TrustAnchor) :=
  if last.tbsCertificate.issuer = last.tbsCertificate.subject then do
    let lastDer ←
      (crates.certificateToDer last).mapError fun e =>
        .certificateParse
          s!"failed to encode certificate for anchor lookup: {e}"
    pure (store.anchors.find? fun anchor => anchor.der == lastDer)
  else .ok none

/-- Verify a chain whose last certificate is `last`; returns the anchor. -/
def verifyChainInner (store : TrustStore) (chain : List Certificate)
    (validationTime : Option Der.DateTime) (leafPurpose : Option CertRole)
    (positiveFraction : Bool) : Except TrustError Certificate :=
  let policy := store.signaturePolicy
  match chain.head?, chain.getLast? with
  | some leaf, some last => do
      verifyChainCerts crates signatures policy chain leaf validationTime
        leafPurpose positiveFraction
      match ← store.findInChainRoot crates last with
      | some anchor =>
          signatures.verifyCertificateSignatureWithPolicy last last policy
          enforceNameConstraintsPath crates chain
          pure anchor.cert
      | none =>
          match store.findAllIssuers last with
          | [] =>
              .error
                (.untrustedRoot (crates.nameToString last.tbsCertificate.issuer))
          | first :: rest =>
              firstOk
                (verifyCandidate crates signatures policy chain last
                  validationTime positiveFraction) first rest
  | _, _ => .error .emptyChain

/-- Verify a chain from a leaf to an anchor. -/
def verifyChain (store : TrustStore) (chain : List Certificate)
    (validationTime : Option Der.DateTime) : Except TrustError Certificate :=
  store.verifyChainInner crates signatures chain validationTime none false

/-- Verify a chain whose leaf must also fit a role. -/
def verifyChainForPurpose (store : TrustStore) (chain : List Certificate)
    (validationTime : Option Der.DateTime) (purpose : CertRole) :
    Except TrustError Certificate :=
  store.verifyChainInner crates signatures chain validationTime
    (some purpose) false

/-- Verify a chain for a role at a time that may carry a fraction of a second. -/
def verifyChainForPurposeWithFraction (store : TrustStore)
    (chain : List Certificate) (time : Der.DateTime) (purpose : CertRole)
    (positiveFraction : Bool) : Except TrustError Certificate :=
  store.verifyChainInner crates signatures chain (some time) (some purpose)
    positiveFraction

/-- Verify the chain of a timestamp signer. -/
def verifyTimestampChain (store : TrustStore) (chain : List Certificate)
    (time : Der.DateTime) (positiveFraction : Bool) :
    Except TrustError Certificate :=
  store.verifyChainInner crates signatures chain (some time)
    (some .timestampSigner) positiveFraction

end TrustStore

end VerifyChain

end RitspLtv.Trust.Store
