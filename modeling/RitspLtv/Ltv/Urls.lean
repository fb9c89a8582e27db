import RitspLtv.Certificate
import RitspLtv.DerUtils

/-!
# Revocation URLs

The URLs a certificate names: those of its authority information access
extension, by access method, and those of its CRL distribution points.
-/

namespace RitspLtv.Ltv.Urls

open RitspLtv.Foundation.Checks
open RitspLtv.Foundation.Consume
open RitspLtv.RustStd
open RitspLtv.DerUtils

/-- `id-pe-authorityInfoAccess`. -/
def aiaOid : ObjectIdentifier := .newUnwrap [1, 3, 6, 1, 5, 5, 7, 1, 1]

/-- `id-ce-cRLDistributionPoints`. -/
def crlDpOid : ObjectIdentifier := .newUnwrap [2, 5, 29, 31]

/-- Access method of an AIA description. -/
inductive AiaAccessMethod where
  | ocsp
  | caIssuers
  deriving DecidableEq, Repr

/-- The identifier of an access method. -/
def AiaAccessMethod.oid : AiaAccessMethod → ObjectIdentifier
  | .ocsp => .newUnwrap [1, 3, 6, 1, 5, 5, 7, 48, 1]
  | .caIssuers => .newUnwrap [1, 3, 6, 1, 5, 5, 7, 48, 2]

/-- A URI, when the octets are UTF-8. -/
def uriOf (body : Bytes) : List Bytes :=
  match fromUtf8 body with
  | .ok uri => [uri]
  | .error _ => []

/-! ## Authority information access -/

/-- The URI of a matching access description. -/
def accessLocation (adRest : Bytes) : Except String (List Bytes) :=
  if adRest = [] then .ok []
  else do
    let (gnTag, gnBody, _) ← parseTlvWithRest adRest
    pure (if gnTag = 0x86 then uriOf gnBody else [])

/-- The URIs of one element of the extension. -/
def accessDescription (target : ObjectIdentifier) (adTag : UInt8)
    (adBody : Bytes) : Except String (List Bytes) :=
  if adTag ≠ 0x30 then .ok []
  else do
    let (oidTag, oidBody, adRest) ← parseTlvWithRest adBody
    if oidTag = 0x06 ∧ encodeTlv 0x06 oidBody = encodeTlv 0x06 target.body
    then accessLocation adRest
    else pure []

def aiaStep (target : ObjectIdentifier) : Step String (List Bytes) UInt8 :=
  fun urls pos => do
    let (adTag, adBody, rest) ← parseTlvWithRest pos
    let found ← accessDescription target adTag adBody
    pure (urls ++ found, rest)

/-- Parse an AIA extension for one access method; its errors are discarded. -/
def parseAiaExtension (derBytes : Bytes) (target : ObjectIdentifier) :
    Except String (List Bytes) := do
  let (tag, body) ← parseTlv derBytes
  rejectIf (tag ≠ 0x30) s!"AIA: expected SEQUENCE, got 0x{hexByte tag}"
  consume (aiaStep target) [] body

/-- The URLs of a certificate for an access method. -/
def extractAiaUrls (cert : Certificate) (method : AiaAccessMethod) :
    List Bytes :=
  (cert.extensionsWith aiaOid).flatMap fun ext =>
    match parseAiaExtension ext.extnValue method.oid with
    | .ok urls => urls
    | .error _ => []

def extractOcspUrls (cert : Certificate) : List Bytes :=
  extractAiaUrls cert .ocsp

/-! ## CRL distribution points -/

/-- The URIs among general names; a malformed name ends them. -/
def generalNameUrisWithin : Nat → Bytes → List Bytes
  | _, [] => []
  | 0, _ :: _ => []
  | fuel + 1, head :: tail =>
      match parseTlvWithRest (head :: tail) with
      | .error _ => []
      | .ok (gnTag, gnBody, gnRest) =>
          (if gnTag = 0x86 then uriOf gnBody else []) ++
            generalNameUrisWithin fuel gnRest

/-- The contents of the first element, when it has tag `[0]`. -/
def firstContextZero (body : Bytes) : Option Bytes :=
  match parseTlvWithRest body with
  | .ok (0xA0, inner, _) => some inner
  | _ => none

/-- The URIs of the full name of a distribution point. -/
def distributionPointUris (dpBody : Bytes) : List Bytes :=
  match (firstContextZero dpBody).bind firstContextZero with
  | none => []
  | some names => generalNameUrisWithin names.length names

def crlDpStep : Step String (List Bytes) UInt8 :=
  fun urls pos => do
    let (dpTag, dpBody, rest) ← parseTlvWithRest pos
    pure
      (urls ++ if dpTag = 0x30 then distributionPointUris dpBody else [], rest)

def parseCrlDpExtension (derBytes : Bytes) : Except String (List Bytes) := do
  let (tag, body) ← parseTlv derBytes
  rejectIf (tag ≠ 0x30) s!"expected SEQUENCE, got 0x{hexByte tag}"
  consume crlDpStep [] body

/-- The CRL distribution point URLs of a certificate. -/
def extractCrlUrls (cert : Certificate) : List Bytes :=
  (cert.extensionsWith crlDpOid).flatMap fun ext =>
    match parseCrlDpExtension ext.extnValue with
    | .ok urls => urls
    | .error _ => []

end RitspLtv.Ltv.Urls
