import RitspLtv.Error
import RitspLtv.DerUtils

/-!
# Name constraints

The accumulated permitted and excluded subtrees of the CAs above a certificate,
how an extension value is folded into them, and how a certificate's names are
checked against them.
-/

namespace RitspLtv.Ltv.NameConstraints

open RitspLtv.Foundation.Checks
open RitspLtv.Foundation.Consume
open RitspLtv.RustStd
open RitspLtv.DerUtils

/-! ## Identifiers and tags -/

def nameConstraintsOid : ObjectIdentifier := .newUnwrap [2, 5, 29, 30]

def sanOid : ObjectIdentifier := .newUnwrap [2, 5, 29, 17]

def emailAddressOid : ObjectIdentifier :=
  .newUnwrap [1, 2, 840, 113549, 1, 9, 1]

def gnRfc822 : UInt8 := 0x81

def gnDns : UInt8 := 0x82

def gnDirectory : UInt8 := 0xA4

def gnIp : UInt8 := 0x87

/-! ## Data -/

/-- An error from name-constraints processing. -/
inductive NameConstraintError where
  | violation (message : String)
  | unsupported (message : String)
  | parse (message : String)
  deriving DecidableEq, Repr

/-- The `Display` form of a name-constraints error. -/
def NameConstraintError.display : NameConstraintError → String
  | .violation message => s!"name constraint violation: {message}"
  | .unsupported message =>
      s!"unsupported name constraint (fail closed): {message}"
  | .parse message => s!"malformed name constraints: {message}"

/-- One permitted or excluded base. -/
inductive GeneralNameBase where
  | dns (name : Bytes)
  | rfc822 (name : Bytes)
  | ip (address mask : Bytes)
  | directory (der : Bytes)
  deriving DecidableEq, Repr

/-- A name asserted by a subordinate certificate. -/
inductive AssertedName where
  | dns (name : Bytes)
  | rfc822 (name : Bytes)
  | ip (address : Bytes)
  | directory (der : Bytes)
  deriving DecidableEq, Repr

/-- The `Debug` form of an asserted name. -/
def AssertedName.debug : AssertedName → String
  | .dns name => s!"Dns({debugAscii name})"
  | .rfc822 name => s!"Rfc822({debugAscii name})"
  | .ip address => s!"Ip({debugBytes address})"
  | .directory der => s!"Directory({debugBytes der})"

/-- The label of a name's type in error messages. -/
def AssertedName.typeLabel : AssertedName → String
  | .dns _ => "dNSName"
  | .rfc822 _ => "rfc822Name"
  | .ip _ => "iPAddress"
  | .directory _ => "directoryName"

/-- Whether a base constrains names of this type. -/
def sameType : GeneralNameBase → AssertedName → Bool
  | .dns _, .dns _ => true
  | .rfc822 _, .rfc822 _ => true
  | .ip _ _, .ip _ => true
  | .directory _, .directory _ => true
  | _, _ => false

/-- The permitted groups, one for each field parsed, and the excluded bases. -/
structure NameConstraintState where
  permitted : List (List GeneralNameBase)
  excluded : List GeneralNameBase
  deriving DecidableEq, Repr

/-- The state before any issuer has been seen. -/
def NameConstraintState.default : NameConstraintState :=
  ⟨[], []⟩

/-! ## Matching -/

/-- `suffix` ends `name` and is preceded there by a dot. -/
def endsOnLabel (suffix name : Bytes) : Bool :=
  name.length > suffix.length && suffix.isSuffixOf name &&
    name[name.length - suffix.length - 1]? == some 0x2E

/-- dNSName matching: equal, or a suffix on a label boundary. -/
def dnsMatches (base name : Bytes) : Bool :=
  if base = [] then true
  else
    match stripPrefix 0x2E base with
    | some suffix => endsOnLabel suffix name
    | none => name == base || endsOnLabel base name

/-- rfc822Name matching: a mailbox, a host, or the subdomains of a host. -/
def rfc822Matches (base name : Bytes) : Bool :=
  if base = [] then true
  else
    let host := (afterLast 0x40 name).getD name
    match stripPrefix 0x2E base with
    | some suffix => endsOnLabel suffix host
    | none => if 0x40 ∈ base then name == base else host == base

/-- iPAddress matching under a mask. -/
def ipMatches (address mask name : Bytes) : Bool :=
  if name.length ≠ address.length ∨ mask.length ≠ address.length then false
  else
    ((address.zip mask).zip name).all fun ((a, m), n) =>
      (a &&& m) == (n &&& m)

/-- One attribute of a distinguished name: identifier, value tag and value. -/
abbrev Atv := Bytes × UInt8 × Bytes

def directoryStringTags : List UInt8 := [0x0C, 0x13, 0x16]

/-- Whether a value is well-formed for its declared string type. -/
def directoryStringWellFormed (tag : UInt8) (body : Bytes) : Bool :=
  if tag = 0x0C then
    match fromUtf8 body with
    | .ok _ => true
    | .error _ => false
  else if tag = 0x13 ∨ tag = 0x16 then isAscii body
  else true

/-- Read one attribute off the front of an RDN. -/
def atvStep : Step NameConstraintError (List Atv) UInt8 :=
  fun atvs pos => do
    let (atvTag, atvBody, rest) ←
      (parseTlvWithRest pos).mapError fun e =>
        .parse s!"AttributeTypeAndValue: {e}"
    rejectIf (atvTag ≠ 0x30)
      (.parse
        s!"AttributeTypeAndValue tag 0x{hexByte atvTag}, expected SEQUENCE")
    let (oidTag, oidBody, valRest) ←
      (parseTlvWithRest atvBody).mapError fun e =>
        .parse s!"attribute type: {e}"
    rejectIf (oidTag ≠ 0x06)
      (.parse s!"attribute type tag 0x{hexByte oidTag}, expected OID")
    let (valTag, valBody, trailing) ←
      (parseTlvWithRest valRest).mapError fun e =>
        .parse s!"attribute value: {e}"
    rejectIf (trailing ≠ [])
      (.parse "trailing data in AttributeTypeAndValue")
    rejectIf (directoryStringWellFormed valTag valBody = false)
      (.parse
        s!"malformed directoryName attribute value for string type (tag 0x{hexByte valTag})")
    pure (atvs ++ [(oidBody, valTag, valBody)], rest)

/-- The attributes of one RDN. -/
def rdnAtvs (rdnDer : Bytes) : Except NameConstraintError (List Atv) := do
  let (tag, body) ←
    (parseTlv rdnDer).mapError fun e => .parse s!"directoryName RDN: {e}"
  rejectIf (tag ≠ 0x31)
    (.parse s!"directoryName RDN tag 0x{hexByte tag}, expected SET")
  consume atvStep [] body

/-- One character of a directory string: fold its case and collapse white space. -/
def normalizeChar (crates : Crates) (state : List Nat × Bool) (scalar : Nat) :
    List Nat × Bool :=
  let (out, pendingSpace) := state
  if isWhitespace scalar then (out, !out.isEmpty)
  else
    ((if pendingSpace then out ++ [0x20] else out) ++
      crates.toLowercase scalar, false)

/-- A directory string with its case folded and its white space collapsed. -/
def normalizeDirectoryString (crates : Crates) (octets : Bytes) :
    Option (List Nat) :=
  match scalars octets with
  | .error _ => none
  | .ok text => some (text.foldl (normalizeChar crates) ([], false)).1

/-- Compare two attribute values. -/
def atvValueMatches (crates : Crates)
    (baseTag : UInt8) (baseValue : Bytes)
    (nameTag : UInt8) (nameValue : Bytes) : Bool :=
  if baseTag ∈ directoryStringTags ∧ nameTag ∈ directoryStringTags then
    match normalizeDirectoryString crates baseValue,
      normalizeDirectoryString crates nameValue with
    | some base, some name => base == name
    | _, _ => false
  else baseTag == nameTag && baseValue == nameValue

/-- Remove the first attribute that pairs with `base` from those still unused. -/
def useMatch (crates : Crates) (base : Atv) : List Atv → Option (List Atv)
  | [] => none
  | name :: unused =>
      if name.1 = base.1 ∧
          atvValueMatches crates base.2.1 base.2.2 name.2.1 name.2.2 then
        some unused
      else (useMatch crates base unused).map (name :: ·)

/-- Pair every base attribute with a different attribute of the name. -/
def pairAll (crates : Crates) : List Atv → List Atv → Bool
  | [], _ => true
  | base :: bases, unused =>
      match useMatch crates base unused with
      | none => false
      | some unused => pairAll crates bases unused

/-- Compare two RDNs as multisets of attributes. -/
def rdnMatches (crates : Crates) (baseRdn nameRdn : Bytes) :
    Except NameConstraintError Bool := do
  let base ← rdnAtvs baseRdn
  let name ← rdnAtvs nameRdn
  pure (base.length == name.length && pairAll crates base name)

/-- Read one raw RDN off the front of an RDN sequence. -/
def rdnStep : Step NameConstraintError (List Bytes) UInt8 :=
  fun rdns pos => do
    let (rdnTag, _, rest) ←
      (parseTlvWithRest pos).mapError fun e =>
        .parse s!"directoryName RDN: {e}"
    rejectIf (rdnTag ≠ 0x31)
      (.parse s!"directoryName RDN tag 0x{hexByte rdnTag}, expected SET")
    pure (rdns ++ [pos.take (pos.length - rest.length)], rest)

/-- The raw RDNs of a directory name, bare or in its `[4]` wrapper. -/
def innerNameRdns (der : Bytes) : Except NameConstraintError (List Bytes) := do
  let (tag, body) ←
    (parseTlv der).mapError fun e => .parse s!"directoryName: {e}"
  if tag = gnDirectory then
    let (innerTag, innerBody) ←
      (parseTlv body).mapError fun e =>
        .parse s!"directoryName inner Name: {e}"
    rejectIf (innerTag ≠ 0x30)
      (.parse s!"directoryName inner tag 0x{hexByte innerTag}, expected SEQUENCE")
    consume rdnStep [] innerBody
  else if tag = 0x30 then consume rdnStep [] body
  else
    .error
      (.parse s!"directoryName tag 0x{hexByte tag}, expected [4] or SEQUENCE")

/-- Whether each base RDN matches the RDN at its position. -/
def rdnsMatch (crates : Crates) :
    List (Bytes × Bytes) → Except NameConstraintError Bool
  | [] => .ok true
  | (base, name) :: pairs => do
      if ← rdnMatches crates base name then rdnsMatch crates pairs
      else pure false

/-- directoryName matching: the base is a prefix of the name. -/
def directoryMatches (crates : Crates) (baseWrapped nameWrapped : Bytes) :
    Except NameConstraintError Bool := do
  let baseRdns ← innerNameRdns baseWrapped
  let nameRdns ← innerNameRdns nameWrapped
  if baseRdns.length > nameRdns.length then pure false
  else rdnsMatch crates (baseRdns.zip nameRdns)

/-- Whether a base matches a name; different types never do. -/
def baseMatches (crates : Crates) :
    GeneralNameBase → AssertedName → Except NameConstraintError Bool
  | .dns base, .dns name => .ok (dnsMatches base name)
  | .rfc822 base, .rfc822 name => .ok (rfc822Matches base name)
  | .ip address mask, .ip name => .ok (ipMatches address mask name)
  | .directory base, .directory name => directoryMatches crates base name
  | _, _ => .ok false

/-! ## Reading the extension -/

/-- Decode an IA5String body. -/
def ia5String (body : Bytes) : Except NameConstraintError Bytes :=
  if isAscii body then .ok body
  else .error (.parse "IA5String contains non-ASCII bytes")

/-- Decode the base of a constraint, refusing unsupported types. -/
def decodeBaseGeneralName (tag : UInt8) (body : Bytes) :
    Except NameConstraintError GeneralNameBase :=
  if tag = gnDns then do
    let name ← ia5String body
    pure (.dns (toAsciiLowercase name))
  else if tag = gnRfc822 then do
    let name ← ia5String body
    pure (.rfc822 (toAsciiLowercase name))
  else if tag = gnDirectory then do
    let (innerTag, _) ←
      (parseTlv body).mapError fun e => .parse s!"directoryName: {e}"
    rejectIf (innerTag ≠ 0x30)
      (.parse
        s!"directoryName base inner tag 0x{hexByte innerTag}, expected SEQUENCE")
    pure (.directory body)
  else if tag = gnIp then
    if body.length = 8 then .ok (.ip (body.take 4) (body.drop 4))
    else if body.length = 32 then .ok (.ip (body.take 16) (body.drop 16))
    else
      .error
        (.parse
          s!"iPAddress constraint must be 8 or 32 bytes (addr||mask), got {body.length}")
  else
    .error
      (.unsupported
        s!"GeneralName type [tag 0x{hexByte tag}] in NameConstraints is not supported")

/-- Check one field after the base: only a `minimum` of zero may stand there. -/
def minMaxStep : Step NameConstraintError Unit UInt8 :=
  fun _ rest => do
    let (tag, body, next) ←
      (parseTlvWithRest rest).mapError fun e =>
        .parse s!"GeneralSubtree min/max: {e}"
    if tag = 0x80 then
      rejectIf (body ≠ [0])
        (.violation
          "NameConstraints GeneralSubtree.minimum must be 0 (RFC 5280 §4.2.1.10)")
      pure ((), next)
    else if tag = 0x81 then
      .error
        (.violation
          "NameConstraints GeneralSubtree.maximum must be absent (RFC 5280 §4.2.1.10)")
    else
      .error
        (.parse s!"unexpected field [tag 0x{hexByte tag}] in GeneralSubtree")

/-- Check what follows the base of a subtree. -/
def validateSubtreeMinMax (rest : Bytes) : Except NameConstraintError Unit :=
  consume minMaxStep () rest

/-- Read one subtree off the front of a list of subtrees. -/
def subtreeStep : Step NameConstraintError (List GeneralNameBase) UInt8 :=
  fun out pos => do
    let (tag, subtreeBody, rest) ←
      (parseTlvWithRest pos).mapError fun e => .parse s!"GeneralSubtree: {e}"
    rejectIf (tag ≠ 0x30)
      (.parse s!"expected GeneralSubtree SEQUENCE, got 0x{hexByte tag}")
    let (gnTag, gnBody, gnRest) ←
      (parseTlvWithRest subtreeBody).mapError fun e =>
        .parse s!"base GeneralName: {e}"
    validateSubtreeMinMax gnRest
    let base ← decodeBaseGeneralName gnTag gnBody
    pure (out ++ [base], rest)

/-- Parse a list of subtrees into typed bases. -/
def parseGeneralSubtrees (body : Bytes) :
    Except NameConstraintError (List GeneralNameBase) :=
  consume subtreeStep [] body

namespace NameConstraintState

/-- Fold one field of the extension into the state. -/
def fieldStep : Step NameConstraintError NameConstraintState UInt8 :=
  fun state pos => do
    let (tag, subBody, rest) ←
      (parseTlvWithRest pos).mapError fun e => .parse s!"subtrees: {e}"
    if tag = 0xA0 then
      let bases ← parseGeneralSubtrees subBody
      pure ({ state with permitted := state.permitted ++ [bases] }, rest)
    else if tag = 0xA1 then
      let bases ← parseGeneralSubtrees subBody
      pure ({ state with excluded := state.excluded ++ bases }, rest)
    else
      .error
        (.parse s!"unexpected NameConstraints member tag 0x{hexByte tag}")

/-- Fold an extension value into the state. -/
def addFromExtensionValue (state : NameConstraintState) (value : Bytes) :
    Except NameConstraintError NameConstraintState := do
  let (tag, body) ← (parseTlv value).mapError fun e => .parse s!"outer: {e}"
  rejectIf (tag ≠ 0x30)
    (.parse s!"expected SEQUENCE (0x30), got 0x{hexByte tag}")
  consume fieldStep state body

/-- Fold the extension of an issuing CA, if it has one, into the state. -/
def addFromCert (state : NameConstraintState) (cert : Certificate) :
    Except NameConstraintError NameConstraintState :=
  match cert.findExtension nameConstraintsOid with
  | none => .ok state
  | some ext => addFromExtensionValue state ext.extnValue

/-- Whether there is nothing to enforce. -/
def isEmpty (state : NameConstraintState) : Bool :=
  state.permitted.isEmpty && state.excluded.isEmpty

end NameConstraintState

/-! ## The names of a certificate -/

/-- Read one entry off the front of a subject alternative name. -/
def sanStep : Step NameConstraintError (List AssertedName) UInt8 :=
  fun names pos => do
    let (gnTag, gnBody, rest) ←
      (parseTlvWithRest pos).mapError fun e => .parse s!"SAN entry: {e}"
    if gnTag = gnDns then
      let name ← ia5String gnBody
      pure (names ++ [.dns (toAsciiLowercase name)], rest)
    else if gnTag = gnRfc822 then
      let name ← ia5String gnBody
      pure (names ++ [.rfc822 (toAsciiLowercase name)], rest)
    else if gnTag = gnIp then
      rejectIf (gnBody.length ≠ 4 ∧ gnBody.length ≠ 16)
        (.parse s!"SAN iPAddress must be 4 or 16 bytes, got {gnBody.length}")
      pure (names ++ [.ip gnBody], rest)
    else if gnTag = gnDirectory then
      pure (names ++ [.directory gnBody], rest)
    else
      -- other name types are not matched by any supported constraint
      pure (names, rest)

/-- Collect the names of a subject alternative name. -/
def collectSanNames (value : Bytes) (names : List AssertedName) :
    Except NameConstraintError (List AssertedName) := do
  let (tag, body) ← (parseTlv value).mapError fun e => .parse s!"SAN: {e}"
  rejectIf (tag ≠ 0x30)
    (.parse s!"SAN expected SEQUENCE, got 0x{hexByte tag}")
  consume sanStep names body

/-- The address in a legacy e-mail attribute of the subject. -/
def legacyEmail (crates : Crates) (emailAttribute : AttributeTypeAndValue) :
    Except NameConstraintError AssertedName := do
  let email ←
    (crates.ia5StringFromAny emailAttribute.value).mapError fun e =>
      .parse s!"subject emailAddress: {e}"
  rejectIf (email = []) (.parse "subject emailAddress must not be empty")
  pure (.rfc822 (toAsciiLowercase email))

/-- The legacy e-mail addresses of a subject. -/
def legacyEmails (crates : Crates) (subject : Name) :
    Except NameConstraintError (List AssertedName) :=
  (subject.flatMap fun rdn =>
      rdn.filter fun atv => atv.oid == emailAddressOid).mapM
    (legacyEmail crates)

/--
The names a certificate asserts: its subject when not empty, and its subject
alternative names.  Only when the latter are absent, and only when mail is
constrained, are the legacy e-mail attributes of the subject included.
-/
def collectAssertedNames
    (crates : Crates) (cert : Certificate) (constrainRfc822 : Bool) :
    Except NameConstraintError (List AssertedName) := do
  let subjectDer ←
    (crates.nameToDer cert.tbsCertificate.subject).mapError fun e =>
      .parse s!"subject DER: {e}"
  let names :=
    if subjectDer.length > 2 then [AssertedName.directory subjectDer] else []
  match cert.findExtension sanOid with
  | some ext => collectSanNames ext.extnValue names
  | none =>
      if constrainRfc822 then
        let emails ← legacyEmails crates cert.tbsCertificate.subject
        pure (names ++ emails)
      else pure names

/-! ## Checking a certificate -/

namespace NameConstraintState

/-- Whether any base constrains mail addresses. -/
def constrainsRfc822 (state : NameConstraintState) : Bool :=
  (state.excluded ++ state.permitted.flatten).any fun base =>
    match base with
    | .rfc822 _ => true
    | _ => false

/-- No excluded base may match. -/
def checkExcluded (crates : Crates) (name : AssertedName)
    (base : GeneralNameBase) : Except NameConstraintError Unit := do
  let hit ← baseMatches crates base name
  rejectIf (hit = true)
    (.violation s!"{name.debug} falls within an excluded subtree")

/--
Search a group for a base that matches: whether any base is of the name's type,
and whether one of them matches.
-/
def searchGroup (crates : Crates) (name : AssertedName) :
    Bool → List GeneralNameBase → Except NameConstraintError (Bool × Bool)
  | hasPermittedOfType, [] => .ok (hasPermittedOfType, false)
  | hasPermittedOfType, base :: group =>
      if sameType base name then do
        if ← baseMatches crates base name then pure (true, true)
        else searchGroup crates name true group
      else searchGroup crates name hasPermittedOfType group

/-- A group with bases of the name's type must match the name. -/
def checkGroup (crates : Crates) (name : AssertedName)
    (group : List GeneralNameBase) : Except NameConstraintError Unit := do
  let (hasPermittedOfType, matched) ← searchGroup crates name false group
  rejectIf (hasPermittedOfType = true ∧ matched = false)
    (.violation
      s!"{name.typeLabel} {name.debug} is outside an issuer's permitted subtrees")

/-- Check one name against the excluded bases and then the permitted groups. -/
def checkName (crates : Crates) (state : NameConstraintState)
    (name : AssertedName) : Except NameConstraintError Unit := do
  state.excluded.forM (checkExcluded crates name)
  state.permitted.forM (checkGroup crates name)

/-- Check every name of a certificate. -/
def checkCert (crates : Crates) (state : NameConstraintState)
    (cert : Certificate) : Except NameConstraintError Unit :=
  if state.isEmpty then .ok ()
  else do
    let names ← collectAssertedNames crates cert state.constrainsRfc822
    names.forM (checkName crates state)

end NameConstraintState

end RitspLtv.Ltv.NameConstraints
