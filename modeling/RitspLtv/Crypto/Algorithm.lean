import RitspLtv.Certificate

/-!
# Digest algorithms

The digests a timestamp may use, with their identifiers, sizes and names.
-/

namespace RitspLtv.Crypto.Algorithm

/-- Supported digest algorithms. -/
inductive DigestAlgorithm where
  | sha256
  | sha384
  | sha512
  | sha3_256
  | sha3_384
  | sha3_512
  deriving DecidableEq, Repr

namespace DigestAlgorithm

/-- The object identifier of a digest algorithm. -/
def oid : DigestAlgorithm → ObjectIdentifier
  | .sha256 => .newUnwrap [2, 16, 840, 1, 101, 3, 4, 2, 1]
  | .sha384 => .newUnwrap [2, 16, 840, 1, 101, 3, 4, 2, 2]
  | .sha512 => .newUnwrap [2, 16, 840, 1, 101, 3, 4, 2, 3]
  | .sha3_256 => .newUnwrap [2, 16, 840, 1, 101, 3, 4, 2, 8]
  | .sha3_384 => .newUnwrap [2, 16, 840, 1, 101, 3, 4, 2, 9]
  | .sha3_512 => .newUnwrap [2, 16, 840, 1, 101, 3, 4, 2, 10]

/-- The digest algorithm with an object identifier, if it is supported. -/
def fromOid (identifier : ObjectIdentifier) : Option DigestAlgorithm :=
  [sha256, sha384, sha512, sha3_256, sha3_384, sha3_512].find?
    fun algorithm => identifier == algorithm.oid

theorem oid_of_fromOid
    {identifier : ObjectIdentifier} {algorithm : DigestAlgorithm}
    (known : fromOid identifier = some algorithm) :
    identifier = algorithm.oid := by
  have equal := List.find?_some known
  exact eq_of_beq equal

/-- The provider's name for a digest algorithm. -/
def hashAlgorithm : DigestAlgorithm → HashAlgorithm
  | .sha256 => .sha256
  | .sha384 => .sha384
  | .sha512 => .sha512
  | .sha3_256 => .sha3_256
  | .sha3_384 => .sha3_384
  | .sha3_512 => .sha3_512

/-- Output size in octets. -/
def outputSize : DigestAlgorithm → Nat
  | .sha256 | .sha3_256 => 32
  | .sha384 | .sha3_384 => 48
  | .sha512 | .sha3_512 => 64

/-- Human-readable name. -/
def name : DigestAlgorithm → String
  | .sha256 => "SHA-256"
  | .sha384 => "SHA-384"
  | .sha512 => "SHA-512"
  | .sha3_256 => "SHA3-256"
  | .sha3_384 => "SHA3-384"
  | .sha3_512 => "SHA3-512"

/-- The `Debug` form. -/
def debug : DigestAlgorithm → String
  | .sha256 => "Sha256"
  | .sha384 => "Sha384"
  | .sha512 => "Sha512"
  | .sha3_256 => "Sha3_256"
  | .sha3_384 => "Sha3_384"
  | .sha3_512 => "Sha3_512"

end DigestAlgorithm

end RitspLtv.Crypto.Algorithm
