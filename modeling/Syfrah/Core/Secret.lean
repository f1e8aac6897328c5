import Syfrah.Core.Mesh

/-!
# The mesh secret and what is derived from it

Hashes and the base-58 encoding are parameters; of the encoding it is only assumed that it can be
undone.
-/

namespace Syfrah

namespace Mesh

abbrev Hash := Vector UInt8 32

structure Crypto where
  sha256 : List ℕ → Hash
  /-- The key that is derived for a label. -/
  hkdf : String → List ℕ → Hash
  base58 : List UInt8 → String
  fromBase58 : String → Option (List UInt8)
  fromBase58_base58 : ∀ bytes, fromBase58 (base58 bytes) = some bytes

inductive DerivationVersion
  | v1
  | v2
deriving DecidableEq

structure MeshSecret where
  bytes : Vector UInt8 32
  version : DerivationVersion
deriving DecidableEq

namespace MeshSecret

variable (crypto : Crypto)

def fromBytes (bytes : Vector UInt8 32) : MeshSecret := ⟨bytes, .v1⟩

def generate (bytes : Vector UInt8 32) : MeshSecret := ⟨bytes, .v2⟩

def labelled (label : String) (bytes : Vector UInt8 32) : List ℕ :=
  (textBytes label ++ bytes.toList).map UInt8.toNat

def encryptionKey (s : MeshSecret) : Hash :=
  match s.version with
  | .v1 => crypto.sha256 (labelled "encrypt:" s.bytes)
  | .v2 => crypto.hkdf "encryption-key" (s.bytes.toList.map UInt8.toNat)

def toText (s : MeshSecret) : String := "syf_sk_" ++ crypto.base58 s.bytes.toList

def fromText (text : String) : Option MeshSecret := do
  let encoded ← Text.stripStart text "syf_sk_"
  let decoded ← crypto.fromBase58 encoded
  if h : decoded.length = 32 then some (fromBytes ⟨decoded.toArray, h⟩) else none

def meshCert (bytes : Vector UInt8 32) : Hash :=
  crypto.sha256 (labelled "syfrah-tls-cert-key-v1" bytes)

def derivePrefix (s : MeshSecret) : Ipv6Addr :=
  let hash := crypto.sha256 (labelled "mesh-prefix:" s.bytes)
  #v[0xfd00 + (hash.get 0).toNat, (hash.get 1).toNat * 256 + (hash.get 2).toNat,
    (hash.get 3).toNat * 256 + (hash.get 4).toNat, 0, 0, 0, 0, 0]

end MeshSecret

end Mesh

end Syfrah
