import Mathlib.Tactic

/-!
# Mesh addresses
-/

namespace Syfrah

namespace Mesh

abbrev Ipv6Addr := Vector ℕ 8

instance neZero_hash : NeZero 32 := ⟨by decide⟩

/-- The address of a node: the /48 of the mesh, then the first ten bytes of the hash of its key. -/
def deriveNodeAddress (sha256 : List ℕ → Vector UInt8 32) (meshPrefix : Ipv6Addr)
    (wgPublicKey : List ℕ) : Ipv6Addr :=
  let hash := sha256 wgPublicKey
  #v[meshPrefix[0], meshPrefix[1], meshPrefix[2],
    (hash.get 0).toNat * 256 + (hash.get 1).toNat,
    (hash.get 2).toNat * 256 + (hash.get 3).toNat,
    (hash.get 4).toNat * 256 + (hash.get 5).toNat,
    (hash.get 6).toNat * 256 + (hash.get 7).toNat,
    (hash.get 8).toNat * 256 + (hash.get 9).toNat]

end Mesh

end Syfrah
