import Syfrah.Core.Mesh

/-!
# The WireGuard device

An allowed address belongs to one peer: when a peer gets it, the others lose it.
-/

namespace Syfrah

namespace Wg

open Mesh (Ipv6Addr PeerRecord SocketAddr)

def keyFromBase64 (text : String) : Option (List ℕ) :=
  (Base64.decode text).filter (·.length == 32)

structure Peer where
  publicKey : String
  endpoint : SocketAddr
  allowedIps : List Ipv6Addr
deriving DecidableEq

abbrev Device := List Peer

namespace Device

def removePeer (d : Device) (publicKey : String) : Device := d.filter (·.publicKey ≠ publicKey)

/-- Set the endpoint of a peer and replace its allowed addresses. -/
def addPeer (d : Device) (publicKey : String) (endpoint : SocketAddr) (ip : Ipv6Addr) : Device :=
  ⟨publicKey, endpoint, [ip]⟩ ::
    (d.removePeer publicKey).map fun p => { p with allowedIps := p.allowedIps.filter (· ≠ ip) }

def owner (d : Device) (ip : Ipv6Addr) : Option String :=
  (d.find? fun p => p.allowedIps.contains ip).map Peer.publicKey

def upsertPeer (d : Device) (selfKey : String) (peer : PeerRecord) : Device :=
  if (keyFromBase64 peer.wgPublicKey).isNone then d
  else if peer.wgPublicKey = selfKey then d
  else if peer.status = .removed then d.removePeer peer.wgPublicKey
  else d.addPeer peer.wgPublicKey peer.endpoint peer.meshIpv6

def upsertPeerBounded (d : Device) (selfKey : String) (peer : PeerRecord)
    (maxPeers peerCount : ℕ) (peerExists : Bool) : Device :=
  if peer.wgPublicKey ≠ selfKey ∧ peer.status ≠ .removed ∧ peerExists = false ∧
      maxPeers ≤ peerCount then d
  else d.upsertPeer selfKey peer

/-- The records that the device should have as peers. -/
def desired (selfKey : String) (records : List PeerRecord) : List PeerRecord :=
  records.filter fun r => r.wgPublicKey ≠ selfKey && r.status ≠ .removed

/-- Whether a desired peer has to be added or updated. -/
def differs (d : Device) (record : PeerRecord) : Bool :=
  match d.find? (·.publicKey = record.wgPublicKey) with
  | some peer => !peer.allowedIps.contains record.meshIpv6 || record.endpoint.isUnspecified
  | none => true

def syncPeers (d : Device) (selfKey : String) (records : List PeerRecord) : Device :=
  let wanted := desired selfKey records
  let kept := d.filter fun p => wanted.any (·.wgPublicKey = p.publicKey) || p.publicKey = selfKey
  -- the loop stops at a record with an invalid key
  ((wanted.filter d.differs).takeWhile fun r => (keyFromBase64 r.wgPublicKey).isSome).foldl
    (·.upsertPeer selfKey ·) kept

end Device

end Wg

end Syfrah
