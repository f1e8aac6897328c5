import Syfrah.Core.Mesh
import Syfrah.State.LayerDb

/-!
# The stored peers

The peers of a node, by WireGuard public key. A function of the store that reads the table and then
writes it does so in two transactions; it is given by what it reads and what it will write.
-/

namespace Syfrah

namespace Mesh

abbrev Peers := Table PeerRecord

def defaultRegion : String := "default"

def generateZone (region : String) (existingPeers : List PeerRecord) : String :=
  let index (peer : PeerRecord) : Option ℕ := do
    let zone ← peer.zone
    let suffix ← Text.stripStart zone "zone-" <|> Text.stripStart zone s!"{region}-zone-"
    Text.parseUnsigned (2 ^ 32) suffix
  let nextIndex := match (existingPeers.filterMap index).max? with
    | some highest => (highest + 1) % 2 ^ 32
    | none => (existingPeers.length + 1) % 2 ^ 32
  s!"zone-{nextIndex}"

def resolveRegionZone (region zone : Option String) (existingPeers : List PeerRecord) :
    String × String :=
  let region := region.getD defaultRegion
  (region, zone.getD (generateZone region existingPeers))

def PeerRecord.isCalled (record : PeerRecord) (nameOrKey : String) : Bool :=
  record.name == nameOrKey || record.wgPublicKey == nameOrKey

namespace Peers

def getPeers (t : Peers) : List PeerRecord := t.toList.map Prod.snd

def upsertPeer (t : Peers) (peer : PeerRecord) : Peers := t.insert peer.wgPublicKey peer

/-- Whether `upsert_peer_bounded` refuses a peer. -/
def refuses (t : Peers) (peer : PeerRecord) (maxPeers : ℕ) : Bool :=
  !t.contains peer.wgPublicKey && maxPeers ≤ t.size

/-- The first record, in the order of the keys, with a name or key. -/
def find (t : Peers) (nameOrKey : String) : Option (String × PeerRecord) :=
  t.toList.find? fun e => e.2.isCalled nameOrKey

/-- What `remove_peer` writes. -/
def removePeer (t : Peers) (nameOrKey : String) : Option (String × PeerRecord) :=
  (t.find nameOrKey).map fun e => (e.1, { e.2 with status := .removed })

/-- What `update_peer_endpoint` writes. -/
def updatePeerEndpoint (t : Peers) (nameOrKey : String) (endpoint : SocketAddr) :
    Option (String × PeerRecord) :=
  (t.find nameOrKey).map fun e => (e.1, { e.2 with endpoint := endpoint })

/-- What `purge_stale_peers_by_name` writes. -/
def purgeStalePeersByName (t : Peers) (name exceptWgKey : String) : List (String × PeerRecord) :=
  (t.toList.filter fun e => e.2.name == name && e.2.wgPublicKey != exceptWgKey &&
    e.2.status != .removed).map fun e => (e.1, { e.2 with status := .removed })

/-- What `gc_removed_peers` deletes. -/
def gcRemovedPeers (t : Peers) (thresholdSecs now : ℕ) : List String :=
  if thresholdSecs = 0 then []
  else (t.toList.filter fun e => e.2.status == .removed &&
    decide (thresholdSecs ≤ now - e.2.lastSeen)).map Prod.fst

end Peers

def evaluatePeerHealth (handshake : Option ℕ) (now timeout : ℕ) (peer : PeerRecord) : PeerRecord :=
  let seen := match handshake with
    | some epoch => if peer.lastSeen < epoch then { peer with lastSeen := epoch } else peer
    | none => peer
  let recovered := if seen.status = .unreachable ∧ now - seen.lastSeen < timeout then
      { seen with status := .active } else seen
  if recovered.status = .active ∧ timeout < now - recovered.lastSeen then
    { recovered with status := .unreachable } else recovered

end Mesh

end Syfrah
