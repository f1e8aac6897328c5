import Syfrah.Fabric.PeerStore

/-!
# The index of the stored peers

A process keeps a copy of the table of peers in memory. It is made when it is first needed, patched by
the functions that write single peers, and dropped by those that replace all. A function that patches it
has the database open, so that making the index then means opening the file a second time.
-/

namespace Syfrah

namespace Mesh

structure IndexedPeers where
  /-- The table, if the file of the layer is there. -/
  table : Option Peers
  index : Option Peers

namespace IndexedPeers

def stored (s : IndexedPeers) : Peers := s.table.getD ∅

/-- The index, which is made if there is none. When the file cannot be opened it is empty. -/
def ensurePeerIndex (opens : Bool) (s : IndexedPeers) : Peers := s.index.getD (if opens then s.stored else ∅)

def peerByKey (s : IndexedPeers) (wgPublicKey : String) : Option PeerRecord :=
  (s.ensurePeerIndex true)[wgPublicKey]?

-- whether an open file can be opened once more
variable (reopens : Bool)

/-- Write a peer to the table and then to the index. -/
def setPeer (s : IndexedPeers) (entry : String × PeerRecord) : IndexedPeers :=
  let s := { s with table := some (s.stored.insert entry.1 entry.2) }
  { s with index := some ((s.ensurePeerIndex reopens).insert entry.1 entry.2) }

def save (peers : List PeerRecord) : IndexedPeers := ⟨some (peers.foldl Peers.upsertPeer ∅), none⟩

def clear : IndexedPeers := ⟨none, none⟩

def upsertPeer (s : IndexedPeers) (peer : PeerRecord) : IndexedPeers := s.setPeer reopens (peer.wgPublicKey, peer)

def upsertPeerBounded (s : IndexedPeers) (peer : PeerRecord) (maxPeers : ℕ) : IndexedPeers :=
  if s.stored.refuses peer maxPeers then { s with table := some s.stored } else s.upsertPeer reopens peer

def purgeStalePeersByName (s : IndexedPeers) (name exceptWgKey : String) : IndexedPeers :=
  match s.table with
  | none => s
  | some t => (t.purgeStalePeersByName name exceptWgKey).foldl (setPeer reopens) s

def removePeer (s : IndexedPeers) (nameOrKey : String) : IndexedPeers :=
  match s.table with
  | none => s
  | some t => (t.removePeer nameOrKey).elim s (s.setPeer reopens)

def updatePeerEndpoint (s : IndexedPeers) (nameOrKey : String) (endpoint : SocketAddr) : IndexedPeers :=
  match s.table with
  | none => s
  | some t => (t.updatePeerEndpoint nameOrKey endpoint).elim s (s.setPeer reopens)

def gcRemovedPeers (s : IndexedPeers) (thresholdSecs now : ℕ) : IndexedPeers :=
  match s.table with
  | none => s
  | some t => { s with table := some ((t.gcRemovedPeers thresholdSecs now).foldl (fun t key => t.erase key) t) }

inductive Call
  | save (peers : List PeerRecord)
  | upsertPeer (peer : PeerRecord)
  | upsertPeerBounded (peer : PeerRecord) (maxPeers : ℕ)
  | purgeStalePeersByName (name exceptWgKey : String)
  | removePeer (nameOrKey : String)
  | updatePeerEndpoint (nameOrKey : String) (endpoint : SocketAddr)
  | gcRemovedPeers (thresholdSecs now : ℕ)
  | clear
  | peerByKey (wgPublicKey : String)

/-- A call, and what a lookup returns. -/
def step (call : Call) (s : IndexedPeers) : Option PeerRecord × IndexedPeers :=
  match call with
  | .save peers => (none, save peers)
  | .upsertPeer peer => (none, s.upsertPeer reopens peer)
  | .upsertPeerBounded peer maxPeers => (none, s.upsertPeerBounded reopens peer maxPeers)
  | .purgeStalePeersByName name exceptWgKey => (none, s.purgeStalePeersByName reopens name exceptWgKey)
  | .removePeer nameOrKey => (none, s.removePeer reopens nameOrKey)
  | .updatePeerEndpoint nameOrKey endpoint => (none, s.updatePeerEndpoint reopens nameOrKey endpoint)
  | .gcRemovedPeers thresholdSecs now => (none, s.gcRemovedPeers thresholdSecs now)
  | .clear => (none, clear)
  | .peerByKey wgPublicKey => (s.peerByKey wgPublicKey, { s with index := some (s.ensurePeerIndex true) })

end IndexedPeers

end Mesh

end Syfrah
