import Syfrah.Fabric.Peering

/-!
# The tasks that write the stored peers

Accepted joins, announces, health checks, endpoint updates, removals and the garbage collection read
and write the stored peers and the WireGuard device in several transactions. A step of the model is one
transaction of one task.
-/

namespace Syfrah

namespace Mesh

structure NodeConfig where
  sha256 : List ℕ → Vector UInt8 32
  meshName : String
  meshSecret : String
  meshPrefix : Ipv6Addr
  nodeName : String
  wgPublicKey : String
  myRecord : PeerRecord
  publicEndpoint : Option SocketAddr
  maxPeers : ℕ

def maxAnnounceAgeSecs : ℕ := 600

/-- What `handle_incoming` makes of a decrypted announce: the record that it passes on, if any. -/
def receiveAnnounce (now : ℕ) (record : PeerRecord) : Except String (Option PeerRecord) :=
  match validatePeerRecord record with
  | .error e => .error ("invalid peer announce: " ++ e.text)
  | .ok () =>
    if maxAnnounceAgeSecs < now - record.lastSeen then .ok none
    else if record.status = .removed then .error "peer announce with status=Removed is not allowed"
    else .ok (some record)

/-- Whether `on_announce` drops a record for its endpoint. -/
def dropsEndpoint (myEndpoint endpoint : SocketAddr) : Bool :=
  endpoint.isUnspecified || !myEndpoint.isUnspecified && endpoint.ip == myEndpoint.ip

/-- The record of an announce that a task will store. -/
def admitAnnounce (myEndpoint : SocketAddr) (now : ℕ) (record : PeerRecord) : Option PeerRecord :=
  match receiveAnnounce now record with
  | .ok (some record) => if dropsEndpoint myEndpoint record.endpoint then none else some record
  | _ => none

inductive Task
  /-- Of an accepted join: list the records with its name, mark them as removed. -/
  | listStale (record : PeerRecord)
  | purge (record : PeerRecord) (writes : List (String × PeerRecord))
  /-- Of an accepted join or an announce. -/
  | count (record : PeerRecord)
  | configure (record : PeerRecord) (peerCount : ℕ) (peerExists : Bool)
  | checkLimit (record : PeerRecord)
  | store (record : PeerRecord)
  /-- Of a health check: write the records back. -/
  | writeBack (peers : List PeerRecord)
  /-- Of an endpoint update. -/
  | setEndpoint (key : String) (peer : PeerRecord)
  | reconfigure (peer : PeerRecord)
  /-- Of a removal. -/
  | markRemoved (nameOrKey key : String) (peer : PeerRecord)
  | sync (nameOrKey : String) (peer : PeerRecord)
  | announceRemoval (nameOrKey : String) (peer : PeerRecord)
  /-- Of the garbage collection. -/
  | collect (keys : List String)
  | finished

structure OtherNode where
  myEndpoint : SocketAddr
  maxPeers : ℕ
  peers : Peers

/-- What an announce does to the peers of another node. -/
def OtherNode.handleAnnounce (n : OtherNode) (now : ℕ) (record : PeerRecord) : OtherNode :=
  match admitAnnounce n.myEndpoint now record with
  | some record => if n.peers.refuses record n.maxPeers then n
      else { n with peers := n.peers.upsertPeer record }
  | none => n

structure PeerNode where
  peers : Peers
  device : Wg.Device
  tasks : List Task
  /-- The other nodes by their keys. -/
  others : String → OtherNode
  /-- The names and keys that were removed and have not joined again; of those, the ones whose removal
  was reported. -/
  removed : List String
  reported : List String
  /-- What the receivers of removal announcements then had as the status of the peer. -/
  delivered : List (Option PeerStatus)

def PeerNode.start (others : String → OtherNode) : PeerNode := ⟨∅, [], [], others, [], [], []⟩

inductive PeerAct (Key Digest : Type)
  | pinAccept (req : JoinRequest Key Digest) (peer : SocketAddr) (now : ℕ)
  | manualAccept (req : JoinRequest Key Digest) (peer : SocketAddr) (now : ℕ)
  /-- An announce that was decrypted. -/
  | announce (record : PeerRecord) (now : ℕ)
  | healthCheck (handshake : String → Option ℕ) (now : ℕ) (timeout : PeerRecord → ℕ)
  | updatePeerEndpoint (nameOrKey : String) (endpoint : SocketAddr)
  | removePeer (nameOrKey : String)
  | gcRemovedPeers (thresholdSecs now : ℕ)
  /-- A task goes on; for a removal, with the gossip targets that were chosen. -/
  | advance (i now : ℕ) (targets : List String)
  /-- Something else happens on another node. -/
  | elsewhere (key : String) (node : OtherNode)

namespace PeerNode

variable {Key Digest : Type} (config : NodeConfig)

/-- A join request that `handle_incoming` goes on with. -/
def admitJoin (req : JoinRequest Key Digest) (peer : SocketAddr) : Option (JoinRequest Key Digest) :=
  match validateJoinRequest req with
  | .error _ => none
  | .ok () =>
    let req := req.detectEndpoint peer
    if req.endpoint.isUnspecified then none else some req

/-- The record of a join that is accepted for its PIN. -/
def pinRecord (s : PeerNode) (req : JoinRequest Key Digest) (now : ℕ) : Option PeerRecord :=
  match buildAutoAcceptResponse config.sha256 req ⟨req.pin.getD "", config.meshName,
    config.meshSecret, config.meshPrefix, config.myRecord, config.maxPeers⟩ s.peers.getPeers now with
  | .ok (_, record) => some record
  | .error _ => none

/-- The record of a join that the operator accepts. -/
def operatorRecord (s : PeerNode) (req : JoinRequest Key Digest) (now : ℕ) : Option PeerRecord :=
  manualRecord config.sha256 (req.info now)
    ⟨config.meshName, config.meshSecret, config.meshPrefix, s.peers.getPeers⟩ now

def spawn (s : PeerNode) (task : Task) : PeerNode := { s with tasks := s.tasks ++ [task] }

/-- `on_accepted`: the peer has joined again. -/
def onAccepted (s : PeerNode) (record : PeerRecord) : PeerNode :=
  { s.spawn (.listStale record) with
    removed := s.removed.filter fun x => !record.isCalled x
    reported := s.reported.filter fun x => !record.isCalled x }

/-- The other nodes that a removal is announced to. -/
def targetsOf (s : PeerNode) (peer : PeerRecord) (targets : List String) : List String :=
  targets.filter fun key => s.peers.getPeers.any fun p =>
    p.wgPublicKey == key && p.status != .removed && p.wgPublicKey != peer.wgPublicKey

def announceRemoval (s : PeerNode) (nameOrKey : String) (peer : PeerRecord) (now : ℕ)
    (targets : List String) : PeerNode :=
  let reached := s.targetsOf peer targets
  let others key :=
    if key ∈ reached then (s.others key).handleAnnounce now peer else s.others key
  let status key := (others key).peers[peer.wgPublicKey]?.map PeerRecord.status
  { s with
    others := others,
    reported := nameOrKey :: s.reported,
    delivered := reached.map status ++ s.delivered }

/-- The next transaction of a task, and what is left of the task. -/
def advance (s : PeerNode) (now : ℕ) (targets : List String) : Task → PeerNode × Task
  | .listStale record =>
    (s, .purge record (s.peers.purgeStalePeersByName record.name record.wgPublicKey))
  | .purge record ((key, peer) :: writes) =>
    ({ s with peers := s.peers.insert key peer }, .purge record writes)
  | .purge record [] =>
    (s, if record.endpoint.isUnspecified || config.publicEndpoint.any (·.ip == record.endpoint.ip)
      then .finished else .count record)
  | .count record => (s, .configure record s.peers.size (s.peers.contains record.wgPublicKey))
  | .configure record peerCount peerExists =>
    let device := s.device.upsertPeerBounded config.wgPublicKey record config.maxPeers peerCount
      peerExists
    ({ s with device := device }, .checkLimit record)
  | .checkLimit record =>
    (s, if s.peers.refuses record config.maxPeers then .finished else .store record)
  | .store record => ({ s with peers := s.peers.upsertPeer record }, .finished)
  | .writeBack [] => (s, .finished)
  | .writeBack (peer :: peers) => ({ s with peers := s.peers.upsertPeer peer }, .writeBack peers)
  | .setEndpoint key peer => ({ s with peers := s.peers.insert key peer }, .reconfigure peer)
  | .reconfigure peer =>
    ({ s with device := s.device.upsertPeer config.wgPublicKey peer }, .finished)
  | .markRemoved nameOrKey key peer =>
    ({ s with peers := s.peers.insert key peer, removed := nameOrKey :: s.removed },
      .sync nameOrKey peer)
  | .sync nameOrKey peer =>
    ({ s with device := s.device.syncPeers config.wgPublicKey s.peers.getPeers },
      .announceRemoval nameOrKey peer)
  | .announceRemoval nameOrKey peer =>
    (s.announceRemoval nameOrKey peer now targets, .finished)
  | .collect [] => (s, .finished)
  | .collect (key :: keys) => ({ s with peers := s.peers.erase key }, .collect keys)
  | .finished => (s, .finished)

def setTask (s : PeerNode) (i : ℕ) (task : Task) : PeerNode :=
  { s with tasks := s.tasks.set i task }

def step : PeerAct Key Digest → PeerNode → Unit × PeerNode
  | .pinAccept req peer now, s => ((),
      match (admitJoin req peer).bind fun req => s.pinRecord config req now with
      | some record => s.onAccepted record
      | none => s)
  | .manualAccept req peer now, s => ((),
      match (admitJoin req peer).bind fun req => s.operatorRecord config req now with
      | some record => s.onAccepted record
      | none => s)
  | .announce record now, s => ((),
      match admitAnnounce config.myRecord.endpoint now record with
      | some record => s.spawn (.count record)
      | none => s)
  | .healthCheck handshake now timeout, s => ((),
      let evaluated := s.peers.getPeers.map fun peer =>
        evaluatePeerHealth (handshake peer.wgPublicKey) now (timeout peer) peer
      if evaluated = s.peers.getPeers then s else s.spawn (.writeBack evaluated))
  | .updatePeerEndpoint nameOrKey endpoint, s => ((),
      match s.peers.updatePeerEndpoint nameOrKey endpoint with
      | some (key, peer) => s.spawn (.setEndpoint key peer)
      | none => s)
  | .removePeer nameOrKey, s => ((),
      if nameOrKey = config.nodeName ∨ nameOrKey = config.wgPublicKey then s
      else match s.peers.removePeer nameOrKey with
        | some (key, peer) => s.spawn (.markRemoved nameOrKey key peer)
        | none => s)
  | .gcRemovedPeers thresholdSecs now, s =>
      ((), s.spawn (.collect (s.peers.gcRemovedPeers thresholdSecs now)))
  | .advance i now targets, s => ((),
      match s.tasks[i]? with
      | some task =>
        let (s', task') := s.advance config now targets task
        s'.setTask i task'
      | none => s)
  | .elsewhere key node, s => ((), { s with others := Function.update s.others key node })

end PeerNode

end Mesh

end Syfrah
