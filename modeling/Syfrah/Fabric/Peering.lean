import Syfrah.Fabric.PeerStore
import Syfrah.Fabric.Wg

/-!
# Peering: join requests, PINs and the operator's decisions

Every connection is handled by a task of its own. The tasks share the map of pending requests, the
configuration for PINs and the rate limiter; a step of the model is what a task does between two points
where others may run. The clock, the stored state and the peers that a step reads are inputs of the
step.
-/

namespace Syfrah

namespace Mesh

structure JoinResponse where
  accepted : Bool
  meshName : Option String
  meshSecret : Option String
  meshPrefix : Option Ipv6Addr
  peers : List PeerRecord
  reason : Option String
  approvedBy : Option String
deriving DecidableEq

def JoinResponse.rejection (reason : Option String) : JoinResponse :=
  ⟨false, none, none, none, [], reason, none⟩

/-- The stored state of the node, as far as peering reads it. -/
structure NodeState where
  meshName : String
  meshSecret : String
  meshPrefix : Ipv6Addr
  peers : List PeerRecord
deriving DecidableEq

structure AutoAcceptConfig where
  pin : String
  meshName : String
  meshSecretStr : String
  meshPrefix : Ipv6Addr
  myRecord : PeerRecord
  maxPeers : ℕ
deriving DecidableEq

structure JoinRequestInfo where
  requestId : String
  nodeName : String
  wgPublicKey : String
  endpoint : SocketAddr
  wgListenPort : ℕ
  receivedAt : ℕ
  region : Option String
  zone : Option String
deriving DecidableEq

section Records

variable {Key Digest : Type} (sha256 : List ℕ → Vector UInt8 32)

def buildAutoAcceptResponse (req : JoinRequest Key Digest) (config : AutoAcceptConfig)
    (stored : List PeerRecord) (now : ℕ) : Except String (JoinResponse × PeerRecord) :=
  match Wg.keyFromBase64 req.wgPublicKey with
  | none => .error "invalid WG public key"
  | some key =>
    let allPeers := stored ++ [config.myRecord]
    let region := req.region.getD defaultRegion
    let record : PeerRecord :=
      { name := req.nodeName, wgPublicKey := req.wgPublicKey, endpoint := req.endpoint,
        meshIpv6 := deriveNodeAddress sha256 config.meshPrefix key, lastSeen := now,
        status := .active, region := some region,
        zone := some (req.zone.getD (generateZone region allPeers)) }
    .ok (⟨true, some config.meshName, some config.meshSecretStr, some config.meshPrefix, allPeers,
      none, some "pin"⟩, record)

/-- The response to a request that the operator accepts. -/
def manualResponse (state : NodeState) (myRecord : PeerRecord) : JoinResponse :=
  ⟨true, some state.meshName, some state.meshSecret, some state.meshPrefix,
    state.peers ++ [myRecord], none, some "manual"⟩

/-- The record of a request that the operator accepts. -/
def manualRecord (info : JoinRequestInfo) (state : NodeState) (now : ℕ) : Option PeerRecord :=
  (Wg.keyFromBase64 info.wgPublicKey).map fun key =>
    let (region, zone) := resolveRegionZone info.region info.zone state.peers
    { name := info.nodeName, wgPublicKey := info.wgPublicKey, endpoint := info.endpoint,
      meshIpv6 := deriveNodeAddress sha256 state.meshPrefix key, lastSeen := now, status := .active,
      region := some region, zone := some zone }

/-- An unspecified endpoint is replaced by the address that the request came from. -/
def JoinRequest.detectEndpoint (req : JoinRequest Key Digest) (peer : SocketAddr) :
    JoinRequest Key Digest :=
  if req.endpoint.isUnspecified then { req with endpoint := peer.withPort req.wgListenPort } else req

def JoinRequest.info (req : JoinRequest Key Digest) (receivedAt : ℕ) : JoinRequestInfo :=
  ⟨req.requestId, req.nodeName, req.wgPublicKey, req.endpoint, req.wgListenPort, receivedAt,
    req.region, req.zone⟩

end Records

/-! ### The rate limiter of PINs -/

def maxPinAttempts : ℕ := 5

def pinLockoutWindow : ℕ := 600

abbrev PinRateLimiter := Table (List ℕ)

namespace PinRateLimiter

def recent (l : PinRateLimiter) (ip : String) (now : ℕ) : List ℕ :=
  (l[ip]?.getD []).filter fun t => now - t < pinLockoutWindow

def isLockedOut (l : PinRateLimiter) (ip : String) (now : ℕ) : Bool × PinRateLimiter :=
  (maxPinAttempts ≤ (l.recent ip now).length, l.insert ip (l.recent ip now))

def recordFailure (l : PinRateLimiter) (ip : String) (now : ℕ) : PinRateLimiter :=
  l.insert ip (l.recent ip now ++ [now])

end PinRateLimiter

/-! ### Connections and commands -/

/-- The task of a connection that has sent a valid join request. -/
inductive Connection (Key Digest : Type)
  /-- Before the check of the PIN. -/
  | validated (peer : SocketAddr) (req : JoinRequest Key Digest)
  /-- After a wrong PIN, still holding the configuration. -/
  | delayed (req : JoinRequest Key Digest)
  /-- Before the request is stored for the operator. -/
  | queueing (req : JoinRequest Key Digest)
  /-- Waiting for the operator, with the answer if it has been sent. -/
  | waiting (req : JoinRequest Key Digest) (answer : Option JoinResponse)
  /-- Nobody can answer any more. -/
  | orphaned (req : JoinRequest Key Digest)
  | expired (req : JoinRequest Key Digest)
  /-- Before the response is written; after a check of the PIN the configuration is still held. -/
  | answering (req : JoinRequest Key Digest) (response : JoinResponse) (guarded : Bool)
  | closed
deriving DecidableEq

/-- Whether a connection holds the configuration for PINs, so that it cannot change. -/
def Connection.guards {Key Digest : Type} : Connection Key Digest → Bool
  | .delayed _ => true
  | .answering _ _ guarded => guarded
  | _ => false

/-- A request that waits for the operator, and the connection that waits for the answer. -/
structure PendingJoin where
  info : JoinRequestInfo
  connection : ℕ
deriving DecidableEq

inductive Command
  | configuring (config : AutoAcceptConfig)
  | activating
  | clearing
  | finished
deriving DecidableEq

/-- An accepted request id, with the requests that the operator was last shown. -/
structure Approval where
  requestId : String
  listing : List JoinRequestInfo
deriving DecidableEq

/-- A response that was written, with the state of peering at that time. -/
structure Written (Key Digest : Type) where
  request : JoinRequest Key Digest
  response : JoinResponse
  active : Bool
  pin : Option String
deriving DecidableEq

structure Peering (Key Digest : Type) where
  pending : Table PendingJoin
  active : Bool
  autoAccept : Option AutoAcceptConfig
  limiter : PinRateLimiter
  connections : List (Connection Key Digest)
  commands : List Command
  /-- What the last `PeeringList` showed. -/
  listing : List JoinRequestInfo
  approvals : List Approval
  written : List (Written Key Digest)

def Peering.start {Key Digest : Type} : Peering Key Digest where
  pending := ∅
  active := true
  autoAccept := none
  limiter := ∅
  connections := []
  commands := []
  listing := []
  approvals := []
  written := []

structure Daemon (Digest : Type) where
  sha : List UInt8 → Digest
  sha256 : List ℕ → Vector UInt8 32
  myRecord : PeerRecord
  maxPeers : ℕ
  maxPendingJoins : ℕ

inductive PeeringAct (Key Digest : Type)
  /-- A join request arrives on a new connection. -/
  | connect (peer : SocketAddr) (req : JoinRequest Key Digest) (now : UInt64)
  /-- The task of a connection goes on; it reads the clock and the store. -/
  | advance (i now peerCount : ℕ) (stored : List PeerRecord)
  | timeout (i : ℕ)
  /-- The other side is gone before the response is written. -/
  | hangUp (i : ℕ)
  | peeringStart (pin : Option String) (state : Option NodeState)
  | peeringStop
  | peeringList
  | peeringAccept (requestId : String) (state : Option NodeState)
  | peeringReject (requestId : String) (reason : Option String)
  /-- A command of the operator goes on. -/
  | command (j : ℕ)

namespace Peering

variable {Key Digest : Type} (daemon : Daemon Digest)

def setConnection (s : Peering Key Digest) (i : ℕ) (c : Connection Key Digest) :
    Peering Key Digest :=
  { s with connections := s.connections.set i c }

def checkPin (s : Peering Key Digest) (i : ℕ) (peer : SocketAddr) (req : JoinRequest Key Digest)
    (now peerCount : ℕ) (stored : List PeerRecord) : Peering Key Digest :=
  match req.pin, s.autoAccept with
  | some pin, some config =>
    let (lockedOut, limiter) := s.limiter.isLockedOut peer.ip now
    let s := { s with limiter := limiter }
    if lockedOut then s.setConnection i (.answering req
      (.rejection (some "too many failed PIN attempts, try again later")) true)
    else if config.pin = pin then
      if config.maxPeers ≤ peerCount then
        let max := config.maxPeers
        s.setConnection i (.answering req
          (.rejection (some s!"peer limit reached ({peerCount}/{max})")) true)
      else match buildAutoAcceptResponse daemon.sha256 req config stored now with
        | .ok (response, _) => s.setConnection i (.answering req response true)
        | .error _ => s.setConnection i .closed
    else { s.setConnection i (.delayed req) with limiter := limiter.recordFailure peer.ip now }
  | _, _ => s.setConnection i (.queueing req)

def enqueue (s : Peering Key Digest) (i : ℕ) (req : JoinRequest Key Digest) (now : ℕ) :
    Peering Key Digest :=
  let pending := match s.pending.toList.find? fun e => e.2.info.nodeName == req.nodeName with
    | some e => s.pending.erase e.2.info.requestId
    | none => s.pending
  if daemon.maxPendingJoins ≤ pending.size then
    { s.setConnection i .closed with pending := pending }
  else { s.setConnection i (.waiting req none) with
    pending := pending.insert req.requestId ⟨req.info now, i⟩ }

def advance (s : Peering Key Digest) (i now peerCount : ℕ) (stored : List PeerRecord) :
    Peering Key Digest :=
  match s.connections[i]? with
  | some (.validated peer req) => s.checkPin daemon i peer req now peerCount stored
  | some (.delayed req) => s.setConnection i (.queueing req)
  | some (.queueing req) => s.enqueue daemon i req now
  | some (.waiting req (some answer)) => s.setConnection i (.answering req answer false)
  | some (.waiting req none) =>
    if s.pending.toList.any (·.2.connection == i) then s else s.setConnection i (.orphaned req)
  | some (.orphaned req) =>
    { s.setConnection i .closed with pending := s.pending.erase req.requestId }
  | some (.expired req) =>
    { s.setConnection i (.answering req (.rejection (some "request timed out")) false) with
      pending := s.pending.erase req.requestId }
  | some (.answering req response _) =>
    { s.setConnection i .closed with
      written := ⟨req, response, s.active, s.autoAccept.map (·.pin)⟩ :: s.written }
  | some .closed => s
  | none => s

/-- Take a request out of the map and send the answer to its connection, if that still waits. -/
def answer (s : Peering Key Digest) (requestId : String) (e : PendingJoin)
    (response : JoinResponse) : Peering Key Digest :=
  { s with
    pending := s.pending.erase requestId
    connections := match s.connections[e.connection]? with
      | some (.waiting req none) => s.connections.set e.connection (.waiting req (some response))
      | _ => s.connections }

def advanceCommand (s : Peering Key Digest) (j : ℕ) : Peering Key Digest :=
  match s.commands[j]? with
  | some (.configuring config) =>
    if s.connections.any Connection.guards then s
    else { s with autoAccept := some config, commands := s.commands.set j .activating }
  | some .activating => { s with active := true, commands := s.commands.set j .finished }
  | some .clearing =>
    if s.connections.any Connection.guards then s
    else { s with autoAccept := none, commands := s.commands.set j .finished }
  | _ => s

variable [DecidableEq Key] [DecidableEq Digest]

def step : PeeringAct Key Digest → Peering Key Digest → Unit × Peering Key Digest
  | .connect peer req now, s => ((),
      match validateAndVerifyJoinRequest daemon.sha now req with
      | .error _ => s
      | .ok () =>
        let req := req.detectEndpoint peer
        if req.endpoint.isUnspecified then
          { s with connections := s.connections ++ [.answering req
            (.rejection (some "could not detect public IP; use --endpoint to specify it")) false] }
        else { s with connections := s.connections ++ [.validated peer req] })
  | .advance i now peerCount stored, s => ((), s.advance daemon i now peerCount stored)
  | .timeout i, s => ((),
      match s.connections[i]? with
      | some (.waiting req none) => s.setConnection i (.expired req)
      | _ => s)
  | .hangUp i, s => ((),
      match s.connections[i]? with
      | some (.answering _ _ _) => s.setConnection i .closed
      | _ => s)
  | .peeringStart (some pin) (some state), s => ((),
      { s with commands := s.commands ++ [.configuring
        ⟨pin, state.meshName, state.meshSecret, state.meshPrefix, daemon.myRecord,
          daemon.maxPeers⟩] })
  | .peeringStart (some _) none, s => ((), s)
  | .peeringStart none _, s => ((), { s with commands := s.commands ++ [.activating] })
  | .peeringStop, s => ((), { s with active := false, commands := s.commands ++ [.clearing] })
  | .peeringList, s => ((), { s with listing := s.pending.values.map (·.info) })
  | .peeringAccept requestId state, s => ((),
      match state, s.pending[requestId]? with
      | some state, some e =>
        { s.answer requestId e (manualResponse state daemon.myRecord) with
          approvals := ⟨requestId, s.listing⟩ :: s.approvals }
      | _, _ => s)
  | .peeringReject requestId reason, s => ((),
      match s.pending[requestId]? with
      | some e => s.answer requestId e (.rejection reason)
      | none => s)
  | .command j, s => ((), s.advanceCommand j)

end Peering

end Mesh

end Syfrah
