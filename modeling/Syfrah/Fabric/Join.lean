import Syfrah.Fabric.Peering

/-!
# Joining a mesh

Both sides of an accepted join: the record that the acceptor makes of the new node, and the state that
the new node makes of the response. Whether a text is a mesh secret is a parameter.
-/

namespace Syfrah

namespace Mesh

/-- The options of a node that joins, with its public key. -/
structure Joiner where
  nodeName : String
  region : Option String
  zone : Option String
  wgPublicKey : String
  /-- The bytes of the key. -/
  key : List ℕ
  isKey : Wg.keyFromBase64 wgPublicKey = some key

/-- The state that a node saves when it has joined. -/
structure JoinedState where
  meshName : String
  meshSecret : String
  wgPublicKey : String
  meshIpv6 : Ipv6Addr
  meshPrefix : Ipv6Addr
  nodeName : String
  peers : List PeerRecord
  region : Option String
  zone : Option String
deriving DecidableEq

inductive ApprovalPath
  | pin
  | manual
deriving DecidableEq

structure Acceptor where
  state : NodeState
  myRecord : PeerRecord
  pin : String
  maxPeers : ℕ

section

variable {Key Digest : Type} (sha256 : List ℕ → Vector UInt8 32)

/-- The request that `setup_join` sends, up to its signature. -/
def Joiner.request (j : Joiner) (req : JoinRequest Key Digest) : JoinRequest Key Digest :=
  { req with
    nodeName := j.nodeName
    wgPublicKey := j.wgPublicKey
    region := some (j.region.getD defaultRegion)
    zone := j.zone }

/-- The response to a request, and the record for `on_accepted`. -/
def Acceptor.accept (a : Acceptor) (req : JoinRequest Key Digest) (receivedAt now : ℕ) :
    ApprovalPath → Option (JoinResponse × PeerRecord)
  | .pin => (buildAutoAcceptResponse sha256 req ⟨a.pin, a.state.meshName, a.state.meshSecret, a.state.meshPrefix,
      a.myRecord, a.maxPeers⟩ a.state.peers now).toOption
  | .manual => (manualRecord sha256 (req.info receivedAt) a.state now).map fun record =>
      (manualResponse a.state a.myRecord, record)

/-- The state that a node saves when its request was accepted. -/
def finalizeJoin (parseSecret : String → Except String Unit) (j : Joiner) (response : JoinResponse) :
    Except String JoinedState :=
  match response.meshSecret with
  | none => .error "accepted but no mesh secret"
  | some meshSecret =>
    match parseSecret meshSecret with
    | .error e => .error ("invalid mesh secret: " ++ e)
    | .ok () =>
      match response.meshPrefix with
      | none => .error "accepted but no mesh prefix"
      | some meshPrefix =>
        let (region, zone) := resolveRegionZone j.region j.zone response.peers
        .ok { meshName := response.meshName.getD "mesh", meshSecret, wgPublicKey := j.wgPublicKey,
              meshIpv6 := deriveNodeAddress sha256 meshPrefix j.key, meshPrefix, nodeName := j.nodeName,
              peers := response.peers, region := some region, zone := some zone }

end

end Mesh

end Syfrah
