import Syfrah.Fabric.PeerStore
import Syfrah.Lib.Run

/-!
# Bounded upserts of peers

Every function of the store opens the database file for itself and closes it when it returns. The file
can be open once: opening it a second time fails. Between its open and its close `upsert_peer_bounded`
makes up to three transactions.
-/

namespace Syfrah

namespace Mesh

inductive StoreError
  /-- The database file is open already. -/
  | databaseAlreadyOpen
deriving DecidableEq

/-- What a call of `upsert_peer_bounded` that is alone leaves in the store. -/
def Peers.upsertPeerBounded (t : Peers) (peer : PeerRecord) (maxPeers : ℕ) : Peers :=
  if t.refuses peer maxPeers then t else t.upsertPeer peer

/-- A call of `upsert_peer_bounded`, by what it does next. -/
inductive UpsertCall
  | openDb (peer : PeerRecord)
  | checkExists (peer : PeerRecord)
  | count (peer : PeerRecord)
  | set (peer : PeerRecord)
  | returned (result : Except StoreError Bool)

/-- The stored peers, the call that has the database open, and all calls that were made. -/
structure SharedStore where
  peers : Peers
  openedBy : Option ℕ
  calls : List UpsertCall

inductive UpsertAct
  | call (peer : PeerRecord)
  /-- The next transaction of a call. -/
  | advance (i : ℕ)

namespace SharedStore

def start (peers : Peers) : SharedStore := ⟨peers, none, []⟩

def setCall (s : SharedStore) (i : ℕ) (call : UpsertCall) : SharedStore :=
  { s with calls := s.calls.set i call }

def finish (s : SharedStore) (i : ℕ) (stored : Bool) : SharedStore :=
  { s with openedBy := none, calls := s.calls.set i (.returned (.ok stored)) }

def advance (maxPeers : ℕ) (s : SharedStore) (i : ℕ) : UpsertCall → SharedStore
  | .openDb peer =>
    if s.openedBy.isSome then s.setCall i (.returned (.error .databaseAlreadyOpen))
    else { s with openedBy := some i }.setCall i (.checkExists peer)
  | .checkExists peer =>
    s.setCall i (if s.peers.contains peer.wgPublicKey then .set peer else .count peer)
  | .count peer => if maxPeers ≤ s.peers.size then s.finish i false else s.setCall i (.set peer)
  | .set peer => { s with peers := s.peers.upsertPeer peer }.finish i true
  | .returned _ => s

def step (maxPeers : ℕ) : UpsertAct → SharedStore → Unit × SharedStore
  | .call peer, s => ((), { s with calls := s.calls ++ [.openDb peer] })
  | .advance i, s => ((), match s.calls[i]? with
      | some call => s.advance maxPeers i call
      | none => s)

end SharedStore

end Mesh

end Syfrah
