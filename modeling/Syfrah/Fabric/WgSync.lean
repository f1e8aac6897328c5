import Syfrah.Fabric.Wg
import Syfrah.Lib.Ipv4

/-!
# Synchronising the WireGuard interface

The interface has peers, each with the networks that belong to it, and routes. A network belongs to one
peer: when a peer gets it, the peer that had it loses it. The commands that change the interface succeed.
-/

namespace Syfrah

namespace Wg

open Mesh (Ipv6Addr PeerRecord SocketAddr)

inductive WgError
  | invalidKey (text : String)
deriving DecidableEq

/-- A network, as `address/cidr`. -/
inductive AllowedIp
  | v4 (address : Ipv4Addr) (cidr : ℕ)
  | v6 (address : Ipv6Addr) (cidr : ℕ)
deriving DecidableEq

/-- The route that belongs to a network: only those of single IPv6 addresses are managed. -/
def AllowedIp.route : AllowedIp → Option Ipv6Addr
  | .v6 address cidr => if cidr = 128 then some address else none
  | .v4 _ _ => none

structure DevicePeer where
  publicKey : String
  endpoint : Option SocketAddr
  allowedIps : List AllowedIp
  keepalive : ℕ
  isKey : (keyFromBase64 publicKey).isSome = true

def DevicePeer.Apart (p q : DevicePeer) : Prop := ∀ ip ∈ p.allowedIps, ip ∉ q.allowedIps

def DevicePeer.without (ip : AllowedIp) (p : DevicePeer) : DevicePeer :=
  { p with allowedIps := p.allowedIps.filter (· ≠ ip) }

structure Interface where
  peers : List DevicePeer
  routes : Finset Ipv6Addr
  keys_nodup : (peers.map DevicePeer.publicKey).Nodup
  apart : peers.Pairwise DevicePeer.Apart

theorem DevicePeer.Apart.without {p q : DevicePeer} (h : p.Apart q) (ip : AllowedIp) :
    (p.without ip).Apart (q.without ip) :=
  fun _ hp hq => h _ (List.mem_of_mem_filter hp) (List.mem_of_mem_filter hq)

namespace Interface

def removePeerByKey (s : Interface) (publicKey : String) : Interface where
  peers := s.peers.filter (·.publicKey ≠ publicKey)
  routes := s.routes
  keys_nodup := s.keys_nodup.sublist (List.filter_sublist.map _)
  apart := s.apart.sublist List.filter_sublist

/-- Add a peer or change it, with one network in place of those it has. -/
def addPeer (s : Interface) (peer : DevicePeer) (ip : AllowedIp) (hip : peer.allowedIps = [ip]) : Interface where
  peers := peer :: (s.removePeerByKey peer.publicKey).peers.map (·.without ip)
  routes := s.routes
  keys_nodup := by
    rw [List.map_cons, List.map_map]
    refine List.nodup_cons.mpr ⟨?_, (s.removePeerByKey peer.publicKey).keys_nodup⟩
    simp [removePeerByKey, DevicePeer.without]
  apart := by
    refine List.pairwise_cons.mpr ⟨?_, ?_⟩
    · intro q hq x hx
      obtain ⟨q, -, rfl⟩ := List.mem_map.mp hq
      rw [hip, List.mem_singleton] at hx
      simp [DevicePeer.without, hx]
    · exact (s.removePeerByKey peer.publicKey).apart.map _ fun _ _ h => h.without ip

def addRouteV6 (s : Interface) (address : Ipv6Addr) : Interface := { s with routes := insert address s.routes }

def removeRouteV6 (s : Interface) (address : Ipv6Addr) : Interface := { s with routes := s.routes.erase address }

def upsertPeer (s : Interface) (selfKey : String) (peer : PeerRecord) (keepalive : ℕ) :
    Except WgError Unit × Interface :=
  if hkey : (keyFromBase64 peer.wgPublicKey).isSome then
    if peer.wgPublicKey = selfKey then (.ok (), s)
    else if peer.status = .removed then
      (.ok (), (s.removePeerByKey peer.wgPublicKey).removeRouteV6 peer.meshIpv6)
    else
      let config : DevicePeer := ⟨peer.wgPublicKey, some peer.endpoint, [.v6 peer.meshIpv6 128], keepalive, hkey⟩
      (.ok (), (s.addPeer config (.v6 peer.meshIpv6 128) rfl).addRouteV6 peer.meshIpv6)
  else (.error (.invalidKey peer.wgPublicKey), s)

def peer (s : Interface) (publicKey : String) : Option DevicePeer := s.peers.find? (·.publicKey = publicKey)

/-- Whether a record is that of a peer that the device is to have. -/
def isWanted (selfKey : String) (record : PeerRecord) : Bool :=
  record.wgPublicKey ≠ selfKey && record.status ≠ .removed

def needsUpdate (s : Interface) (record : PeerRecord) : Bool :=
  match s.peer record.wgPublicKey with
  | some existing => !existing.allowedIps.contains (.v6 record.meshIpv6 128) || record.endpoint.isUnspecified
  | none => true

/-- The records to add or update, and the peers to remove. -/
def diffPeers (selfKey : String) (desired : List PeerRecord) (s : Interface) : List PeerRecord × List DevicePeer :=
  (desired.filter fun r => isWanted selfKey r && s.needsUpdate r,
    s.peers.filter fun p => !(desired.filter (isWanted selfKey)).any (·.wgPublicKey = p.publicKey) &&
      p.publicKey ≠ selfKey)

/-- Remove a peer, and the routes of the networks that it has. -/
def removePeer (s : Interface) (peer : DevicePeer) : Interface :=
  (peer.allowedIps.filterMap AllowedIp.route).foldl removeRouteV6 (s.removePeerByKey peer.publicKey)

/-- Add or update records up to the first that has no key. -/
def upsertPeers (selfKey : String) (keepaliveOf : PeerRecord → ℕ) :
    List PeerRecord → Interface → Except WgError Unit × Interface
  | [], s => (.ok (), s)
  | record :: records, s =>
    match s.upsertPeer selfKey record (keepaliveOf record) with
    | (.ok (), s) => upsertPeers selfKey keepaliveOf records s
    | (.error e, s) => (.error e, s)

/-- The number of peers that were added, updated or removed, with the keepalive interval of each peer by
its record. -/
def syncPeersTiered (selfKey : String) (desired : List PeerRecord) (keepaliveOf : PeerRecord → ℕ) (s : Interface) :
    Except WgError ℕ × Interface :=
  let (toAddOrUpdate, toRemove) := diffPeers selfKey desired s
  let changes := toAddOrUpdate.length + toRemove.length
  if changes = 0 then (.ok 0, s)
  else
    match upsertPeers selfKey keepaliveOf toAddOrUpdate (toRemove.foldl removePeer s) with
    | (.ok (), s) => (.ok changes, s)
    | (.error e, s) => (.error e, s)

def syncPeers (selfKey : String) (desired : List PeerRecord) (keepaliveInterval : ℕ) (s : Interface) :
    Except WgError ℕ × Interface :=
  syncPeersTiered selfKey desired (fun _ => keepaliveInterval) s

end Interface

end Wg

end Syfrah
