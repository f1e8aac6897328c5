import Syfrah.Lib.Run
import Syfrah.Proof.PeerRecords

/-!
# Mesh addresses belong to keys

A record has its own address when the address is derived from the prefix of the mesh and the key of the
peer. If the records that come in have their own addresses, so do all that are stored and all peers of
the device, and no address is ever taken over by another key.
-/

namespace Syfrah

namespace Mesh

def hashPrefix (hash : Vector UInt8 32) : List UInt8 :=
  [hash.get 0, hash.get 1, hash.get 2, hash.get 3, hash.get 4, hash.get 5, hash.get 6, hash.get 7,
    hash.get 8, hash.get 9]

theorem hashPrefix_eq_of_deriveNodeAddress {sha256 : List ℕ → Vector UInt8 32}
    {meshPrefix : Ipv6Addr} {k k' : List ℕ}
    (h : deriveNodeAddress sha256 meshPrefix k = deriveNodeAddress sha256 meshPrefix k') :
    hashPrefix (sha256 k) = hashPrefix (sha256 k') := by
  have hpair {a b a' b' : UInt8} (h : a.toNat * 256 + b.toNat = a'.toNat * 256 + b'.toNat) :
      a = a' ∧ b = b' := by
    have hb := b.toNat_lt
    have hb' := b'.toNat_lt
    exact ⟨UInt8.toNat_inj.mp (by omega), UInt8.toNat_inj.mp (by omega)⟩
  obtain ⟨h0, h1⟩ := hpair (congrArg (fun a : Ipv6Addr => a[3]) h)
  obtain ⟨h2, h3⟩ := hpair (congrArg (fun a : Ipv6Addr => a[4]) h)
  obtain ⟨h4, h5⟩ := hpair (congrArg (fun a : Ipv6Addr => a[5]) h)
  obtain ⟨h6, h7⟩ := hpair (congrArg (fun a : Ipv6Addr => a[6]) h)
  obtain ⟨h8, h9⟩ := hpair (congrArg (fun a : Ipv6Addr => a[7]) h)
  simp only [hashPrefix, h0, h1, h2, h3, h4, h5, h6, h7, h8, h9]

/-! ### Own addresses -/

variable {Key Digest : Type} (config : NodeConfig)

def NodeConfig.addressOf (wgPublicKey : String) : Option Ipv6Addr :=
  (Wg.keyFromBase64 wgPublicKey).map (deriveNodeAddress config.sha256 config.meshPrefix)

/-- No two keys of a list share the part of their hashes that goes into addresses. -/
def NodeConfig.CollisionFree (keys : List String) : Prop :=
  ∀ key ∈ keys, ∀ key' ∈ keys, ∀ bytes ∈ Wg.keyFromBase64 key, ∀ bytes' ∈ Wg.keyFromBase64 key',
    hashPrefix (config.sha256 bytes) = hashPrefix (config.sha256 bytes') → bytes = bytes'

instance (keys : List String) : Decidable (config.CollisionFree keys) :=
  inferInstanceAs (Decidable (∀ key ∈ keys, ∀ key' ∈ keys, _))

variable {config}

theorem Wg.keyFromBase64_inj {text text' : String} {key : List ℕ}
    (h : Wg.keyFromBase64 text = some key) (h' : Wg.keyFromBase64 text' = some key) :
    text = text' :=
  Base64.decode_inj (Option.filter_eq_some_iff.mp h).1 (Option.filter_eq_some_iff.mp h').1

theorem addressOf_inj {keys : List String} (hfree : config.CollisionFree keys) {key key' : String}
    {ip : Ipv6Addr} (hkey : key ∈ keys) (hkey' : key' ∈ keys) (h : config.addressOf key = some ip)
    (h' : config.addressOf key' = some ip) : key = key' := by
  obtain ⟨bytes, hbytes, rfl⟩ := Option.map_eq_some_iff.mp h
  obtain ⟨bytes', hbytes', heq⟩ := Option.map_eq_some_iff.mp h'
  have hsame := hfree key hkey key' hkey' bytes hbytes bytes' hbytes'
    (hashPrefix_eq_of_deriveNodeAddress heq.symm)
  exact Wg.keyFromBase64_inj hbytes (hsame ▸ hbytes')

/-! ### The device -/

section Device

variable {D : String → Ipv6Addr → Prop} {d : Wg.Device} {selfKey : String} {record : PeerRecord}

def DeviceAll (D : String → Ipv6Addr → Prop) (d : Wg.Device) : Prop :=
  ∀ p ∈ d, ∀ ip ∈ p.allowedIps, D p.publicKey ip

theorem DeviceAll.owner (h : DeviceAll D d) {ip : Ipv6Addr} {key : String}
    (howner : d.owner ip = some key) : D key ip := by
  obtain ⟨p, hp, rfl⟩ := Option.map_eq_some_iff.mp howner
  have hip := List.find?_some hp
  exact h p (List.mem_of_find?_eq_some hp) ip (List.contains_iff_mem.mp hip)

theorem DeviceAll.upsertPeer (h : DeviceAll D d) (hrecord : D record.wgPublicKey record.meshIpv6) :
    DeviceAll D (d.upsertPeer selfKey record) := by
  unfold Wg.Device.upsertPeer
  split
  · exact h
  · split
    · exact h
    · split
      · exact fun p hp => h p (List.mem_of_mem_filter hp)
      · refine List.forall_mem_cons.mpr ⟨List.forall_mem_singleton.mpr hrecord, fun p hp ip hip => ?_⟩
        obtain ⟨q, hq, rfl⟩ := List.mem_map.mp hp
        exact h q (List.mem_of_mem_filter hq) ip (List.mem_of_mem_filter hip)

theorem DeviceAll.upsertPeerBounded (h : DeviceAll D d)
    (hrecord : D record.wgPublicKey record.meshIpv6) (maxPeers peerCount : ℕ) (peerExists : Bool) :
    DeviceAll D (d.upsertPeerBounded selfKey record maxPeers peerCount peerExists) := by
  unfold Wg.Device.upsertPeerBounded
  split
  · exact h
  · exact h.upsertPeer hrecord

theorem DeviceAll.syncPeers (h : DeviceAll D d) {records : List PeerRecord}
    (hrecords : ∀ r ∈ records, D r.wgPublicKey r.meshIpv6) :
    DeviceAll D (d.syncPeers selfKey records) := by
  have hfold (rs : List PeerRecord) (hrs : ∀ r ∈ rs, D r.wgPublicKey r.meshIpv6) (d : Wg.Device)
      (h : DeviceAll D d) : DeviceAll D (rs.foldl (·.upsertPeer selfKey ·) d) := by
    induction rs generalizing d with
    | nil => exact h
    | cons r rs ih =>
        obtain ⟨hr, hrest⟩ := List.forall_mem_cons.mp hrs
        exact ih hrest _ (h.upsertPeer hr)
  refine hfold _ (fun r hr => ?_) _ fun p hp => h p (List.mem_of_mem_filter hp)
  have hwanted := List.mem_of_mem_filter (List.takeWhile_subset _ hr)
  exact hrecords r (List.mem_of_mem_filter hwanted)

end Device

/-! ### Runs -/

def PeerAct.wgPublicKey : PeerAct Key Digest → Option String
  | .pinAccept req _ _ => some req.wgPublicKey
  | .manualAccept req _ _ => some req.wgPublicKey
  | .announce record _ => some record.wgPublicKey
  | _ => none

variable (config) in
/-- An announce that is admitted has its own address. -/
def PeerAct.announcesOwn : PeerAct Key Digest → Bool
  | .announce record now => (admitAnnounce config.myRecord.endpoint now record).all fun record =>
      config.addressOf record.wgPublicKey = some record.meshIpv6
  | _ => true

variable (config) in
/-- Every stored peer has the address that is derived from its key, and no two have the same. -/
structure PeerNode.OwnAddresses (s : PeerNode) : Prop where
  derived : ∀ (k : String) r, s.peers[k]? = some r → config.addressOf r.wgPublicKey = some r.meshIpv6
  apart : ∀ (k k' : String) r r', s.peers[k]? = some r → s.peers[k']? = some r' →
    r.wgPublicKey ≠ r'.wgPublicKey → r.meshIpv6 ≠ r'.meshIpv6

/-- A step does not give an address of one peer of the device to another. -/
def KeepsOwners (before after : Wg.Device) : Prop :=
  ∀ ip key key', before.owner ip = some key → after.owner ip = some key' → key = key'

variable (config) in
def NodeConfig.Owns (keys : List String) (key : String) (ip : Ipv6Addr) : Prop :=
  key ∈ keys ∧ config.addressOf key = some ip

variable (config) in
structure PeerNode.Addressed (keys : List String) (s : PeerNode) : Prop where
  records : s.All fun r => config.Owns keys r.wgPublicKey r.meshIpv6
  device : DeviceAll (config.Owns keys) s.device

theorem lasting_owns (keys : List String) :
    Lasting fun r => config.Owns keys r.wgPublicKey r.meshIpv6 := by
  intro r r' hfollows h
  rw [hfollows.wgPublicKey, hfollows.meshIpv6]
  exact h

theorem wgPublicKey_of_admitJoin {req req' : JoinRequest Key Digest} {peer : SocketAddr}
    (h : PeerNode.admitJoin req peer = some req') : req'.wgPublicKey = req.wgPublicKey := by
  unfold PeerNode.admitJoin at h
  split at h
  · cases h
  · obtain ⟨-, heq⟩ := Option.ite_none_left_eq_some.mp h
    obtain rfl := Option.some.inj heq
    unfold JoinRequest.detectEndpoint
    split
    · rfl
    · rfl

theorem PeerNode.addressOf_pinRecord {s : PeerNode} {req : JoinRequest Key Digest} {now : ℕ}
    {r : PeerRecord} (h : s.pinRecord config req now = some r) :
    r.wgPublicKey = req.wgPublicKey ∧ config.addressOf req.wgPublicKey = some r.meshIpv6 := by
  unfold pinRecord buildAutoAcceptResponse at h
  cases hkey : Wg.keyFromBase64 req.wgPublicKey with
  | none => simp [hkey] at h
  | some key =>
      simp only [hkey, Option.some.injEq] at h
      subst h
      exact ⟨rfl, by simp [NodeConfig.addressOf, hkey]⟩

theorem PeerNode.addressOf_operatorRecord {s : PeerNode} {req : JoinRequest Key Digest} {now : ℕ}
    {r : PeerRecord} (h : s.operatorRecord config req now = some r) :
    r.wgPublicKey = req.wgPublicKey ∧ config.addressOf req.wgPublicKey = some r.meshIpv6 := by
  obtain ⟨key, hkey, rfl⟩ := Option.map_eq_some_iff.mp h
  have hkey' : Wg.keyFromBase64 req.wgPublicKey = some key := hkey
  exact ⟨rfl, by simp [NodeConfig.addressOf, hkey']⟩

theorem eq_of_admitAnnounce {endpoint : SocketAddr} {now : ℕ} {record r : PeerRecord}
    (h : admitAnnounce endpoint now record = some r) : r = record := by
  unfold admitAnnounce receiveAnnounce at h
  split at h
  · next hreceived =>
    obtain ⟨-, heq⟩ := Option.ite_none_left_eq_some.mp h
    split at hreceived
    · cases hreceived
    · split at hreceived
      · cases hreceived
      · split at hreceived
        · cases hreceived
        · cases hreceived
          exact (Option.some.inj heq).symm
  · cases h

theorem PeerNode.Addressed.incoming {keys : List String} {s : PeerNode} {act : PeerAct Key Digest}
    (hkeys : ∀ key ∈ act.wgPublicKey, key ∈ keys) (hact : act.announcesOwn config = true)
    {r : PeerRecord} (h : s.incoming config act = some r) :
    config.Owns keys r.wgPublicKey r.meshIpv6 := by
  cases act with
  | pinAccept req peer now =>
      obtain ⟨req', hreq, hrecord⟩ := Option.bind_eq_some_iff.mp h
      obtain ⟨hkey, hip⟩ := addressOf_pinRecord hrecord
      rw [hkey, wgPublicKey_of_admitJoin hreq]
      rw [wgPublicKey_of_admitJoin hreq] at hip
      exact ⟨hkeys _ rfl, hip⟩
  | manualAccept req peer now =>
      obtain ⟨req', hreq, hrecord⟩ := Option.bind_eq_some_iff.mp h
      obtain ⟨hkey, hip⟩ := addressOf_operatorRecord hrecord
      rw [hkey, wgPublicKey_of_admitJoin hreq]
      rw [wgPublicKey_of_admitJoin hreq] at hip
      exact ⟨hkeys _ rfl, hip⟩
  | announce record now =>
      have hadmitted : admitAnnounce config.myRecord.endpoint now record = some r := h
      obtain rfl := eq_of_admitAnnounce hadmitted
      refine ⟨hkeys _ rfl, ?_⟩
      simpa [PeerAct.announcesOwn, hadmitted] using hact
  | healthCheck handshake now timeout => cases h
  | updatePeerEndpoint nameOrKey endpoint => cases h
  | removePeer nameOrKey => cases h
  | gcRemovedPeers thresholdSecs now => cases h
  | advance i now targets => cases h
  | elsewhere key node => cases h

theorem PeerNode.Addressed.device_advance {keys : List String} {s : PeerNode}
    (h : s.Addressed config keys) {now : ℕ} {targets : List String} {task : Task}
    (htask : task ∈ s.tasks) :
    DeviceAll (config.Owns keys) (s.advance config now targets task).1.device := by
  have hcarried := h.records.carried task htask
  unfold PeerNode.advance
  split
  case h_5 record peerCount peerExists =>
    exact h.device.upsertPeerBounded (hcarried record List.mem_cons_self) _ _ _
  case h_11 peer => exact h.device.upsertPeer (hcarried peer List.mem_cons_self)
  case h_13 nameOrKey peer => exact h.device.syncPeers fun r hr => h.records.stored.getPeers hr
  all_goals exact h.device

theorem PeerNode.Addressed.step {keys : List String} {s : PeerNode} (h : s.Addressed config keys)
    {act : PeerAct Key Digest} (hkeys : ∀ key ∈ act.wgPublicKey, key ∈ keys)
    (hact : act.announcesOwn config = true) :
    (PeerNode.step config act s).2.Addressed config keys := by
  refine ⟨h.records.step (lasting_owns keys) fun r => Addressed.incoming hkeys hact, ?_⟩
  cases act
  case advance i now targets =>
    simp only [PeerNode.step]
    split
    · next task hi => exact h.device_advance (List.mem_of_getElem? hi)
    · exact h.device
  -- the other actions only start tasks
  all_goals simp only [PeerNode.step]
  all_goals repeat' split
  all_goals exact h.device

variable (config) in
theorem PeerNode.addressed_start (keys : List String) (others : String → OtherNode) :
    (PeerNode.start others).Addressed config keys where
  records := ⟨fun k r h => by simp [start] at h, nofun⟩
  device := nofun

/-- **No peer takes another peer's address**, if every announce that is admitted carries the address
that is derived from its key. -/
theorem ownAddresses_of_announcesOwn (others : String → OtherNode) (acts : List (PeerAct Key Digest))
    (hfree : config.CollisionFree (acts.filterMap PeerAct.wgPublicKey))
    (hacts : ∀ act ∈ acts, act.announcesOwn config = true) :
    (reached (PeerNode.step config) acts (.start others)).OwnAddresses config ∧
      ∀ e ∈ trace (PeerNode.step config) acts (.start others),
        KeepsOwners e.before.device e.after.device := by
  have hacts' : ∀ e ∈ trace (PeerNode.step config) acts (.start others),
      (∀ key ∈ e.action.wgPublicKey, key ∈ acts.filterMap PeerAct.wgPublicKey) ∧
        e.action.announcesOwn config = true := by
    intro e he
    have haction := action_mem_of_mem_trace he
    exact ⟨fun key hkey => List.mem_filterMap.mpr ⟨e.action, haction, hkey⟩, hacts _ haction⟩
  have hstart := PeerNode.addressed_start config (acts.filterMap PeerAct.wgPublicKey) others
  constructor
  · have hreached := invariant_reached hstart (fun _ _ h hact => h.step hact.1 hact.2) hacts'
    refine ⟨fun k r hr => (hreached.records.stored k r hr).2, fun k k' r r' hr hr' hne heq => hne ?_⟩
    obtain ⟨hkey, hip⟩ := hreached.records.stored k r hr
    obtain ⟨hkey', hip'⟩ := hreached.records.stored k' r' hr'
    exact addressOf_inj hfree hkey hkey' hip (heq ▸ hip')
  · intro e he ip key key' hbefore hafter
    obtain ⟨hold, hnew⟩ :=
      invariant_trace hstart (fun _ _ h hact => h.step hact.1 hact.2) hacts' e he
    obtain ⟨hkey, hip⟩ := hold.device.owner hbefore
    obtain ⟨hkey', hip'⟩ := hnew.device.owner hafter
    exact addressOf_inj hfree hkey hkey' hip hip'

/-- A node for which the bytes of a key are their own hash. -/
def plainNode : NodeConfig where
  sha256 key := Vector.ofFn fun i => UInt8.ofNat (key.getD i 0)
  meshName := "mesh"
  meshSecret := "secret"
  meshPrefix := #v[0xfd00, 1, 2, 0, 0, 0, 0, 0]
  nodeName := "leader"
  wgPublicKey := "CCCCCCCCCCCCCCCCCCCCCCCCCCCCCCCCCCCCCCCCCCA="
  myRecord := ⟨"leader", "CCCCCCCCCCCCCCCCCCCCCCCCCCCCCCCCCCCCCCCCCCA=",
    ⟨"192.0.2.1", 51820, host_one⟩, Vector.replicate 8 0, 0, .active, none, none⟩
  publicEndpoint := none
  maxPeers := 10

def noOthers : String → OtherNode := fun _ => ⟨⟨"192.0.2.1", 51820, host_one⟩, 10, ∅⟩

def aliceJoins : List (PeerAct Unit Unit) :=
  .pinAccept ⟨"r1", "alice", "AAAAAAAAAAAAAAAAAAAAAAAAAAAAAAAAAAAAAAAAAAA=",
    ⟨"192.0.2.7", 51820, host_seven⟩, 51820, some "pin", none, none, 0, .empty⟩
    ⟨"192.0.2.7", 40000, host_seven⟩ 0 :: List.replicate 6 (.advance 0 0 [])

/-- An announce for another key with some address is handled. -/
def announced (ip : Ipv6Addr) : List (PeerAct Unit Unit) :=
  .announce ⟨"mallory", "BBBBBBBBBBBBBBBBBBBBBBBBBBBBBBBBBBBBBBBBBBA=",
    ⟨"192.0.2.9", 51820, host_nine⟩, ip, 0, .active, none, none⟩ 0 ::
    List.replicate 4 (.advance 1 0 [])

def twoPeers : List (PeerAct Unit Unit) :=
  aliceJoins ++ announced #v[0xfd00, 1, 2, 0x0410, 0x4104, 0x1041, 0x0410, 0x4104]

theorem ownAddresses_twoPeers :
    (reached (PeerNode.step plainNode) twoPeers (.start noOthers)).peers.size = 2 ∧
      (reached (PeerNode.step plainNode) twoPeers (.start noOthers)).OwnAddresses plainNode ∧
      ∀ e ∈ trace (PeerNode.step plainNode) twoPeers (.start noOthers),
        KeepsOwners e.before.device e.after.device :=
  ⟨by decide +kernel, ownAddresses_of_announcesOwn noOthers twoPeers (by decide +kernel)
    (by decide +kernel)⟩

def aliceAddress : Ipv6Addr := #v[0xfd00, 1, 2, 0, 0, 0, 0, 0]

/-- An announce of another key with alice's address is stored and takes the address over. -/
theorem announce_takes_address :
    (reached (PeerNode.step plainNode) aliceJoins (.start noOthers)).device.owner aliceAddress =
      some "AAAAAAAAAAAAAAAAAAAAAAAAAAAAAAAAAAAAAAAAAAA=" ∧
    (reached (PeerNode.step plainNode) (aliceJoins ++ announced aliceAddress)
      (.start noOthers)).device.owner aliceAddress =
      some "BBBBBBBBBBBBBBBBBBBBBBBBBBBBBBBBBBBBBBBBBBA=" ∧
    ¬(reached (PeerNode.step plainNode) (aliceJoins ++ announced aliceAddress)
      (.start noOthers)).OwnAddresses plainNode := by
  refine ⟨by decide +kernel, by decide +kernel, fun h => ?_⟩
  have hstored := h.derived "BBBBBBBBBBBBBBBBBBBBBBBBBBBBBBBBBBBBBBBBBBA="
    ⟨"mallory", "BBBBBBBBBBBBBBBBBBBBBBBBBBBBBBBBBBBBBBBBBBA=", ⟨"192.0.2.9", 51820, host_nine⟩,
      aliceAddress, 0, .active, none, none⟩ (by decide +kernel)
  exact absurd hstored (by decide +kernel)

end Mesh

end Syfrah
