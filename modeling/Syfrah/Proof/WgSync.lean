import Syfrah.Fabric.WgSync

/-!
# Synchronisation is exact

Peers that are not wanted are removed first, then the others are added or updated one by one. An update
takes an address away from a peer only to give it to the one that is to have it.
-/

namespace Syfrah

namespace Wg

open Mesh (Ipv6Addr PeerRecord SocketAddr)

instance : Std.Symm DevicePeer.Apart := ⟨fun _ _ h ip hq hp => h ip hp hq⟩

namespace Interface

variable {s : Interface} {selfKey k : String} {r : PeerRecord}

/-! ### Peers and routes after a change -/

theorem mem_of_peer {p : DevicePeer} (h : s.peer k = some p) : p ∈ s.peers ∧ p.publicKey = k :=
  ⟨List.mem_of_find?_eq_some h, by simpa using List.find?_some h⟩

theorem peer_of_mem {p : DevicePeer} (h : p ∈ s.peers) : s.peer p.publicKey = some p := by
  cases hfind : s.peer p.publicKey with
  | none => exact absurd (List.find?_eq_none.mp hfind p h) (by simp)
  | some q =>
      obtain ⟨hq, hkey⟩ := mem_of_peer hfind
      rw [List.inj_on_of_nodup_map s.keys_nodup hq h hkey]

theorem peer_removePeerByKey (s : Interface) (key k : String) :
    (s.removePeerByKey key).peer k = if k = key then none else s.peer k := by
  rw [peer, removePeerByKey, List.find?_filter]
  split
  · rename_i heq
    subst heq
    simp
  · rename_i hne
    refine List.find?_congr fun p _ => ?_
    simp only [decide_not, decide_eq_decide]
    by_cases hk : p.publicKey = k
    · simp [hk, hne]
    · simp [hk]

theorem peer_addPeer (s : Interface) (p : DevicePeer) (ip : AllowedIp) (hip : p.allowedIps = [ip]) (k : String) :
    (s.addPeer p ip hip).peer k = if k = p.publicKey then some p else (s.peer k).map (·.without ip) := by
  rw [peer, addPeer, List.find?_cons]
  by_cases hk : k = p.publicKey
  · simp [hk]
  · have hne : p.publicKey ≠ k := Ne.symm hk
    rw [decide_eq_false hne, if_neg hk, List.find?_map]
    have hrest := peer_removePeerByKey s p.publicKey k
    rw [if_neg hk] at hrest
    rw [← hrest]
    rfl

theorem peer_foldl_removeRouteV6 (addresses : List Ipv6Addr) (s : Interface) (k : String) :
    (addresses.foldl removeRouteV6 s).peer k = s.peer k := by
  induction addresses generalizing s with
  | nil => rfl
  | cons address addresses ih => exact ih (s.removeRouteV6 address)

theorem mem_routes_foldl_removeRouteV6 (addresses : List Ipv6Addr) (s : Interface) (a : Ipv6Addr) :
    a ∈ (addresses.foldl removeRouteV6 s).routes ↔ a ∈ s.routes ∧ a ∉ addresses := by
  induction addresses generalizing s with
  | nil => simp
  | cons address addresses ih =>
      rw [List.foldl_cons, ih, List.mem_cons, not_or, removeRouteV6, Finset.mem_erase]
      tauto

theorem mem_filterMap_route {p : DevicePeer} {a : Ipv6Addr} :
    a ∈ p.allowedIps.filterMap AllowedIp.route ↔ .v6 a 128 ∈ p.allowedIps := by
  rw [List.mem_filterMap]
  constructor
  · rintro ⟨ip, hip, hroute⟩
    cases ip with
    | v4 address cidr => cases hroute
    | v6 address cidr =>
        obtain ⟨rfl, heq⟩ := Option.ite_none_right_eq_some.mp hroute
        exact Option.some.inj heq ▸ hip
  · intro hip
    exact ⟨_, hip, rfl⟩

theorem peer_foldl_removePeer (ps : List DevicePeer) (s : Interface) (k : String) :
    (ps.foldl removePeer s).peer k = if k ∈ ps.map DevicePeer.publicKey then none else s.peer k := by
  induction ps generalizing s with
  | nil => rfl
  | cons p ps ih =>
      rw [List.foldl_cons, ih, removePeer, peer_foldl_removeRouteV6, peer_removePeerByKey, List.map_cons]
      simp only [List.mem_cons]
      split <;> split <;> simp_all

theorem mem_routes_foldl_removePeer (ps : List DevicePeer) (s : Interface) (a : Ipv6Addr) :
    a ∈ (ps.foldl removePeer s).routes ↔ a ∈ s.routes ∧ ∀ p ∈ ps, .v6 a 128 ∉ p.allowedIps := by
  induction ps generalizing s with
  | nil => simp
  | cons p ps ih =>
      rw [List.foldl_cons, ih, removePeer, mem_routes_foldl_removeRouteV6, mem_filterMap_route,
        List.forall_mem_cons, and_assoc]
      rfl

/-! ### Updates -/

def HasOnly (s : Interface) (r : PeerRecord) : Prop :=
  (s.peer r.wgPublicKey).map DevicePeer.allowedIps = some [.v6 r.meshIpv6 128]

structure Addable (selfKey : String) (r : PeerRecord) : Prop where
  wanted : isWanted selfKey r = true
  isKey : (keyFromBase64 r.wgPublicKey).isSome = true

theorem upsertPeer_spec (h : Addable selfKey r) (keepalive : ℕ) (s : Interface) :
    ∃ s', s.upsertPeer selfKey r keepalive = (.ok (), s') ∧ s'.HasOnly r ∧
      (∀ k, k ≠ r.wgPublicKey → (s'.peer k).isSome = (s.peer k).isSome) ∧
      (∀ q : PeerRecord, q.wgPublicKey ≠ r.wgPublicKey → q.meshIpv6 ≠ r.meshIpv6 → s.HasOnly q → s'.HasOnly q) ∧
      s'.routes = insert r.meshIpv6 s.routes := by
  have hwanted := h.wanted
  simp only [isWanted, Bool.and_eq_true, decide_eq_true_eq] at hwanted
  rw [upsertPeer, dif_pos h.isKey, if_neg hwanted.1, if_neg hwanted.2]
  refine ⟨_, rfl, ?_, fun k hk => ?_, fun q hkey haddress hq => ?_, rfl⟩
  · refine (congrArg (Option.map DevicePeer.allowedIps) (peer_addPeer s _ _ rfl r.wgPublicKey)).trans ?_
    rw [if_pos rfl, Option.map_some]
  · refine (congrArg Option.isSome (peer_addPeer s _ _ rfl k)).trans ?_
    rw [if_neg hk, Option.isSome_map]
  · refine (congrArg (Option.map DevicePeer.allowedIps) (peer_addPeer s _ _ rfl q.wgPublicKey)).trans ?_
    rw [if_neg hkey]
    obtain ⟨p, hp, hips⟩ := Option.map_eq_some_iff.mp hq
    have hother : AllowedIp.v6 q.meshIpv6 128 ≠ .v6 r.meshIpv6 128 := by
      intro heq
      exact haddress (AllowedIp.v6.inj heq).1
    rw [hp]
    simp [DevicePeer.without, hips, hother]

/-- **What a list of updates does.** -/
theorem upsertPeers_spec {records : List PeerRecord} (keepaliveOf : PeerRecord → ℕ)
    (h : ∀ r ∈ records, Addable selfKey r) (hkeys : (records.map PeerRecord.wgPublicKey).Nodup)
    (haddresses : (records.map PeerRecord.meshIpv6).Nodup) (s : Interface) :
    ∃ s', upsertPeers selfKey keepaliveOf records s = (.ok (), s') ∧ (∀ r ∈ records, s'.HasOnly r) ∧
      (∀ k, k ∉ records.map PeerRecord.wgPublicKey → (s'.peer k).isSome = (s.peer k).isSome) ∧
      (∀ q : PeerRecord, q.wgPublicKey ∉ records.map PeerRecord.wgPublicKey →
        q.meshIpv6 ∉ records.map PeerRecord.meshIpv6 → s.HasOnly q → s'.HasOnly q) ∧
      ∀ a, a ∈ s'.routes ↔ a ∈ s.routes ∨ a ∈ records.map PeerRecord.meshIpv6 := by
  induction records generalizing s with
  | nil => exact ⟨s, rfl, nofun, fun _ _ => rfl, fun _ _ _ hq => hq, by simp⟩
  | cons r records ih =>
      obtain ⟨hr, hrest⟩ := List.forall_mem_cons.mp h
      rw [List.map_cons, List.nodup_cons] at hkeys haddresses
      obtain ⟨s₁, hfirst, honly, hothers, hkeep, hroutes⟩ := upsertPeer_spec hr (keepaliveOf r) s
      obtain ⟨s', hrun, honly', hothers', hkeep', hroutes'⟩ := ih hrest hkeys.2 haddresses.2 s₁
      refine ⟨s', by rw [upsertPeers, hfirst]; exact hrun, ?_, fun k hk => ?_, fun q hkey haddress hq => ?_, fun a => ?_⟩
      · exact List.forall_mem_cons.mpr ⟨hkeep' r hkeys.1 haddresses.1 honly, honly'⟩
      · rw [List.map_cons, List.mem_cons, not_or] at hk
        rw [hothers' k hk.2, hothers k hk.1]
      · rw [List.map_cons, List.mem_cons, not_or] at hkey haddress
        exact hkeep' q hkey.2 haddress.2 (hkeep q hkey.1 haddress.1 hq)
      · rw [hroutes', hroutes, Finset.mem_insert, List.map_cons, List.mem_cons]
        tauto

/-! ### Synchronisation -/

/-- The peers other than the node itself are just the wanted ones, each with just its address. -/
structure Exact (selfKey : String) (desired : List PeerRecord) (s : Interface) : Prop where
  only : ∀ p ∈ s.peers, p.publicKey ≠ selfKey → ∃ r ∈ desired, isWanted selfKey r = true ∧
    r.wgPublicKey = p.publicKey ∧ p.allowedIps = [.v6 r.meshIpv6 128]
  all : ∀ r ∈ desired, isWanted selfKey r = true → ∃ p ∈ s.peers, p.publicKey = r.wgPublicKey

theorem exact_of_hasOnly {desired : List PeerRecord} (honly : ∀ r ∈ desired, isWanted selfKey r = true → s.HasOnly r)
    (hkeys : ∀ k, k ≠ selfKey → (s.peer k).isSome = true →
      ∃ r ∈ desired, isWanted selfKey r = true ∧ r.wgPublicKey = k) : Exact selfKey desired s := by
  constructor
  · intro p hp hself
    obtain ⟨r, hr, hwanted, hkey⟩ := hkeys p.publicKey hself (by rw [peer_of_mem hp]; rfl)
    refine ⟨r, hr, hwanted, hkey, ?_⟩
    have hips := honly r hr hwanted
    rw [HasOnly, hkey, peer_of_mem hp, Option.map_some] at hips
    exact Option.some.inj hips
  · intro r hr hwanted
    obtain ⟨p, hp, -⟩ := Option.map_eq_some_iff.mp (honly r hr hwanted)
    exact ⟨p, mem_of_peer hp⟩

variable {desired : List PeerRecord}

theorem mem_toAddOrUpdate : r ∈ (diffPeers selfKey desired s).1 ↔
    r ∈ desired ∧ isWanted selfKey r = true ∧ s.needsUpdate r = true := by
  rw [diffPeers, List.mem_filter, Bool.and_eq_true]

theorem mem_toRemove {p : DevicePeer} : p ∈ (diffPeers selfKey desired s).2 ↔
    p ∈ s.peers ∧ p.publicKey ≠ selfKey ∧
      ∀ r ∈ desired, isWanted selfKey r = true → r.wgPublicKey ≠ p.publicKey := by
  rw [diffPeers, List.mem_filter, Bool.and_eq_true, decide_eq_true_eq, Bool.not_eq_true', List.any_eq_false,
    and_comm (a := _ ≠ _)]
  simp only [List.mem_filter, decide_eq_true_eq, and_imp, ne_eq]

theorem Exact.not_needsUpdate (h : Exact selfKey desired s)
    (hkeys : (desired.map PeerRecord.wgPublicKey).Nodup) (hr : r ∈ desired) (hwanted : isWanted selfKey r = true)
    (hendpoint : r.endpoint.isUnspecified = false) : s.needsUpdate r = false := by
  obtain ⟨p, hp, hkey⟩ := h.all r hr hwanted
  have hself : p.publicKey ≠ selfKey := by
    simp only [isWanted, Bool.and_eq_true, decide_eq_true_eq] at hwanted
    exact hkey ▸ hwanted.1
  obtain ⟨r', hr', -, hkey', hips⟩ := h.only p hp hself
  obtain rfl : r' = r := List.inj_on_of_nodup_map hkeys hr' hr (hkey'.trans hkey)
  rw [needsUpdate, ← hkey, peer_of_mem hp]
  simp [hips, hendpoint]

theorem Exact.syncPeers_eq (h : Exact selfKey desired s) (hkeys : (desired.map PeerRecord.wgPublicKey).Nodup)
    (hendpoints : ∀ r ∈ desired, r.endpoint.isUnspecified = false) (keepaliveOf : PeerRecord → ℕ) :
    syncPeersTiered selfKey desired keepaliveOf s = (.ok 0, s) := by
  have hupdate : (diffPeers selfKey desired s).1 = [] := by
    rw [List.eq_nil_iff_forall_not_mem]
    intro r hr
    obtain ⟨hr, hwanted, hneeds⟩ := mem_toAddOrUpdate.mp hr
    rw [h.not_needsUpdate hkeys hr hwanted (hendpoints r hr)] at hneeds
    cases hneeds
  have hremove : (diffPeers selfKey desired s).2 = [] := by
    rw [List.eq_nil_iff_forall_not_mem]
    intro p hp
    obtain ⟨hp, hself, hextra⟩ := mem_toRemove.mp hp
    obtain ⟨r, hr, hwanted, hkey, -⟩ := h.only p hp hself
    exact hextra r hr hwanted hkey
  simp only [syncPeersTiered, hupdate, hremove, List.length_nil, Nat.add_zero, if_true]

theorem syncPeersTiered_eq (keepaliveOf : PeerRecord → ℕ) {s' : Interface}
    (h : upsertPeers selfKey keepaliveOf (diffPeers selfKey desired s).1
      ((diffPeers selfKey desired s).2.foldl removePeer s) = (.ok (), s')) :
    syncPeersTiered selfKey desired keepaliveOf s =
      (.ok ((diffPeers selfKey desired s).1.length + (diffPeers selfKey desired s).2.length), s') := by
  simp only [syncPeersTiered]
  split
  · rename_i hnone
    obtain ⟨hupdate, hremove⟩ := Nat.add_eq_zero_iff.mp hnone
    rw [List.length_eq_zero_iff.mp hupdate, List.length_eq_zero_iff.mp hremove] at h ⊢
    exact congrArg (Prod.mk (Except.ok 0)) (Prod.mk.inj h).2
  · rw [h]

theorem kept_of_not_needsUpdate (hone : ∀ p ∈ s.peers, p.allowedIps.length ≤ 1) (hr : r ∈ desired)
    (hwanted : isWanted selfKey r = true) (hneeds : s.needsUpdate r = false) :
    s.HasOnly r ∧ ∀ p ∈ (diffPeers selfKey desired s).2, .v6 r.meshIpv6 128 ∉ p.allowedIps := by
  rw [needsUpdate] at hneeds
  cases hpeer : s.peer r.wgPublicKey with
  | none =>
      rw [hpeer] at hneeds
      cases hneeds
  | some p =>
      rw [hpeer] at hneeds
      have hip : AllowedIp.v6 r.meshIpv6 128 ∈ p.allowedIps := by
        have hcontains := (Bool.or_eq_false_iff.mp hneeds).1
        simpa using hcontains
      obtain ⟨hp, hkey⟩ := mem_of_peer hpeer
      constructor
      · rw [HasOnly, hpeer, Option.map_some]
        obtain ⟨ip, hips⟩ := List.length_eq_one_iff.mp (le_antisymm (hone p hp) (List.length_pos_of_mem hip))
        rw [hips, List.mem_singleton] at hip
        rw [hips, hip]
      · intro q hq hip'
        obtain ⟨hq, -, hextra⟩ := mem_toRemove.mp hq
        have hne : p ≠ q := by
          rintro rfl
          exact hextra r hr hwanted hkey.symm
        exact s.apart.forall hp hq hne _ hip hip'

theorem hasOnly_foldl_removePeer (hone : ∀ p ∈ s.peers, p.allowedIps.length ≤ 1) (hr : r ∈ desired)
    (hwanted : isWanted selfKey r = true) (hneeds : s.needsUpdate r = false) :
    ((diffPeers selfKey desired s).2.foldl removePeer s).HasOnly r := by
  have hnotRemoved : r.wgPublicKey ∉ (diffPeers selfKey desired s).2.map DevicePeer.publicKey := by
    intro hmem
    obtain ⟨p, hp, hkey⟩ := List.mem_map.mp hmem
    exact (mem_toRemove.mp hp).2.2 r hr hwanted hkey.symm
  rw [HasOnly, peer_foldl_removePeer, if_neg hnotRemoved]
  exact (kept_of_not_needsUpdate hone hr hwanted hneeds).1

theorem exists_wanted_of_left (hself : k ≠ selfKey)
    (hsome : (((diffPeers selfKey desired s).2.foldl removePeer s).peer k).isSome = true) :
    ∃ r ∈ desired, isWanted selfKey r = true ∧ r.wgPublicKey = k := by
  rw [peer_foldl_removePeer] at hsome
  split at hsome
  · cases hsome
  · rename_i hnotRemoved
    obtain ⟨p, hp⟩ := Option.isSome_iff_exists.mp hsome
    obtain ⟨hpmem, rfl⟩ := mem_of_peer hp
    by_contra hnone
    refine hnotRemoved (List.mem_map_of_mem (mem_toRemove.mpr ⟨hpmem, hself, fun r hr hwanted hkey => ?_⟩))
    exact hnone ⟨r, hr, hwanted, hkey⟩

theorem notMem_toAddOrUpdate (hkeys : (desired.map PeerRecord.wgPublicKey).Nodup)
    (haddresses : (desired.map PeerRecord.meshIpv6).Nodup) (hr : r ∈ desired) (hneeds : s.needsUpdate r = false) :
    r.wgPublicKey ∉ (diffPeers selfKey desired s).1.map PeerRecord.wgPublicKey ∧
      r.meshIpv6 ∉ (diffPeers selfKey desired s).1.map PeerRecord.meshIpv6 := by
  have hnot : r ∉ (diffPeers selfKey desired s).1 := by
    intro hu
    rw [(mem_toAddOrUpdate.mp hu).2.2] at hneeds
    cases hneeds
  constructor
  · intro hmem
    obtain ⟨u, hu, heq⟩ := List.mem_map.mp hmem
    exact hnot (List.inj_on_of_nodup_map hkeys (mem_toAddOrUpdate.mp hu).1 hr heq ▸ hu)
  · intro hmem
    obtain ⟨u, hu, heq⟩ := List.mem_map.mp hmem
    exact hnot (List.inj_on_of_nodup_map haddresses (mem_toAddOrUpdate.mp hu).1 hr heq ▸ hu)

/-- **Synchronisation is exact and idempotent.** Afterwards the device has just the wanted peers, each
with just its address; the routes of those that were added or updated are there, no route of a wanted
peer is gone, and synchronising again does nothing. -/
theorem syncPeers_exact (s : Interface) (selfKey : String) (desired : List PeerRecord) (keepaliveInterval : ℕ)
    (hone : ∀ p ∈ s.peers, p.allowedIps.length ≤ 1)
    (hisKey : ∀ r ∈ desired, (keyFromBase64 r.wgPublicKey).isSome = true)
    (hkeys : (desired.map PeerRecord.wgPublicKey).Nodup) (haddresses : (desired.map PeerRecord.meshIpv6).Nodup)
    (hendpoints : ∀ r ∈ desired, r.endpoint.isUnspecified = false) :
    ∃ changes s', syncPeers selfKey desired keepaliveInterval s = (.ok changes, s') ∧ Exact selfKey desired s' ∧
      (∀ r ∈ desired, isWanted selfKey r = true → s.needsUpdate r = true → r.meshIpv6 ∈ s'.routes) ∧
      (∀ r ∈ desired, isWanted selfKey r = true → r.meshIpv6 ∈ s.routes → r.meshIpv6 ∈ s'.routes) ∧
      syncPeers selfKey desired keepaliveInterval s' = (.ok 0, s') := by
  have hupdates : (diffPeers selfKey desired s).1.Sublist desired := List.filter_sublist
  obtain ⟨s', hrun, honly, hothers, hkeep, hroutes⟩ := upsertPeers_spec (fun _ => keepaliveInterval)
    (fun r hr => ⟨(mem_toAddOrUpdate.mp hr).2.1, hisKey r (hupdates.subset hr)⟩)
    (hkeys.sublist (hupdates.map _)) (haddresses.sublist (hupdates.map _))
    ((diffPeers selfKey desired s).2.foldl removePeer s)
  have hall : ∀ r ∈ desired, isWanted selfKey r = true → s'.HasOnly r := by
    intro r hr hwanted
    cases hneeds : s.needsUpdate r with
    | true => exact honly r (mem_toAddOrUpdate.mpr ⟨hr, hwanted, hneeds⟩)
    | false =>
        obtain ⟨hkey, haddress⟩ := notMem_toAddOrUpdate hkeys haddresses hr hneeds
        exact hkeep r hkey haddress (hasOnly_foldl_removePeer hone hr hwanted hneeds)
  have hexact : Exact selfKey desired s' := by
    refine exact_of_hasOnly hall fun k hself hsome => ?_
    by_cases hk : k ∈ (diffPeers selfKey desired s).1.map PeerRecord.wgPublicKey
    · obtain ⟨u, hu, rfl⟩ := List.mem_map.mp hk
      exact ⟨u, hupdates.subset hu, (mem_toAddOrUpdate.mp hu).2.1, rfl⟩
    · rw [hothers k hk] at hsome
      exact exists_wanted_of_left hself hsome
  have hupdated : ∀ r ∈ desired, isWanted selfKey r = true → s.needsUpdate r = true → r.meshIpv6 ∈ s'.routes := by
    intro r hr hwanted hneeds
    exact (hroutes _).mpr (.inr (List.mem_map_of_mem (mem_toAddOrUpdate.mpr ⟨hr, hwanted, hneeds⟩)))
  refine ⟨_, s', syncPeersTiered_eq _ hrun, hexact, hupdated, fun r hr hwanted hroute => ?_,
    hexact.syncPeers_eq hkeys hendpoints _⟩
  cases hneeds : s.needsUpdate r with
  | true => exact hupdated r hr hwanted hneeds
  | false =>
      refine (hroutes _).mpr (.inl ((mem_routes_foldl_removePeer _ _ _).mpr ⟨hroute, ?_⟩))
      exact (kept_of_not_needsUpdate hone hr hwanted hneeds).2

def lastGroup (group : ℕ) : Ipv6Addr := (Vector.replicate 8 0).set 7 group

def aliceAndBob : List PeerRecord :=
  [⟨"alice", "AAAAAAAAAAAAAAAAAAAAAAAAAAAAAAAAAAAAAAAAAAA=", ⟨"192.0.2.1", 51820, Mesh.host_one⟩,
      lastGroup 1, 0, .active, none, none⟩,
    ⟨"bob", "AQAAAAAAAAAAAAAAAAAAAAAAAAAAAAAAAAAAAAAAAAA=", ⟨"192.0.2.2", 51820, Mesh.host_two⟩,
      lastGroup 2, 0, .active, none, none⟩]

def aliceHasBobs : Interface where
  peers := [⟨"AAAAAAAAAAAAAAAAAAAAAAAAAAAAAAAAAAAAAAAAAAA=", none, [.v6 (lastGroup 2) 128], 25,
    by decide +kernel⟩]
  routes := ∅
  keys_nodup := List.nodup_singleton _
  apart := List.pairwise_singleton _ _

theorem syncPeers_exact_aliceAndBob :
    ((∀ p ∈ aliceHasBobs.peers, p.allowedIps.length ≤ 1) ∧
      ∀ r ∈ aliceAndBob, (keyFromBase64 r.wgPublicKey).isSome = true) ∧
      ∃ changes s', syncPeers "self" aliceAndBob 25 aliceHasBobs = (.ok changes, s') ∧ Exact "self" aliceAndBob s' ∧
        syncPeers "self" aliceAndBob 25 s' = (.ok 0, s') := by
  have hone : ∀ p ∈ aliceHasBobs.peers, p.allowedIps.length ≤ 1 := by decide +kernel
  have hisKey : ∀ r ∈ aliceAndBob, (keyFromBase64 r.wgPublicKey).isSome = true := by decide +kernel
  obtain ⟨changes, s', hsync, hexact, -, -, hagain⟩ := syncPeers_exact aliceHasBobs "self" aliceAndBob 25 hone hisKey
    (by decide +kernel) (by decide +kernel) (by decide +kernel)
  exact ⟨⟨hone, hisKey⟩, changes, s', hsync, hexact, hagain⟩

end Interface

end Wg

end Syfrah
