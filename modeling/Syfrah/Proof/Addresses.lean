import Syfrah.Proof.AddressStep
import Syfrah.Proof.Hosts

/-!
# Addresses that are handed out

The leases of a run are the addresses it handed out and did not take back. They are kept apart by two
things: in one subnet by the bitmap, and between the subnets of a VPC by their networks, which do not
overlap. Both arguments need that an address lies in the network of its subnet, that a subnet with
leases stays, and that a new subnet gets a new identifier.
-/

namespace Syfrah

open IpamStore OrgStore

/-! ### Leases -/

/-- An address that was handed out, with the VPC of its subnet. -/
structure Lease where
  subnetId : SubnetId
  vpcId : VpcId
  ip : String
  mac : String
deriving DecidableEq

/-- In one VPC neither the addresses nor the hardware addresses are the same. -/
def Lease.Apart (l l' : Lease) : Prop := l.vpcId = l'.vpcId → l.ip ≠ l'.ip ∧ l.mac ≠ l'.mac

def recordLease (held : List Lease) (e : Step) : List Lease :=
  match e.action, e.reply with
  | .allocateIp subnetId, .allocatedIp ip mac =>
    held ++ [⟨subnetId, ((e.before.subnets[subnetId]?).map (·.vpcId)).getD "", ip, mac⟩]
  | .releaseIp subnetId ip, .ok => held.filter fun l => !(l.subnetId == subnetId && l.ip == ip)
  | _, _ => held

/-- The addresses that were handed out by some steps and not released by them. -/
def leases (es : List Step) : List Lease := es.foldl recordLease []

theorem leases_snoc (es : List Step) (e : Step) :
    leases (es ++ [e]) = recordLease (leases es) e := by
  simp [leases]

theorem recordLease_of_not_changesLeases {held : List Lease} {e : Step}
    (h : changesLeases e.action e.reply = false) : recordLease held e = held := by
  unfold recordLease
  unfold changesLeases at h
  split <;> simp_all

/-- A host of the subnet can use the address, and the gateway of the subnet. -/
def Subnet.usable (subnet : Subnet) (ip : String) : Bool :=
  match Ipv4Net.parse subnet.cidr, Ipv4Addr.parse subnet.gateway, Ipv4Addr.parse ip with
  | some net, some gateway, some addr =>
    net.contains addr && addr != net.network && addr != net.broadcast && addr != gateway &&
      net.contains gateway
  | _, _, _ => false

def handsOutUsable (e : Step) : Bool :=
  match e.action, e.reply with
  | .allocateIp subnetId, .allocatedIp ip _ => (e.before.subnets[subnetId]?).any (·.usable ip)
  | _, _ => true

theorem usable_of_hostAddress {subnet : Subnet} {net : Ipv4Net} {gateway ip : Ipv4Addr}
    (hcidr : subnet.cidr = net.display) (hgateway : subnet.gateway = gateway.display)
    (h : HostAddress net gateway ip) : subnet.usable ip.display = true := by
  simp [Subnet.usable, hcidr, hgateway, Ipv4Net.parse_display, Ipv4Addr.parse_display, h.inside,
    h.ne_network, h.ne_broadcast, h.ne_gateway, h.gateway_inside]

/-! ### The condition on commands -/

instance (bitmap : SubnetBitmap) (offset : ℕ) : Decidable (bitmap.Free offset) :=
  decidable_of_iff (firstAllocatable ≤ offset ∧ offset ≤ lastAllocatable ∧
      SubnetBitmap.isSet bitmap.bits offset = false)
    ⟨fun h => ⟨h.1, h.2.1, h.2.2⟩, fun h => ⟨h.first, h.last, h.clear⟩⟩

/-- If any offset is free, then one inside the network is, and the network starts at a multiple of
256. -/
def HasRoom (net : Ipv4Net) (bitmap : SubnetBitmap) : Prop :=
  (∃ offset ≤ lastAllocatable, bitmap.Free offset) →
    net.network.val % 256 = 0 ∧ ∃ offset ≤ lastAllocatable, bitmap.Free offset ∧ offset + 1 < net.size

instance (net : Ipv4Net) (bitmap : SubnetBitmap) : Decidable (HasRoom net bitmap) :=
  inferInstanceAs (Decidable ((∃ offset ≤ lastAllocatable, bitmap.Free offset) → _ ∧ _))

/-- An address is asked for only in a subnet with room in its network, a subnet is deleted only when
none of its addresses is in use, and the identifier drawn for a new subnet is not one in use. -/
def orderly (r : Replica) : Command → Bool
  | .allocateIp subnetId => decide (∀ subnet ∈ r.subnets[subnetId]?,
      ∀ net ∈ Ipv4Net.parse subnet.cidr, HasRoom net (loadBitmap r.ipamDb subnetId))
  | .deleteSubnet name vpc => decide (∀ id ∈ subnetIdNamed r.sm.orgStore vpc name,
      ∀ entry ∈ r.ipamDb.list .ipAllocations, IpAllocation.subnetId entry.2 ≠ id)
  | .createSubnet _ vpc _ _ => !r.subnets.contains (Handle.newSubnetId vpc r)
  | _ => true

theorem hasRoom_iff {net : Ipv4Net} {bitmap bitmap' : SubnetBitmap} {offset : ℕ}
    (h : bitmap.allocate = some (offset, bitmap')) :
    HasRoom net bitmap ↔
      HostAddress net (computeGateway net) (ipFromOffset net.network offset) := by
  obtain ⟨hfree, hlowest⟩ := SubnetBitmap.allocate_lowest h
  rw [hostAddress_iff hfree.first hfree.last]
  constructor
  · intro hroom
    obtain ⟨haligned, other, -, hother, hinside⟩ := hroom ⟨offset, hfree.last, hfree⟩
    have hle := hlowest other hother
    exact ⟨haligned, by omega⟩
  · exact fun hhost _ => ⟨hhost.aligned, offset, hfree.last, hfree, hhost.inside⟩

/-! ### The invariant -/

structure Granted (subnets : Table Subnet) (db : IpamDb) (l : Lease) (subnet : Subnet)
    (net : Ipv4Net) (offset : ℕ) : Prop where
  found : subnets[l.subnetId]? = some subnet
  vpc : subnet.vpcId = l.vpcId
  parsed : Ipv4Net.parse subnet.cidr = some net
  last : offset ≤ lastAllocatable
  inside : net.contains (ipFromOffset net.network offset) = true
  ip : l.ip = (ipFromOffset net.network offset).display
  mac : l.mac = macFromIp (ipFromOffset net.network offset)
  bit : SubnetBitmap.isSet (loadBitmap db l.subnetId).bits offset = true
  row : ∃ row, db.get .ipAllocations (allocationKey l.subnetId l.ip) = some row ∧
    IpAllocation.subnetId row = l.subnetId

structure Leased (subnets : Table Subnet) (db : IpamDb) (held : List Lease) : Prop where
  nets : ∀ (id : String) subnet, subnets[id]? = some subnet → ∃ net : Ipv4Net,
    subnet.cidr = net.display ∧ subnet.gateway = (computeGateway net).display
  apart : ∀ (id id' : String) subnet subnet' net net', id ≠ id' → subnets[id]? = some subnet →
    subnets[id']? = some subnet' → subnet.vpcId = subnet'.vpcId →
    Ipv4Net.parse subnet.cidr = some net → Ipv4Net.parse subnet'.cidr = some net' →
    cidrsOverlap net net' = false
  sized : ∀ id bitmap, db.get .ipamBitmaps id = some bitmap → SubnetBitmap.Sized bitmap
  granted : ∀ l ∈ held, ∃ subnet net offset, Granted subnets db l subnet net offset
  rows : ∀ key, (db.get .ipAllocations key).isSome = true →
    ∃ l ∈ held, key = allocationKey l.subnetId l.ip
  distinct : held.Pairwise fun l l' => l.subnetId = l'.subnetId → l.ip ≠ l'.ip

namespace Leased

variable {subnets : Table Subnet} {db : IpamDb} {held : List Lease}

theorem empty : Leased ∅ .empty [] where
  nets _ _ h := by simp at h
  apart _ _ _ _ _ _ _ h := by simp at h
  sized _ _ h := by simp [LayerDb.get, LayerDb.empty] at h
  granted := nofun
  rows _ h := by simp [LayerDb.get, LayerDb.empty] at h
  distinct := .nil

theorem sized_loadBitmap (h : Leased subnets db held) (id : String) :
    SubnetBitmap.Sized (loadBitmap db id) := by
  unfold loadBitmap
  cases hget : db.get .ipamBitmaps id with
  | none => exact SubnetBitmap.sized_new
  | some bitmap => exact h.sized id bitmap hget

theorem pairwise_apart (h : Leased subnets db held) : held.Pairwise Lease.Apart := by
  refine h.distinct.imp_of_mem fun {l l'} hl hl' hdistinct hvpc => ?_
  obtain ⟨subnet, net, offset, hgranted⟩ := h.granted l hl
  obtain ⟨subnet', net', offset', hgranted'⟩ := h.granted l' hl'
  have hne : ipFromOffset net.network offset ≠ ipFromOffset net'.network offset' := by
    by_cases hsubnet : l.subnetId = l'.subnetId
    · intro heq
      exact hdistinct hsubnet (by rw [hgranted.ip, hgranted'.ip, heq])
    · intro heq
      have hclear := h.apart _ _ subnet subnet' net net' hsubnet hgranted.found hgranted'.found
        (by rw [hgranted.vpc, hgranted'.vpc, hvpc]) hgranted.parsed hgranted'.parsed
      have hout := not_contains_of_not_overlap hclear hgranted.inside
      rw [heq, hgranted'.inside] at hout
      cases hout
  rw [hgranted.ip, hgranted'.ip, hgranted.mac, hgranted'.mac]
  exact ⟨fun heq => hne (Ipv4Addr.display_injective heq), fun heq => hne (macFromIp_injective heq)⟩

/-! ### Steps -/

theorem created (h : Leased subnets db held) {id : String} {subnet : Subnet} {net : Ipv4Net}
    (hfresh : subnets.contains id = false) (hcidr : subnet.cidr = net.display)
    (hgateway : subnet.gateway = (computeGateway net).display)
    (hclear : ClearOf subnets subnet.vpcId net) : Leased (subnets.insert id subnet) db held := by
  have hnone : subnets[id]? = none := Std.ExtTreeMap.getElem?_eq_none_of_contains_eq_false hfresh
  have hold : ∀ (k : String) other, subnets[k]? = some other →
      (subnets.insert id subnet)[k]? = some other := by
    intro k other hk
    have hne : id ≠ k := by
      rintro rfl
      simp [hnone] at hk
    simp [Std.ExtTreeMap.getElem?_insert, hne, hk]
  have hcases : ∀ (k : String) other, (subnets.insert id subnet)[k]? = some other →
      (k = id ∧ other = subnet) ∨ (k ≠ id ∧ subnets[k]? = some other) := by
    intro k other hk
    by_cases hne : id = k
    · subst hne
      simp at hk
      exact Or.inl ⟨rfl, hk.symm⟩
    · simp [Std.ExtTreeMap.getElem?_insert, hne] at hk
      exact Or.inr ⟨Ne.symm hne, hk⟩
  have hparse : Ipv4Net.parse subnet.cidr = some net := by rw [hcidr, Ipv4Net.parse_display]
  refine ⟨?_, ?_, h.sized, ?_, h.rows, h.distinct⟩
  · intro k other hk
    rcases hcases k other hk with ⟨-, rfl⟩ | ⟨-, hk⟩
    · exact ⟨net, hcidr, hgateway⟩
    · exact h.nets k other hk
  · intro k k' other other' n n' hne hk hk' hvpc hn hn'
    rcases hcases k other hk with ⟨hkid, rfl⟩ | ⟨-, hfound⟩
    · rcases hcases k' other' hk' with ⟨hkid', -⟩ | ⟨-, hfound'⟩
      · exact absurd (hkid.trans hkid'.symm) hne
      · cases hparse.symm.trans hn
        exact hclear k' other' n' hfound' hvpc.symm hn'
    · rcases hcases k' other' hk' with ⟨-, rfl⟩ | ⟨-, hfound'⟩
      · cases hparse.symm.trans hn'
        rw [cidrsOverlap, Bool.or_comm]
        exact hclear k other n hfound hvpc hn
      · exact h.apart k k' other other' n n' hne hfound hfound' hvpc hn hn'
  · intro l hl
    obtain ⟨other, n, offset, hgranted⟩ := h.granted l hl
    exact ⟨other, n, offset, { hgranted with found := hold _ _ hgranted.found }⟩

theorem deleted (h : Leased subnets db held) {id : String}
    (hunused : ∀ entry ∈ db.list .ipAllocations, IpAllocation.subnetId entry.2 ≠ id) :
    Leased (subnets.erase id) db held := by
  have hold : ∀ (k : String) subnet, (subnets.erase id)[k]? = some subnet →
      subnets[k]? = some subnet := by
    intro k subnet hk
    rw [Std.ExtTreeMap.getElem?_erase] at hk
    split at hk
    · cases hk
    · exact hk
  refine ⟨fun k subnet hk => h.nets k subnet (hold k subnet hk), ?_, h.sized, ?_, h.rows, h.distinct⟩
  · intro k k' subnet subnet' net net' hne hk hk'
    exact h.apart k k' subnet subnet' net net' hne (hold _ _ hk) (hold _ _ hk')
  · intro l hl
    obtain ⟨subnet, net, offset, hgranted⟩ := h.granted l hl
    refine ⟨subnet, net, offset, { hgranted with found := ?_ }⟩
    -- a lease has its row, so its subnet is not the one deleted
    obtain ⟨row, hrow, hid⟩ := hgranted.row
    have hne : l.subnetId ≠ id := by
      rw [← hid]
      exact hunused (_, row) (Std.ExtTreeMap.mem_toList_iff_getElem?_eq_some.mpr hrow)
    simp [Std.ExtTreeMap.getElem?_erase, hne.symm, hgranted.found]

abbrev reserve (db : IpamDb) (subnetId : String) (bitmap : SubnetBitmap) (alloc : IpAllocation) :
    IpamDb :=
  (db.set .ipamBitmaps subnetId bitmap).set .ipAllocations (allocationKey subnetId alloc.ip) alloc

theorem loadBitmap_reserve (db : IpamDb) (subnetId : String) (bitmap : SubnetBitmap)
    (alloc : IpAllocation) (id : String) :
    loadBitmap (reserve db subnetId bitmap alloc) id =
      if subnetId = id then bitmap else loadBitmap db id := by
  unfold loadBitmap reserve
  rw [LayerDb.get_set_of_ne _ (by decide), LayerDb.get_set]
  split <;> rfl

theorem allocated (h : Leased subnets db held) {subnetId : String} {subnet : Subnet}
    {net : Ipv4Net} {offset : ℕ} {bitmap : SubnetBitmap} {alloc : IpAllocation}
    (hsubnet : subnets[subnetId]? = some subnet) (hnet : Ipv4Net.parse subnet.cidr = some net)
    (hoffset : (loadBitmap db subnetId).allocate = some (offset, bitmap))
    (hid : alloc.subnetId = subnetId) (hip : alloc.ip = (ipFromOffset net.network offset).display)
    (hmac : alloc.mac = macFromIp (ipFromOffset net.network offset))
    (hinside : net.contains (ipFromOffset net.network offset) = true) :
    Leased subnets (reserve db subnetId bitmap alloc)
      (held ++ [⟨subnetId, subnet.vpcId, alloc.ip, alloc.mac⟩]) := by
  obtain ⟨hsized, hbits⟩ := SubnetBitmap.isSet_allocate (h.sized_loadBitmap subnetId) hoffset
  obtain ⟨hfree, -⟩ := SubnetBitmap.allocate_lowest hoffset
  have hkey : ∀ key, (reserve db subnetId bitmap alloc).get .ipAllocations key =
      if allocationKey subnetId alloc.ip = key then some alloc else db.get .ipAllocations key := by
    intro key
    rw [LayerDb.get_set, LayerDb.get_set_of_ne _ (by decide)]
  -- an earlier lease of the subnet has its bit set, and the offset taken was clear
  have hother : ∀ l ∈ held, l.subnetId = subnetId → l.ip ≠ alloc.ip := by
    intro l hl hsame heq
    obtain ⟨subnet', net', offset', hgranted⟩ := h.granted l hl
    cases (hsame ▸ hgranted.found).symm.trans hsubnet
    cases hgranted.parsed.symm.trans hnet
    have hdisplay := Ipv4Addr.display_injective (hgranted.ip.symm.trans (heq.trans hip))
    have hoffsets : offset' = offset := by
      rw [← octet_ipFromOffset net.network hgranted.last, hdisplay,
        octet_ipFromOffset net.network hfree.last]
    have hbit := hgranted.bit
    rw [hsame, hoffsets, hfree.clear] at hbit
    cases hbit
  refine ⟨h.nets, h.apart, ?_, ?_, ?_, ?_⟩
  · intro id b hb
    rw [LayerDb.get_set_of_ne _ (by decide), LayerDb.get_set] at hb
    split at hb
    · cases hb
      exact hsized
    · exact h.sized id b hb
  · intro l hl
    rcases List.mem_append.mp hl with hl | hl
    · obtain ⟨subnet', net', offset', hgranted⟩ := h.granted l hl
      refine ⟨subnet', net', offset', { hgranted with bit := ?_, row := ?_ }⟩
      · rw [loadBitmap_reserve]
        split
        · rename_i hsame
          rw [hbits]
          split
          · rfl
          · rw [hsame]
            exact hgranted.bit
        · exact hgranted.bit
      · rw [hkey]
        split
        · rename_i hsame
          rw [hip, hgranted.ip] at hsame
          exact ⟨alloc, rfl, hid.trans (allocationKey_injective hsame).1⟩
        · exact hgranted.row
    · rw [List.mem_singleton] at hl
      subst hl
      refine ⟨subnet, net, offset, hsubnet, rfl, hnet, hfree.last, hinside, hip, hmac, ?_, ?_⟩
      · rw [loadBitmap_reserve, if_pos rfl, hbits, if_pos rfl]
      · exact ⟨alloc, by rw [hkey, if_pos rfl], hid⟩
  · intro key hsome
    rw [hkey] at hsome
    split at hsome
    · rename_i hsame
      exact ⟨_, List.mem_append_right _ (List.mem_singleton_self _), hsame.symm⟩
    · obtain ⟨l, hl, hlkey⟩ := h.rows key hsome
      exact ⟨l, List.mem_append_left _ hl, hlkey⟩
  · refine List.pairwise_append.mpr ⟨h.distinct, List.pairwise_singleton _ _, fun l hl l' hl' => ?_⟩
    rw [List.mem_singleton] at hl'
    subst hl'
    exact hother l hl

abbrev releaseRow (db : IpamDb) (subnetId ip : String) (bitmap : SubnetBitmap) : IpamDb :=
  (db.set .ipamBitmaps subnetId bitmap).delete .ipAllocations (allocationKey subnetId ip)

theorem loadBitmap_releaseRow (db : IpamDb) (subnetId ip : String) (bitmap : SubnetBitmap)
    (id : String) :
    loadBitmap (releaseRow db subnetId ip bitmap) id =
      if subnetId = id then bitmap else loadBitmap db id := by
  unfold loadBitmap releaseRow
  rw [LayerDb.get_delete_of_ne _ (by decide), LayerDb.get_set]
  split <;> rfl

theorem lease_of_row (h : Leased subnets db held) {subnetId : String} {addr : Ipv4Addr}
    (hrow : (db.get .ipAllocations (allocationKey subnetId addr.display)).isSome = true) :
    ∃ l ∈ held, l.subnetId = subnetId ∧ l.ip = addr.display := by
  obtain ⟨l, hl, hkey⟩ := h.rows _ hrow
  obtain ⟨subnet, net, offset, hgranted⟩ := h.granted l hl
  rw [hgranted.ip] at hkey
  obtain ⟨hid, haddr⟩ := allocationKey_injective hkey
  exact ⟨l, hl, hid.symm, by rw [hgranted.ip, haddr]⟩

theorem offset_ne (h : Leased subnets db held) {l l' : Lease} {subnet : Subnet} {net : Ipv4Net}
    {offset : ℕ} {addr : Ipv4Addr} (hgranted : Granted subnets db l subnet net offset)
    (hl' : l' ∈ held) (hsame : l.subnetId = l'.subnetId) (hip' : l'.ip = addr.display)
    (hne : l.ip ≠ addr.display) : offset ≠ (addr.octet 3).val := by
  obtain ⟨subnet', net', offset', hgranted'⟩ := h.granted l' hl'
  cases (hsame ▸ hgranted'.found).symm.trans hgranted.found
  cases hgranted'.parsed.symm.trans hgranted.parsed
  have haddr := Ipv4Addr.display_injective (hip'.symm.trans hgranted'.ip)
  rintro rfl
  refine hne ?_
  rw [hgranted.ip, haddr, octet_ipFromOffset net.network hgranted'.last]

theorem released (h : Leased subnets db held) {subnetId ip : String} {addr : Ipv4Addr}
    (haddr : Ipv4Addr.parse ip = some addr) (hlast : (addr.octet 3).val ≤ lastAllocatable)
    (hrow : (db.get .ipAllocations (allocationKey subnetId ip)).isSome = true) :
    Leased subnets
      (releaseRow db subnetId ip ((loadBitmap db subnetId).release (addr.octet 3).val))
      (held.filter fun l => !(l.subnetId == subnetId && l.ip == ip)) := by
  obtain ⟨hsized, hbits⟩ := SubnetBitmap.isSet_release (h.sized_loadBitmap subnetId) hlast
  obtain rfl := Ipv4Addr.display_of_parse haddr
  obtain ⟨gone, hgone, hgoneId, hgoneIp⟩ := h.lease_of_row hrow
  have hkept : ∀ l, l ∈ held.filter (fun l => !(l.subnetId == subnetId && l.ip == addr.display)) ↔
      l ∈ held ∧ (l.subnetId = subnetId → l.ip ≠ addr.display) := by
    simp [List.mem_filter, imp_iff_not_or]
  have hkey : ∀ key, (releaseRow db subnetId addr.display
        ((loadBitmap db subnetId).release (addr.octet 3).val)).get .ipAllocations key =
      if allocationKey subnetId addr.display = key then none else db.get .ipAllocations key := by
    intro key
    rw [LayerDb.get_delete, LayerDb.get_set_of_ne _ (by decide)]
  refine ⟨h.nets, h.apart, ?_, ?_, ?_, h.distinct.filter _⟩
  · intro id b hb
    rw [LayerDb.get_delete_of_ne _ (by decide), LayerDb.get_set] at hb
    split at hb
    · cases hb
      exact hsized
    · exact h.sized id b hb
  · intro l hl
    obtain ⟨hl, hother⟩ := (hkept l).mp hl
    obtain ⟨subnet, net, offset, hgranted⟩ := h.granted l hl
    refine ⟨subnet, net, offset, { hgranted with bit := ?_, row := ?_ }⟩
    · rw [loadBitmap_releaseRow]
      split
      · rename_i hsame
        subst hsame
        rw [hbits offset (h.offset_ne hgranted hgone hgoneId.symm hgoneIp (hother rfl))]
        exact hgranted.bit
      · exact hgranted.bit
    · rw [hkey, if_neg]
      · exact hgranted.row
      · intro hsame
        rw [hgranted.ip] at hsame hother
        obtain ⟨hid, hip⟩ := allocationKey_injective hsame
        exact hother hid.symm (by rw [hip])
  · intro key hsome
    rw [hkey] at hsome
    split at hsome
    · cases hsome
    · rename_i hne
      obtain ⟨l, hl, rfl⟩ := h.rows key hsome
      refine ⟨l, (hkept l).mpr ⟨hl, fun hid hip => hne ?_⟩, rfl⟩
      rw [hid, hip]

end Leased

/-! ### Runs -/

variable {s t : Replica} {c : Command} {reply : StateMachineResponse} {held : List Lease}

theorem hostAddress_of_orderly {subnetId : String} {subnet : Subnet} {net : Ipv4Net} {offset : ℕ}
    {bitmap : SubnetBitmap} (hC : orderly s (.allocateIp subnetId) = true)
    (hsubnet : s.subnets[subnetId]? = some subnet) (hnet : Ipv4Net.parse subnet.cidr = some net)
    (hoffset : (loadBitmap s.ipamDb subnetId).allocate = some (offset, bitmap)) :
    HostAddress net (computeGateway net) (ipFromOffset net.network offset) :=
  (hasRoom_iff hoffset).mp (of_decide_eq_true hC subnet hsubnet net hnet)

theorem leased_step (h : Leased s.subnets s.ipamDb held) (hstep : AddressStep s t c reply)
    (hC : orderly s c = true) : Leased t.subnets t.ipamDb (recordLease held ⟨s, c, reply, t⟩) := by
  cases hstep with
  | created hcidr hgateway hclear _ hsubnets hipam =>
      rw [hsubnets, hipam]
      exact h.created (by simpa [orderly] using hC) hcidr hgateway hclear
  | deleted hid hsubnets hipam =>
      rw [hsubnets, hipam]
      exact h.deleted (of_decide_eq_true hC _ hid)
  | allocated hsubnet hnet hoffset hid hip hmac hsubnets hipam =>
      have hhost := hostAddress_of_orderly hC hsubnet hnet hoffset
      rw [hsubnets, hipam, recordLease]
      simp only [hsubnet, Option.map_some, Option.getD_some]
      exact h.allocated hsubnet hnet hoffset hid hip hmac hhost.inside
  | released haddr hoffset hrow hsubnets hipam =>
      rw [hsubnets, hipam]
      exact h.released haddr hoffset hrow
  | other hleases hsubnets hipam =>
      rw [hsubnets, hipam, recordLease_of_not_changesLeases hleases]
      exact h

theorem handsOutUsable_step (h : Leased s.subnets s.ipamDb held) (hstep : AddressStep s t c reply)
    (hC : orderly s c = true) : handsOutUsable ⟨s, c, reply, t⟩ = true := by
  cases hstep with
  | @allocated subnetId subnet net offset bitmap alloc hsubnet hnet hoffset hid hip hmac =>
      have hhost := hostAddress_of_orderly hC hsubnet hnet hoffset
      obtain ⟨net', hcidr, hgateway⟩ := h.nets subnetId subnet hsubnet
      rw [hcidr, Ipv4Net.parse_display] at hnet
      cases hnet
      simp only [handsOutUsable, hsubnet, Option.any_some, hip]
      exact usable_of_hostAddress hcidr hgateway hhost
  | other hleases =>
      unfold handsOutUsable
      unfold changesLeases at hleases
      split <;> simp_all
  | _ => rfl

structure AddressesOk (es : List Step) (t : Replica) : Prop where
  leased : Leased t.subnets t.ipamDb (leases es)
  usable : ∀ e ∈ es, handsOutUsable e = true
  apart : ∀ past, past <+: es → (leases past).Pairwise Lease.Apart

theorem AddressesOk.step {es : List Step} {t : Replica} (h : AddressesOk es t) (c : Command)
    (hC : orderly t c = true) : AddressesOk (es ++ [Exec.of applySingle c t]) (applySingle c t).2 := by
  have hstep := addressStep_applySingle c t
  have hleased : Leased (applySingle c t).2.subnets (applySingle c t).2.ipamDb
      (leases (es ++ [Exec.of applySingle c t])) := by
    rw [leases_snoc]
    exact leased_step h.leased hstep hC
  refine ⟨hleased, ?_, ?_⟩
  · rw [List.forall_mem_append, List.forall_mem_singleton]
    exact ⟨h.usable, handsOutUsable_step h.leased hstep hC⟩
  · intro past hpast
    rcases List.prefix_concat_iff.mp hpast with rfl | hpast
    · exact hleased.pairwise_apart
    · exact h.apart past hpast

/-- **Addresses handed out are usable and unique.** In every run of orderly commands from empty
tables, every address handed out is one that a host of the subnet can use, and at every point of the
run no two leases of a VPC share an address or a hardware address. -/
theorem addresses_of_log (log : List StateMachineCommand) (r : Replica)
    (hsubnets : r.subnets = ∅) (hipam : r.ipamDb = .empty)
    (hC : ∀ e ∈ executed log r, orderly e.before e.action = true) :
    (∀ e ∈ executed log r, handsOutUsable e = true) ∧
      ∀ past, past <+: executed log r → (leases past).Pairwise Lease.Apart := by
  have hstart : AddressesOk [] r := by
    refine ⟨?_, List.forall_mem_nil _, fun past hpast => ?_⟩
    · rw [hsubnets, hipam]
      exact .empty
    · rw [List.prefix_nil.mp hpast]
      exact .nil
  have hrun : Run applySingle r (executed log r) (applyLog log r).2 := Batch.run_executed log r
  have hok : AddressesOk (executed log r) (applyLog log r).2 := by
    refine hrun.invariant (C := fun _ e => orderly e.before e.action = true) hstart ?_ (.of_forall hC)
    exact fun es t c hinv hc => hinv.step c hc
  exact ⟨hok.usable, hok.apart⟩

def Replica.withIpam : Replica :=
  ⟨{ RedbStateMachine.new .empty with ipamStore := some .empty }, .steady 0⟩

def subnetLog (cidr : String) : List StateMachineCommand :=
  [.single (.createOrg "acme"), .single (.createProject "web" "acme"),
    .single (.createEnv "prod" "web" "acme" none false ∅),
    .single (.createVpc "net" "10.0.0.0/24" "acme" false),
    .single (.createSubnet "front" "net" "env-000000000000" (some cidr))]

/-- Two addresses, of which the first is released and handed out again. -/
def leasedLog : List StateMachineCommand :=
  subnetLog "10.0.0.0/25" ++
    [.single (.allocateIp "sub-000000000000"), .single (.allocateIp "sub-000000000000"),
      .single (.releaseIp "sub-000000000000" "10.0.0.3"),
      .single (.allocateIp "sub-000000000000")]

theorem addresses_of_leased :
    (∀ e ∈ executed leasedLog .withIpam, orderly e.before e.action = true) ∧
    (∀ e ∈ executed leasedLog .withIpam, handsOutUsable e = true) ∧
      ∀ past, past <+: executed leasedLog .withIpam → (leases past).Pairwise Lease.Apart := by
  have hC : ∀ e ∈ executed leasedLog .withIpam, orderly e.before e.action = true := by decide +kernel
  exact ⟨hC, addresses_of_log leasedLog .withIpam rfl rfl hC⟩

/-- In the upper half of a /24 the gateway `10.0.0.1` and the first address handed out, `10.0.0.3`,
are in the lower half. -/
theorem address_outside_subnet :
    ¬ ∀ e ∈ executed (subnetLog "10.0.0.128/25" ++ [.single (.allocateIp "sub-000000000000")])
        .withIpam, handsOutUsable e = true := by
  decide +kernel

end Syfrah
