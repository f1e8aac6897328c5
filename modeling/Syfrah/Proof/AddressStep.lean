import Syfrah.Lib.TreeMap
import Syfrah.Proof.OrgFrame
import Syfrah.Proof.Bitmap
import Syfrah.Proof.Ensures

/-!
# What commands do to subnets and addresses

`AddressStep` lists all that a command can do to the subnets and to the IPAM tables. Only four commands
matter, and each of them either changes nothing there or does exactly what its rule says
(`addressStep_applySingle`).
-/

namespace Syfrah

open Replica Tx

def Replica.subnets (r : Replica) : Table Subnet := r.sm.orgStore.table .subnets

/-- The IPAM tables of a replica; without a store there are no records in them. -/
def Replica.ipamDb (r : Replica) : IpamDb := r.sm.ipamStore.getD .empty

/-! ### The choice of a network -/

namespace OrgStore

theorem searchBlocks_spec {ok : Ipv4Net → Bool} {start count : ℕ} {net : Ipv4Net}
    (h : searchBlocks ok start count = some net) :
    ok net = true ∧ ∃ i < count, net = ⟨Fin.ofNat _ (start + 256 * i), 24⟩ := by
  induction count generalizing start with
  | zero => cases h
  | succ count ih =>
      unfold searchBlocks at h
      dsimp only at h
      split at h
      · rename_i hok
        cases h
        exact ⟨hok, 0, Nat.succ_pos _, rfl⟩
      · obtain ⟨hok, i, hi, hnet⟩ := ih h
        refine ⟨hok, i + 1, Nat.succ_lt_succ hi, hnet.trans ?_⟩
        rw [Nat.mul_succ, Nat.add_comm (256 * i), Nat.add_assoc]

theorem block_ends {start : ℕ} (hstart : start + 256 ≤ 2 ^ 32) (haligned : start % 256 = 0) :
    (Ipv4Net.mk (Fin.ofNat _ start) 24).network.val = start ∧
      (Ipv4Net.mk (Fin.ofNat _ start) 24).broadcast.val = start + 255 := by
  have hval : (Fin.ofNat (2 ^ 32) start).val = start := Nat.mod_eq_of_lt (by omega)
  have hnetwork : (Ipv4Net.mk (Fin.ofNat _ start) 24).network.val = start := by
    change (Fin.ofNat (2 ^ 32) start).val / 256 * 256 = start
    rw [hval]
    omega
  refine ⟨hnetwork, ?_⟩
  change (Ipv4Net.mk (Fin.ofNat _ start) 24).network.val + 255 = _
  rw [hnetwork]

theorem encloses_block {vpcCidr : Ipv4Net} {start : ℕ} (haligned : start % 256 = 0)
    (hnetwork : vpcCidr.network.val ≤ start) (hbroadcast : start + 255 ≤ vpcCidr.broadcast.val) :
    vpcCidr.Encloses ⟨Fin.ofNat _ start, 24⟩ := by
  have hlt := vpcCidr.broadcast.isLt
  obtain ⟨hfirst, hlast⟩ := block_ends (by omega) haligned
  constructor <;> simp only [Ipv4Net.contains, Fin.le_def, Bool.and_eq_true, decide_eq_true_eq] <;>
    omega

theorem start_of_mask_eight {vpcCidr : Ipv4Net} (hlen : vpcCidr.prefixLen.val = 8) :
    (vpcCidr.network.octet 1).val = 0 ∧
      (vpcCidr.network.octet 0).val * 2 ^ 24 = vpcCidr.network.val ∧
      vpcCidr.broadcast.val = vpcCidr.network.val + (2 ^ 24 - 1) := by
  have hsize : vpcCidr.size = 2 ^ 24 := by rw [Ipv4Net.size, hlen]
  have hlt := vpcCidr.addr.isLt
  refine ⟨?_, ?_, ?_⟩
  · simp only [Ipv4Addr.octet, Ipv4Net.network, hsize]
    omega
  · simp only [Ipv4Addr.octet, Ipv4Net.network, hsize]
    omega
  · simp only [Ipv4Net.broadcast, hsize]

theorem network_aligned {vpcCidr : Ipv4Net} (hlen : vpcCidr.prefixLen.val ≤ 24) :
    vpcCidr.network.val % 256 = 0 := by
  have hdvd : 256 ∣ vpcCidr.size := Nat.pow_dvd_pow (m := 8) 2 (by omega)
  exact Nat.mod_eq_zero_of_dvd (hdvd.trans (Nat.dvd_mul_left _ _))

theorem autoAllocateSubnetCidr_spec {vpcCidr net : Ipv4Net} {existing : List Ipv4Net}
    (h : autoAllocateSubnetCidr vpcCidr existing = .ok net) :
    vpcCidr.Encloses net ∧ ∀ other ∈ existing, cidrsOverlap net other = false := by
  suffices hfree : vpcCidr.Encloses net ∧ (!existing.any (cidrsOverlap net)) = true by
    exact ⟨hfree.1, by simpa using hfree.2⟩
  unfold autoAllocateSubnetCidr at h
  dsimp only at h
  split at h
  · rename_i found hfound
    cases h
    split at hfound
    · rename_i hlen
      obtain ⟨hok, i, hi, rfl⟩ := searchBlocks_spec hfound
      obtain ⟨hsecond, hfirst, hlast⟩ := start_of_mask_eight hlen
      have haligned : vpcCidr.network.val % 256 = 0 := network_aligned (by omega)
      rw [hsecond] at hi hok ⊢
      exact ⟨encloses_block (by omega) (by omega) (by omega), hok⟩
    · split at hfound
      · have hok := (searchBlocks_spec hfound).1
        simp only [Bool.and_eq_true] at hok
        exact ⟨⟨hok.1.1, hok.1.2⟩, hok.2⟩
      · split at hfound
        · rename_i hlen
          obtain ⟨hok, i, hi, rfl⟩ := searchBlocks_spec hfound
          simp only [Bool.and_eq_true, decide_eq_true_eq] at hok
          have haligned := network_aligned hlen.2
          have hlt := vpcCidr.broadcast.isLt
          refine ⟨encloses_block (by omega) (by omega) ?_, hok.2⟩
          have hlast := hok.1
          rw [Fin.le_def, (block_ends ?_ (by omega)).2] at hlast
          · exact hlast
          · omega
        · cases hfound
  · cases h

theorem chooseSubnetCidr_spec {vpcCidr net : Ipv4Net} {existing : List Ipv4Net}
    {cidrOpt : Option String} (h : chooseSubnetCidr vpcCidr existing cidrOpt = .ok net) :
    vpcCidr.Encloses net ∧ ∀ other ∈ existing, cidrsOverlap net other = false := by
  unfold chooseSubnetCidr at h
  split at h
  · exact autoAllocateSubnetCidr_spec h
  · split at h
    · cases h
    · split at h
      · cases h
      · rename_i hinside
        split at h
        · cases h
        · rename_i hnone
          cases h
          simp only [Bool.or_eq_true, Bool.not_eq_true', not_or, Bool.not_eq_false] at hinside
          exact ⟨⟨hinside.1, hinside.2⟩, by simpa using hnone⟩

/-! ### Operations on subnets -/

/-- The identifier of the subnet with a name in a VPC. -/
def subnetIdNamed (db : OrgDb) (vpcName subnetName : String) : Option SubnetId :=
  (getVpc db vpcName).bind fun vpc => db.get .subnetNameIndex (subnetNameKey vpc.id subnetName)

def ClearOf (subnets : Table Subnet) (vpcId : VpcId) (net : Ipv4Net) : Prop :=
  ∀ (id : String) other otherNet, subnets[id]? = some other → other.vpcId = vpcId →
    Ipv4Net.parse other.cidr = some otherNet → cidrsOverlap net otherNet = false

theorem clearOf_iff {db : OrgDb} {vpcId : VpcId} {net : Ipv4Net} :
    ClearOf (db.table .subnets) vpcId net ↔
      ∀ other ∈ (listSubnetsByVpcId db vpcId).filterMap fun s => Ipv4Net.parse s.cidr,
        cidrsOverlap net other = false := by
  constructor
  · intro h otherNet hmem
    obtain ⟨other, hother, hparse⟩ := List.mem_filterMap.mp hmem
    obtain ⟨entry, hentry, rfl⟩ := List.mem_map.mp hother
    obtain ⟨hlisted, hvpc⟩ := List.mem_filter.mp hentry
    exact h entry.1 entry.2 otherNet (Std.ExtTreeMap.mem_toList_iff_getElem?_eq_some.mp hlisted)
      (by simpa using hvpc) hparse
  · intro h id other otherNet hget hvpc hparse
    refine h otherNet (List.mem_filterMap.mpr ⟨other, ?_, hparse⟩)
    refine List.mem_map.mpr ⟨(id, other), List.mem_filter.mpr ⟨?_, by simpa using hvpc⟩, rfl⟩
    exact Std.ExtTreeMap.mem_toList_iff_getElem?_eq_some.mpr hget

def InVpc (db : OrgDb) (vpcName : String) (subnet : Subnet) (net : Ipv4Net) : Prop :=
  ∃ vpc vpcNet, getVpc db vpcName = some vpc ∧ subnet.vpcId = vpc.id ∧
    Ipv4Net.parse vpc.cidr = some vpcNet ∧ vpcNet.Encloses net

theorem getVpc_congr {db db' : OrgDb} (hvpcs : db'.table .vpcs = db.table .vpcs)
    (hnames : db'.table .vpcNameIndex = db.table .vpcNameIndex) (name : String) :
    getVpc db' name = getVpc db name := by
  simp only [getVpc, LayerDb.list, LayerDb.get, hvpcs, hnames]

def SubnetCreated (vpcName : String) (s : OrgDb × Ambient) :
    Except OrgError Subnet → OrgDb × Ambient → Prop
  | .error _, t => t.1.table .subnets = s.1.table .subnets
  | .ok subnet, t =>
    (∃ net : Ipv4Net, subnet.cidr = net.display ∧ subnet.gateway = (computeGateway net).display ∧
      ClearOf (s.1.table .subnets) subnet.vpcId net ∧ InVpc s.1 vpcName subnet net) ∧
    t.1.table .subnets = (s.1.table .subnets).insert (s.2.generateId "sub").1 subnet

theorem addSubnetRoute_spec (table : Option RouteTable) (cidr : String) (s : OrgDb × Ambient) :
    Ensures (addSubnetRoute table cidr) s fun result t =>
      result = .ok () ∧ t.1.table .subnets = s.1.table .subnets :=
  ⟨by cases table <;> rfl, writes_addSubnetRoute table cidr s .subnets (by decide)⟩

theorem createSubnet_spec (vpcName : String) (envId : EnvironmentId) (name : String)
    (cidrOpt : Option String) (s : OrgDb × Ambient) :
    Ensures (createSubnet vpcName envId name cidrOpt) s (SubnetCreated vpcName s) := by
  refine .check (fun _ _ => rfl) fun _ _ => .read (.orThrow (fun _ => rfl) fun vpc hvpc => ?_)
  refine .read (.rejectIf (fun _ => rfl) fun _ => .read (.rejectIf (fun _ => rfl) fun _ => ?_))
  refine .orThrow (fun _ => rfl) fun vpcCidr hcidr => .read (.check (fun _ _ => rfl) fun net hnet => ?_)
  refine .take (.take (.write (.write (.read (.bind (addSubnetRoute_spec _ _ _) ?_ ?_)))))
  · rintro _ t ⟨-, ht⟩
    obtain ⟨hinside, hclear⟩ := chooseSubnetCidr_spec hnet
    refine .pure ⟨⟨net, rfl, rfl, ?_, vpc, vpcCidr, hvpc, rfl, hcidr, hinside⟩, ht.trans ?_⟩
    · have hlist : listSubnets s.1 vpcName = listSubnetsByVpcId s.1 vpc.id := by
        unfold listSubnets
        rw [show getVpc s.1 vpcName = some vpc from hvpc]
      rw [clearOf_iff, ← hlist]
      exact hclear
    · rw [LayerDb.table_set_of_ne _ (by decide), LayerDb.table_set_self]
      rfl
  · rintro e t ⟨hok, -⟩
    cases hok

def SubnetDeleted (vpcName subnetName : String) (s : OrgDb × Ambient) :
    Except OrgError Unit → OrgDb × Ambient → Prop
  | .error _, t => t.1.table .subnets = s.1.table .subnets
  | .ok _, t => ∃ id, subnetIdNamed s.1 vpcName subnetName = some id ∧
      t.1.table .subnets = (s.1.table .subnets).erase id

theorem removeSubnetRoute_spec (table : Option RouteTable) (cidr : String) (s : OrgDb × Ambient) :
    Ensures (removeSubnetRoute table cidr) s fun result t =>
      result = .ok () ∧ t.1.table .subnets = s.1.table .subnets :=
  ⟨by cases table <;> rfl, writes_removeSubnetRoute table cidr s .subnets (by decide)⟩

theorem disassociateSubnetRouteTable_spec (subnetId : SubnetId) (s : OrgDb × Ambient) :
    Ensures (disassociateSubnetRouteTable subnetId) s fun result t =>
      result = .ok () ∧ t.1.table .subnets = s.1.table .subnets :=
  ⟨rfl, writes_disassociateSubnetRouteTable subnetId s .subnets (by decide)⟩

theorem deleteSubnet_spec (vpcName subnetName : String) (s : OrgDb × Ambient) :
    Ensures (deleteSubnet vpcName subnetName) s (SubnetDeleted vpcName subnetName s) := by
  refine .read (.orThrow (fun _ => rfl) fun vpc hvpc => .read (.orThrow (fun _ => rfl)
    fun id hid => .read (.orThrow (fun _ => rfl) fun subnet _ => .read
      (.bind (removeSubnetRoute_spec _ _ _) ?_ ?_))))
  · rintro _ t ⟨-, ht⟩
    refine .bind (disassociateSubnetRouteTable_spec _ _) ?_ ?_
    · rintro _ u ⟨-, hu⟩
      refine .take (.take (.pure ⟨id, ?_, ?_⟩))
      · unfold subnetIdNamed
        rw [show getVpc s.1 vpcName = some vpc from hvpc]
        exact hid
      · dsimp only
        rw [LayerDb.table_delete_self, LayerDb.table_delete_of_ne _ (by decide), hu, ht]
    · rintro e t ⟨hok, -⟩
      cases hok
  · rintro e t ⟨hok, -⟩
    cases hok

end OrgStore

/-! ### Operations on addresses -/

namespace IpamStore

def Reserved (subnetId cidr : String) (s : IpamDb × Ambient) :
    Except OrgError IpAllocation → IpamDb × Ambient → Prop
  | .error _, t => t.1 = s.1
  | .ok alloc, t => ∃ net offset bitmap, Ipv4Net.parse cidr = some net ∧
      (loadBitmap s.1 subnetId).allocate = some (offset, bitmap) ∧ alloc.subnetId = subnetId ∧
      alloc.ip = (ipFromOffset net.network offset).display ∧
      alloc.mac = macFromIp (ipFromOffset net.network offset) ∧
      t.1 = (s.1.set .ipamBitmaps subnetId bitmap).set .ipAllocations
        (allocationKey subnetId alloc.ip) alloc

theorem reserveIp_spec (subnetId cidr : String) (s : IpamDb × Ambient) :
    Ensures (reserveIp subnetId cidr) s (Reserved subnetId cidr s) := by
  refine .check (fun _ _ => rfl) fun base hbase => .read (.orThrow (fun _ => rfl)
    fun p halloc => .take (.write (.write (.pure ?_))))
  unfold parseSubnetBase at hbase
  cases hnet : Ipv4Net.parse cidr with
  | none => simp [hnet] at hbase
  | some net =>
      rw [hnet] at hbase
      cases hbase
      exact ⟨net, p.1, p.2, hnet, halloc, rfl, rfl, rfl, rfl⟩

def Released (subnetId ip : String) (s : IpamDb × Ambient) :
    Except OrgError Unit → IpamDb × Ambient → Prop
  | .error _, t => t.1 = s.1
  | .ok _, t => ∃ addr, Ipv4Addr.parse ip = some addr ∧
      (addr.octet 3).val ≤ lastAllocatable ∧
      (s.1.get .ipAllocations (allocationKey subnetId ip)).isSome = true ∧
      t.1 = (s.1.set .ipamBitmaps subnetId
        ((loadBitmap s.1 subnetId).release (addr.octet 3).val)).delete .ipAllocations
          (allocationKey subnetId ip)

theorem releaseIp_spec (subnetId cidr ip : String) (s : IpamDb × Ambient) :
    Ensures (releaseIp subnetId cidr ip) s (Released subnetId ip s) := by
  refine .check (fun _ _ => rfl) fun _ _ => .check (fun _ _ => rfl) fun offset hoffset =>
    .read (.read (.rejectIf (fun _ => rfl) fun hexists => .write (.take (.pure ?_))))
  unfold releaseOffset at hoffset
  cases haddr : Ipv4Addr.parse ip with
  | none => simp [haddr] at hoffset
  | some addr =>
      rw [haddr] at hoffset
      dsimp only at hoffset
      split at hoffset
      · rename_i hrange
        cases hoffset
        simp only [Bool.and_eq_true, decide_eq_true_eq] at hrange
        exact ⟨addr, haddr, hrange.2, by simpa using hexists, rfl⟩
      · cases hoffset

end IpamStore

/-! ### The transitions -/

/-- The identifier that a new subnet of the VPC gets: the next one that is drawn, after those of a
default VPC that has to be created first. -/
def Handle.newSubnetId (vpc : String) (r : Replica) : SubnetId :=
  ((autoCreateVpc vpc r).2.ambient.generateId "sub").1

def changesLeases : Command → StateMachineResponse → Bool
  | .allocateIp _, .allocatedIp _ _ => true
  | .releaseIp _ _, .ok => true
  | _, _ => false

open OrgStore IpamStore in
inductive AddressStep (r r' : Replica) : Command → StateMachineResponse → Prop
  | created {name vpc envId : String} {cidr : Option String} {subnet : Subnet} {net : Ipv4Net}
      (hcidr : subnet.cidr = net.display)
      (hgateway : subnet.gateway = (computeGateway net).display)
      (hclear : ClearOf r.subnets subnet.vpcId net)
      (hvpc : InVpc r'.sm.orgStore vpc subnet net)
      (hsubnets : r'.subnets = r.subnets.insert (Handle.newSubnetId vpc r) subnet)
      (hipam : r'.ipamDb = r.ipamDb) :
      AddressStep r r' (.createSubnet name vpc envId cidr) (.created subnet.id)
  | deleted {name vpc : String} {id : SubnetId}
      (hid : subnetIdNamed r.sm.orgStore vpc name = some id)
      (hsubnets : r'.subnets = r.subnets.erase id) (hipam : r'.ipamDb = r.ipamDb) :
      AddressStep r r' (.deleteSubnet name vpc) .ok
  | allocated {subnetId : String} {subnet : Subnet} {net : Ipv4Net} {offset : ℕ}
      {bitmap : SubnetBitmap} {alloc : IpAllocation} (hsubnet : r.subnets[subnetId]? = some subnet)
      (hnet : Ipv4Net.parse subnet.cidr = some net)
      (hoffset : (loadBitmap r.ipamDb subnetId).allocate = some (offset, bitmap))
      (hid : alloc.subnetId = subnetId)
      (hip : alloc.ip = (ipFromOffset net.network offset).display)
      (hmac : alloc.mac = macFromIp (ipFromOffset net.network offset))
      (hsubnets : r'.subnets = r.subnets)
      (hipam : r'.ipamDb = (r.ipamDb.set .ipamBitmaps subnetId bitmap).set .ipAllocations
        (allocationKey subnetId alloc.ip) alloc) :
      AddressStep r r' (.allocateIp subnetId) (.allocatedIp alloc.ip alloc.mac)
  | released {subnetId ip : String} {addr : Ipv4Addr} (haddr : Ipv4Addr.parse ip = some addr)
      (hoffset : (addr.octet 3).val ≤ lastAllocatable)
      (hrow : (r.ipamDb.get .ipAllocations (allocationKey subnetId ip)).isSome = true)
      (hsubnets : r'.subnets = r.subnets)
      (hipam : r'.ipamDb = (r.ipamDb.set .ipamBitmaps subnetId
        ((loadBitmap r.ipamDb subnetId).release (addr.octet 3).val)).delete .ipAllocations
          (allocationKey subnetId ip)) :
      AddressStep r r' (.releaseIp subnetId ip) .ok
  | other {c : Command} {reply : StateMachineResponse} (hleases : changesLeases c reply = false)
      (hsubnets : r'.subnets = r.subnets) (hipam : r'.ipamDb = r.ipamDb) :
      AddressStep r r' c reply

namespace Handle

abbrev AddressSteps (c : Command) (r : Replica) (result : Except String StateMachineResponse)
    (r' : Replica) : Prop :=
  AddressStep r r' c (respond result)

theorem addressSteps_error {c : Command} {r r' : Replica} {e : String}
    (hsubnets : r'.subnets = r.subnets) (hipam : r'.ipamDb = r.ipamDb) :
    AddressSteps c r (.error e) r' :=
  .other (by cases c <;> rfl) hsubnets hipam

theorem createSubnet_steps (name vpc envId : String) (cidr : Option String) (r : Replica) :
    Ensures (createSubnet name vpc envId cidr) r
      (AddressSteps (.createSubnet name vpc envId cidr) r) := by
  have hauto : Ensures (autoCreateVpc vpc) r fun _ t =>
      t = (autoCreateVpc vpc r).2 ∧ t.subnets = r.subnets ∧ t.ipamDb = r.ipamDb :=
    ⟨rfl, orgWrites_autoCreateVpc vpc r .subnets (by decide),
      congrArg (Option.getD · LayerDb.empty) ((only_autoCreateVpc r).store .ipam (by decide))⟩
  refine .bind hauto ?_ fun e t ht => addressSteps_error ht.2.1 ht.2.2
  rintro _ t ⟨ht, hsubnets, hipam⟩
  have hcreated : Ensures (OrgStore.createSubnet vpc envId name cidr) (orgLens.get t) fun result u =>
      OrgStore.SubnetCreated vpc (orgLens.get t) result u ∧
        ∀ name, OrgStore.getVpc u.1 name = OrgStore.getVpc t.sm.orgStore name :=
    ⟨OrgStore.createSubnet_spec vpc envId name cidr _, OrgStore.getVpc_congr
      (OrgStore.writes_createSubnet vpc envId name cidr _ .vpcs (by decide))
      (OrgStore.writes_createSubnet vpc envId name cidr _ .vpcNameIndex (by decide))⟩
  refine .org hcreated ?_ fun e u hu => addressSteps_error (hu.1.trans hsubnets) hipam
  rintro subnet u ⟨⟨⟨net, hcidr, hgateway, hclear, found, foundNet, hfound, hinside⟩, hinsert⟩, hsame⟩
  refine .pure (.created hcidr hgateway (hsubnets ▸ hclear)
    ⟨found, foundNet, (hsame vpc).trans hfound, hinside⟩ ?_ hipam)
  rw [← hsubnets, newSubnetId, ← ht]
  exact hinsert

theorem deleteSubnet_steps (name vpc : String) (r : Replica) :
    Ensures (handle (.deleteSubnet name vpc)) r (AddressSteps (.deleteSubnet name vpc) r) := by
  refine .org (OrgStore.deleteSubnet_spec vpc name (orgLens.get r)) ?_
    fun e t ht => addressSteps_error ht rfl
  rintro _ t ⟨id, hid, herase⟩
  exact .pure (.deleted hid herase rfl)

theorem requireIpam_spec (r : Replica) : Ensures requireIpam r fun _ t => t = r := by
  unfold Ensures requireIpam ipam onStore
  cases hstore : r.sm.ipamStore with
  | none => simp [ipamLens, hstore]
  | some db =>
      simp only [ipamLens, hstore, pure_apply]
      rw [← hstore]

theorem requireSubnet_spec (subnetId : String) (r : Replica) :
    Ensures (requireSubnet subnetId) r fun result t =>
      t = r ∧ ∀ subnet, result = .ok subnet → r.subnets[subnetId]? = some subnet := by
  unfold Ensures requireSubnet
  rw [bind_apply_ok (org_query _ r)]
  cases hsubnet : OrgStore.getSubnetById r.sm.orgStore subnetId with
  | none => exact ⟨rfl, nofun⟩
  | some subnet =>
      refine ⟨rfl, fun subnet' h => ?_⟩
      cases h
      exact hsubnet

theorem ensures_onSubnet {β : Type} {r : Replica} {subnetId : String} {k : Subnet → Handler β}
    {post : Except String β → Replica → Prop} (herror : ∀ e, post (.error e) r)
    (hok : ∀ subnet, r.subnets[subnetId]? = some subnet → Ensures (k subnet) r post) :
    Ensures (do requireIpam; let subnet ← requireSubnet subnetId; k subnet) r post := by
  refine .bind (requireIpam_spec r) (fun _ t ht => ?_) fun e t ht => ht ▸ herror e
  rw [ht]
  refine .bind (requireSubnet_spec subnetId r) (fun subnet u hu => ?_) fun e u hu =>
    hu.1 ▸ herror e
  rw [hu.1]
  exact hok subnet (hu.2 subnet rfl)

theorem ipamDb_eq {r : Replica} {db : IpamDb} (h : r.sm.ipamStore = some db) : r.ipamDb = db :=
  congrArg (Option.getD · LayerDb.empty) h

theorem allocateIp_steps (subnetId : String) (r : Replica) :
    Ensures (allocateIp subnetId) r (AddressSteps (.allocateIp subnetId) r) := by
  refine ensures_onSubnet (fun _ => addressSteps_error rfl rfl) fun subnet hsubnet =>
    .onStore (l := ipamLens) (fun _ _ => addressSteps_error rfl rfl)
      (fun db _ => IpamStore.reserveIp_spec subnetId subnet.cidr (db, r.ambient)) ?_
      fun db e t hstore ht => addressSteps_error rfl (ht.trans (ipamDb_eq hstore).symm)
  rintro db alloc t hstore ⟨net, offset, bitmap, hnet, hoffset, hid, hip, hmac, hdb⟩
  rw [← ipamDb_eq hstore] at hoffset hdb
  exact .pure (.allocated hsubnet hnet hoffset hid hip hmac rfl hdb)

theorem releaseIp_steps (subnetId ip : String) (r : Replica) :
    Ensures (releaseIp subnetId ip) r (AddressSteps (.releaseIp subnetId ip) r) := by
  refine ensures_onSubnet (fun _ => addressSteps_error rfl rfl) fun subnet hsubnet =>
    .onStore (l := ipamLens) (fun _ _ => addressSteps_error rfl rfl)
      (fun db _ => IpamStore.releaseIp_spec subnetId subnet.cidr ip (db, r.ambient)) ?_
      fun db e t hstore ht => addressSteps_error rfl (ht.trans (ipamDb_eq hstore).symm)
  rintro db _ t hstore ⟨addr, haddr, hoffset, hrow, hdb⟩
  rw [← ipamDb_eq hstore] at hrow hdb
  exact .pure (.released haddr hoffset hrow rfl hdb)

end Handle

/-- **Every applied command takes an address step.** -/
theorem addressStep_applySingle (c : Command) (r : Replica) :
    AddressStep r (applySingle c r).2 c (applySingle c r).1 := by
  cases c with
  | createSubnet name vpc envId cidr => exact Handle.createSubnet_steps name vpc envId cidr r
  | deleteSubnet name vpc => exact Handle.deleteSubnet_steps name vpc r
  | allocateIp subnetId => exact Handle.allocateIp_steps subnetId r
  | releaseIp subnetId ip => exact Handle.releaseIp_steps subnetId ip r
  | _ =>
      refine .other rfl (orgTable_applySingle _ r (by simp [Command.orgTables])) ?_
      exact congrArg (Option.getD · LayerDb.empty)
        ((only_applySingle _ r).store .ipam (by simp [Command.stores]))

end Syfrah
