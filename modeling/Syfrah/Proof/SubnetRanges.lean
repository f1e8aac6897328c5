import Syfrah.Proof.VpcStep
import Syfrah.Proof.Hosts

/-!
# The networks of subnets

A new subnet is given a network inside that of its VPC and clear of the networks of the other subnets
with the same VPC. Both stay true as long as the VPC record that a subnet points to is not replaced by
another one, which would take a VPC that draws the identifier of an earlier one.
-/

namespace Syfrah

open Replica Tx OrgStore

/-- The subnets are in order: each is inside its VPC, if that exists, and apart from the others of the
same VPC. -/
structure Replica.SubnetsInOrder (r : Replica) : Prop where
  inside : ∀ (id : String) subnet vpc, r.subnets[id]? = some subnet →
    r.vpcs[subnet.vpcId]? = some vpc → ∃ net vpcNet, Ipv4Net.parse subnet.cidr = some net ∧
      Ipv4Net.parse vpc.cidr = some vpcNet ∧
      ∀ ip, net.contains ip = true → vpcNet.contains ip = true
  apart : ∀ (id id' : String) subnet subnet', id ≠ id' → r.subnets[id]? = some subnet →
    r.subnets[id']? = some subnet' → subnet.vpcId = subnet'.vpcId →
    ∃ net net', Ipv4Net.parse subnet.cidr = some net ∧ Ipv4Net.parse subnet'.cidr = some net' ∧
      ∀ ip, net.contains ip = true → net'.contains ip = false

/-! ### The transitions of the subnets -/

inductive SubnetStep (r r' : Replica) : Prop
  | created {id vpcName : String} {subnet : Subnet} {net : Ipv4Net} (hcidr : subnet.cidr = net.display)
      (hclear : ClearOf r.subnets subnet.vpcId net) (hvpc : InVpc r'.sm.orgStore vpcName subnet net)
      (hsubnets : r'.subnets = r.subnets.insert id subnet)
  | deleted {id : SubnetId} (hsubnets : r'.subnets = r.subnets.erase id)
  | other (hsubnets : r'.subnets = r.subnets)

theorem AddressStep.subnetStep {r r' : Replica} {c : Command} {reply : StateMachineResponse}
    (h : AddressStep r r' c reply) : SubnetStep r r' := by
  cases h with
  | created hcidr _ hclear hvpc hsubnets => exact .created hcidr hclear hvpc hsubnets
  | deleted _ hsubnets => exact .deleted hsubnets
  | allocated _ _ _ _ _ _ hsubnets => exact .other hsubnets
  | released _ _ _ hsubnets => exact .other hsubnets
  | other _ hsubnets => exact .other hsubnets

theorem subnetStep_createVpc (name cidr : String) (owner : VpcOwner) (shared : Bool) (r : Replica) :
    Ensures (OrgCall.createVpc name cidr owner shared).handler r fun _ r' => SubnetStep r r' := by
  have hframe : Ensures (OrgStore.createVpc name cidr owner shared) (orgLens.get r) fun _ u =>
      u.1.table .subnets = r.subnets :=
    writes_createVpc name cidr owner shared _ .subnets (by decide)
  exact .org hframe (fun _ _ hu => .pure (.other hu)) fun _ _ hu => .other hu

theorem subnetStep_createSubnet (vpcName : String) (envId : EnvironmentId) (name : String)
    (cidr : Option String) (r : Replica) :
    Ensures (OrgCall.createSubnet vpcName envId name cidr).handler r fun _ r' => SubnetStep r r' := by
  have hcreated : Ensures (OrgStore.createSubnet vpcName envId name cidr) (orgLens.get r)
      fun result u => SubnetCreated vpcName (orgLens.get r) result u ∧
        ∀ name, getVpc u.1 name = getVpc r.sm.orgStore name :=
    ⟨createSubnet_spec vpcName envId name cidr _, getVpc_congr
      (writes_createSubnet vpcName envId name cidr _ .vpcs (by decide))
      (writes_createSubnet vpcName envId name cidr _ .vpcNameIndex (by decide))⟩
  refine .org hcreated ?_ fun e u hu => .other hu.1
  rintro subnet u ⟨⟨⟨net, hcidr, -, hclear, vpc, vpcNet, hvpc, hinside⟩, hinsert⟩, hsame⟩
  exact .pure (.created hcidr hclear ⟨vpc, vpcNet, (hsame vpcName).trans hvpc, hinside⟩ hinsert)

/-- **All calls.** -/
theorem subnetStep_apply (call : OrgCall) (r : Replica) : SubnetStep r (call.apply r).2 := by
  cases call with
  | command c => exact (addressStep_applySingle c r).subnetStep
  | createVpc name cidr owner shared => exact subnetStep_createVpc name cidr owner shared r
  | createSubnet vpcName envId name cidr => exact subnetStep_createSubnet vpcName envId name cidr r

/-! ### The invariant -/

/-- A VPC that a call stores has an identifier that no stored subnet names, or was there before. -/
def storesFreshVpcs (e : Exec Replica OrgCall StateMachineResponse) : Bool :=
  e.after.vpcs.toList.all fun entry =>
    e.before.vpcs[entry.1]? == some entry.2 ||
      e.before.subnets.toList.all fun subnet => subnet.2.vpcId != entry.1

structure Ranges (r : Replica) : Prop where
  keys : ∀ (k : String) vpc, r.vpcs[k]? = some vpc → vpc.id = k
  nets : ∀ (id : String) subnet, r.subnets[id]? = some subnet →
    ∃ net : Ipv4Net, subnet.cidr = net.display
  inside : ∀ (id : String) subnet vpc net, r.subnets[id]? = some subnet →
    r.vpcs[subnet.vpcId]? = some vpc → Ipv4Net.parse subnet.cidr = some net →
      ∃ vpcNet, Ipv4Net.parse vpc.cidr = some vpcNet ∧ vpcNet.Encloses net
  apart : ∀ (id id' : String) subnet subnet' net net', id ≠ id' → r.subnets[id]? = some subnet →
    r.subnets[id']? = some subnet' → subnet.vpcId = subnet'.vpcId →
    Ipv4Net.parse subnet.cidr = some net → Ipv4Net.parse subnet'.cidr = some net' →
      cidrsOverlap net net' = false

namespace Ranges

variable {r r' : Replica} {call : OrgCall}

theorem subnetsInOrder (h : Ranges r) : r.SubnetsInOrder := by
  constructor
  · intro id subnet vpc hsubnet hvpc
    obtain ⟨net, hcidr⟩ := h.nets id subnet hsubnet
    have hparse : Ipv4Net.parse subnet.cidr = some net := by rw [hcidr, Ipv4Net.parse_display]
    obtain ⟨vpcNet, hvpcNet, hinside⟩ := h.inside id subnet vpc net hsubnet hvpc hparse
    exact ⟨net, vpcNet, hparse, hvpcNet, fun ip => hinside.contains⟩
  · intro id id' subnet subnet' hne hsubnet hsubnet' hsame
    obtain ⟨net, hcidr⟩ := h.nets id subnet hsubnet
    obtain ⟨net', hcidr'⟩ := h.nets id' subnet' hsubnet'
    have hparse : Ipv4Net.parse subnet.cidr = some net := by rw [hcidr, Ipv4Net.parse_display]
    have hparse' : Ipv4Net.parse subnet'.cidr = some net' := by rw [hcidr', Ipv4Net.parse_display]
    have hclear := h.apart id id' subnet subnet' net net' hne hsubnet hsubnet' hsame hparse hparse'
    exact ⟨net, net', hparse, hparse', fun ip => not_contains_of_not_overlap hclear⟩

theorem keys_step (h : Ranges r) (hstep : VpcStep r r' call) {k : String} {vpc : Vpc}
    (hget : r'.vpcs[k]? = some vpc) : vpc.id = k := by
  cases hstep with
  | created _ _ hvpcs =>
      rcases Std.ExtTreeMap.of_getElem?_insert (hvpcs ▸ hget) with ⟨rfl, rfl⟩ | ⟨-, hold⟩
      · rfl
      · exact h.keys k vpc hold
  | deleted _ _ hvpcs => exact h.keys k vpc (Std.ExtTreeMap.of_getElem?_erase (hvpcs ▸ hget)).2
  | other hvpcs =>
      rw [hvpcs] at hget
      exact h.keys k vpc hget

theorem vpc_of_fresh {reply : StateMachineResponse}
    (hfresh : storesFreshVpcs ⟨r, call, reply, r'⟩ = true) {id : String} {subnet : Subnet} {vpc : Vpc}
    (hsubnet : r.subnets[id]? = some subnet) (hvpc : r'.vpcs[subnet.vpcId]? = some vpc) :
    r.vpcs[subnet.vpcId]? = some vpc := by
  have hwritten := List.all_eq_true.mp hfresh (subnet.vpcId, vpc)
    (Std.ExtTreeMap.mem_toList_iff_getElem?_eq_some.mpr hvpc)
  rw [Bool.or_eq_true] at hwritten
  rcases hwritten with hold | hunused
  · simpa using hold
  · have hne := List.all_eq_true.mp hunused (id, subnet)
      (Std.ExtTreeMap.mem_toList_iff_getElem?_eq_some.mpr hsubnet)
    simp at hne

theorem created (h : Ranges r) (hkeys : ∀ (k : String) vpc, r'.vpcs[k]? = some vpc → vpc.id = k)
    (hkept : ∀ (id : String) subnet vpc, r.subnets[id]? = some subnet →
      r'.vpcs[subnet.vpcId]? = some vpc → r.vpcs[subnet.vpcId]? = some vpc)
    {id vpcName : String} {subnet : Subnet} {net : Ipv4Net} (hcidr : subnet.cidr = net.display)
    (hclear : ClearOf r.subnets subnet.vpcId net) (hvpc : InVpc r'.sm.orgStore vpcName subnet net)
    (hsubnets : r'.subnets = r.subnets.insert id subnet) : Ranges r' := by
  have hparse : Ipv4Net.parse subnet.cidr = some net := by rw [hcidr, Ipv4Net.parse_display]
  -- a subnet after the call is the new one or one that was there under another identifier
  have hcases : ∀ (k : String) other, r'.subnets[k]? = some other →
      k = id ∧ other = subnet ∨ k ≠ id ∧ r.subnets[k]? = some other :=
    fun k other hget => Std.ExtTreeMap.of_getElem?_insert (hsubnets ▸ hget)
  refine ⟨hkeys, fun k other hget => ?_, fun k other found otherNet hget hfound hnet => ?_,
    fun k k' other other' otherNet otherNet' hne hget hget' hsame hnet hnet' => ?_⟩
  · obtain ⟨-, rfl⟩ | ⟨-, hold⟩ := hcases k other hget
    · exact ⟨net, hcidr⟩
    · exact h.nets k other hold
  · obtain ⟨-, rfl⟩ | ⟨-, hold⟩ := hcases k other hget
    · obtain ⟨vpc, vpcNet, hnamed, hid, hvpcNet, hinside⟩ := hvpc
      obtain ⟨-, key, -, -, hstored⟩ := entry_of_getVpc hnamed
      rw [hid, hkeys key vpc hstored] at hfound
      obtain rfl : vpc = found := Option.some.inj (hstored.symm.trans hfound)
      obtain rfl : net = otherNet := Option.some.inj (hparse.symm.trans hnet)
      exact ⟨vpcNet, hvpcNet, hinside⟩
    · exact h.inside k other found otherNet hold (hkept k other found hold hfound) hnet
  · obtain ⟨rfl, rfl⟩ | ⟨-, hold⟩ := hcases k other hget
    · obtain ⟨rfl, -⟩ | ⟨-, hold'⟩ := hcases k' other' hget'
      · exact absurd rfl hne
      · obtain rfl : net = otherNet := Option.some.inj (hparse.symm.trans hnet)
        exact hclear k' other' otherNet' hold' hsame.symm hnet'
    · obtain ⟨rfl, rfl⟩ | ⟨-, hold'⟩ := hcases k' other' hget'
      · obtain rfl : net = otherNet' := Option.some.inj (hparse.symm.trans hnet')
        rw [cidrsOverlap_comm]
        exact hclear k other otherNet hold hsame hnet
      · exact h.apart k k' other other' otherNet otherNet' hne hold hold' hsame hnet hnet'

theorem of_subset (h : Ranges r) (hkeys : ∀ (k : String) vpc, r'.vpcs[k]? = some vpc → vpc.id = k)
    (hkept : ∀ (id : String) subnet vpc, r.subnets[id]? = some subnet →
      r'.vpcs[subnet.vpcId]? = some vpc → r.vpcs[subnet.vpcId]? = some vpc)
    (hsubnets : ∀ (id : String) subnet, r'.subnets[id]? = some subnet →
      r.subnets[id]? = some subnet) : Ranges r' where
  keys := hkeys
  nets id subnet hget := h.nets id subnet (hsubnets id subnet hget)
  inside id subnet vpc net hget hvpc hnet := by
    have hold := hsubnets id subnet hget
    exact h.inside id subnet vpc net hold (hkept id subnet vpc hold hvpc) hnet
  apart id id' subnet subnet' net net' hne hget hget' hsame hnet hnet' :=
    h.apart id id' subnet subnet' net net' hne (hsubnets id subnet hget)
      (hsubnets id' subnet' hget') hsame hnet hnet'

/-- **One call.** -/
theorem step (h : Ranges r) (call : OrgCall)
    (hfresh : storesFreshVpcs (Exec.of OrgCall.apply call r) = true) : Ranges (call.apply r).2 := by
  have hkeys : ∀ (k : String) vpc, (call.apply r).2.vpcs[k]? = some vpc → vpc.id = k :=
    fun k vpc hget => h.keys_step (vpcStep_apply call r) hget
  have hkept : ∀ (id : String) subnet vpc, r.subnets[id]? = some subnet →
      (call.apply r).2.vpcs[subnet.vpcId]? = some vpc → r.vpcs[subnet.vpcId]? = some vpc :=
    fun id subnet vpc => vpc_of_fresh hfresh
  cases subnetStep_apply call r with
  | created hcidr hclear hvpc hsubnets => exact h.created hkeys hkept hcidr hclear hvpc hsubnets
  | deleted hsubnets =>
      exact h.of_subset hkeys hkept fun id subnet hget =>
        (Std.ExtTreeMap.of_getElem?_erase (hsubnets ▸ hget)).2
  | other hsubnets => exact h.of_subset hkeys hkept fun id subnet hget => hsubnets ▸ hget

end Ranges

/-- **Subnets never collide.** After all calls on a store that starts without VPCs and subnets, when no
VPC was stored under an identifier that a stored subnet names, every subnet lies in its VPC and the
subnets of a VPC are pairwise disjoint. -/
theorem subnets_in_order_of_calls (calls : List OrgCall) (r : Replica) (hvpcs : r.vpcs = ∅)
    (hsubnets : r.subnets = ∅)
    (hfresh : ∀ e ∈ trace OrgCall.apply calls r, storesFreshVpcs e = true) :
    (reached OrgCall.apply calls r).SubnetsInOrder := by
  have hstart : Ranges r := by
    constructor <;> simp [hvpcs, hsubnets]
  refine Ranges.subnetsInOrder ((run_trace calls r).invariant (I := fun _ => Ranges)
    (C := fun _ e => storesFreshVpcs e = true) hstart ?_ (.of_forall hfresh))
  exact fun _ _ call h hcall => h.step call hcall

def oneSubnet (envId : EnvironmentId) : List OrgCall :=
  [.command (.createOrg "acme"), .command (.createProject "web" "acme"),
    .command (.createEnv "prod" "web" "acme" none false ∅),
    .command (.createVpc "net" "10.0.0.0/16" "acme" false),
    .createSubnet "net" envId "front" (some "10.0.0.77/25")]

def twoSubnets : List OrgCall :=
  oneSubnet "env-222222222222" ++ [.command (.createSubnet "back" "net" "env-222222222222" none)]

theorem subnets_in_order_of_two :
    (reached OrgCall.apply twoSubnets .counting).SubnetsInOrder ∧
    ((reached OrgCall.apply twoSubnets .counting).subnets.toList.map fun entry => entry.2.cidr) =
      ["10.0.0.77/25", "10.0.1.0/24"] := by
  refine ⟨subnets_in_order_of_calls twoSubnets .counting rfl rfl ?_, ?_⟩
  · decide +kernel
  · decide +kernel

/-- A second VPC draws the identifier of the first and takes its place. -/
def replacedVpc : List OrgCall :=
  oneSubnet "env-000000000000" ++ [.command (.createVpc "other" "192.168.0.0/16" "acme" false)]

theorem subnet_outside_replaced_vpc : ¬ (reached OrgCall.apply replacedVpc .fresh).SubnetsInOrder := by
  intro h
  have hnets : ((reached OrgCall.apply replacedVpc .fresh).subnets["sub-000000000000"]?).bind
      (fun subnet => ((reached OrgCall.apply replacedVpc .fresh).vpcs[subnet.vpcId]?).map fun vpc =>
        (Ipv4Net.parse subnet.cidr, Ipv4Net.parse vpc.cidr)) =
      some (Ipv4Net.parse "10.0.0.77/25", Ipv4Net.parse "192.168.0.0/16") := by decide +kernel
  obtain ⟨subnet, hsubnet, hvpc⟩ := Option.bind_eq_some_iff.mp hnets
  obtain ⟨vpc, hvpc, heq⟩ := Option.map_eq_some_iff.mp hvpc
  obtain ⟨net, vpcNet, hnet, hvpcNet, hinside⟩ := h.inside _ subnet vpc hsubnet hvpc
  rw [hnet, hvpcNet, Prod.mk.injEq] at heq
  have hout : ((Ipv4Net.parse "10.0.0.77/25").bind fun net =>
      (Ipv4Net.parse "192.168.0.0/16").map fun vpcNet =>
        net.contains net.network && !vpcNet.contains net.network) = some true := by decide +kernel
  rw [← heq.1, ← heq.2] at hout
  simp only [Option.bind_some, Option.map_some, Option.some.injEq, Bool.and_eq_true,
    Bool.not_eq_true'] at hout
  rw [hinside _ hout.1] at hout
  exact absurd hout.2 (by decide)

end Syfrah
