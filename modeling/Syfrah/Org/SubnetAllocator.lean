import Syfrah.Org.Network

/-!
# The two allocators of subnets

`autoAllocateSubnetCidr` counts the blocks it visits. Here its loops are those of the source, over
32-bit addresses that may overflow, next to the function of the same name in the VPC module, which
shifts block indices.
-/

namespace Syfrah

namespace SubnetAllocator

open OrgStore

inductive Walk
  | found (net : Ipv4Net)
  | exhausted
  | overflow
deriving DecidableEq

/-- Visit the /24 blocks from an address to the end of a network, 256 addresses at a time. -/
def walk (ok : Ipv4Net → Bool) (netEnd addr : ℕ) : Walk :=
  if addr ≤ netEnd then
    let candidate : Ipv4Net := ⟨Fin.ofNat _ addr, 24⟩
    if ok candidate then .found candidate
    else if addr + 256 < 2 ^ 32 then walk ok netEnd (addr + 256)
    else .overflow
  else .exhausted
termination_by netEnd + 1 - addr
decreasing_by omega

def isFree (existing : List Ipv4Net) (candidate : Ipv4Net) : Bool := !existing.any (cidrsOverlap candidate)

/-- The three loops of the store, by the length of the mask. -/
def search (vpcCidr : Ipv4Net) (existing : List Ipv4Net) : Walk :=
  let vpcPrefix := vpcCidr.prefixLen.val
  let netStart := vpcCidr.network.val
  let netEnd := vpcCidr.broadcast.val
  if vpcPrefix = 8 then
    let second := (vpcCidr.network.octet 1).val
    match searchBlocks (isFree existing) ((vpcCidr.network.octet 0).val * 2 ^ 24 + second * 2 ^ 16)
        ((256 - second) * 256) with
    | some candidate => .found candidate
    | none => .exhausted
  else if 9 ≤ vpcPrefix ∧ vpcPrefix ≤ 16 then
    walk (fun candidate => vpcCidr.contains candidate.network && vpcCidr.contains candidate.broadcast &&
      isFree existing candidate) netEnd netStart
  else if 17 ≤ vpcPrefix ∧ vpcPrefix ≤ 24 then
    walk (fun candidate => candidate.broadcast ≤ vpcCidr.broadcast && isFree existing candidate) netEnd netStart
  else .exhausted

/-- The allocator of the store; `none` is an overflow. -/
def storeAutoAllocateSubnetCidr (vpcCidr : Ipv4Net) (existing : List Ipv4Net) : Option (Except OrgError Ipv4Net) :=
  match search vpcCidr existing with
  | .found candidate => some (.ok candidate)
  | .exhausted => some (.error (.subnetCidrExhausted vpcCidr.display))
  | .overflow => none

/-- The allocator of the VPC module. -/
def vpcAutoAllocateSubnetCidr (vpcCidr : Ipv4Net) (existing : List Ipv4Net) : Except OrgError Ipv4Net :=
  if 24 < vpcCidr.prefixLen.val then
    .error (.invalidCidr "VPC CIDR is smaller than /24, cannot allocate subnets")
  else
    let numBlocks := 1 <<< (24 - vpcCidr.prefixLen.val)
    match ((List.range numBlocks).map fun i =>
        (⟨Fin.ofNat _ (vpcCidr.network.val + i <<< 8), 24⟩ : Ipv4Net)).find? fun candidate =>
          vpcCidr.contains candidate.network && isFree existing candidate with
    | some candidate => .ok candidate
    | none => .error .cidrExhausted

end SubnetAllocator

end Syfrah
