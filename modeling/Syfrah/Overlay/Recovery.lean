import Syfrah.Overlay.Kernel

/-!
# Recovery after a restart

After a restart of the daemon the kernel may have any part of the interfaces. The recovery reads their
names once, makes what is missing for the VPCs with local VMs, and deletes what no local VM needs.
Failures are only logged.
-/

namespace Syfrah

namespace Overlay

structure RecoveryVpc where
  id : String
  vni : ℕ
deriving DecidableEq

structure RecoverySubnet where
  vpcId : String
  cidr : String
  gateway : String
deriving DecidableEq

structure RecoveryPlacement where
  vpcId : String
  vmId : String
  vmMac : String
  vmIp : String
  hypervisorId : String
deriving DecidableEq

structure RecoveryReport where
  bridgesRecovered : ℕ
  vxlansRecovered : ℕ
  nftReapplied : ℕ
  fdbRebuilt : ℕ
  orphansCleaned : ℕ
deriving DecidableEq

structure RecoveryInput where
  vpcs : List RecoveryVpc
  subnets : List RecoverySubnet
  placements : List RecoveryPlacement
  localNode : String
  localIp : String

namespace RecoverySubnet

/-- The length of the network, and 24 where the text has none. -/
def prefixLen (subnet : RecoverySubnet) : ℕ :=
  ((Text.secondPart '/' subnet.cidr).bind (Text.parseUnsigned 256)).getD 24

/-- The address that the bridge of the VPC should have. -/
def address (subnet : RecoverySubnet) : String × ℕ := (subnet.gateway, subnet.prefixLen)

end RecoverySubnet

namespace RecoveryInput

variable (input : RecoveryInput)

def localPlacements : List RecoveryPlacement :=
  input.placements.filter fun p => p.hypervisorId == input.localNode

def localVpcIds : List String := input.localPlacements.map RecoveryPlacement.vpcId

def expectedBridges : List String := input.localVpcIds.map bridgeName

def expectedVxlans : List String := input.localVpcIds.map vxlanName

def expectedTaps : List String := input.localPlacements.map fun p => tapName p.vmId

end RecoveryInput

structure Recovery where
  kernel : Kernel
  report : RecoveryReport

section Steps

variable (backend : NetworkBackend) (input : RecoveryInput)

/-- Make the bridge of a VPC with its addresses, unless the kernel had it. -/
def recoverBridge (kernelBridges : List String) (r : Recovery) (vpc : RecoveryVpc) : Recovery :=
  let bridge := bridgeName vpc.id
  if bridge ∉ input.expectedBridges ∨ bridge ∈ kernelBridges then r
  else
    match backend.perform (.createBridge bridge) r.kernel with
    | .error _ => r
    | .ok kernel =>
      let withRules := backend.tryPerform (.applyBridgeAcceptRules bridge) kernel
      let withAddresses := (input.subnets.filter fun s => s.vpcId == vpc.id).foldl
        (fun k s => backend.tryPerform (.addBridgeIp bridge s.gateway s.prefixLen) k) withRules
      ⟨withAddresses, { r.report with bridgesRecovered := r.report.bridgesRecovered + 1 }⟩

/-- Make the tunnel of a VPC and attach it, unless the kernel had it. -/
def recoverVxlan (kernelVxlans : List String) (r : Recovery) (vpc : RecoveryVpc) : Recovery :=
  let vxlan := vxlanName vpc.id
  if vxlan ∉ input.expectedVxlans ∨ vxlan ∈ kernelVxlans then r
  else
    match backend.perform (.createVxlan vxlan vpc.vni input.localIp vxlanPort) r.kernel with
    | .error _ => r
    | .ok kernel =>
      ⟨backend.tryPerform (.attachToBridge vxlan (bridgeName vpc.id)) kernel,
        { r.report with vxlansRecovered := r.report.vxlansRecovered + 1 }⟩

def reapplyVmRules (r : Recovery) (p : RecoveryPlacement) : Recovery :=
  match backend.perform (.applyVmRules (tapName p.vmId) p.vmMac p.vmIp) r.kernel with
  | .error _ => r
  | .ok kernel => ⟨kernel, { r.report with nftReapplied := r.report.nftReapplied + 1 }⟩

def reapplyNat (r : Recovery) (subnet : RecoverySubnet) : Recovery :=
  if subnet.vpcId ∈ input.localVpcIds then
    { r with kernel := backend.tryPerform (.applyNat (bridgeName subnet.vpcId) subnet.cidr) r.kernel }
  else r

/-- The forwarding entries of a VM elsewhere, in a VPC that has local VMs too. -/
def rebuildFdb (r : Recovery) (p : RecoveryPlacement) : Recovery :=
  if p.vpcId ∉ input.localVpcIds then r
  else
    match backend.perform (.neighbour (.addFdbEntry (bridgeName p.vpcId) p.vmMac p.hypervisorId)) r.kernel with
    | .error _ => r
    | .ok kernel =>
      match backend.perform (.neighbour (.addArpProxy (vxlanName p.vpcId) p.vmIp p.vmMac)) kernel with
      | .error _ => { r with kernel := kernel }
      | .ok kernel => ⟨kernel, { r.report with fdbRebuilt := r.report.fdbRebuilt + 1 }⟩

def cleanOrphan (delete : String → NetworkOp) (expected : List String) (r : Recovery) (name : String) :
    Recovery :=
  if name ∈ expected then r
  else
    match backend.perform (delete name) r.kernel with
    | .error _ => r
    | .ok kernel => ⟨kernel, { r.report with orphansCleaned := r.report.orphansCleaned + 1 }⟩

/-- The names that begin in some way, or none if they cannot be listed. -/
def discover (start : String) (k : Kernel) : List String :=
  match backend.listInterfaces start k with
  | .error _ => []
  | .ok names => names

end Steps

def recoverNetwork (backend : NetworkBackend) (input : RecoveryInput) (k : Kernel) : Recovery :=
  let kernelBridges := discover backend bridgePrefix k
  let kernelVxlans := discover backend vxlanPrefix k
  let kernelTaps := discover backend tapPrefix k
  let r : Recovery := ⟨k, ⟨0, 0, 0, 0, 0⟩⟩
  let r := input.vpcs.foldl (recoverBridge backend input kernelBridges) r
  let r := input.vpcs.foldl (recoverVxlan backend input kernelVxlans) r
  let r := input.localPlacements.foldl (reapplyVmRules backend) r
  let r := input.subnets.foldl (reapplyNat backend input) r
  let r := (input.placements.filter fun p => p.hypervisorId != input.localNode).foldl
    (rebuildFdb backend input) r
  let r := kernelBridges.foldl (cleanOrphan backend .deleteBridge input.expectedBridges) r
  let r := kernelVxlans.foldl (cleanOrphan backend .deleteVxlan input.expectedVxlans) r
  kernelTaps.foldl (cleanOrphan backend .deleteTap input.expectedTaps) r

end Overlay

end Syfrah
