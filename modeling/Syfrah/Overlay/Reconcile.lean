import Syfrah.Overlay.Kernel

/-!
# Reconciliation of the network

Every thirty seconds a pass compares the state that the stores ask for with the kernel and repairs what
differs. Failures become warnings of the report.
-/

namespace Syfrah

namespace Overlay

inductive AllocationState
  | reserved
  | assigned
deriving DecidableEq

structure IpAllocation where
  ip : String
  subnetId : String
  vmId : Option String
  state : AllocationState
  allocatedAt : ℕ

structure ExpectedVm where
  vmId : String
  vpcId : String
  tapName : String

structure ExpectedBridge where
  name : String
  vpcId : String

structure ExpectedSgAssignment where
  vmId : String
  securityGroups : List String

structure ExpectedPeering where
  peeringId : String
  bridgeA : String
  bridgeB : String

structure NetworkState where
  bridges : List ExpectedBridge
  vms : List ExpectedVm
  -- the device, the MAC and the address of each VM
  vmRules : List (String × String × String)
  ipAllocations : List IpAllocation
  now : ℕ
  sgAssignments : List ExpectedSgAssignment
  fdbEntries : List ExpectedFdbEntry
  peerings : List ExpectedPeering

structure ReconcileReport where
  bridgesFixed : ℕ
  rulesReapplied : ℕ
  orphansReclaimed : ℕ
  sgChainsReapplied : ℕ
  fdbEntriesAdded : ℕ
  fdbEntriesRemoved : ℕ
  peeringsWired : ℕ
  peeringsRemoved : ℕ
  warnings : List String

def orphanThresholdSecs : ℕ := 300

structure ReconcilePass where
  kernel : Kernel
  report : ReconcileReport

namespace ReconcilePass

def warn (p : ReconcilePass) (warning : String) : ReconcilePass :=
  { p with report.warnings := p.report.warnings ++ [warning] }

def attempt (backend : NetworkBackend) (op : NetworkOp) (count : ReconcileReport → ReconcileReport)
    (failed : String) (p : ReconcilePass) : ReconcilePass :=
  match backend.perform op p.kernel with
  | .error e => p.warn s!"{failed}: {e}"
  | .ok kernel => ⟨kernel, count p.report⟩

end ReconcilePass

section Steps

variable (backend : NetworkBackend) (state : NetworkState)

def checkBridge (kernelBridges : List String) (p : ReconcilePass) (bridge : ExpectedBridge) : ReconcilePass :=
  let p := if bridge.name ∈ kernelBridges then p
    else p.attempt backend (.createBridge bridge.name)
      (fun report => { report with bridgesFixed := report.bridgesFixed + 1 })
      s!"failed to re-create bridge {bridge.name}"
  p.attempt backend (.applyBridgeAcceptRules bridge.name) id s!"bridge {bridge.name} accept rules failed"

def checkBridges (p : ReconcilePass) : ReconcilePass :=
  match backend.listInterfaces bridgePrefix p.kernel with
  | .error e => p.warn s!"failed to list bridges: {e}"
  | .ok kernelBridges => state.bridges.foldl (checkBridge backend kernelBridges) p

def checkTaps (p : ReconcilePass) : ReconcilePass :=
  match backend.listInterfaces tapPrefix p.kernel with
  | .error e => p.warn s!"failed to list TAPs: {e}"
  | .ok kernelTaps =>
    state.vms.foldl (fun p vm =>
      if vm.tapName ∈ kernelTaps then p
      else p.warn (s!"TAP {vm.tapName} missing for VM {vm.vmId} (vpc {vm.vpcId}); " ++
        "VM may have been terminated")) p

def reapplyRules (p : ReconcilePass) : ReconcilePass :=
  state.vmRules.foldl (fun p (tap, mac, ip) => p.attempt backend (.applyVmRules tap mac ip)
    (fun report => { report with rulesReapplied := report.rulesReapplied + 1 })
    s!"failed to re-apply rules for {tap}") p

/-- Reserved addresses without a VM are counted once they are old; nothing is reclaimed. -/
def detectOrphanedIps (p : ReconcilePass) : ReconcilePass :=
  let orphans := state.ipAllocations.filter fun alloc =>
    alloc.state == .reserved && !(alloc.vmId.any fun id => state.vms.any fun vm => vm.vmId == id) &&
      decide (orphanThresholdSecs ≤ state.now - alloc.allocatedAt)
  { p with report.orphansReclaimed := p.report.orphansReclaimed + orphans.length }

def warnOrphans (start kind : String) (expected : List String) (p : ReconcilePass) : ReconcilePass :=
  match backend.listInterfaces start p.kernel with
  | .error _ => p
  | .ok names =>
    names.foldl (fun p name =>
      if name ∈ expected then p else p.warn s!"orphaned {kind} in kernel: {name}") p

def detectOrphanedInterfaces (p : ReconcilePass) : ReconcilePass :=
  warnOrphans backend tapPrefix "TAP" (state.vms.map ExpectedVm.tapName)
    (warnOrphans backend bridgePrefix "bridge" (state.bridges.map ExpectedBridge.name) p)

/-- The VMs with groups are counted; no chain is applied. -/
def reconcileSgChains (p : ReconcilePass) : ReconcilePass :=
  let drifted := state.sgAssignments.filter fun assignment => !assignment.securityGroups.isEmpty
  { p with report.sgChainsReapplied := p.report.sgChainsReapplied + drifted.length }

def reconcileFdb (order : HashOrder) (p : ReconcilePass) : ReconcilePass :=
  let pass := reconcileFdbEntries backend.fdb order state.fdbEntries (.start p.kernel.neighbours)
  { kernel := { p.kernel with neighbours := pass.kernel }
    report := { p.report with
      fdbEntriesAdded := p.report.fdbEntriesAdded + pass.fdbEntriesAdded
      fdbEntriesRemoved := p.report.fdbEntriesRemoved + pass.fdbEntriesRemoved
      warnings := p.report.warnings ++ pass.warnings } }

/-- Perform operations up to the first that fails. -/
def performAll : List NetworkOp → Kernel → Option String × Kernel
  | [], k => (none, k)
  | op :: ops, k =>
    match backend.perform op k with
    | .error e => (some e, k)
    | .ok k => performAll ops k

def createVethPeer (peeringId bridgeA bridgeB : String) : Kernel → Option String × Kernel :=
  let nameA := peerNameA peeringId
  let nameB := peerNameB peeringId
  performAll backend [.createVethPair nameA nameB, .attachToBridge nameA bridgeA,
    .attachToBridge nameB bridgeB, .applyPeeringRules bridgeA bridgeB]

def wirePeering (p : ReconcilePass) (peering : ExpectedPeering) : ReconcilePass :=
  let hasA := decide (peering.bridgeA ∈ p.kernel.links)
  let hasB := decide (peering.bridgeB ∈ p.kernel.links)
  if !hasA || !hasB then
    p.warn (s!"peering {peering.peeringId}: skipping — bridges not ready " ++
      s!"({peering.bridgeA}={hasA}, {peering.bridgeB}={hasB})")
  else
    let existing := match backend.listInterfaces peerPrefix p.kernel with
      | .error _ => false
      | .ok names => names.contains (peerNameA peering.peeringId)
    if existing then
      p.attempt backend (.applyPeeringRules peering.bridgeA peering.bridgeB) id
        s!"peering {peering.peeringId}: failed to re-apply rules"
    else
      match createVethPeer backend peering.peeringId peering.bridgeA peering.bridgeB p.kernel with
      | (none, kernel) => ⟨kernel, { p.report with peeringsWired := p.report.peeringsWired + 1 }⟩
      | (some e, kernel) =>
        ({ p with kernel := kernel }).warn
          s!"peering {peering.peeringId}: failed to create veth peer: {e}"

/-- The bridge of an interface, if it can be read. -/
def interfaceMaster (k : Kernel) (iface : String) : Option String :=
  match backend.readsMaster iface with
  | some _ => none
  | none => (k.links[iface]?).bind Link.master

def peerStartA : String := "syfpa"

def peerStartB : String := "syfpb"

/-- Take a pair away that no peering asks for, with the rules between its bridges. -/
def removeStalePeering (expectedPeerA : List String) (p : ReconcilePass) (iface : String) : ReconcilePass :=
  if !Text.startsWith iface peerStartA || iface ∈ expectedPeerA then p
  else
    let peerB := peerStartB ++ String.ofList (iface.toList.drop peerStartA.length)
    let p := match interfaceMaster backend p.kernel iface, interfaceMaster backend p.kernel peerB with
      | some bridgeA, some bridgeB => p.attempt backend (.removePeeringRules bridgeA bridgeB) id
          s!"stale peering {iface}: failed to remove nftables rules"
      | _, _ => p
    p.attempt backend (.deleteTap iface)
      (fun report => { report with peeringsRemoved := report.peeringsRemoved + 1 })
      s!"stale peering {iface}: failed to delete veth"

def expectedPeerA : List String := state.peerings.map fun peering => peerNameA peering.peeringId

def reconcilePeerings (p : ReconcilePass) : ReconcilePass :=
  let p := state.peerings.foldl (wirePeering backend) p
  let actual := match backend.listInterfaces peerPrefix p.kernel with
    | .error _ => []
    | .ok names => names
  actual.foldl (removeStalePeering backend (expectedPeerA state)) p

end Steps

/-- A pass. Switching forwarding on is not an operation of the backend; it may fail on its own. -/
def reconcileNetwork (backend : NetworkBackend) (ipForwarding : Option String) (order : HashOrder)
    (state : NetworkState) (k : Kernel) : ReconcilePass :=
  let p : ReconcilePass := ⟨k, ⟨0, 0, 0, 0, 0, 0, 0, 0, []⟩⟩
  let p := checkBridges backend state p
  let p := checkTaps backend state p
  let p := match ipForwarding with
    | some e => p.warn s!"ip_forward re-enable failed: {e}"
    | none => p
  let p := p.attempt backend .enableBrNetfilter id "br_netfilter re-enable failed"
  let p := p.attempt backend .applyInfraProtection id "infra protection re-apply failed"
  let p := p.attempt backend .applySgBaseChain id "SG base chain re-apply failed"
  let p := reapplyRules backend state p
  let p := detectOrphanedIps state p
  let p := detectOrphanedInterfaces backend state p
  let p := reconcileSgChains state p
  let p := reconcileFdb backend state order p
  reconcilePeerings backend state p

end Overlay

end Syfrah
