import Syfrah.ControlPlane.StateMachine

/-!
# Applying commands

`handle` is the handler of a command that is not composite; an error it throws is the error response.
`applyCommand` adds the composites, which apply their members in order up to the first error.
-/

namespace Syfrah

open Replica

namespace Handle

/-! ### Networks -/

/-- The owner of a VPC is a project when the text has a slash, and an org otherwise. -/
def vpcOwner (owner : String) : VpcOwner :=
  if owner.toList.contains '/' then .project owner else .org owner

/-- The org and the project a default VPC is named after: `{org}-{project}-default`. -/
def defaultVpcParts (vpc : String) : Option (String × String) :=
  Text.splitOnce '-' ((Text.stripEnd vpc "-default").getD vpc)

/-- Create the default VPC a subnet names, when it does not exist yet. -/
def autoCreateVpc (vpc : String) : Handler Unit := do
  let missing ← org (query fun db => (OrgStore.getVpc db vpc).isNone)
  if Text.endsWith vpc "-default" && missing then
    match defaultVpcParts vpc with
    | none => pure ()
    | some (orgName, project) => do
        let result ← (Tx.zoom orgLens
          (OrgStore.createVpc vpc "10.1.0.0/16" (.project s!"{orgName}/{project}") false)).result
        match result with
        | .ok _ => pure ()
        | .error e => throw s!"failed to auto-create default VPC '{vpc}': {e.display}"
  else pure ()

def createSubnet (name vpc envId : String) (cidr : Option String) :
    Handler StateMachineResponse := do
  autoCreateVpc vpc
  let subnet ← org (OrgStore.createSubnet vpc envId name cidr)
  return .created subnet.id

/-- The VPC with a name, or the error of the state machine. -/
def requireVpc (vpc : String) : Handler Vpc := do
  Tx.orThrow (← org (query fun db => OrgStore.getVpc db vpc)) s!"VPC not found: {vpc}"

def requireRouteTable (vpcId : VpcId) (table : String) : Handler RouteTable := do
  Tx.orThrow (← org (query fun db => OrgStore.getRouteTable db vpcId table))
    s!"route table not found: {table}"

def requireSubnet (subnetId : String) : Handler Subnet := do
  Tx.orThrow (← org (query fun db => OrgStore.getSubnetById db subnetId))
    s!"subnet not found: {subnetId}"

def uniqueSubnet (subnet : String) : Handler Subnet := do
  match ← org (query fun db => OrgStore.findSubnetsByName db subnet) with
  | [(_, s)] => return s
  | [] => throw s!"subnet not found: {subnet}"
  | _ => throw s!"subnet '{subnet}' exists in multiple VPCs"

def createNatGw (name vpc subnet : String) : Handler StateMachineResponse := do
  let vpcObj ← requireVpc vpc
  let inVpc ← org (query fun db =>
    (OrgStore.findSubnetsByName db subnet).filter fun entry => entry.2.vpcId == vpcObj.id)
  match inVpc with
  | [] => throw s!"subnet '{subnet}' not found in VPC '{vpc}'"
  | [(_, sub)] => do
      let gw ← org (OrgStore.createNatGw name vpcObj.id sub.id "0.0.0.0")
      return .created gw.id
  | _ => throw s!"ambiguous subnet '{subnet}' in VPC '{vpc}'"

def deleteNatGw (name : String) : Handler StateMachineResponse := do
  let gw ← Tx.orThrow (← org (OrgStore.getNatGwByName name)) s!"nat-gw not found: {name}"
  org (OrgStore.deleteNatGw gw.vpcId name)
  return .ok

/-- Delete the only route table with a name, across all VPCs. -/
def deleteRouteTableByName (name : String) : OrgM Unit := do
  match ← query fun db => (OrgStore.listRouteTables db).filter fun t => t.name == name with
  | [] => throw (.routeTableNotFound name)
  | [table] => OrgStore.deleteRouteTable table.vpcId name
  | _ => throw (.ambiguous s!"route table '{name}' exists in multiple VPCs")

def deleteRouteTable (name : String) : Option String → OrgM Unit
  | some vname => OrgStore.deleteRouteTableByVpcName vname name
  | none => deleteRouteTableByName name

def associateRouteTable (table subnet : String) : Handler StateMachineResponse := do
  let sub ← uniqueSubnet subnet
  let rt ← requireRouteTable sub.vpcId table
  org (OrgStore.associateSubnetRouteTable sub.id rt.id)
  return .ok

def disassociateRouteTable (subnet : String) : Handler StateMachineResponse := do
  let sub ← uniqueSubnet subnet
  org (OrgStore.disassociateSubnetRouteTable sub.id)
  return .ok

def routeTarget (target : String) : Option RouteTarget :=
  if Text.eqIgnoreAsciiCase target "local" then some .localNet
  else if Text.eqIgnoreAsciiCase target "blackhole" then some .blackhole
  else
    match Text.stripStart target "nat-gw:" with
    | some name => some (.natGateway name)
    | none => (Text.stripStart target "peering:").map .vpcPeering

def addRoute (vpc : String) (table : Option String) (destination target : String)
    (priority : Option ℕ) : Handler StateMachineResponse := do
  let vpcObj ← requireVpc vpc
  let rt ← requireRouteTable vpcObj.id (table.getD "default")
  let routeTarget ← Tx.orThrow (routeTarget target) s!"invalid route target: '{target}'"
  let _ ← org (OrgStore.addRoute rt.id destination routeTarget priority)
  return .ok

def deleteRoute (vpc : String) (table : Option String) (destination : String) :
    Handler StateMachineResponse := do
  let vpcObj ← requireVpc vpc
  let rt ← requireRouteTable vpcObj.id (table.getD "default")
  org (OrgStore.removeRoute rt.id destination)
  return .ok

/-! ### Addresses and interfaces -/

/-- Fail when a store is missing, before anything else is looked at. -/
def requireIpam : Handler Unit := ipam (pure ())

def allocateIp (subnetId : String) : Handler StateMachineResponse := do
  requireIpam
  let subnet ← requireSubnet subnetId
  let alloc ← ipam (IpamStore.reserveIp subnetId subnet.cidr)
  return .allocatedIp alloc.ip alloc.mac

def releaseIp (subnetId ip : String) : Handler StateMachineResponse := do
  requireIpam
  let subnet ← requireSubnet subnetId
  ipam (IpamStore.releaseIp subnetId subnet.cidr ip)
  return .ok

/-- The identifier of an interface is made from the VM and the subnet. -/
def nicId (vmId subnetId : String) : NicId :=
  s!"nic-{vmId}-" ++ Text.replaceChar '/' '-' subnetId

/-- An interface that exists already counts as created. -/
def createNic (vmId subnetId ip mac : String) : Handler StateMachineResponse := do
  let subnet ← org (query fun db => OrgStore.getSubnetById db subnetId)
  let now ← now
  let nic : NetworkInterface :=
    { id := nicId vmId subnetId
      name := s!"{vmId}-eth0"
      vmId := some vmId
      subnetId := subnetId
      vpcId := (subnet.map (·.vpcId)).getD ""
      privateIp := ip
      mac := mac
      securityGroups := []
      state := .active
      createdAt := now }
  match ← (Tx.zoom orgLens (OrgStore.createNic nic)).result with
  | .ok () => return .created (nicId vmId subnetId)
  | .error e =>
    if Text.contains e.display "already exists" then return .created (nicId vmId subnetId)
    else throw e.display

/-! ### Security group rules -/

def direction : String → Option Direction
  | "ingress" => some .ingress
  | "egress" => some .egress
  | _ => none

def protocol : String → Option Protocol
  | "tcp" => some .tcp
  | "udp" => some .udp
  | "icmp" => some .icmp
  | "all" => some .all
  | _ => none

/-- A port or a range of ports; bounds of a range that are not numbers become 0. -/
def portRange (p : String) : Option PortRange :=
  match Text.splitOnce '-' p with
  | some (low, high) =>
    some ⟨(Text.parseUnsigned (2 ^ 16) low).getD 0, (Text.parseUnsigned (2 ^ 16) high).getD 0⟩
  | none => (Text.parseUnsigned (2 ^ 16) p).map fun n => ⟨n, n⟩

/-- The bytes that the derived hash functions feed to the hasher for a rule. -/
def ruleBytes (sgId : SecurityGroupId) (dir : Direction) (proto : Protocol)
    (ports : Option PortRange) (cidr : String) : List UInt8 :=
  let dirTag := match dir with
    | .ingress => 0
    | .egress => 1
  let protoTag := match proto with
    | .tcp => 0
    | .udp => 1
    | .icmp => 2
    | .all => 3
  let portBytes := match ports with
    | none => SipHash.numberBytes 8 0
    | some pr =>
      SipHash.numberBytes 8 1 ++ SipHash.numberBytes 2 pr.fromPort ++
        SipHash.numberBytes 2 pr.toPort
  SipHash.textBytes sgId ++ SipHash.numberBytes 8 dirTag ++ SipHash.numberBytes 8 protoTag ++
    portBytes ++ SipHash.numberBytes 8 0 ++ SipHash.textBytes cidr

/-- The identifier of a rule is a hash of its content. -/
def ruleId (sgId : SecurityGroupId) (dir : Direction) (proto : Protocol)
    (ports : Option PortRange) (cidr : String) : RuleId :=
  "rule-" ++ Text.hexPad 16 (SipHash.hash (ruleBytes sgId dir proto ports cidr)).toNat

def addSgRule (sg dirText protoText : String) (port : Option String) (source : String) :
    Handler StateMachineResponse := do
  sgRule (pure ())
  let sgRecord ← Tx.orThrow (← org (query fun db => OrgStore.findSgByName db sg))
    s!"security group not found: {sg}"
  let dir ← Tx.orThrow (direction dirText) s!"invalid direction: '{dirText}'"
  let proto ← Tx.orThrow (protocol protoText) s!"invalid protocol: '{protoText}'"
  let ports := port.bind portRange
  let rule : SecurityGroupRule :=
    { id := ruleId sgRecord.id dir proto ports source
      sgId := sgRecord.id
      direction := dir
      protocol := proto
      portRange := ports
      source := .cidr source
      priority := 100
      description := none }
  sgRule (SgRuleStore.addRule rule)
  return .ok

/-! ### Hypervisors -/

/-- A first registration creates the record, a repeated one updates it. -/
def registerHypervisor (name region zone fabricIpv6 : String) : Handler StateMachineResponse := do
  match ← hypervisor (query fun db => HypervisorStore.get db name) with
  | some hv => do
      hypervisor (HypervisorStore.update
        { hv with
          region := region
          zone := zone
          fabricIpv6 := if fabricIpv6.isEmpty then hv.fabricIpv6 else fabricIpv6 })
      return .ok
  | none => do
      let now ← now
      let id ← hypervisor HypervisorStore.generateHypervisorId
      hypervisor (HypervisorStore.create
        { id := id
          name := name
          region := region
          zone := zone
          state := .notReady
          fabricNodeId := name
          publicIp := ""
          fabricIpv6 := fabricIpv6
          capacity := {}
          labels := ∅
          taints := []
          createdAt := now })
      return .ok

/-- The zone of a registered hypervisor has a storage configuration. -/
def storagePreflight (name : String) (hv : Option Hypervisor) : Handler Unit :=
  match hv with
  | none => pure ()
  | some hv => do
      let configured ← Tx.read fun r => r.sm.storage.storageConfigs.contains hv.zone
      Tx.rejectIf (!configured)
        (s!"cannot enable hypervisor {name} — storage is not configured for zone {hv.zone}.\n" ++
          "VMs on this hypervisor would fail to pull images or manage volumes.\n" ++
          s!"Run: syfrah storage configure --zone {hv.zone} --s3-endpoint <url> " ++
          "--s3-bucket <bucket> --s3-access-key <key> --s3-secret-key <secret>")

def enableHypervisor (name : String) : Handler StateMachineResponse := do
  storagePreflight name (← hypervisor (query fun db => HypervisorStore.get db name))
  hypervisor (HypervisorStore.updateState name .available)
  return .ok

def updateHypervisorState (name : String) (state : HypervisorState) :
    Handler StateMachineResponse := do
  hypervisor (HypervisorStore.updateState name state)
  return .ok

/-- Change the record of a hypervisor, or answer as given when it is not registered. -/
def modifyHypervisor (name : String) (missing : Handler StateMachineResponse)
    (f : Hypervisor → Hypervisor) : Handler StateMachineResponse := do
  match ← hypervisor (query fun db => HypervisorStore.get db name) with
  | some hv => do
      hypervisor (HypervisorStore.update (f hv))
      return .ok
  | none => missing

/-- A taint is written `key=value:Effect`, with value and effect optional. -/
def parseTaint (t : String) : Taint :=
  let (kv, effectText) := (Text.rsplitOnce ':' t).getD (t, "NoSchedule")
  let effect := if effectText = "NoExecute" then TaintEffect.noExecute else .noSchedule
  match Text.splitOnce '=' kv with
  | some (k, v) => ⟨k, some v, effect⟩
  | none => ⟨kv, none, effect⟩

def updateHypervisorLabels (name : String) (labels : Labels) : Handler StateMachineResponse :=
  modifyHypervisor name (throw s!"hypervisor '{name}' not found") fun hv =>
    { hv with labels := labels }

def updateHypervisorTaints (name : String) (taints : List String) : Handler StateMachineResponse :=
  modifyHypervisor name (throw s!"hypervisor '{name}' not found") fun hv =>
    { hv with taints := taints.map parseTaint }

def updateHypervisorCapacity (name : String)
    (allocatableVcpus allocatableMemoryMb usedVcpus usedMemoryMb : ℕ) :
    Handler StateMachineResponse :=
  modifyHypervisor name (pure .ok) fun hv =>
    { hv with
      capacity :=
        { allocatableVcpus := allocatableVcpus
          allocatableMemoryMb := allocatableMemoryMb
          usedVcpus := usedVcpus
          usedMemoryMb := usedMemoryMb
          availableVcpus := allocatableVcpus - usedVcpus
          availableMemoryMb := allocatableMemoryMb - usedMemoryMb } }

/-! ### Placements -/

def placeVm (vmId hypervisorId subnetId ip mac : String) (generation : ℕ) :
    Handler StateMachineResponse := do
  placement (pure ())
  let now ← now
  let subnet ← org (query fun db => OrgStore.getSubnetById db subnetId)
  let vpcId := (subnet.map (·.vpcId)).getD (Text.splitHead '/' subnetId)
  placement (PlacementStore.addPlacement
    { vpcId := vpcId
      vmId := vmId
      vmMac := mac
      vmIp := ip
      subnetId := subnetId
      hypervisorId := hypervisorId
      action := .add
      createdAt := now
      placementGeneration := generation })
  emit (.added vpcId vmId mac ip subnetId hypervisorId)
  return .ok

def requirePlacement (vmId : String) : Handler VmPlacement := do
  let found ← placement (query fun db => (PlacementStore.listAll db).find? fun p => p.vmId == vmId)
  Tx.orThrow found s!"placement not found for VM: {vmId}"

def removeVm (vmId : String) : Handler StateMachineResponse := do
  let p ← requirePlacement vmId
  let _ : Except String Unit ← (placement (PlacementStore.removePlacement p.vpcId vmId)).result
  emit (.removed p.vpcId p.vmId p.vmMac p.vmIp p.hypervisorId)
  return .ok

/-- The placement and the volumes of the VM move together. -/
def rescheduleVm (vmId source target : String) (generation : ℕ) :
    Handler StateMachineResponse := do
  let p ← requirePlacement vmId
  placement (PlacementStore.addPlacement
    { p with hypervisorId := target, placementGeneration := generation })
  let order ← nextOrder
  let moved ← storageOp fun s => .ok (s.rescheduleVm order vmId source target)
  Tx.each syncVolumeToStore moved
  return .ok

/-! ### Storage -/

/-- A command on one volume: change the storage state, then mirror the volume. -/
def onVolume (f : StorageState → Except String (VolumeRecord × StorageState)) :
    Handler VolumeRecord := do
  let vol ← storageOp f
  syncVolumeToStore vol
  return vol

def purgeTombstones (now maxAgeSecs : ℕ) : Handler StateMachineResponse := do
  let order ← nextOrder
  let purged ← storageOp fun s => .ok (s.purgeTombstones order now maxAgeSecs)
  Tx.each syncVolumeDeleteFromStore purged
  return .ok

def deleteVolume (volumeId : VolumeId) (cascade : Bool) (deletedAt : ℕ) :
    Handler StateMachineResponse := do
  let order ← nextOrder
  let _ ← onVolume fun s => s.deleteVolume order volumeId cascade deletedAt
  return .ok

def setStorageQuota (scope : QuotaScope) (quota : StorageQuota) : Handler StateMachineResponse := do
  storageStep fun s => .ok (s.setStorageQuota scope quota)
  syncQuotaToStore scope quota
  return .ok

def setStorageConfig (region zone : String) (config : StorageConfig) :
    Handler StateMachineResponse := do
  let zoneKey ← storageOp fun s => s.setStorageConfig region zone config
  syncStorageConfigToStore zoneKey config
  return .ok

end Handle

/-! ### Dispatch -/

open Handle in
/-- The handler of a command that is not composite. -/
def handle : Command → Handler StateMachineResponse
  | .createOrg name => do return .created (← org (OrgStore.create name)).id
  | .deleteOrg name => do
      org (OrgStore.delete name)
      return .ok
  | .createProject name orgName => do
      return .created (← org (OrgStore.createProject orgName name)).id
  | .deleteProject name orgName => do
      org (OrgStore.deleteProject orgName name)
      return .ok
  | .createEnv name project orgName ttl deletionProtection labels => do
      let env ← org (OrgStore.createEnv orgName project name ttl deletionProtection labels)
      return .created env.id
  | .deleteEnv name project orgName => do
      org (OrgStore.deleteEnv orgName project name)
      return .ok
  | .extendEnv name project orgName ttlSeconds => do
      let _ ← org (OrgStore.extendEnv orgName project name ttlSeconds)
      return .ok
  | .updateEnv name project orgName deletionProtection =>
      match deletionProtection with
      | some enabled => do
          let _ ← org (OrgStore.updateEnvProtection orgName project name enabled)
          return .ok
      | none => throw "no update specified"
  | .createVpc name cidr owner shared => do
      return .created (← org (OrgStore.createVpc name cidr (vpcOwner owner) shared)).id
  | .deleteVpc name => do
      org (OrgStore.deleteVpc name)
      return .ok
  | .attachVpc vpc project => do
      org (OrgStore.attachVpc vpc project)
      return .ok
  | .detachVpc vpc project => do
      org (OrgStore.detachVpc vpc project)
      return .ok
  | .peerVpc vpcA vpcB => do
      let _ ← org (OrgStore.createPeering vpcA vpcB)
      return .ok
  | .unpeerVpc vpcA vpcB => do
      org (OrgStore.deletePeering vpcA vpcB)
      return .ok
  | .createSubnet name vpc envId cidr => createSubnet name vpc envId cidr
  | .deleteSubnet name vpc => do
      org (OrgStore.deleteSubnet vpc name)
      return .ok
  | .allocateIp subnetId => allocateIp subnetId
  | .releaseIp subnetId ip => releaseIp subnetId ip
  | .createSg name vpc => do
      return .created (← org (OrgStore.createSecurityGroup name vpc "")).id
  | .deleteSg name => do
      org (OrgStore.deleteSecurityGroup name none)
      return .ok
  | .addSgRule sg direction protocol port source => addSgRule sg direction protocol port source
  | .removeSgRule _ ruleId => do
      sgRule (SgRuleStore.removeRule ruleId)
      return .ok
  | .attachSg sg nicId => do
      let _ ← org (OrgStore.attachSgToNic sg nicId)
      return .ok
  | .detachSg sg nicId => do
      let _ ← org (OrgStore.detachSgFromNic sg nicId)
      return .ok
  | .createNatGw name vpc subnet => createNatGw name vpc subnet
  | .deleteNatGw name => deleteNatGw name
  | .createRouteTable name vpc => do
      return .created (← org (OrgStore.createRouteTableByVpcName name vpc)).id
  | .deleteRouteTable name vpc => do
      org (deleteRouteTable name vpc)
      return .ok
  | .associateRouteTable table subnet => associateRouteTable table subnet
  | .disassociateRouteTable subnet => disassociateRouteTable subnet
  | .addRoute vpc table destination target priority => addRoute vpc table destination target priority
  | .deleteRoute vpc table destination => deleteRoute vpc table destination
  | .createNic vmId subnetId ip mac => createNic vmId subnetId ip mac
  | .deleteNic nicId => do
      org (OrgStore.deleteNic nicId)
      return .ok
  | .registerHypervisor name region zone fabricIpv6 =>
      registerHypervisor name region zone fabricIpv6
  | .enableHypervisor name => enableHypervisor name
  | .drainHypervisor name => updateHypervisorState name .draining
  | .decommissionHypervisor name => updateHypervisorState name .decommissioned
  | .updateHypervisorLabels name labels => updateHypervisorLabels name labels
  | .updateHypervisorTaints name taints => updateHypervisorTaints name taints
  | .updateHypervisorCapacity name allocatableVcpus allocatableMemoryMb usedVcpus usedMemoryMb =>
      updateHypervisorCapacity name allocatableVcpus allocatableMemoryMb usedVcpus usedMemoryMb
  | .createVmIntent name image vcpus memoryMb zone subnet => do
      let now ← now
      storageStep fun s => s.createVmIntent now name image vcpus memoryMb zone subnet
      return .created name
  | .updateVmPhase vmId phase hypervisorId ip error => do
      let now ← now
      storageStep fun s => s.updateVmPhase now vmId phase hypervisorId ip error
      return .ok
  | .deleteVmIntent vmId => do
      let now ← now
      storageStep fun s => s.deleteVmIntent now vmId
      return .ok
  | .placeVm vmId hypervisorId subnetId ip mac generation =>
      placeVm vmId hypervisorId subnetId ip mac generation
  | .removeVm vmId => removeVm vmId
  | .rescheduleVm vmId source target generation => rescheduleVm vmId source target generation
  | .setStorageQuota scope maxVolumes maxTotalGb maxSnapshots =>
      setStorageQuota scope ⟨maxVolumes, maxTotalGb, maxSnapshots⟩
  | .setStorageConfig region zone config => setStorageConfig region zone config
  | .purgeTombstones now maxAgeSecs => purgeTombstones now maxAgeSecs
  | .createVolume id name sizeGb orgId projectId envId volumeType hypervisorId zone => do
      let vol ← onVolume fun s =>
        s.createVolume id name sizeGb orgId projectId envId volumeType hypervisorId zone
      return .created vol.id
  | .deleteVolume volumeId cascade deletedAt => deleteVolume volumeId cascade deletedAt
  | .volumeAttach volumeId vmId hypervisorId => do
      let _ ← onVolume fun s => s.volumeAttach volumeId vmId hypervisorId
      return .ok
  | .volumeDetach volumeId => do
      let _ ← onVolume fun s => s.volumeDetach volumeId
      return .ok
  | .rescheduleVolume volumeId fromHypervisor toHypervisor newVmId => do
      let _ ← onVolume fun s => s.rescheduleVolume volumeId fromHypervisor toHypervisor newVmId
      return .ok
  | .migrateVolumeToZone volumeId sourceZone targetZone targetHypervisor targetVmId => do
      let _ ← onVolume fun s =>
        s.migrateVolumeToZone volumeId sourceZone targetZone targetHypervisor targetVmId
      return .ok
  | .completeMigration volumeId => do
      let _ ← onVolume fun s => s.completeMigration volumeId
      return .ok
  | .rollbackMigration volumeId _ => do
      let _ ← onVolume fun s => s.rollbackMigration volumeId
      return .ok
  | .resizeVolume volumeId newSizeGb => do
      let _ ← onVolume fun s => s.resizeVolume volumeId newSizeGb
      return .ok
  | .createSnapshot id sourceVolumeId sstFiles walPosition => do
      storageStep fun s => s.createSnapshot id sourceVolumeId sstFiles walPosition
      return .created id
  | .deleteSnapshot snapshotId => do
      storageStep fun s => s.deleteSnapshot snapshotId
      return .ok
  | .commitManifest volumeId generation manifestVersion s3Key publishedBy => do
      storageStep fun s =>
        s.commitManifest volumeId generation manifestVersion s3Key publishedBy
      return .ok
  | .restoreSnapshot snapshotId newVolumeId newVolumeName => do
      let vol ← onVolume fun s => s.restoreSnapshot snapshotId newVolumeId newVolumeName
      return .created vol.id
  | .markRestoreBegin snapshotId => do
      storageStep fun s => s.markRestoreBegin snapshotId
      return .ok
  | .markRestoreComplete snapshotId => do
      storageStep fun s => .ok (s.markRestoreComplete snapshotId)
      return .ok
  | .gcCompleteSsts sstKeys => do
      storageStep fun s => .ok (s.gcCompleteSsts sstKeys)
      return .ok
  | .gcCompleteWalSegments belowPosition => do
      storageStep fun s => .ok (s.gcCompleteWalSegments belowPosition)
      return .ok

/-- The response of a handler; what it throws becomes the error response. -/
def respond : Except String StateMachineResponse → StateMachineResponse
  | .ok response => response
  | .error msg => .error msg

def applySingle (c : Command) (r : Replica) : StateMachineResponse × Replica :=
  (respond (handle c r).1, (handle c r).2)

def applyCommand : StateMachineCommand → Replica → StateMachineResponse × Replica :=
  Batch.apply applySingle StateMachineResponse.replies

def applyLog : List StateMachineCommand → Replica → List StateMachineResponse × Replica :=
  Batch.applyLog applySingle StateMachineResponse.replies

abbrev Step := Exec Replica Command StateMachineResponse

/-- The commands a log executes, composites unfolded up to their first error. -/
def executed : List StateMachineCommand → Replica → List Step :=
  Batch.executed applySingle StateMachineResponse.replies

end Syfrah
