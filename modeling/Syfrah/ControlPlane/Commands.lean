import Syfrah.Lib.Run
import Syfrah.Org.Types

/-!
# Commands and responses of the replicated state machine
-/

namespace Syfrah

abbrev VolumeId := String
abbrev SnapshotId := String
abbrev VmId := String
abbrev EnvId := String

/-- A root volume lives with its VM, a data volume on its own. -/
inductive VolumeType
  | root
  | data
deriving DecidableEq

structure StorageConfig where
  s3Endpoint : String
  s3Bucket : String
  s3AccessKey : String
  s3SecretKey : String
  cacheDiskPath : String
  cacheDiskSizeGb : ℕ
  cacheMemorySizeGb : ℕ
deriving DecidableEq

namespace StorageConfig

def validate (config : StorageConfig) : Except String Unit :=
  if !Text.startsWith config.s3Endpoint "https://" && !Text.startsWith config.s3Endpoint "http://"
  then .error "s3_endpoint must start with https:// or http://"
  else if config.s3Bucket.isEmpty then .error "s3_bucket must not be empty"
  else if config.s3AccessKey.isEmpty then .error "s3_access_key must not be empty"
  else if config.s3SecretKey.isEmpty then .error "s3_secret_key must not be empty"
  else .ok ()

end StorageConfig

inductive QuotaScope
  | org (orgId : OrgId)
  | project (orgId : OrgId) (projectId : ProjectId)
deriving DecidableEq

def QuotaScope.display : QuotaScope → String
  | .org orgId => s!"Org({orgId})"
  | .project orgId projectId => s!"Project({projectId}@{orgId})"

inductive Command
  -- orgs, projects and environments
  | createOrg (name : String)
  | deleteOrg (name : String)
  | createProject (name org : String)
  | deleteProject (name org : String)
  | createEnv (name project org : String) (ttl : Option ℕ) (deletionProtection : Bool)
      (labels : Labels)
  | deleteEnv (name project org : String)
  | extendEnv (name project org : String) (ttlSeconds : ℕ)
  | updateEnv (name project org : String) (deletionProtection : Option Bool)
  -- networks
  | createVpc (name cidr owner : String) (shared : Bool)
  | deleteVpc (name : String)
  | attachVpc (vpc project : String)
  | detachVpc (vpc project : String)
  | peerVpc (vpcA vpcB : String)
  | unpeerVpc (vpcA vpcB : String)
  | createSubnet (name vpc envId : String) (cidr : Option String)
  | deleteSubnet (name vpc : String)
  | allocateIp (subnetId : String)
  | releaseIp (subnetId ip : String)
  -- security groups
  | createSg (name vpc : String)
  | deleteSg (name : String)
  | addSgRule (sg direction protocol : String) (port : Option String) (source : String)
  | removeSgRule (sg ruleId : String)
  | attachSg (sg nicId : String)
  | detachSg (sg nicId : String)
  -- NAT gateways, route tables and routes
  | createNatGw (name vpc subnet : String)
  | deleteNatGw (name : String)
  | createRouteTable (name vpc : String)
  | deleteRouteTable (name : String) (vpc : Option String)
  | associateRouteTable (table subnet : String)
  | disassociateRouteTable (subnet : String)
  | addRoute (vpc : String) (table : Option String) (destination target : String)
      (priority : Option ℕ)
  | deleteRoute (vpc : String) (table : Option String) (destination : String)
  -- network interfaces
  | createNic (vmId subnetId ip mac : String)
  | deleteNic (nicId : String)
  -- hypervisors
  | registerHypervisor (name region zone fabricIpv6 : String)
  | enableHypervisor (name : String)
  | drainHypervisor (name : String)
  | decommissionHypervisor (name : String)
  | updateHypervisorLabels (name : String) (labels : Labels)
  | updateHypervisorTaints (name : String) (taints : List String)
  | updateHypervisorCapacity (name : String) (allocatableVcpus allocatableMemoryMb usedVcpus
      usedMemoryMb : ℕ)
  -- VMs
  | createVmIntent (name image : String) (vcpus memoryMb : ℕ) (zone subnet : Option String)
  | updateVmPhase (vmId phase : String) (hypervisorId ip error : Option String)
  | deleteVmIntent (vmId : String)
  | placeVm (vmId hypervisorId subnetId ip mac : String) (generation : ℕ)
  | removeVm (vmId : String)
  | rescheduleVm (vmId source target : String) (generation : ℕ)
  -- storage
  | setStorageQuota (scope : QuotaScope) (maxVolumes maxTotalGb maxSnapshots : ℕ)
  | setStorageConfig (region zone : String) (config : StorageConfig)
  | purgeTombstones (now maxAgeSecs : ℕ)
  | createVolume (id : VolumeId) (name : String) (sizeGb : ℕ) (orgId : OrgId)
      (projectId : ProjectId) (envId : EnvId) (volumeType : VolumeType)
      (hypervisorId : Option HypervisorId) (zone : Option String)
  | deleteVolume (volumeId : VolumeId) (cascade : Bool) (deletedAt : ℕ)
  | volumeAttach (volumeId : VolumeId) (vmId : VmId) (hypervisorId : HypervisorId)
  | volumeDetach (volumeId : VolumeId)
  | rescheduleVolume (volumeId : VolumeId) (fromHypervisor toHypervisor : HypervisorId)
      (newVmId : VmId)
  | migrateVolumeToZone (volumeId : VolumeId) (sourceZone targetZone : String)
      (targetHypervisor : HypervisorId) (targetVmId : Option VmId)
  | completeMigration (volumeId : VolumeId)
  | rollbackMigration (volumeId : VolumeId) (reason : String)
  | resizeVolume (volumeId : VolumeId) (newSizeGb : ℕ)
  | createSnapshot (id : SnapshotId) (sourceVolumeId : VolumeId) (sstFiles : List String)
      (walPosition : ℕ)
  | deleteSnapshot (snapshotId : SnapshotId)
  | commitManifest (volumeId : VolumeId) (generation manifestVersion : ℕ) (s3Key : String)
      (publishedBy : HypervisorId)
  | restoreSnapshot (snapshotId : SnapshotId) (newVolumeId : VolumeId) (newVolumeName : String)
  | markRestoreBegin (snapshotId : SnapshotId)
  | markRestoreComplete (snapshotId : SnapshotId)
  | gcCompleteSsts (sstKeys : List String)
  | gcCompleteWalSegments (belowPosition : ℕ)

/-- A replicated command: a single one, or a composite of commands. -/
abbrev StateMachineCommand := Batch Command

inductive StateMachineResponse
  | ok
  | created (id : String)
  | error (msg : String)
  | allocatedIp (ip mac : String)
  | composite (results : List StateMachineResponse)

namespace StateMachineResponse

def error? : StateMachineResponse → Option String
  | .error msg => some msg
  | _ => none

def isError (r : StateMachineResponse) : Bool := r.error?.isSome

/-- A composite answers with the responses of its members, or with the first error. -/
def replies : Replies StateMachineResponse where
  error? := error?
  fail msg := .error s!"composite transaction failed: {msg}"
  collect := .composite
  error?_fail _ := rfl
  error?_collect _ := rfl

end StateMachineResponse

end Syfrah
