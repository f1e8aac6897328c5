import Syfrah.ControlPlane.Commands

/-!
# The storage state of the state machine

Volumes, snapshots, reference counts and manifest pointers, held in memory and replicated by the log.
Each storage command is a function from the state to a new state or an error text; a command that
returns an error has written nothing.
-/

namespace Syfrah

structure StorageQuota where
  maxVolumes : ℕ
  maxTotalGb : ℕ
  maxSnapshots : ℕ
deriving DecidableEq

inductive VolumeState
  | available
  | attached
  | migrating
  | deleted
deriving DecidableEq

def VolumeState.debug : VolumeState → String
  | .available => "Available"
  | .attached => "Attached"
  | .migrating => "Migrating"
  | .deleted => "Deleted"

structure VolumeRecord where
  id : VolumeId
  name : String
  sizeGb : ℕ
  orgId : OrgId
  projectId : ProjectId
  envId : EnvId
  volumeType : VolumeType
  state : VolumeState
  attachedVmId : Option VmId
  attachedHypervisorId : Option HypervisorId
  placementGeneration : ℕ
  zone : Option String
  deletionProtection : Bool
  deletedAt : Option ℕ
  migrationSourceZone : Option String
  migrationTargetZone : Option String
  preMigrationHypervisor : Option HypervisorId
  preMigrationVmId : Option VmId
deriving DecidableEq

inductive SnapshotState
  | available
  | deleted
deriving DecidableEq

structure SnapshotRecord where
  id : SnapshotId
  sourceVolumeId : VolumeId
  sstFiles : List String
  walPosition : ℕ
  orgId : OrgId
  projectId : ProjectId
  sizeGb : ℕ
  envId : EnvId
  volumeType : VolumeType
  state : SnapshotState
deriving DecidableEq

structure ManifestPointerRecord where
  volumeId : VolumeId
  generation : ℕ
  manifestVersion : ℕ
  s3Key : String
  publishedBy : HypervisorId
deriving DecidableEq

inductive VmPhase
  | pending
  | scheduling
  | creating
  | starting
  | running
  | stopping
  | stopped
  | failed
  | deleting
deriving DecidableEq

def VmPhase.fromStrLoose : String → Option VmPhase
  | "Pending" => some .pending
  | "Scheduling" => some .scheduling
  | "Creating" => some .creating
  | "Starting" => some .starting
  | "Running" => some .running
  | "Stopping" => some .stopping
  | "Stopped" => some .stopped
  | "Failed" => some .failed
  | "Deleting" => some .deleting
  | _ => none

structure VmRecord where
  id : String
  name : String
  phase : VmPhase
  image : String
  vcpus : ℕ
  memoryMb : ℕ
  zone : Option String
  subnetId : Option String
  hypervisorId : Option String
  ip : Option String
  error : Option String
  createdAt : ℕ
  updatedAt : ℕ
deriving DecidableEq

structure StorageState where
  quotas : Table StorageQuota := ∅
  volumes : Table VolumeRecord := ∅
  snapshots : Table SnapshotRecord := ∅
  sstRefcounts : Table ℕ := ∅
  storageConfigs : Table StorageConfig := ∅
  manifestPointers : Table ManifestPointerRecord := ∅
  pendingGcSsts : List String := []
  restoresInProgress : List SnapshotId := []
  minWalPosition : Option ℕ := none
  vmRecords : Table VmRecord := ∅
deriving DecidableEq

namespace StorageState

def values {α : Type} (t : Table α) : List α := t.toList.map Prod.snd

/-! ### Quotas -/

def quotaKey : QuotaScope → String
  | .org orgId => s!"org:{orgId}"
  | .project orgId projectId => s!"project:{orgId}/{projectId}"

/-- The quota of the project, or else that of the org. -/
def effectiveQuotaFrom (s : StorageState) (orgId : OrgId) (projectId : ProjectId) :
    Option StorageQuota :=
  match s.quotas[quotaKey (.project orgId projectId)]? with
  | some q => some q
  | none => s.quotas[quotaKey (.org orgId)]?

def effectiveQuotaScopeFrom (s : StorageState) (orgId : OrgId) (projectId : ProjectId) :
    QuotaScope :=
  if s.quotas.contains (quotaKey (.project orgId projectId)) then .project orgId projectId
  else .org orgId

def inScope (scope : QuotaScope) (orgId : OrgId) (projectId : ProjectId) : Bool :=
  match scope with
  | .org oid => orgId == oid
  | .project oid pid => orgId == oid && projectId == pid

/-- The volumes of a scope that are not tombstones. -/
def scopeVolumes (s : StorageState) (scope : QuotaScope) : List VolumeRecord :=
  (values s.volumes).filter fun vol =>
    vol.state != .deleted && inScope scope vol.orgId vol.projectId

/-- Number and total size of the volumes of a scope. -/
def computeVolumeUsage (s : StorageState) (scope : QuotaScope) : ℕ × ℕ :=
  ((scopeVolumes s scope).length, ((scopeVolumes s scope).map (·.sizeGb)).sum)

def computeSnapshotCount (s : StorageState) (scope : QuotaScope) : ℕ :=
  ((values s.snapshots).filter fun snap =>
    snap.state != .deleted && inScope scope snap.orgId snap.projectId).length

def quotaExceeded (scope : QuotaScope) (resource : String) (current limit : ℕ) : String :=
  s!"quota exceeded for {scope.display}: {resource} limit is {limit} but current usage is {current}"

def checkVolumeQuota (s : StorageState) (orgId : OrgId) (projectId : ProjectId) (newSizeGb : ℕ) :
    Except String Unit :=
  match effectiveQuotaFrom s orgId projectId with
  | none => .ok ()
  | some quota =>
    let scope := effectiveQuotaScopeFrom s orgId projectId
    let (count, totalGb) := computeVolumeUsage s scope
    if quota.maxVolumes ≤ count then
      .error (quotaExceeded scope "volume_count" count quota.maxVolumes)
    else if quota.maxTotalGb < totalGb + newSizeGb then
      .error (quotaExceeded scope "total_gb" totalGb quota.maxTotalGb)
    else .ok ()

def checkResizeQuota (s : StorageState) (orgId : OrgId) (projectId : ProjectId) (deltaGb : ℕ) :
    Except String Unit :=
  match effectiveQuotaFrom s orgId projectId with
  | none => .ok ()
  | some quota =>
    let scope := effectiveQuotaScopeFrom s orgId projectId
    let totalGb := (computeVolumeUsage s scope).2
    if quota.maxTotalGb < totalGb + deltaGb then
      .error (quotaExceeded scope "total_gb" totalGb quota.maxTotalGb)
    else .ok ()

def checkSnapshotQuota (s : StorageState) (orgId : OrgId) (projectId : ProjectId) :
    Except String Unit :=
  match effectiveQuotaFrom s orgId projectId with
  | none => .ok ()
  | some quota =>
    let scope := effectiveQuotaScopeFrom s orgId projectId
    let count := computeSnapshotCount s scope
    if quota.maxSnapshots ≤ count then
      .error (quotaExceeded scope "snapshot_count" count quota.maxSnapshots)
    else .ok ()

def setStorageQuota (s : StorageState) (scope : QuotaScope) (quota : StorageQuota) : StorageState :=
  { s with quotas := s.quotas.insert (quotaKey scope) quota }

/-- The key of a configuration is the zone, or the region for commands without a zone. -/
def setStorageConfig (s : StorageState) (region zone : String) (config : StorageConfig) :
    Except String (String × StorageState) :=
  let zoneKey := if zone.isEmpty then region else zone
  match config.validate with
  | .error msg => .error s!"invalid storage config for zone {zoneKey}: {msg}"
  | .ok () =>
    if zoneKey.isEmpty then .error "zone (or region) must not be empty"
    else .ok (zoneKey, { s with storageConfigs := s.storageConfigs.insert zoneKey config })

/-! ### Volumes -/

def setVolume (s : StorageState) (id : VolumeId) (vol : VolumeRecord) : StorageState :=
  { s with volumes := s.volumes.insert id vol }

def expiredTombstones (s : StorageState) (now maxAgeSecs : ℕ) : List VolumeId :=
  (s.volumes.toList.filter fun (_, vol) =>
    vol.state == .deleted && vol.deletedAt.any fun deletedAt => maxAgeSecs ≤ now - deletedAt).map
    Prod.fst

def purgeTombstones (s : StorageState) (order : HashOrder) (now maxAgeSecs : ℕ) :
    List VolumeId × StorageState :=
  let purged := order.arrange (s.expiredTombstones now maxAgeSecs)
  (purged, { s with volumes := purged.foldl (fun volumes id => volumes.erase id) s.volumes })

/-- Whether the environment already has a volume of that name, tombstones included. -/
def nameExists (s : StorageState) (name : String) (orgId : OrgId) (projectId : ProjectId)
    (envId : EnvId) : Bool :=
  (values s.volumes).any fun v =>
    v.envId == envId && v.name == name && v.orgId == orgId && v.projectId == projectId

def createVolume (s : StorageState) (id : VolumeId) (name : String) (sizeGb : ℕ) (orgId : OrgId)
    (projectId : ProjectId) (envId : EnvId) (volumeType : VolumeType)
    (hypervisorId : Option HypervisorId) (zone : Option String) :
    Except String (VolumeRecord × StorageState) :=
  match s.checkVolumeQuota orgId projectId sizeGb with
  | .error e => .error e
  | .ok () =>
    if s.nameExists name orgId projectId envId then
      .error s!"volume '{name}' already exists in env '{envId}'"
    else if s.volumes.contains id then
      .error s!"volume with id '{id}' already exists"
    else
      let record : VolumeRecord :=
        { id := id
          name := name
          sizeGb := sizeGb
          orgId := orgId
          projectId := projectId
          envId := envId
          volumeType := volumeType
          state := .available
          attachedVmId := none
          attachedHypervisorId := hypervisorId
          placementGeneration := if hypervisorId.isSome then 1 else 0
          zone := zone
          deletionProtection := false
          deletedAt := none
          migrationSourceZone := none
          migrationTargetZone := none
          preMigrationHypervisor := none
          preMigrationVmId := none }
      .ok (record, s.setVolume id record)

/-- The snapshots of a volume that are not deleted. -/
def liveSnapshotsOf (s : StorageState) (volumeId : VolumeId) : List SnapshotId :=
  (s.snapshots.toList.filter fun (_, snap) =>
    snap.sourceVolumeId == volumeId && snap.state != .deleted).map Prod.fst

/-- The smallest WAL position of the snapshots that are not deleted. -/
def liveMinWal (s : StorageState) : Option ℕ :=
  (((values s.snapshots).filter fun snap => snap.state != .deleted).map (·.walPosition)).min?

/-- Drop a reference to an SST file as a cascading delete does it. -/
def cascadeRelease (s : StorageState) (sst : String) : StorageState :=
  let count := (s.sstRefcounts[sst]?).getD 0
  if count ≤ 1 then
    { s with
      sstRefcounts := s.sstRefcounts.erase sst
      pendingGcSsts := s.pendingGcSsts ++ [sst] }
  else { s with sstRefcounts := s.sstRefcounts.insert sst (count - 1) }

def markSnapshotDeleted (s : StorageState) (id : SnapshotId) : StorageState :=
  match s.snapshots[id]? with
  | some snap => { s with snapshots := s.snapshots.insert id { snap with state := .deleted } }
  | none => s

/-- Delete one snapshot of a cascade: drop its references, then mark it. -/
def cascadeSnapshot (s : StorageState) (snap : SnapshotId × List String) : StorageState :=
  (snap.2.foldl cascadeRelease s).markSnapshotDeleted snap.1

/-- A snapshot with its SST files, unless it is deleted. -/
def liveFiles (s : StorageState) (id : SnapshotId) : Option (SnapshotId × List String) :=
  match s.snapshots[id]? with
  | some snap => if snap.state = .deleted then none else some (id, snap.sstFiles)
  | none => none

/-- Delete the given snapshots and compute the WAL bound again. -/
def cascade (s : StorageState) (snapshotIds : List SnapshotId) : StorageState :=
  let s := (snapshotIds.filterMap s.liveFiles).foldl cascadeSnapshot s
  { s with minWalPosition := s.liveMinWal }

def tombstone (vol : VolumeRecord) (deletedAt : ℕ) : VolumeRecord :=
  { vol with
    state := .deleted
    deletedAt := some deletedAt
    attachedVmId := none
    attachedHypervisorId := none }

/-- A root volume may be deleted while attached, since it cannot be detached. -/
def deleteVolume (s : StorageState) (order : HashOrder) (volumeId : VolumeId) (cascading : Bool)
    (deletedAt : ℕ) : Except String (VolumeRecord × StorageState) :=
  match s.volumes[volumeId]? with
  | none => .error s!"volume not found: {volumeId}"
  | some vol =>
    if vol.state = .attached ∧ vol.volumeType ≠ .root then
      .error s!"volume '{volumeId}' is attached, detach before deleting"
    else if vol.state = .deleted then
      .error s!"volume '{volumeId}' is already deleted"
    else if vol.deletionProtection then
      .error (s!"volume '{volumeId}' has deletion protection enabled. " ++
        s!"Disable it first with: syfrah volume update {volumeId} --no-deletion-protection")
    else
      let snapshotIds := order.arrange (s.liveSnapshotsOf volumeId)
      let blocked := snapshotIds.filter fun id => s.restoresInProgress.contains id
      if !snapshotIds.isEmpty && !cascading then
        .error (s!"volume '{volumeId}' has {snapshotIds.length} snapshot(s). " ++
          "Use --cascade to delete them, or delete snapshots manually first.")
      else if cascading && !blocked.isEmpty then
        .error (s!"cannot cascade-delete volume '{volumeId}': snapshot(s) " ++
          ", ".intercalate (blocked.map fun id => s!"'{id}'") ++ " have restores in progress")
      else
        let s := if cascading then s.cascade snapshotIds else s
        .ok (tombstone vol deletedAt, s.setVolume volumeId (tombstone vol deletedAt))

def volumeAttach (s : StorageState) (volumeId : VolumeId) (vmId : VmId)
    (hypervisorId : HypervisorId) : Except String (VolumeRecord × StorageState) :=
  match s.volumes[volumeId]? with
  | none => .error s!"volume not found: {volumeId}"
  | some vol =>
    if vol.state = .available then
      let vol :=
        { vol with
          state := .attached
          attachedVmId := some vmId
          attachedHypervisorId := some hypervisorId
          placementGeneration := vol.placementGeneration + 1 }
      .ok (vol, s.setVolume volumeId vol)
    else .error s!"volume '{volumeId}' is not available (state: {vol.state.debug})"

/-- Detaching also clears the manifest pointer, so that the next writer starts at version 1. -/
def volumeDetach (s : StorageState) (volumeId : VolumeId) :
    Except String (VolumeRecord × StorageState) :=
  match s.volumes[volumeId]? with
  | none => .error s!"volume not found: {volumeId}"
  | some vol =>
    if vol.volumeType = .root then
      .error (s!"cannot detach root volume '{volumeId}': " ++
        "root volumes are tied to their VM lifecycle")
    else if vol.state = .attached then
      let vol :=
        { vol with
          state := .available
          attachedVmId := none
          attachedHypervisorId := none }
      .ok (vol, { s.setVolume volumeId vol with
        manifestPointers := s.manifestPointers.erase volumeId })
    else .error s!"volume '{volumeId}' is not attached (state: {vol.state.debug})"

/-- An optional hypervisor as a debugging print shows it. -/
def debugHypervisor : Option HypervisorId → String
  | none => "None"
  | some id => "Some(HypervisorId(" ++ Text.debug id ++ "))"

def rescheduleVolume (s : StorageState) (volumeId : VolumeId)
    (fromHypervisor toHypervisor : HypervisorId) (newVmId : VmId) :
    Except String (VolumeRecord × StorageState) :=
  if fromHypervisor = toHypervisor then
    .error s!"cannot reschedule volume '{volumeId}' to the same hypervisor '{fromHypervisor}'"
  else
    match s.volumes[volumeId]? with
    | none => .error s!"volume not found: {volumeId}"
    | some vol =>
      if vol.state = .attached then
        if vol.attachedHypervisorId ≠ some fromHypervisor then
          .error (s!"volume '{volumeId}' is not on hypervisor '{fromHypervisor}' (actual: " ++
            debugHypervisor vol.attachedHypervisorId ++ ")")
        else
          let vol :=
            { vol with
              placementGeneration := vol.placementGeneration + 1
              attachedHypervisorId := some toHypervisor
              attachedVmId := some newVmId }
          .ok (vol, s.setVolume volumeId vol)
      else .error (s!"volume '{volumeId}' is not attached (state: {vol.state.debug}), " ++
        "cannot reschedule")

def migrateVolumeToZone (s : StorageState) (volumeId : VolumeId) (sourceZone targetZone : String)
    (targetHypervisor : HypervisorId) (targetVmId : Option VmId) :
    Except String (VolumeRecord × StorageState) :=
  if sourceZone = targetZone then
    .error s!"cannot migrate volume '{volumeId}' to the same zone '{sourceZone}'"
  else if !s.storageConfigs.contains sourceZone then
    .error s!"source zone storage config not found: '{sourceZone}'"
  else if !s.storageConfigs.contains targetZone then
    .error s!"target zone storage config not found: '{targetZone}'"
  else
    match s.volumes[volumeId]? with
    | none => .error s!"volume not found: {volumeId}"
    | some vol =>
      if vol.state = .available then
        let vol :=
          { vol with
            preMigrationHypervisor := vol.attachedHypervisorId
            preMigrationVmId := vol.attachedVmId
            state := .migrating
            migrationSourceZone := some sourceZone
            migrationTargetZone := some targetZone
            attachedHypervisorId := some targetHypervisor
            attachedVmId := targetVmId
            placementGeneration := vol.placementGeneration + 1 }
        .ok (vol, s.setVolume volumeId vol)
      else .error s!"volume '{volumeId}' must be available to migrate (state: {vol.state.debug})"

def completeMigration (s : StorageState) (volumeId : VolumeId) :
    Except String (VolumeRecord × StorageState) :=
  match s.volumes[volumeId]? with
  | none => .error s!"volume not found: {volumeId}"
  | some vol =>
    if vol.state = .migrating then
      let vol :=
        { vol with
          state := .available
          migrationSourceZone := none
          migrationTargetZone := none
          preMigrationHypervisor := none
          preMigrationVmId := none }
      .ok (vol, s.setVolume volumeId vol)
    else .error (s!"volume '{volumeId}' is not migrating (state: {vol.state.debug}), " ++
      "cannot complete migration")

/-- Rolling back hands the volume back to where it was before the migration. -/
def rollbackMigration (s : StorageState) (volumeId : VolumeId) :
    Except String (VolumeRecord × StorageState) :=
  match s.volumes[volumeId]? with
  | none => .error s!"volume not found: {volumeId}"
  | some vol =>
    if vol.state = .migrating then
      let vol :=
        { vol with
          attachedHypervisorId := vol.preMigrationHypervisor
          preMigrationHypervisor := none
          attachedVmId := vol.preMigrationVmId
          preMigrationVmId := none
          state := .available
          migrationSourceZone := none
          migrationTargetZone := none }
      .ok (vol, s.setVolume volumeId vol)
    else .error (s!"volume '{volumeId}' is not migrating (state: {vol.state.debug}), " ++
      "cannot rollback")

def resizeVolume (s : StorageState) (volumeId : VolumeId) (newSizeGb : ℕ) :
    Except String (VolumeRecord × StorageState) :=
  match s.volumes[volumeId]? with
  | none => .error s!"volume not found: {volumeId}"
  | some vol =>
    if vol.state = .available then
      if newSizeGb ≤ vol.sizeGb then
        .error (s!"cannot shrink volume '{volumeId}': current {vol.sizeGb}GB, " ++
          s!"requested {newSizeGb}GB")
      else
        match s.checkResizeQuota vol.orgId vol.projectId (newSizeGb - vol.sizeGb) with
        | .error e => .error e
        | .ok () =>
          let vol := { vol with sizeGb := newSizeGb }
          .ok (vol, s.setVolume volumeId vol)
    else .error s!"volume '{volumeId}' must be available to resize (state: {vol.state.debug})"

def volumesOfVm (s : StorageState) (vmId : VmId) (hypervisorId : HypervisorId) : List VolumeId :=
  (s.volumes.toList.filter fun (_, vol) =>
    vol.state == .attached && vol.attachedVmId == some vmId &&
      vol.attachedHypervisorId == some hypervisorId).map Prod.fst

/-- Move one volume to another hypervisor, with a new generation. -/
def moveVolume (target : HypervisorId) (acc : List VolumeRecord × StorageState) (id : VolumeId) :
    List VolumeRecord × StorageState :=
  match acc.2.volumes[id]? with
  | none => acc
  | some vol =>
    let vol :=
      { vol with
        placementGeneration := vol.placementGeneration + 1
        attachedHypervisorId := some target }
    (acc.1 ++ [vol], acc.2.setVolume id vol)

def rescheduleVm (s : StorageState) (order : HashOrder) (vmId : VmId)
    (source target : HypervisorId) : List VolumeRecord × StorageState :=
  (order.arrange (s.volumesOfVm vmId source)).foldl (moveVolume target) ([], s)

/-! ### Snapshots and manifests -/

def incrementSst (counts : Table ℕ) (sst : String) : Table ℕ :=
  counts.insert sst ((counts[sst]?).getD 0 + 1)

/-- The bound of retained WAL positions after a new snapshot. -/
def lowerWal (minWal : Option ℕ) (walPosition : ℕ) : ℕ :=
  match minWal with
  | some existing => min existing walPosition
  | none => walPosition

def createSnapshot (s : StorageState) (id : SnapshotId) (sourceVolumeId : VolumeId)
    (sstFiles : List String) (walPosition : ℕ) : Except String StorageState :=
  match s.volumes[sourceVolumeId]? with
  | none => .error s!"source volume not found: {sourceVolumeId}"
  | some vol =>
    match s.checkSnapshotQuota vol.orgId vol.projectId with
    | .error e => .error e
    | .ok () =>
      if s.snapshots.contains id then .error s!"snapshot with id '{id}' already exists"
      else
        let record : SnapshotRecord :=
          { id := id
            sourceVolumeId := sourceVolumeId
            sstFiles := sstFiles
            walPosition := walPosition
            orgId := vol.orgId
            projectId := vol.projectId
            sizeGb := vol.sizeGb
            envId := vol.envId
            volumeType := vol.volumeType
            state := .available }
        .ok { s with
          sstRefcounts := sstFiles.foldl incrementSst s.sstRefcounts
          snapshots := s.snapshots.insert id record
          minWalPosition := some (lowerWal s.minWalPosition walPosition) }

/-- Drop a reference to an SST file as the deletion of one snapshot does it. -/
def decrementSst (s : StorageState) (sst : String) : StorageState :=
  match s.sstRefcounts[sst]? with
  | none => s
  | some count =>
    if count - 1 = 0 then
      { s with
        sstRefcounts := s.sstRefcounts.erase sst
        pendingGcSsts := s.pendingGcSsts ++ [sst] }
    else { s with sstRefcounts := s.sstRefcounts.insert sst (count - 1) }

def deleteSnapshot (s : StorageState) (snapshotId : SnapshotId) : Except String StorageState :=
  if s.restoresInProgress.contains snapshotId then
    .error s!"cannot delete snapshot '{snapshotId}': restore is in progress"
  else
    match s.snapshots[snapshotId]? with
    | none => .error s!"snapshot not found: {snapshotId}"
    | some snap =>
      if snap.state = .deleted then .error s!"snapshot '{snapshotId}' is already deleted"
      else
        let s := (snap.sstFiles.foldl decrementSst s).markSnapshotDeleted snapshotId
        .ok { s with minWalPosition := s.liveMinWal }

/-- Commit a manifest: the volume is attached, the generation and the publisher are those of its
assignment, and the version is the next one. -/
def commitManifest (s : StorageState) (volumeId : VolumeId) (generation manifestVersion : ℕ)
    (s3Key : String) (publishedBy : HypervisorId) : Except String StorageState :=
  match s.volumes[volumeId]? with
  | none => .error s!"volume not found: {volumeId}"
  | some vol =>
    let assignedHv := vol.attachedHypervisorId.getD ""
    let lastVersion := (s.manifestPointers[volumeId]?.map (·.manifestVersion)).getD 0
    if vol.state ≠ .attached then
      .error s!"volume '{volumeId}' is not attached (state: {vol.state.debug})"
    else if generation ≠ vol.placementGeneration then
      .error (s!"generation mismatch for volume '{volumeId}': " ++
        s!"expected {vol.placementGeneration}, got {generation}")
    else if publishedBy ≠ assignedHv then
      .error (s!"wrong publisher for volume '{volumeId}': " ++
        s!"expected '{assignedHv}', got '{publishedBy}'")
    else if manifestVersion ≠ lastVersion + 1 then
      .error (s!"manifest version gap for volume '{volumeId}': " ++
        s!"expected {lastVersion + 1}, got {manifestVersion}")
    else
      let pointer : ManifestPointerRecord :=
        { volumeId := volumeId
          generation := generation
          manifestVersion := manifestVersion
          s3Key := s3Key
          publishedBy := publishedBy }
      .ok { s with manifestPointers := s.manifestPointers.insert volumeId pointer }

def restoreSnapshot (s : StorageState) (snapshotId : SnapshotId) (newVolumeId : VolumeId)
    (newVolumeName : String) : Except String (VolumeRecord × StorageState) :=
  match s.snapshots[snapshotId]? with
  | none => .error s!"snapshot not found: {snapshotId}"
  | some snap =>
    if snap.state = .deleted then .error s!"cannot restore from deleted snapshot '{snapshotId}'"
    else
      match s.checkVolumeQuota snap.orgId snap.projectId snap.sizeGb with
      | .error e => .error e
      | .ok () =>
        if s.nameExists newVolumeName snap.orgId snap.projectId snap.envId then
          .error s!"volume '{newVolumeName}' already exists in env '{snap.envId}'"
        else if s.volumes.contains newVolumeId then
          .error s!"volume with id '{newVolumeId}' already exists"
        else
          let record : VolumeRecord :=
            { id := newVolumeId
              name := newVolumeName
              sizeGb := snap.sizeGb
              orgId := snap.orgId
              projectId := snap.projectId
              envId := snap.envId
              volumeType := snap.volumeType
              state := .available
              attachedVmId := none
              attachedHypervisorId := none
              placementGeneration := 0
              zone := none
              deletionProtection := false
              deletedAt := none
              migrationSourceZone := none
              migrationTargetZone := none
              preMigrationHypervisor := none
              preMigrationVmId := none }
          let pointer : ManifestPointerRecord :=
            { volumeId := newVolumeId
              generation := 0
              manifestVersion := 1
              s3Key := s!"snapshots/{snapshotId}/manifest.json"
              publishedBy := s!"restore:{snapshotId}" }
          .ok (record, { s.setVolume newVolumeId record with
            sstRefcounts := snap.sstFiles.foldl incrementSst s.sstRefcounts
            manifestPointers := s.manifestPointers.insert newVolumeId pointer })

def markRestoreBegin (s : StorageState) (snapshotId : SnapshotId) : Except String StorageState :=
  if !s.snapshots.contains snapshotId then .error s!"snapshot not found: {snapshotId}"
  else if s.restoresInProgress.contains snapshotId then .ok s
  else .ok { s with restoresInProgress := s.restoresInProgress ++ [snapshotId] }

def markRestoreComplete (s : StorageState) (snapshotId : SnapshotId) : StorageState :=
  { s with restoresInProgress := s.restoresInProgress.filter fun id => id != snapshotId }

def gcCompleteSsts (s : StorageState) (sstKeys : List String) : StorageState :=
  { s with pendingGcSsts := s.pendingGcSsts.filter fun key => !sstKeys.contains key }

/-- The acknowledgement raises the bound without looking at the snapshots. -/
def gcCompleteWalSegments (s : StorageState) (belowPosition : ℕ) : StorageState :=
  if s.minWalPosition.all fun p => p < belowPosition then
    { s with minWalPosition := some belowPosition }
  else s

/-! ### VM records -/

def createVmIntent (s : StorageState) (now : ℕ) (name image : String) (vcpus memoryMb : ℕ)
    (zone subnet : Option String) : Except String StorageState :=
  if s.vmRecords.contains name then .error s!"VM already exists: {name}"
  else
    let record : VmRecord :=
      { id := name
        name := name
        phase := .pending
        image := image
        vcpus := vcpus
        memoryMb := memoryMb
        zone := zone
        subnetId := subnet
        hypervisorId := none
        ip := none
        error := none
        createdAt := now
        updatedAt := now }
    .ok { s with vmRecords := s.vmRecords.insert name record }

def updateVmPhase (s : StorageState) (now : ℕ) (vmId phase : String)
    (hypervisorId ip error : Option String) : Except String StorageState :=
  match VmPhase.fromStrLoose phase with
  | none => .error s!"unknown VM phase: {phase}"
  | some newPhase =>
    match s.vmRecords[vmId]? with
    | none => .error s!"VM not found: {vmId}"
    | some record =>
      let record :=
        { record with
          phase := newPhase
          hypervisorId := hypervisorId <|> record.hypervisorId
          ip := ip <|> record.ip
          error := error <|> record.error
          updatedAt := now }
      .ok { s with vmRecords := s.vmRecords.insert vmId record }

def deleteVmIntent (s : StorageState) (now : ℕ) (vmId : String) : Except String StorageState :=
  match s.vmRecords[vmId]? with
  | none => .error s!"VM not found: {vmId}"
  | some record =>
    let record := { record with phase := .deleting, updatedAt := now }
    .ok { s with vmRecords := s.vmRecords.insert vmId record }

end StorageState

end Syfrah
