import Syfrah.Org.Store

/-!
# The persisted mirror of the storage state

Volumes, quotas and configurations of the state machine are copied to these tables for the read
path, with two index tables from environments and hypervisors to volume identifiers. The mirror has
its own record types.
-/

namespace Syfrah

namespace StorageStore

inductive VolumeType
  | root
  | data
deriving DecidableEq

inductive VolumeState
  | creating
  | available
  | attaching
  | attached
  | detaching
  | resizing
  | migrating
  | deleting
  | deleted
  | error
deriving DecidableEq

structure Volume where
  id : String
  name : String
  sizeGb : ℕ
  orgId : String
  projectId : String
  envId : String
  volumeType : VolumeType
  state : VolumeState
  attachedVmId : Option String
  attachedHypervisorId : Option String
  placementGeneration : ℕ
  createdAt : ℕ
  updatedAt : ℕ
deriving DecidableEq

structure Snapshot where
  id : String
  sourceVolumeId : String
  sstFiles : List String
  walPosition : ℕ
  createdAt : ℕ
deriving DecidableEq

structure ManifestPointer where
  volumeId : String
  generation : ℕ
  manifestVersion : ℕ
  s3Key : String
deriving DecidableEq

structure StorageQuota where
  maxVolumes : ℕ
  maxTotalGb : ℕ
  maxSnapshots : ℕ
deriving DecidableEq

structure StorageConfig where
  s3Endpoint : String
  s3Bucket : String
  s3AccessKey : String
  s3SecretKey : String
  cacheDiskPath : String
  cacheDiskSizeGb : ℕ
  cacheMemorySizeGb : ℕ
deriving DecidableEq

end StorageStore

inductive StorageTable
  | volumes
  | snapshots
  | storageConfig
  | storageQuotas
  | sstRefcounts
  | manifestPointers
  | volumesByEnv
  | volumesByHypervisor
deriving DecidableEq

namespace StorageTable

abbrev Row : StorageTable → Type
  | volumes => StorageStore.Volume
  | snapshots => StorageStore.Snapshot
  | storageConfig => StorageStore.StorageConfig
  | storageQuotas => StorageStore.StorageQuota
  | sstRefcounts => ℕ
  | manifestPointers => StorageStore.ManifestPointer
  | volumesByEnv | volumesByHypervisor => List String

def name : StorageTable → String
  | volumes => "volumes"
  | snapshots => "snapshots"
  | storageConfig => "storage_config"
  | storageQuotas => "storage_quotas"
  | sstRefcounts => "sst_refcounts"
  | manifestPointers => "manifest_pointers"
  | volumesByEnv => "volumes_by_env"
  | volumesByHypervisor => "volumes_by_hypervisor"

def tableNames : List StorageTable :=
  [volumes, snapshots, storageConfig, storageQuotas, sstRefcounts, manifestPointers, volumesByEnv,
    volumesByHypervisor]

end StorageTable

abbrev StorageDb := LayerDb StorageTable.Row

abbrev StorageStoreM (α : Type) := StoreM StorageTable.Row OrgError α

namespace StorageStore

inductive Index
  | env
  | hypervisor
deriving DecidableEq

def indexed (db : StorageDb) : Index → String → List String
  | .env, key => (db.get .volumesByEnv key).getD []
  | .hypervisor, key => (db.get .volumesByHypervisor key).getD []

def setIndex : Index → String → List String → StorageStoreM Unit
  | .env, key, ids => dbSet .volumesByEnv key ids
  | .hypervisor, key, ids => dbSet .volumesByHypervisor key ids

def deleteIndex : Index → String → StorageStoreM Unit
  | .env, key => do
      let _ ← dbDelete .volumesByEnv key
  | .hypervisor, key => do
      let _ ← dbDelete .volumesByHypervisor key

/-- List a volume under a key, unless it is listed already. -/
def addToIndex (index : Index) (key volumeId : String) : StorageStoreM Unit := do
  let ids ← query fun db => indexed db index key
  if ids.contains volumeId then pure () else setIndex index key (ids ++ [volumeId])

/-- Take a volume out of the list under a key; an empty list is deleted. -/
def removeFromIndex (index : Index) (key volumeId : String) : StorageStoreM Unit := do
  let ids ← query fun db => (indexed db index key).filter fun id => id != volumeId
  if ids.isEmpty then deleteIndex index key else setIndex index key ids

def addToEnvIndex : String → String → StorageStoreM Unit := addToIndex .env

def removeFromEnvIndex : String → String → StorageStoreM Unit := removeFromIndex .env

def addToHypervisorIndex : String → String → StorageStoreM Unit := addToIndex .hypervisor

def removeFromHypervisorIndex : String → String → StorageStoreM Unit := removeFromIndex .hypervisor

def getVolume (db : StorageDb) (id : String) : Option Volume := db.get .volumes id

def createVolume (vol : Volume) : StorageStoreM Unit := do
  Tx.rejectIf (← dbExists .volumes vol.id) (.alreadyExists vol.id)
  dbSet .volumes vol.id vol
  addToEnvIndex vol.envId vol.id

def updateVolume (vol : Volume) : StorageStoreM Unit := do
  Tx.rejectIf (!(← dbExists .volumes vol.id)) (.notFound s!"volume '{vol.id}'")
  dbSet .volumes vol.id vol

/-- Take a volume out of the index of the hypervisor it was on, if any. -/
def removeAttachment (hypervisorId : Option String) (volumeId : String) : StorageStoreM Unit :=
  match hypervisorId with
  | some hvId => removeFromHypervisorIndex hvId volumeId
  | none => pure ()

/-- Delete a volume with its index entries and its manifest pointer. -/
def deleteVolume (id : String) : StorageStoreM Unit := do
  let vol : Volume ← Tx.orThrow (← dbGet .volumes id) (.notFound s!"volume '{id}'")
  removeFromEnvIndex vol.envId id
  removeAttachment vol.attachedHypervisorId id
  let _ ← dbDelete .volumes id
  let _ ← dbDelete .manifestPointers id

def setStorageConfig (region : String) (config : StorageConfig) : StorageStoreM Unit :=
  dbSet .storageConfig region config

def setStorageQuota (scope : String) (quota : StorageQuota) : StorageStoreM Unit :=
  dbSet .storageQuotas scope quota

end StorageStore

end Syfrah
