import Syfrah.ControlPlane.StorageState
import Syfrah.Org.Network
import Syfrah.Org.Ipam
import Syfrah.Org.Compute
import Syfrah.Org.StorageStore
import Syfrah.Lib.SipHash

/-!
# The state machine record and access to its stores

A replica is the state machine together with the outside of its node. Command handlers work on a
replica; a store operation is run on the store it belongs to, and the stores other than the
organisation store may be missing.
-/

namespace Syfrah

/-! ### Raft bookkeeping -/

structure LogId where
  leaderId : String
  index : ℕ
deriving DecidableEq

structure Membership where
  configs : List (List ℕ)
  nodes : List (ℕ × String)
deriving DecidableEq

structure StoredMembership where
  logId : Option LogId := none
  membership : Membership := ⟨[], []⟩
deriving DecidableEq

/-- The last applied entry and the last membership. -/
structure SmState where
  lastAppliedLog : Option LogId := none
  lastMembership : StoredMembership := {}
deriving DecidableEq

/-- A change of a placement, as sent to the subscribers. -/
inductive PlacementEvent
  | added (vpcId vmId vmMac vmIp subnetId hypervisorId : String)
  | removed (vpcId vmId vmMac vmIp hypervisorId : String)
deriving DecidableEq

/-! ### The stores as one family -/

inductive StoreName
  | org
  | ipam
  | placement
  | sgRule
  | hypervisor
  | storage
deriving DecidableEq

namespace StoreName

def TableOf : StoreName → Type
  | org => OrgTable
  | ipam => IpamTable
  | placement => PlacementTable
  | sgRule => SgRuleTable
  | hypervisor => HypervisorTable
  | storage => StorageTable

instance : (n : StoreName) → DecidableEq n.TableOf
  | org => inferInstanceAs (DecidableEq OrgTable)
  | ipam => inferInstanceAs (DecidableEq IpamTable)
  | placement => inferInstanceAs (DecidableEq PlacementTable)
  | sgRule => inferInstanceAs (DecidableEq SgRuleTable)
  | hypervisor => inferInstanceAs (DecidableEq HypervisorTable)
  | storage => inferInstanceAs (DecidableEq StorageTable)

def Row : (n : StoreName) → n.TableOf → Type
  | org => OrgTable.Row
  | ipam => IpamTable.Row
  | placement => PlacementTable.Row
  | sgRule => SgRuleTable.Row
  | hypervisor => HypervisorTable.Row
  | storage => StorageTable.Row

end StoreName

/-! ### Snapshots as data -/

/-- A stored record with the table it comes from: what the raw bytes of a record stand for. -/
inductive RawRow
  | org (t : OrgTable) (row : t.Row)
  | ipam (t : IpamTable) (row : t.Row)
  | placement (t : PlacementTable) (row : t.Row)
  | sgRule (t : SgRuleTable) (row : t.Row)
  | hypervisor (t : HypervisorTable) (row : t.Row)
  | storage (t : StorageTable) (row : t.Row)

structure FullSnapshotData where
  smState : SmState
  tables : Table (List (String × RawRow))
  storage : StorageState

/-- What the bytes of a snapshot decode to: the full data, only the Raft bookkeeping of the older
format, or nothing. -/
inductive SnapshotBytes
  | full (data : FullSnapshotData)
  | smState (state : SmState)
  | other

structure SnapshotMeta where
  lastLogId : Option LogId
  lastMembership : StoredMembership
  snapshotId : String
deriving DecidableEq

structure SmSnapshot where
  info : SnapshotMeta
  data : SnapshotBytes

/-! ### The state machine -/

structure RedbStateMachine where
  orgStore : OrgDb
  ipamStore : Option IpamDb := none
  placementStore : Option PlacementDb := none
  sgRuleStore : Option SgRuleDb := none
  hypervisorStore : Option HypervisorDb := none
  storageStore : Option StorageDb := none
  smState : SmState := {}
  currentSnapshot : Option SmSnapshot := none
  snapshotIdx : ℕ := 0
  placementTx : List PlacementEvent := []
  snapshotCount : ℕ := 0
  entriesSinceSnapshot : ℕ := 0
  storage : StorageState := {}

namespace RedbStateMachine

/-- A state machine over an organisation store, with no other store and an empty storage state. -/
def new (orgStore : OrgDb) : RedbStateMachine := { orgStore := orgStore }

def store (sm : RedbStateMachine) : (n : StoreName) → Option (LayerDb n.Row)
  | .org => some sm.orgStore
  | .ipam => sm.ipamStore
  | .placement => sm.placementStore
  | .sgRule => sm.sgRuleStore
  | .hypervisor => sm.hypervisorStore
  | .storage => sm.storageStore

def tableOf (sm : RedbStateMachine) (n : StoreName) (t : n.TableOf) : Option (Table (n.Row t)) :=
  (sm.store n).map fun db => db.table t

end RedbStateMachine

structure Replica where
  sm : RedbStateMachine
  ambient : Ambient

def Replica.fresh : Replica := ⟨.new .empty, .steady 0⟩

/-! ### Access to the parts of a replica -/

abbrev Handler (α : Type) := Tx String Replica α

namespace Replica

variable {T : Type} {Row : T → Type} {α : Type}

def orgLens : Tx.Lens Replica (OrgDb × Ambient) where
  get r := (r.sm.orgStore, r.ambient)
  set s r := { sm := { r.sm with orgStore := s.1 }, ambient := s.2 }
  get_set _ _ := rfl
  set_get _ := rfl
  set_set _ _ _ := rfl

def storageLens : Tx.Lens Replica StorageState where
  get r := r.sm.storage
  set s r := { r with sm := { r.sm with storage := s } }
  get_set _ _ := rfl
  set_get _ := rfl
  set_set _ _ _ := rfl

def ipamLens : Tx.Lens RedbStateMachine (Option IpamDb) where
  get sm := sm.ipamStore
  set db sm := { sm with ipamStore := db }
  get_set _ _ := rfl
  set_get _ := rfl
  set_set _ _ _ := rfl

def placementLens : Tx.Lens RedbStateMachine (Option PlacementDb) where
  get sm := sm.placementStore
  set db sm := { sm with placementStore := db }
  get_set _ _ := rfl
  set_get _ := rfl
  set_set _ _ _ := rfl

def sgRuleLens : Tx.Lens RedbStateMachine (Option SgRuleDb) where
  get sm := sm.sgRuleStore
  set db sm := { sm with sgRuleStore := db }
  get_set _ _ := rfl
  set_get _ := rfl
  set_set _ _ _ := rfl

def hypervisorLens : Tx.Lens RedbStateMachine (Option HypervisorDb) where
  get sm := sm.hypervisorStore
  set db sm := { sm with hypervisorStore := db }
  get_set _ _ := rfl
  set_get _ := rfl
  set_set _ _ _ := rfl

def org (m : OrgM α) : Handler α := Tx.mapError OrgError.display (Tx.zoom orgLens m)

/-- Run an operation of a store that may be missing. -/
def onStore (l : Tx.Lens RedbStateMachine (Option (LayerDb Row))) (missing : String)
    (m : StoreM Row OrgError α) : Handler α := fun r =>
  match l.get r.sm with
  | none => (.error missing, r)
  | some db =>
    let (result, (db, ambient)) := m (db, r.ambient)
    (result.mapError OrgError.display, { sm := l.set (some db) r.sm, ambient := ambient })

def ipam (m : IpamM α) : Handler α :=
  onStore ipamLens "IPAM store not available in state machine" m

def placement (m : PlacementM α) : Handler α :=
  onStore placementLens "placement store not available in state machine" m

def sgRule (m : SgRuleM α) : Handler α :=
  onStore sgRuleLens "SG rule store not available in state machine" m

def hypervisor (m : HypervisorM α) : Handler α :=
  onStore hypervisorLens "hypervisor store not available in state machine" m

def storageOp (f : StorageState → Except String (α × StorageState)) : Handler α :=
  Tx.zoom storageLens (Tx.attempt f)

/-- A storage command that returns nothing but the new state. -/
def storageStep (f : StorageState → Except String StorageState) : Handler Unit :=
  storageOp fun s => (f s).map fun s' => ((), s')

/-- Seconds since the epoch, read by the state machine itself. -/
def now : Handler ℕ :=
  Tx.take fun r => (r.ambient.nowSecs.1, { r with ambient := r.ambient.nowSecs.2 })

/-- The order of the next hash map that is iterated. -/
def nextOrder : Handler HashOrder :=
  Tx.take fun r => (r.ambient.nextOrder.1, { r with ambient := r.ambient.nextOrder.2 })

def emit (event : PlacementEvent) : Handler Unit :=
  Tx.write fun r => { r with sm := { r.sm with placementTx := r.sm.placementTx ++ [event] } }

/-! ### The storage mirror -/

/-- Run an operation of the mirror, when there is one; its errors are only logged. -/
def mirror (m : StorageStoreM Unit) : Handler Unit := fun r =>
  match r.sm.storageStore with
  | none => (.ok (), r)
  | some db =>
    let (_, (db, ambient)) := m (db, r.ambient)
    (.ok (), { sm := { r.sm with storageStore := some db }, ambient := ambient })

def storeVolumeType : VolumeType → StorageStore.VolumeType
  | .root => .root
  | .data => .data

def storeVolumeState : VolumeState → StorageStore.VolumeState
  | .available => .available
  | .attached => .attached
  | .migrating => .migrating
  | .deleted => .deleted

/-- The mirrored record of a volume, with its timestamps. -/
def storeVolume (vol : VolumeRecord) (createdAt updatedAt : ℕ) : StorageStore.Volume :=
  { id := vol.id
    name := vol.name
    sizeGb := vol.sizeGb
    orgId := vol.orgId
    projectId := vol.projectId
    envId := vol.envId
    volumeType := storeVolumeType vol.volumeType
    state := storeVolumeState vol.state
    attachedVmId := vol.attachedVmId
    attachedHypervisorId := vol.attachedHypervisorId
    placementGeneration := vol.placementGeneration
    createdAt := createdAt
    updatedAt := updatedAt }

/-- Add a volume to the index of the hypervisor it is on, if any. -/
def addAttachment (hypervisorId : Option String) (volumeId : String) : StorageStoreM Unit :=
  match hypervisorId with
  | some hvId => StorageStore.addToHypervisorIndex hvId volumeId
  | none => pure ()

/-- Keep the index by hypervisor in step with a change of the hypervisor. -/
def moveAttachment (oldHv newHv : Option String) (volumeId : String) : StorageStoreM Unit :=
  if oldHv = newHv then pure ()
  else do
    StorageStore.removeAttachment oldHv volumeId
    addAttachment newHv volumeId

def upsertVolume (vol : VolumeRecord) : StorageStoreM Unit := do
  let now ← nowSecs
  let existing ← query fun db => StorageStore.getVolume db vol.id
  moveAttachment (existing.bind (·.attachedHypervisorId)) vol.attachedHypervisorId vol.id
  match existing with
  | some old => StorageStore.updateVolume (storeVolume vol old.createdAt now)
  | none => StorageStore.createVolume (storeVolume vol now now)

def syncVolumeToStore (vol : VolumeRecord) : Handler Unit := mirror (upsertVolume vol)

def syncVolumeDeleteFromStore (volumeId : VolumeId) : Handler Unit :=
  mirror (StorageStore.deleteVolume volumeId)

def syncStorageConfigToStore (zone : String) (config : StorageConfig) : Handler Unit :=
  mirror (StorageStore.setStorageConfig zone
    { s3Endpoint := config.s3Endpoint
      s3Bucket := config.s3Bucket
      s3AccessKey := config.s3AccessKey
      s3SecretKey := config.s3SecretKey
      cacheDiskPath := config.cacheDiskPath
      cacheDiskSizeGb := config.cacheDiskSizeGb
      cacheMemorySizeGb := config.cacheMemorySizeGb })

def syncQuotaToStore (scope : QuotaScope) (quota : StorageQuota) : Handler Unit :=
  mirror (StorageStore.setStorageQuota (StorageState.quotaKey scope)
    { maxVolumes := quota.maxVolumes
      maxTotalGb := quota.maxTotalGb
      maxSnapshots := quota.maxSnapshots })

end Replica

end Syfrah
