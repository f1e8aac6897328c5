import Syfrah.Proof.Frame
import Syfrah.Lib.TreeMap

/-!
# The storage transitions

`StorageStep` lists all that a command can do to the storage state, with the guards that were met and
the response that goes with it. Every applied command is such a step (`storageStep_applySingle`), and
the invariants of the storage state are proved from the list alone.
-/

namespace Syfrah

open StorageState

namespace Command

def rewrites : Command → Option VolumeId
  | volumeAttach id .. | rescheduleVolume id .. | migrateVolumeToZone id .. | completeMigration id
  | rollbackMigration id .. | resizeVolume id .. => some id
  | _ => none

def isSetting : Command → Bool
  | setStorageQuota .. | setStorageConfig .. | createVmIntent .. | updateVmPhase ..
  | deleteVmIntent .. | markRestoreBegin .. | markRestoreComplete .. => true
  | _ => false

end Command

structure StorageState.SameLedger (s s' : StorageState) : Prop where
  snapshots : s'.snapshots = s.snapshots
  sstRefcounts : s'.sstRefcounts = s.sstRefcounts
  manifestPointers : s'.manifestPointers = s.manifestPointers
  pendingGcSsts : s'.pendingGcSsts = s.pendingGcSsts
  minWalPosition : s'.minWalPosition = s.minWalPosition

namespace VolumeRecord

/-- An assignment: the VM and the hypervisor of an attached volume. -/
def assignment (vol : VolumeRecord) : Option (Option VmId × Option HypervisorId) :=
  if vol.state = .attached then some (vol.attachedVmId, vol.attachedHypervisorId) else none

structure Fenced (vol vol' : VolumeRecord) : Prop where
  le : vol.placementGeneration ≤ vol'.placementGeneration
  lt : vol'.assignment ≠ none → vol'.assignment ≠ vol.assignment →
    vol.placementGeneration < vol'.placementGeneration

end VolumeRecord

structure VolumeRecord.Unmoved (vol : VolumeRecord) : Prop where
  migrationSourceZone : vol.migrationSourceZone = none
  migrationTargetZone : vol.migrationTargetZone = none
  preMigrationHypervisor : vol.preMigrationHypervisor = none
  preMigrationVmId : vol.preMigrationVmId = none

structure VolumeRecord.New (vol : VolumeRecord) (id : VolumeId) : Prop where
  id_eq : vol.id = id
  state : vol.state = .available
  attachedVmId : vol.attachedVmId = none
  unmoved : vol.Unmoved

inductive VolumeChange (s : StorageState) : Command → VolumeId → VolumeRecord → VolumeRecord → Prop
  | attached {id vmId hypervisorId vol} (hstate : vol.state = .available) :
      VolumeChange s (.volumeAttach id vmId hypervisorId) id vol
        { vol with
          state := .attached
          attachedVmId := some vmId
          attachedHypervisorId := some hypervisorId
          placementGeneration := vol.placementGeneration + 1 }
  | detached {id vol} (hstate : vol.state = .attached) :
      VolumeChange s (.volumeDetach id) id vol
        { vol with
          state := .available
          attachedVmId := none
          attachedHypervisorId := none }
  | rescheduled {id source target newVmId vol} (hstate : vol.state = .attached)
      (hsource : vol.attachedHypervisorId = some source) :
      VolumeChange s (.rescheduleVolume id source target newVmId) id vol
        { vol with
          placementGeneration := vol.placementGeneration + 1
          attachedHypervisorId := some target
          attachedVmId := some newVmId }
  | moved {id vmId source target generation vol} (hstate : vol.state = .attached)
      (hvm : vol.attachedVmId = some vmId) (hsource : vol.attachedHypervisorId = some source) :
      VolumeChange s (.rescheduleVm vmId source target generation) id vol
        { vol with
          placementGeneration := vol.placementGeneration + 1
          attachedHypervisorId := some target }
  | migrated {id sourceZone targetZone target targetVmId vol} (hstate : vol.state = .available) :
      VolumeChange s (.migrateVolumeToZone id sourceZone targetZone target targetVmId) id vol
        { vol with
          preMigrationHypervisor := vol.attachedHypervisorId
          preMigrationVmId := vol.attachedVmId
          state := .migrating
          migrationSourceZone := some sourceZone
          migrationTargetZone := some targetZone
          attachedHypervisorId := some target
          attachedVmId := targetVmId
          placementGeneration := vol.placementGeneration + 1 }
  | completed {id vol} (hstate : vol.state = .migrating) :
      VolumeChange s (.completeMigration id) id vol
        { vol with
          state := .available
          migrationSourceZone := none
          migrationTargetZone := none
          preMigrationHypervisor := none
          preMigrationVmId := none }
  | rolledBack {id reason vol} (hstate : vol.state = .migrating) :
      VolumeChange s (.rollbackMigration id reason) id vol
        { vol with
          attachedHypervisorId := vol.preMigrationHypervisor
          preMigrationHypervisor := none
          attachedVmId := vol.preMigrationVmId
          preMigrationVmId := none
          state := .available
          migrationSourceZone := none
          migrationTargetZone := none }
  | resized {id newSizeGb vol} (hstate : vol.state = .available) (hlarger : vol.sizeGb < newSizeGb)
      (hquota : s.checkResizeQuota vol.orgId vol.projectId (newSizeGb - vol.sizeGb) = .ok ()) :
      VolumeChange s (.resizeVolume id newSizeGb) id vol { vol with sizeGb := newSizeGb }
  | deleted {id cascading deletedAt vol} (hlive : vol.state ≠ .deleted) :
      VolumeChange s (.deleteVolume id cascading deletedAt) id vol (tombstone vol deletedAt)

inductive StorageStep : Command → StorageState → StateMachineResponse → StorageState → Prop
  | rejected {c s msg} : StorageStep c s (.error msg) s
  | unrelated {c s response} (hc : c.changesStorage = false) : StorageStep c s response s
  | setting {c s response s'} (hc : c.isSetting = true)
      (hdata : s'.volumes = s.volumes ∧ SameLedger s s') : StorageStep c s response s'
  | created {s id name sizeGb orgId projectId envId volumeType hypervisorId zone vol}
      (hfresh : s.volumes[id]? = none) (hstate : vol.state = .available) :
      StorageStep (.createVolume id name sizeGb orgId projectId envId volumeType hypervisorId zone)
        s (.created id) (s.setVolume id vol)
  | rewritten {c s id vol vol'} (hc : c.rewrites = some id) (hget : s.volumes[id]? = some vol)
      (hlive : vol.state ≠ .deleted) (hlive' : vol'.state ≠ .deleted) (hfenced : vol.Fenced vol') :
      StorageStep c s .ok (s.setVolume id vol')
  | detached {s id vol vol'} (hget : s.volumes[id]? = some vol) (hstate : vol.state = .attached)
      (hstate' : vol'.state = .available)
      (hgeneration : vol'.placementGeneration = vol.placementGeneration) :
      StorageStep (.volumeDetach id) s .ok
        { s.setVolume id vol' with manifestPointers := s.manifestPointers.erase id }
  | deleted {s id cascading deletedAt vol} (ids : List SnapshotId)
      (hget : s.volumes[id]? = some vol) (hlive : vol.state ≠ .deleted)
      (hids : ids.Perm (s.liveSnapshotsOf id)) (hnone : cascading = false → ids = []) :
      StorageStep (.deleteVolume id cascading deletedAt) s .ok
        ((if cascading then s.cascade ids else s).setVolume id (tombstone vol deletedAt))
  | purged {s now maxAgeSecs} (order : HashOrder) :
      StorageStep (.purgeTombstones now maxAgeSecs) s .ok
        (s.purgeTombstones order now maxAgeSecs).2
  | moved {s vmId source target generation} (order : HashOrder) :
      StorageStep (.rescheduleVm vmId source target generation) s .ok
        (s.rescheduleVm order vmId source target).2
  | snapshotCreated {s id sourceVolumeId sstFiles walPosition snap}
      (hfresh : s.snapshots[id]? = none) (hstate : snap.state = .available)
      (hfiles : snap.sstFiles = sstFiles) (hwal : snap.walPosition = walPosition) :
      StorageStep (.createSnapshot id sourceVolumeId sstFiles walPosition) s (.created id)
        { s with
          sstRefcounts := sstFiles.foldl incrementSst s.sstRefcounts
          snapshots := s.snapshots.insert id snap
          minWalPosition := some (lowerWal s.minWalPosition walPosition) }
  | snapshotDeleted {s id snap s'} (hget : s.snapshots[id]? = some snap)
      (hlive : snap.state ≠ .deleted)
      (hs' : s' = (snap.sstFiles.foldl decrementSst s).markSnapshotDeleted id) :
      StorageStep (.deleteSnapshot id) s .ok { s' with minWalPosition := s'.liveMinWal }
  | committed {s id generation manifestVersion s3Key publishedBy vol pointer}
      (hget : s.volumes[id]? = some vol) (hstate : vol.state = .attached)
      (hgeneration : generation = vol.placementGeneration)
      (hpublisher : publishedBy = vol.attachedHypervisorId.getD "")
      (hversion : manifestVersion =
        (s.manifestPointers[id]?.map (·.manifestVersion)).getD 0 + 1)
      (hpointer : pointer = ⟨id, generation, manifestVersion, s3Key, publishedBy⟩) :
      StorageStep (.commitManifest id generation manifestVersion s3Key publishedBy) s .ok
        { s with manifestPointers := s.manifestPointers.insert id pointer }
  | restored {s snapshotId newVolumeId newVolumeName snap vol pointer}
      (hget : s.snapshots[snapshotId]? = some snap) (hlive : snap.state ≠ .deleted)
      (hfresh : s.volumes[newVolumeId]? = none) (hstate : vol.state = .available)
      (hgeneration : pointer.generation ≤ vol.placementGeneration)
      (hversion : pointer.manifestVersion = 1) :
      StorageStep (.restoreSnapshot snapshotId newVolumeId newVolumeName) s (.created newVolumeId)
        { s.setVolume newVolumeId vol with
          sstRefcounts := snap.sstFiles.foldl incrementSst s.sstRefcounts
          manifestPointers := s.manifestPointers.insert newVolumeId pointer }
  | sstsCollected {s sstKeys} : StorageStep (.gcCompleteSsts sstKeys) s .ok (s.gcCompleteSsts sstKeys)
  | walCollected {s belowPosition} :
      StorageStep (.gcCompleteWalSegments belowPosition) s .ok
        (s.gcCompleteWalSegments belowPosition)

namespace StorageState

/-! ### Inversion of the storage functions -/

variable {s s' : StorageState} {vol' : VolumeRecord}

theorem createVolume_ok {id : VolumeId} {name : String} {sizeGb : ℕ} {orgId : OrgId}
    {projectId : ProjectId} {envId : EnvId} {volumeType : VolumeType}
    {hypervisorId : Option HypervisorId} {zone : Option String}
    (h : s.createVolume id name sizeGb orgId projectId envId volumeType hypervisorId zone =
      .ok (vol', s')) :
    s.volumes[id]? = none ∧ vol'.New id ∧
      s.checkVolumeQuota vol'.orgId vol'.projectId vol'.sizeGb = .ok () ∧
      s' = s.setVolume id vol' := by
  unfold createVolume at h
  split at h
  · cases h
  · rename_i hquota
    split at h
    · cases h
    · split at h
      · cases h
      · rename_i hcontains
        cases h
        refine ⟨?_, ⟨rfl, rfl, rfl, rfl, rfl, rfl, rfl⟩, hquota, rfl⟩
        exact Std.ExtTreeMap.getElem?_eq_none_of_contains_eq_false
          (Bool.eq_false_of_not_eq_true hcontains)

theorem deleteVolume_ok {order : HashOrder} {id : VolumeId} {cascading : Bool} {deletedAt : ℕ}
    (h : s.deleteVolume order id cascading deletedAt = .ok (vol', s')) :
    ∃ vol ids, s.volumes[id]? = some vol ∧ vol.state ≠ .deleted ∧
      ids.Perm (s.liveSnapshotsOf id) ∧ (cascading = false → ids = []) ∧
      s' = (if cascading then s.cascade ids else s).setVolume id (tombstone vol deletedAt) := by
  unfold deleteVolume at h
  split at h
  · cases h
  · rename_i vol hget
    split at h
    · cases h
    · split at h
      · cases h
      · rename_i hlive
        split at h
        · cases h
        · dsimp only at h
          split at h
          · cases h
          · rename_i hempty
            split at h
            · cases h
            · cases h
              refine ⟨vol, order.arrange (s.liveSnapshotsOf id), hget, hlive, order.perm _, ?_, rfl⟩
              intro hcascading
              simpa [hcascading] using hempty

def Changes (s : StorageState) (c : Command) (id : VolumeId) (vol' : VolumeRecord)
    (s' : StorageState) : Prop :=
  ∃ vol, s.volumes[id]? = some vol ∧ VolumeChange s c id vol vol' ∧ s' = s.setVolume id vol'

theorem volumeAttach_ok {id : VolumeId} {vmId : VmId} {hypervisorId : HypervisorId}
    (h : s.volumeAttach id vmId hypervisorId = .ok (vol', s')) :
    s.Changes (.volumeAttach id vmId hypervisorId) id vol' s' := by
  unfold volumeAttach at h
  split at h
  · cases h
  · rename_i vol hget
    split at h
    · rename_i hstate
      cases h
      exact ⟨vol, hget, .attached hstate, rfl⟩
    · cases h

theorem rescheduleVolume_ok {id : VolumeId} {source target : HypervisorId} {newVmId : VmId}
    (h : s.rescheduleVolume id source target newVmId = .ok (vol', s')) :
    s.Changes (.rescheduleVolume id source target newVmId) id vol' s' := by
  unfold rescheduleVolume at h
  split at h
  · cases h
  · split at h
    · cases h
    · rename_i vol hget
      split at h
      · rename_i hstate
        split at h
        · cases h
        · rename_i hsource
          cases h
          exact ⟨vol, hget, .rescheduled hstate (not_not.mp hsource), rfl⟩
      · cases h

theorem migrateVolumeToZone_ok {id : VolumeId} {sourceZone targetZone : String}
    {target : HypervisorId} {targetVmId : Option VmId}
    (h : s.migrateVolumeToZone id sourceZone targetZone target targetVmId = .ok (vol', s')) :
    s.Changes (.migrateVolumeToZone id sourceZone targetZone target targetVmId) id vol' s' := by
  unfold migrateVolumeToZone at h
  split at h
  · cases h
  · split at h
    · cases h
    · split at h
      · cases h
      · split at h
        · cases h
        · rename_i vol hget
          split at h
          · rename_i hstate
            cases h
            exact ⟨vol, hget, .migrated hstate, rfl⟩
          · cases h

theorem completeMigration_ok {id : VolumeId} (h : s.completeMigration id = .ok (vol', s')) :
    s.Changes (.completeMigration id) id vol' s' := by
  unfold completeMigration at h
  split at h
  · cases h
  · rename_i vol hget
    split at h
    · rename_i hstate
      cases h
      exact ⟨vol, hget, .completed hstate, rfl⟩
    · cases h

theorem rollbackMigration_ok {id : VolumeId} {reason : String}
    (h : s.rollbackMigration id = .ok (vol', s')) :
    s.Changes (.rollbackMigration id reason) id vol' s' := by
  unfold rollbackMigration at h
  split at h
  · cases h
  · rename_i vol hget
    split at h
    · rename_i hstate
      cases h
      exact ⟨vol, hget, .rolledBack hstate, rfl⟩
    · cases h

theorem resizeVolume_ok {id : VolumeId} {newSizeGb : ℕ}
    (h : s.resizeVolume id newSizeGb = .ok (vol', s')) :
    s.Changes (.resizeVolume id newSizeGb) id vol' s' := by
  unfold resizeVolume at h
  split at h
  · cases h
  · rename_i vol hget
    split at h
    · rename_i hstate
      split at h
      · cases h
      · rename_i hlarger
        split at h
        · cases h
        · rename_i hquota
          cases h
          exact ⟨vol, hget, .resized hstate (not_le.mp hlarger) hquota, rfl⟩
    · cases h

theorem volumeDetach_ok {id : VolumeId} (h : s.volumeDetach id = .ok (vol', s')) :
    ∃ vol, s.volumes[id]? = some vol ∧ VolumeChange s (.volumeDetach id) id vol vol' ∧
      s' = { s.setVolume id vol' with manifestPointers := s.manifestPointers.erase id } := by
  unfold volumeDetach at h
  split at h
  · cases h
  · rename_i vol hget
    split at h
    · cases h
    · split at h
      · rename_i hstate
        cases h
        exact ⟨vol, hget, .detached hstate, rfl⟩
      · cases h

theorem fenced_of_not_attached {vol vol' : VolumeRecord}
    (hgeneration : vol'.placementGeneration = vol.placementGeneration)
    (hstate : vol'.state ≠ .attached) : vol.Fenced vol' :=
  ⟨hgeneration.ge, fun hattached => absurd (if_neg hstate) hattached⟩

end StorageState

namespace VolumeChange

variable {s : StorageState} {c : Command} {id : VolumeId} {vol vol' : VolumeRecord}

theorem fenced (h : VolumeChange s c id vol vol') : vol.Fenced vol' := by
  have hnext : ∀ {vol'' : VolumeRecord},
      vol''.placementGeneration = vol.placementGeneration + 1 → vol.Fenced vol'' := by
    intro vol'' hgeneration
    have hlt : vol.placementGeneration < vol''.placementGeneration := by omega
    exact ⟨hlt.le, fun _ _ => hlt⟩
  cases h with
  | attached | rescheduled | moved | migrated => exact hnext rfl
  | resized hstate => exact fenced_of_not_attached rfl (by simp [hstate])
  | detached | completed | rolledBack => exact fenced_of_not_attached rfl (by simp)
  | deleted => exact fenced_of_not_attached rfl (by simp [tombstone])

theorem live (h : VolumeChange s c id vol vol') :
    vol.state ≠ .deleted ∧ (c.rewrites = some id → vol'.state ≠ .deleted) := by
  cases h with
  | deleted hlive => exact ⟨hlive, fun h => by cases h⟩
  | attached hstate | detached hstate | rescheduled hstate | moved hstate | migrated hstate
  | completed hstate | rolledBack hstate | resized hstate => simp [hstate]

end VolumeChange

namespace StorageState

variable {s s' : StorageState} {vol' : VolumeRecord}

theorem createSnapshot_ok {id : SnapshotId} {source : VolumeId} {sstFiles : List String}
    {walPosition : ℕ} (h : s.createSnapshot id source sstFiles walPosition = .ok s') :
    ∃ snap : SnapshotRecord, s.snapshots[id]? = none ∧ snap.state = .available ∧
      snap.sstFiles = sstFiles ∧ snap.walPosition = walPosition ∧
      s.checkSnapshotQuota snap.orgId snap.projectId = .ok () ∧
      s' = { s with
        sstRefcounts := sstFiles.foldl incrementSst s.sstRefcounts
        snapshots := s.snapshots.insert id snap
        minWalPosition := some (lowerWal s.minWalPosition walPosition) } := by
  unfold createSnapshot at h
  split at h
  · cases h
  · split at h
    · cases h
    · rename_i hquota
      split at h
      · cases h
      · rename_i hcontains
        cases h
        refine ⟨_, ?_, rfl, rfl, rfl, ?_, rfl⟩
        · exact Std.ExtTreeMap.getElem?_eq_none_of_contains_eq_false
            (Bool.eq_false_of_not_eq_true hcontains)
        · exact hquota

theorem deleteSnapshot_ok {id : SnapshotId} (h : s.deleteSnapshot id = .ok s') :
    ∃ snap : SnapshotRecord, s.snapshots[id]? = some snap ∧ snap.state ≠ .deleted ∧
      ∃ t : StorageState, t = (snap.sstFiles.foldl decrementSst s).markSnapshotDeleted id ∧
        s' = { t with minWalPosition := t.liveMinWal } := by
  unfold deleteSnapshot at h
  split at h
  · cases h
  · split at h
    · cases h
    · rename_i snap hget
      split at h
      · cases h
      · rename_i hlive
        cases h
        exact ⟨snap, hget, hlive, _, rfl, rfl⟩

theorem commitManifest_ok {id : VolumeId} {generation manifestVersion : ℕ} {s3Key : String}
    {publishedBy : HypervisorId}
    (h : s.commitManifest id generation manifestVersion s3Key publishedBy = .ok s') :
    ∃ vol, s.volumes[id]? = some vol ∧ vol.state = .attached ∧
      generation = vol.placementGeneration ∧ publishedBy = vol.attachedHypervisorId.getD "" ∧
      manifestVersion = (s.manifestPointers[id]?.map (·.manifestVersion)).getD 0 + 1 ∧
      ∃ pointer : ManifestPointerRecord,
        pointer = ⟨id, generation, manifestVersion, s3Key, publishedBy⟩ ∧
        s' = { s with manifestPointers := s.manifestPointers.insert id pointer } := by
  unfold commitManifest at h
  split at h
  · cases h
  · rename_i vol hget
    dsimp only at h
    split at h
    · cases h
    · split at h
      · cases h
      · split at h
        · cases h
        · split at h
          · cases h
          · rename_i hstate hgeneration hpublisher hversion
            cases h
            exact ⟨vol, hget, not_not.mp hstate, not_not.mp hgeneration, not_not.mp hpublisher,
              not_not.mp hversion, _, rfl, rfl⟩

theorem restoreSnapshot_ok {snapshotId : SnapshotId} {newVolumeId : VolumeId}
    {newVolumeName : String}
    (h : s.restoreSnapshot snapshotId newVolumeId newVolumeName = .ok (vol', s')) :
    ∃ (snap : SnapshotRecord) (pointer : ManifestPointerRecord),
      s.snapshots[snapshotId]? = some snap ∧ snap.state ≠ .deleted ∧
      s.volumes[newVolumeId]? = none ∧ vol'.New newVolumeId ∧
      s.checkVolumeQuota vol'.orgId vol'.projectId vol'.sizeGb = .ok () ∧
      pointer.generation ≤ vol'.placementGeneration ∧ pointer.manifestVersion = 1 ∧
      s' = { s.setVolume newVolumeId vol' with
        sstRefcounts := snap.sstFiles.foldl incrementSst s.sstRefcounts
        manifestPointers := s.manifestPointers.insert newVolumeId pointer } := by
  unfold restoreSnapshot at h
  split at h
  · cases h
  · rename_i snap hget
    split at h
    · cases h
    · rename_i hlive
      split at h
      · cases h
      · rename_i hquota
        split at h
        · cases h
        · split at h
          · cases h
          · rename_i hcontains
            cases h
            refine ⟨snap, _, hget, hlive, ?_, ⟨rfl, rfl, rfl, rfl, rfl, rfl, rfl⟩, hquota, le_rfl, rfl,
              rfl⟩
            exact Std.ExtTreeMap.getElem?_eq_none_of_contains_eq_false
              (Bool.eq_false_of_not_eq_true hcontains)

theorem setStorageConfig_ok {region zone zoneKey : String} {config : StorageConfig}
    (h : s.setStorageConfig region zone config = .ok (zoneKey, s')) :
    ∃ configs, s' = { s with storageConfigs := configs } := by
  unfold setStorageConfig at h
  dsimp only at h
  generalize (if zone.isEmpty then region else zone) = key at h
  split at h
  · cases h
  · split at h
    · cases h
    · cases h
      exact ⟨_, rfl⟩

theorem markRestoreBegin_ok {id : SnapshotId} (h : s.markRestoreBegin id = .ok s') :
    ∃ marks, s' = { s with restoresInProgress := marks } := by
  unfold markRestoreBegin at h
  split at h
  · cases h
  · split at h <;> cases h <;> exact ⟨_, rfl⟩

theorem createVmIntent_ok {now : ℕ} {name image : String} {vcpus memoryMb : ℕ}
    {zone subnet : Option String}
    (h : s.createVmIntent now name image vcpus memoryMb zone subnet = .ok s') :
    ∃ records, s' = { s with vmRecords := records } := by
  unfold createVmIntent at h
  split at h
  · cases h
  · cases h
    exact ⟨_, rfl⟩

theorem updateVmPhase_ok {now : ℕ} {vmId phase : String} {hypervisorId ip error : Option String}
    (h : s.updateVmPhase now vmId phase hypervisorId ip error = .ok s') :
    ∃ records, s' = { s with vmRecords := records } := by
  unfold updateVmPhase at h
  split at h
  · cases h
  · split at h <;> cases h
    exact ⟨_, rfl⟩

theorem deleteVmIntent_ok {now : ℕ} {vmId : String} (h : s.deleteVmIntent now vmId = .ok s') :
    ∃ records, s' = { s with vmRecords := records } := by
  unfold deleteVmIntent at h
  split at h <;> cases h
  exact ⟨_, rfl⟩

/-! ### Commands on many volumes -/

theorem purgeTombstones_spec (s : StorageState) (order : HashOrder) (now maxAgeSecs : ℕ) :
    SameLedger s (s.purgeTombstones order now maxAgeSecs).2 ∧
      ∀ id : VolumeId, (s.purgeTombstones order now maxAgeSecs).2.volumes[id]? = s.volumes[id]? ∨
        (s.purgeTombstones order now maxAgeSecs).2.volumes[id]? = none ∧
          ∃ vol, s.volumes[id]? = some vol ∧ vol.state = .deleted := by
  refine ⟨⟨rfl, rfl, rfl, rfl, rfl⟩, fun id => ?_⟩
  simp only [purgeTombstones, Std.ExtTreeMap.getElem?_foldl_erase, HashOrder.mem_arrange]
  split
  · rename_i hid
    refine .inr ⟨rfl, ?_⟩
    obtain ⟨⟨id', vol⟩, hentry, rfl⟩ := List.mem_map.mp hid
    obtain ⟨hmem, hexpired⟩ := List.mem_filter.mp hentry
    refine ⟨vol, Std.ExtTreeMap.mem_toList_iff_getElem?_eq_some.mp hmem, ?_⟩
    simp only [Bool.and_eq_true, beq_iff_eq] at hexpired
    exact hexpired.1
  · exact .inl rfl

def relocated (target : HypervisorId) (vol : VolumeRecord) : VolumeRecord :=
  { vol with
    placementGeneration := vol.placementGeneration + 1
    attachedHypervisorId := some target }

theorem foldl_moveVolume (target : HypervisorId) {ids : List VolumeId} (hnodup : ids.Nodup)
    (acc : List VolumeRecord × StorageState) :
    ∃ volumes : Table VolumeRecord,
      (ids.foldl (moveVolume target) acc).2 = { acc.2 with volumes := volumes } ∧
      ∀ id : VolumeId, volumes[id]? =
        if id ∈ ids then (acc.2.volumes[id]?).map (relocated target) else acc.2.volumes[id]? := by
  induction ids generalizing acc with
  | nil => exact ⟨acc.2.volumes, rfl, fun id => by simp⟩
  | cons id₀ ids ih =>
      obtain ⟨hid₀, hids⟩ := List.nodup_cons.mp hnodup
      obtain ⟨volumes₁, hfirst, hvolumes₁⟩ : ∃ volumes₁ : Table VolumeRecord,
          (moveVolume target acc id₀).2 = { acc.2 with volumes := volumes₁ } ∧
          ∀ id : VolumeId, volumes₁[id]? = if id = id₀ then
            (acc.2.volumes[id]?).map (relocated target) else acc.2.volumes[id]? := by
        unfold moveVolume
        split
        · rename_i hnone
          refine ⟨acc.2.volumes, rfl, fun id => ?_⟩
          split <;> simp_all
        · rename_i vol hget
          refine ⟨_, rfl, fun id => ?_⟩
          by_cases hid : id = id₀
          · simp [hid, hget, relocated]
          · simp [hid, Ne.symm hid, Std.ExtTreeMap.getElem?_insert]
      obtain ⟨volumes, hrest, hvolumes⟩ := ih hids (moveVolume target acc id₀)
      refine ⟨volumes, by rw [List.foldl_cons, hrest, hfirst], fun id => ?_⟩
      rw [hvolumes, hfirst, hvolumes₁]
      by_cases hid : id = id₀
      · subst hid
        simp [hid₀]
      · simp [hid]

def serves (vol : VolumeRecord) (vmId : VmId) (hypervisorId : HypervisorId) : Prop :=
  vol.state = .attached ∧ vol.attachedVmId = some vmId ∧ vol.attachedHypervisorId = some hypervisorId

instance (vol : VolumeRecord) (vmId : VmId) (hypervisorId : HypervisorId) :
    Decidable (serves vol vmId hypervisorId) :=
  inferInstanceAs (Decidable (_ ∧ _ ∧ _))

theorem mem_volumesOfVm {s : StorageState} {id : VolumeId} {vmId : VmId}
    {hypervisorId : HypervisorId} :
    id ∈ s.volumesOfVm vmId hypervisorId ↔
      ∃ vol, s.volumes[id]? = some vol ∧ serves vol vmId hypervisorId := by
  simp [volumesOfVm, serves, Std.ExtTreeMap.mem_toList_iff_getElem?_eq_some, and_assoc]

theorem rescheduleVm_spec (s : StorageState) (order : HashOrder) (vmId : VmId)
    (source target : HypervisorId) :
    ∃ volumes : Table VolumeRecord,
      (s.rescheduleVm order vmId source target).2 = { s with volumes := volumes } ∧
      ∀ id : VolumeId, volumes[id]? = (s.volumes[id]?).map fun vol =>
        if serves vol vmId source then relocated target vol else vol := by
  have hnodup : (order.arrange (s.volumesOfVm vmId source)).Nodup := by
    rw [(order.perm _).nodup_iff]
    exact s.volumes.nodup_map_fst_toList.sublist (List.filter_sublist.map Prod.fst)
  obtain ⟨volumes, hstate, hvolumes⟩ := foldl_moveVolume target hnodup ([], s)
  refine ⟨volumes, hstate, fun id => ?_⟩
  rw [hvolumes]
  cases hget : s.volumes[id]? with
  | none => simp
  | some vol =>
      by_cases hserves : serves vol vmId source <;>
        simp [HashOrder.mem_arrange, mem_volumesOfVm, hget, hserves]

structure Moves (s s' : StorageState) : Prop where
  ledger : SameLedger s s'
  volumes : ∀ id : VolumeId, s'.volumes[id]? = s.volumes[id]? ∨
    ∃ vol vol', s.volumes[id]? = some vol ∧ s'.volumes[id]? = some vol' ∧ vol.Fenced vol' ∧
      vol'.state = vol.state

theorem moves_rescheduleVm (s : StorageState) (order : HashOrder) (vmId : VmId)
    (source target : HypervisorId) : Moves s (s.rescheduleVm order vmId source target).2 := by
  obtain ⟨volumes, hstate, hvolumes⟩ := s.rescheduleVm_spec order vmId source target
  rw [hstate]
  refine ⟨⟨rfl, rfl, rfl, rfl, rfl⟩, fun id => ?_⟩
  cases hget : s.volumes[id]? with
  | none => exact .inl (by simp [hvolumes, hget])
  | some vol =>
      by_cases hserves : serves vol vmId source
      · refine .inr ⟨vol, relocated target vol, rfl, by simp [hvolumes, hget, hserves], ?_, rfl⟩
        exact ⟨Nat.le_succ _, fun _ _ => Nat.lt_succ_self _⟩
      · exact .inl (by simp [hvolumes, hget, hserves])

end StorageState

/-! ### From handlers to steps -/

namespace Handle

open Replica

def Yields (P : StateMachineResponse → StorageState → Prop) (m : Handler StateMachineResponse)
    (r : Replica) : Prop :=
  P (respond (m r).1) (m r).2.sm.storage

variable {P : StateMachineResponse → StorageState → Prop} {r : Replica} {α : Type}

theorem yields_bind {m : Handler α} {k : α → Handler StateMachineResponse} {stores : List StoreName}
    (hm : Tx.Steps (Only stores false) m) (herr : ∀ msg, P (.error msg) r.sm.storage)
    (hk : ∀ a r', r'.sm.storage = r.sm.storage → Yields P (k a) r') : Yields P (m >>= k) r := by
  have hframe := (hm r).storage rfl
  unfold Yields
  rw [Tx.bind_apply]
  rcases hrun : m r with ⟨result, r'⟩
  rw [hrun] at hframe
  cases result with
  | error msg =>
      change P (.error msg) r'.sm.storage
      rw [hframe]
      exact herr msg
  | ok a => exact hk a r' hframe

/-- A transaction that always succeeds and does not touch the storage state. -/
def Passes (m : Handler α) : Prop := ∀ r, ∃ a r', m r = (.ok a, r') ∧ r'.sm.storage = r.sm.storage

theorem passes_mirror (m : StorageStoreM Unit) : Passes (mirror m) := by
  intro r
  have hok : (mirror m r).1 = .ok () := by
    unfold mirror
    split <;> rfl
  have hframe : Only [.storage] false r (mirror m r).2 := only_mirror (List.mem_singleton_self _) r
  exact ⟨(), (mirror m r).2, Prod.ext hok rfl, hframe.storage rfl⟩

theorem passes_each {β : Type} {f : β → Handler Unit} (hf : ∀ b, Passes (f b)) (bs : List β) :
    Passes (Tx.each f bs) := by
  induction bs with
  | nil => exact fun r => ⟨(), r, rfl, rfl⟩
  | cons b bs ih =>
      intro r
      obtain ⟨_, r₁, hfirst, hsame⟩ := hf b r
      obtain ⟨a, r₂, hrest, hsame'⟩ := ih r₁
      exact ⟨a, r₂, (Tx.bind_apply_ok hfirst).trans hrest, hsame'.trans hsame⟩

theorem yields_passes {m : Handler α} (hm : Passes m) {response : StateMachineResponse}
    (h : P response r.sm.storage) : Yields P (do let _ ← m; return response) r := by
  obtain ⟨a, r', hrun, hsame⟩ := hm r
  unfold Yields
  rw [Tx.bind_apply_ok hrun]
  change P response r'.sm.storage
  rwa [hsame]

theorem yields_storageOp {f : StorageState → Except String (α × StorageState)}
    {k : α → Handler StateMachineResponse}
    (herr : ∀ msg, f r.sm.storage = .error msg → P (.error msg) r.sm.storage)
    (hok : ∀ a s', f r.sm.storage = .ok (a, s') →
      Yields P (k a) (storageLens.set s' r)) : Yields P (storageOp f >>= k) r := by
  unfold Yields
  cases hf : f r.sm.storage with
  | error msg =>
      have hrun : storageOp f r = (.error msg, r) := by
        simp [storageOp, Tx.attempt, storageLens, hf]
      rw [Tx.bind_apply_error hrun]
      exact herr msg hf
  | ok result =>
      have hrun : storageOp f r = (.ok result.1, storageLens.set result.2 r) := by
        simp [storageOp, Tx.attempt, storageLens, hf]
      rw [Tx.bind_apply_ok hrun]
      exact hok result.1 result.2 hf

theorem yields_storageStep {f : StorageState → Except String StorageState}
    {response : StateMachineResponse}
    (herr : ∀ msg, f r.sm.storage = .error msg → P (.error msg) r.sm.storage)
    (hok : ∀ s', f r.sm.storage = .ok s' → P response s') :
    Yields P (do storageStep f; return response) r := by
  refine yields_storageOp (fun msg hmsg => herr msg ?_) fun _ s' hs' => ?_
  · cases hf : f r.sm.storage <;> simp_all [Except.map]
  cases hf : f r.sm.storage with
  | error msg =>
      rw [hf] at hs'
      cases hs'
  | ok t =>
      rw [hf] at hs'
      cases hs'
      exact hok _ hf

theorem yields_onVolume {f : StorageState → Except String (VolumeRecord × StorageState)}
    {response : VolumeRecord → StateMachineResponse}
    (herr : ∀ msg, f r.sm.storage = .error msg → P (.error msg) r.sm.storage)
    (hok : ∀ vol s', f r.sm.storage = .ok (vol, s') → P (response vol) s') :
    Yields P (do let vol ← onVolume f; return response vol) r := by
  simp only [onVolume, bind_assoc, pure_bind]
  exact yields_storageOp herr fun vol s' hs' => yields_passes (passes_mirror _) (hok vol s' hs')

end Handle

/-! ### The storage part of a command -/

namespace StorageState

/-- A storage command as a function on the storage state, given the order of the hash map it iterates
and the time it reads: the response and the new state, or the error. -/
def perform (s : StorageState) (order : HashOrder) (now : ℕ) :
    Command → Except String (StateMachineResponse × StorageState)
  | .createVolume id name sizeGb orgId projectId envId volumeType hypervisorId zone =>
      (s.createVolume id name sizeGb orgId projectId envId volumeType hypervisorId zone).map
        fun (vol, s') => (.created vol.id, s')
  | .deleteVolume id cascading deletedAt =>
      (s.deleteVolume order id cascading deletedAt).map fun (_, s') => (.ok, s')
  | .volumeAttach id vmId hypervisorId =>
      (s.volumeAttach id vmId hypervisorId).map fun (_, s') => (.ok, s')
  | .volumeDetach id => (s.volumeDetach id).map fun (_, s') => (.ok, s')
  | .rescheduleVolume id source target newVmId =>
      (s.rescheduleVolume id source target newVmId).map fun (_, s') => (.ok, s')
  | .migrateVolumeToZone id sourceZone targetZone target targetVmId =>
      (s.migrateVolumeToZone id sourceZone targetZone target targetVmId).map
        fun (_, s') => (.ok, s')
  | .completeMigration id => (s.completeMigration id).map fun (_, s') => (.ok, s')
  | .rollbackMigration id _ => (s.rollbackMigration id).map fun (_, s') => (.ok, s')
  | .resizeVolume id newSizeGb => (s.resizeVolume id newSizeGb).map fun (_, s') => (.ok, s')
  | .restoreSnapshot snapshotId newVolumeId newVolumeName =>
      (s.restoreSnapshot snapshotId newVolumeId newVolumeName).map
        fun (vol, s') => (.created vol.id, s')
  | .createSnapshot id source sstFiles walPosition =>
      (s.createSnapshot id source sstFiles walPosition).map fun s' => (.created id, s')
  | .deleteSnapshot id => (s.deleteSnapshot id).map fun s' => (.ok, s')
  | .commitManifest id generation manifestVersion s3Key publishedBy =>
      (s.commitManifest id generation manifestVersion s3Key publishedBy).map fun s' => (.ok, s')
  | .markRestoreBegin id => (s.markRestoreBegin id).map fun s' => (.ok, s')
  | .markRestoreComplete id => .ok (.ok, s.markRestoreComplete id)
  | .gcCompleteSsts sstKeys => .ok (.ok, s.gcCompleteSsts sstKeys)
  | .gcCompleteWalSegments belowPosition => .ok (.ok, s.gcCompleteWalSegments belowPosition)
  | .setStorageQuota scope maxVolumes maxTotalGb maxSnapshots =>
      .ok (.ok, s.setStorageQuota scope ⟨maxVolumes, maxTotalGb, maxSnapshots⟩)
  | .setStorageConfig region zone config =>
      (s.setStorageConfig region zone config).map fun (_, s') => (.ok, s')
  | .purgeTombstones time maxAgeSecs => .ok (.ok, (s.purgeTombstones order time maxAgeSecs).2)
  | .rescheduleVm vmId source target _ => .ok (.ok, (s.rescheduleVm order vmId source target).2)
  | .createVmIntent name image vcpus memoryMb zone subnet =>
      (s.createVmIntent now name image vcpus memoryMb zone subnet).map fun s' => (.created name, s')
  | .updateVmPhase vmId phase hypervisorId ip error =>
      (s.updateVmPhase now vmId phase hypervisorId ip error).map fun s' => (.ok, s')
  | .deleteVmIntent vmId => (s.deleteVmIntent now vmId).map fun s' => (.ok, s')
  | _ => .ok (.ok, s)

end StorageState

inductive Performs (c : Command) (s : StorageState) : StateMachineResponse → StorageState → Prop
  | failed {msg : String} : Performs c s (.error msg) s
  | done {response : StateMachineResponse} {s' : StorageState} (order : HashOrder) (now : ℕ)
      (h : s.perform order now c = .ok (response, s')) : Performs c s response s'

open Handle Replica in
/-- **Storage commands work on the storage state alone.** What else they do does not show in their
response. -/
theorem performs_applySingle (c : Command) (r : Replica) (hc : c.changesStorage = true) :
    Performs c r.sm.storage (applySingle c r).1 (applySingle c r).2.sm.storage := by
  have herr : ∀ {s : StorageState} (msg), s = r.sm.storage →
      Performs c r.sm.storage (.error msg) s := by
    rintro s msg rfl
    exact .failed
  have horder : Tx.Steps (Only [] false) nextOrder := only_nextOrder
  have hnow : Tx.Steps (Only [] false) now := only_now
  change Yields (Performs c r.sm.storage) (handle c) r
  cases c with
  | rescheduleVm vmId source target generation =>
      have hfind : Tx.Steps (Only [.placement] false) (requirePlacement vmId) :=
        only_requirePlacement (List.mem_singleton_self _)
      have hplace : ∀ p, Tx.Steps (Only [.placement] false)
          (placement (PlacementStore.addPlacement p)) :=
        fun _ => only_placement (List.mem_singleton_self _)
      refine yields_bind hfind (fun msg => herr msg rfl) fun p r₁ h₁ => ?_
      refine yields_bind (hplace _) (fun msg => herr msg h₁) fun _ r₂ h₂ => ?_
      refine yields_bind horder (fun msg => herr msg (h₂.trans h₁)) fun order r₃ h₃ => ?_
      have hsame : r₃.sm.storage = r.sm.storage := h₃.trans (h₂.trans h₁)
      refine yields_storageOp (fun msg _ => herr msg hsame) fun moved s' hs' => ?_
      refine yields_passes (passes_each (fun _ => passes_mirror _) moved) (.done order 0 ?_)
      rw [hsame] at hs'
      have hmoved : (r.sm.storage.rescheduleVm order vmId source target).2 = s' :=
        congrArg Prod.snd (Except.ok.inj hs')
      rw [StorageState.perform, hmoved]
      rfl
  | setStorageQuota scope maxVolumes maxTotalGb maxSnapshots =>
      refine yields_storageOp (fun msg _ => herr msg rfl) fun _ s' hs' =>
        yields_passes (passes_mirror _) (.done .sorted 0 ?_)
      cases hs'
      rfl
  | setStorageConfig region zone config =>
      refine yields_storageOp (fun msg _ => herr msg rfl) fun _ s' hs' =>
        yields_passes (passes_mirror _) (.done .sorted 0 ?_)
      rw [StorageState.perform, hs']
      rfl
  | purgeTombstones time maxAgeSecs =>
      refine yields_bind horder (fun msg => herr msg rfl) fun order r₁ h₁ => ?_
      refine yields_storageOp (fun msg _ => herr msg h₁) fun purged s' hs' => ?_
      refine yields_passes (passes_each (fun _ => passes_mirror _) purged) (.done order 0 ?_)
      cases hs'
      rw [StorageState.perform, h₁]
      rfl
  | deleteVolume id cascading deletedAt =>
      refine yields_bind horder (fun msg => herr msg rfl) fun order r₁ h₁ => ?_
      refine yields_onVolume (fun msg _ => herr msg h₁) fun vol' s' hs' => .done order 0 ?_
      rw [h₁] at hs'
      rw [StorageState.perform, hs']
      rfl
  | createVolume | volumeAttach | volumeDetach | rescheduleVolume | migrateVolumeToZone
  | completeMigration | rollbackMigration | resizeVolume | restoreSnapshot =>
      refine yields_onVolume (fun msg _ => herr msg rfl) fun _ _ hs' => .done .sorted 0 ?_
      rw [StorageState.perform, hs']
      rfl
  | createSnapshot | deleteSnapshot | commitManifest | markRestoreBegin =>
      refine yields_storageStep (fun msg _ => herr msg rfl) fun _ hs' => .done .sorted 0 ?_
      rw [StorageState.perform, hs']
      rfl
  | markRestoreComplete | gcCompleteSsts | gcCompleteWalSegments =>
      refine yields_storageStep (fun msg _ => herr msg rfl) fun _ hs' => .done .sorted 0 ?_
      cases hs'
      rfl
  | createVmIntent | updateVmPhase | deleteVmIntent =>
      refine yields_bind hnow (fun msg => herr msg rfl) fun now r₁ h₁ => ?_
      refine yields_storageStep (fun msg _ => herr msg h₁) fun s' hs' => .done .sorted now ?_
      rw [h₁] at hs'
      rw [StorageState.perform, hs']
      rfl
  | _ => cases hc

theorem Except.map_ok {ε α β : Type} {x : Except ε α} {f : α → β} {b : β}
    (h : x.map f = .ok b) : ∃ a, x = .ok a ∧ f a = b := by
  cases x with
  | error e => cases h
  | ok a => exact ⟨a, rfl, Except.ok.inj h⟩

namespace StorageState

theorem storageStep_perform {s s' : StorageState} {order : HashOrder} {now : ℕ} {c : Command}
    {response : StateMachineResponse} (h : s.perform order now c = .ok (response, s'))
    (hc : c.changesStorage = true) : StorageStep c s response s' := by
  have hrewrite : ∀ {id : VolumeId} {x : Except String (VolumeRecord × StorageState)},
      c.rewrites = some id → (∀ vol' t, x = .ok (vol', t) → s.Changes c id vol' t) →
        x.map (fun p => (StateMachineResponse.ok, p.2)) = .ok (response, s') →
        StorageStep c s response s' := by
    intro id x hid hx hmap
    obtain ⟨⟨vol', t⟩, hok, heq⟩ := Except.map_ok hmap
    cases heq
    obtain ⟨vol, hget, hchange, rfl⟩ := hx vol' t hok
    exact .rewritten hid hget hchange.live.1 (hchange.live.2 hid) hchange.fenced
  have hsetting : ∀ {x : Except String StorageState} {reply : StateMachineResponse},
      c.isSetting = true →
        (∀ t, x = .ok t → ∃ records, t = { s with vmRecords := records }) →
        x.map (fun t => (reply, t)) = .ok (response, s') → StorageStep c s response s' := by
    intro x reply hset hx hmap
    obtain ⟨t, hok, heq⟩ := Except.map_ok hmap
    cases heq
    obtain ⟨records, rfl⟩ := hx _ hok
    exact .setting hset ⟨rfl, rfl, rfl, rfl, rfl, rfl⟩
  cases c with
  | rescheduleVm vmId source target generation =>
      cases h
      exact .moved order
  | setStorageQuota scope maxVolumes maxTotalGb maxSnapshots =>
      cases h
      exact .setting rfl ⟨rfl, rfl, rfl, rfl, rfl, rfl⟩
  | setStorageConfig region zone config =>
      obtain ⟨⟨key, t⟩, hok, heq⟩ := Except.map_ok h
      cases heq
      obtain ⟨configs, rfl⟩ := setStorageConfig_ok hok
      exact .setting rfl ⟨rfl, rfl, rfl, rfl, rfl, rfl⟩
  | purgeTombstones time maxAgeSecs =>
      cases h
      exact .purged order
  | createVolume id name sizeGb orgId projectId envId volumeType hypervisorId zone =>
      obtain ⟨⟨vol, t⟩, hok, heq⟩ := Except.map_ok h
      cases heq
      obtain ⟨hfresh, hnew, -, rfl⟩ := createVolume_ok hok
      rw [hnew.id_eq]
      exact .created hfresh hnew.state
  | deleteVolume id cascading deletedAt =>
      obtain ⟨⟨vol', t⟩, hok, heq⟩ := Except.map_ok h
      cases heq
      obtain ⟨vol, ids, hget, hlive, hids, hnone, rfl⟩ := deleteVolume_ok hok
      exact .deleted ids hget hlive hids hnone
  | volumeAttach id vmId hypervisorId => exact hrewrite rfl (fun _ _ => volumeAttach_ok) h
  | volumeDetach id =>
      obtain ⟨⟨vol', t⟩, hok, heq⟩ := Except.map_ok h
      cases heq
      obtain ⟨vol, hget, hchange, rfl⟩ := volumeDetach_ok hok
      cases hchange with
      | detached hstate => exact .detached hget hstate rfl rfl
  | rescheduleVolume id source target newVmId =>
      exact hrewrite rfl (fun _ _ => rescheduleVolume_ok) h
  | migrateVolumeToZone id sourceZone targetZone target targetVmId =>
      exact hrewrite rfl (fun _ _ => migrateVolumeToZone_ok) h
  | completeMigration id => exact hrewrite rfl (fun _ _ => completeMigration_ok) h
  | rollbackMigration id reason => exact hrewrite rfl (fun _ _ => rollbackMigration_ok) h
  | resizeVolume id newSizeGb => exact hrewrite rfl (fun _ _ => resizeVolume_ok) h
  | createSnapshot id source sstFiles walPosition =>
      obtain ⟨t, hok, heq⟩ := Except.map_ok h
      cases heq
      obtain ⟨snap, hfresh, hstate, hfiles, hwal, -, rfl⟩ := createSnapshot_ok hok
      exact .snapshotCreated hfresh hstate hfiles hwal
  | deleteSnapshot id =>
      obtain ⟨t, hok, heq⟩ := Except.map_ok h
      cases heq
      obtain ⟨snap, hget, hlive, u, hu, rfl⟩ := deleteSnapshot_ok hok
      exact .snapshotDeleted hget hlive hu
  | commitManifest id generation manifestVersion s3Key publishedBy =>
      obtain ⟨t, hok, heq⟩ := Except.map_ok h
      cases heq
      obtain ⟨vol, hget, hstate, hgeneration, hpublisher, hversion, pointer, hpointer, rfl⟩ :=
        commitManifest_ok hok
      exact .committed hget hstate hgeneration hpublisher hversion hpointer
  | restoreSnapshot snapshotId newVolumeId newVolumeName =>
      obtain ⟨⟨vol, t⟩, hok, heq⟩ := Except.map_ok h
      cases heq
      obtain ⟨snap, pointer, hget, hlive, hfresh, hnew, -, hgeneration, hversion, rfl⟩ :=
        restoreSnapshot_ok hok
      rw [hnew.id_eq]
      exact .restored hget hlive hfresh hnew.state hgeneration hversion
  | markRestoreBegin id =>
      obtain ⟨t, hok, heq⟩ := Except.map_ok h
      cases heq
      obtain ⟨marks, rfl⟩ := markRestoreBegin_ok hok
      exact .setting rfl ⟨rfl, rfl, rfl, rfl, rfl, rfl⟩
  | markRestoreComplete id =>
      cases h
      exact .setting rfl ⟨rfl, rfl, rfl, rfl, rfl, rfl⟩
  | gcCompleteSsts sstKeys =>
      cases h
      exact .sstsCollected
  | gcCompleteWalSegments belowPosition =>
      cases h
      exact .walCollected
  | createVmIntent name image vcpus memoryMb zone subnet =>
      exact hsetting rfl (fun _ => createVmIntent_ok) h
  | updateVmPhase vmId phase hypervisorId ip error =>
      exact hsetting rfl (fun _ => updateVmPhase_ok) h
  | deleteVmIntent vmId => exact hsetting rfl (fun _ => deleteVmIntent_ok) h
  -- the remaining commands do not touch the storage state
  | _ => cases hc

end StorageState

/-- **Commands are storage steps.** -/
theorem storageStep_applySingle (c : Command) (r : Replica) :
    StorageStep c r.sm.storage (applySingle c r).1 (applySingle c r).2.sm.storage := by
  cases hc : c.changesStorage with
  | false =>
      rw [(only_applySingle c r).storage hc]
      exact .unrelated hc
  | true =>
      have hperforms := performs_applySingle c r hc
      generalize (applySingle c r).1 = response, (applySingle c r).2.sm.storage = s' at hperforms
      cases hperforms with
      | failed => exact .rejected
      | done order now h => exact storageStep_perform h hc

/-- **Invariants of the storage state.** What holds of the first storage state and is kept by every
storage step that meets a condition on it and on its history holds after every log whose executed
commands all meet it. -/
theorem storage_invariant {I : List Step → StorageState → Prop} {C : List Step → Step → Prop}
    (log : List StateMachineCommand) (r : Replica) (h0 : I [] r.sm.storage)
    (hstep : ∀ es e, StorageStep e.action e.before.sm.storage e.reply e.after.sm.storage →
      I es e.before.sm.storage → C es e → I (es ++ [e]) e.after.sm.storage)
    (hC : Along C (executed log r)) : I (executed log r) (applyLog log r).2.sm.storage := by
  have hrun : Run applySingle r (executed log r) (applyLog log r).2 := Batch.run_executed log r
  refine hrun.invariant (I := fun es r => I es r.sm.storage) h0 (fun es t c hI hc => ?_) hC
  exact hstep es (Exec.of applySingle c t) (storageStep_applySingle c t) hI hc

end Syfrah
