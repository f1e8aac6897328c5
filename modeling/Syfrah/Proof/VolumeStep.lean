import Syfrah.Proof.References

/-!
# The records of volumes and snapshots from step to step

`StorageStep` forgets most fields of a record. Here every command is followed through each single
record: an entry of the volume table is kept, created, changed as `VolumeChange` lists it, or purged,
and a live snapshot was there before or has just been created within its quota.
-/

namespace Syfrah

open StorageState

namespace Command

def newVolume : Command → Option VolumeId
  | createVolume id .. | restoreSnapshot _ id _ => some id
  | _ => none

def newSnapshot : Command → Option SnapshotId
  | createSnapshot id .. => some id
  | _ => none

def setsQuota : Command → Bool
  | setStorageQuota .. => true
  | _ => false

end Command

inductive RecordStep (s : StorageState) (c : Command) (id : VolumeId) :
    Option VolumeRecord → Option VolumeRecord → Prop
  | kept {entry} : RecordStep s c id entry entry
  | created {vol} (hc : c.newVolume = some id) (hnew : vol.New id)
      (hquota : s.checkVolumeQuota vol.orgId vol.projectId vol.sizeGb = .ok ()) :
      RecordStep s c id none (some vol)
  | changed {vol vol'} (hchange : VolumeChange s c id vol vol') :
      RecordStep s c id (some vol) (some vol')
  | purged {vol} (hdeleted : vol.state = .deleted) : RecordStep s c id (some vol) none

structure StorageEffect (s : StorageState) (c : Command) (s' : StorageState) : Prop where
  volume : ∀ id : VolumeId, RecordStep s c id s.volumes[id]? s'.volumes[id]?
  snapshot : ∀ (id : SnapshotId) snap, s'.snapshots[id]? = some snap → snap.state ≠ .deleted →
    s.snapshots[id]? = some snap ∨
      c.newSnapshot = some id ∧ s.snapshots[id]? = none ∧
        s.checkSnapshotQuota snap.orgId snap.projectId = .ok ()
  quotas : c.setsQuota = false → s'.quotas = s.quotas

namespace StorageState

variable {s s' : StorageState} {c : Command} {response : StateMachineResponse} {order : HashOrder}
  {now : ℕ}

theorem effect_of_eq (hvolumes : s'.volumes = s.volumes) (hsnapshots : s'.snapshots = s.snapshots)
    (hquotas : c.setsQuota = false → s'.quotas = s.quotas) : StorageEffect s c s' := by
  refine ⟨fun id => ?_, fun id snap hget _ => .inl ?_, hquotas⟩
  · rw [hvolumes]
    exact .kept
  · rwa [hsnapshots] at hget

theorem effect_of_marks (h : MarksDeleted s s') : StorageEffect s c s' := by
  refine ⟨fun id => ?_, fun id snap hget hlive => .inl (h.live id snap hget hlive),
    fun _ => h.quotas⟩
  rw [h.volumes]
  exact .kept

theorem effect_setVolume {t : StorageState} {id₀ : VolumeId} {vol : VolumeRecord}
    (h : StorageEffect s c t) (hsame : t.volumes = s.volumes)
    (hstep : RecordStep s c id₀ s.volumes[id₀]? (some vol)) :
    StorageEffect s c (t.setVolume id₀ vol) := by
  refine ⟨fun id => ?_, h.snapshot, h.quotas⟩
  rw [setVolume, hsame, Std.ExtTreeMap.getElem?_insert]
  by_cases hid : id₀ = id
  · subst hid
    simpa using hstep
  · simpa [hid] using RecordStep.kept

theorem effect_refl : StorageEffect s c s := effect_of_eq rfl rfl fun _ => rfl

theorem effect_of_changes {id₀ : VolumeId} {vol' : VolumeRecord} (h : s.Changes c id₀ vol' s') :
    StorageEffect s c s' := by
  obtain ⟨vol, hget, hchange, rfl⟩ := h
  refine effect_setVolume effect_refl rfl ?_
  rw [hget]
  exact .changed hchange

theorem effect_insertSnapshot {id₀ : SnapshotId} {snap₀ : SnapshotRecord}
    (hc : c.newSnapshot = some id₀) (hfresh : s.snapshots[id₀]? = none)
    (hquota : s.checkSnapshotQuota snap₀.orgId snap₀.projectId = .ok ())
    (hvolumes : s'.volumes = s.volumes) (hquotas : s'.quotas = s.quotas)
    (hsnapshots : s'.snapshots = s.snapshots.insert id₀ snap₀) : StorageEffect s c s' := by
  refine ⟨fun id => ?_, fun id snap hget _ => ?_, fun _ => hquotas⟩
  · rw [hvolumes]
    exact .kept
  · rw [hsnapshots, Std.ExtTreeMap.getElem?_insert] at hget
    by_cases hid : id₀ = id
    · subst hid
      obtain rfl : snap₀ = snap := by simpa using hget
      exact .inr ⟨hc, hfresh, hquota⟩
    · exact .inl (by simpa [hid] using hget)

/-- **What each command does**, read off the functions one by one. -/
theorem effect_perform (h : s.perform order now c = .ok (response, s')) : StorageEffect s c s' := by
  have hchanges : ∀ {id₀ : VolumeId} {x : Except String (VolumeRecord × StorageState)},
      (∀ vol' t, x = .ok (vol', t) → s.Changes c id₀ vol' t) →
        x.map (fun p => (StateMachineResponse.ok, p.2)) = .ok (response, s') →
        StorageEffect s c s' := by
    intro id₀ x hx hmap
    obtain ⟨⟨vol', t⟩, hok, heq⟩ := Except.map_ok hmap
    cases heq
    exact effect_of_changes (hx vol' t hok)
  have hrecords : ∀ {x : Except String StorageState} {reply : StateMachineResponse},
      (∀ t, x = .ok t → ∃ records, t = { s with vmRecords := records }) →
        x.map (fun t => (reply, t)) = .ok (response, s') → StorageEffect s c s' := by
    intro x reply hx hmap
    obtain ⟨t, hok, heq⟩ := Except.map_ok hmap
    cases heq
    obtain ⟨records, rfl⟩ := hx _ hok
    exact effect_of_eq rfl rfl fun _ => rfl
  cases c with
  | createVolume id name sizeGb orgId projectId envId volumeType hypervisorId zone =>
      obtain ⟨⟨vol, t⟩, hok, heq⟩ := Except.map_ok h
      cases heq
      obtain ⟨hfresh, hnew, hquota, rfl⟩ := createVolume_ok hok
      refine effect_setVolume effect_refl rfl ?_
      rw [hfresh]
      exact .created rfl hnew hquota
  | restoreSnapshot snapshotId newVolumeId newVolumeName =>
      obtain ⟨⟨vol, t⟩, hok, heq⟩ := Except.map_ok h
      cases heq
      obtain ⟨snap, pointer, -, -, hfresh, hnew, hquota, -, -, rfl⟩ := restoreSnapshot_ok hok
      have hledger : StorageEffect s (.restoreSnapshot snapshotId newVolumeId newVolumeName)
          { s with
            sstRefcounts := snap.sstFiles.foldl incrementSst s.sstRefcounts
            manifestPointers := s.manifestPointers.insert newVolumeId pointer } :=
        effect_of_eq rfl rfl fun _ => rfl
      refine effect_setVolume hledger rfl ?_
      rw [hfresh]
      exact .created rfl hnew hquota
  | deleteVolume id cascading deletedAt =>
      obtain ⟨⟨vol', t⟩, hok, heq⟩ := Except.map_ok h
      cases heq
      obtain ⟨vol, ids, hget, hlive, hids, -, rfl⟩ := deleteVolume_ok hok
      have hmarks : MarksDeleted s (if cascading then s.cascade ids else s) := by
        split
        · exact (unreferences_cascade hids).choose_spec.marks
        · exact refl_of MarksDeleted s
      refine effect_setVolume (effect_of_marks hmarks) hmarks.volumes ?_
      rw [hget]
      exact .changed (.deleted hlive)
  | volumeDetach id =>
      obtain ⟨⟨vol', t⟩, hok, heq⟩ := Except.map_ok h
      cases heq
      obtain ⟨vol, hget, hchange, rfl⟩ := volumeDetach_ok hok
      have hledger : StorageEffect s (.volumeDetach id)
          { s with manifestPointers := s.manifestPointers.erase id } :=
        effect_of_eq rfl rfl fun _ => rfl
      refine effect_setVolume hledger rfl ?_
      rw [hget]
      exact .changed hchange
  | volumeAttach id vmId hypervisorId => exact hchanges (fun _ _ => volumeAttach_ok) h
  | rescheduleVolume id source target newVmId => exact hchanges (fun _ _ => rescheduleVolume_ok) h
  | migrateVolumeToZone id sourceZone targetZone target targetVmId =>
      exact hchanges (fun _ _ => migrateVolumeToZone_ok) h
  | completeMigration id => exact hchanges (fun _ _ => completeMigration_ok) h
  | rollbackMigration id reason => exact hchanges (fun _ _ => rollbackMigration_ok) h
  | resizeVolume id newSizeGb => exact hchanges (fun _ _ => resizeVolume_ok) h
  | rescheduleVm vmId source target generation =>
      cases h
      obtain ⟨volumes, hstate, hvolumes⟩ := s.rescheduleVm_spec order vmId source target
      rw [hstate]
      refine ⟨fun id => ?_, fun _ _ hget _ => .inl hget, fun _ => rfl⟩
      rw [hvolumes]
      cases s.volumes[id]? with
      | none => exact .kept
      | some vol =>
          rw [Option.map_some]
          split
          · rename_i hserves
            exact .changed (.moved hserves.1 hserves.2.1 hserves.2.2)
          · exact .kept
  | purgeTombstones time maxAgeSecs =>
      cases h
      refine ⟨fun id => ?_, fun _ _ hget _ => .inl hget, fun _ => rfl⟩
      rcases (purgeTombstones_spec s order time maxAgeSecs).2 id with heq | ⟨hnone, vol, hget, hdel⟩
      · rw [heq]
        exact .kept
      · rw [hnone, hget]
        exact .purged hdel
  | setStorageConfig region zone config =>
      obtain ⟨⟨key, t⟩, hok, heq⟩ := Except.map_ok h
      cases heq
      obtain ⟨configs, rfl⟩ := setStorageConfig_ok hok
      exact effect_of_eq rfl rfl fun _ => rfl
  | createSnapshot id source sstFiles walPosition =>
      obtain ⟨t, hok, heq⟩ := Except.map_ok h
      cases heq
      obtain ⟨snap, hfresh, -, -, -, hquota, rfl⟩ := createSnapshot_ok hok
      exact effect_insertSnapshot rfl hfresh hquota rfl rfl rfl
  | deleteSnapshot id =>
      obtain ⟨t, hok, heq⟩ := Except.map_ok h
      cases heq
      obtain ⟨snap, hget, hlive, u, rfl, rfl⟩ := deleteSnapshot_ok hok
      exact effect_of_marks ((unreferences_snapshot releases_decrementSst sameRecords_decrementSst
        hget hlive).setMinWal _).marks
  | commitManifest id generation manifestVersion s3Key publishedBy =>
      obtain ⟨t, hok, heq⟩ := Except.map_ok h
      cases heq
      obtain ⟨_, -, -, -, -, -, _, -, rfl⟩ := commitManifest_ok hok
      exact effect_of_eq rfl rfl fun _ => rfl
  | markRestoreBegin id =>
      obtain ⟨t, hok, heq⟩ := Except.map_ok h
      cases heq
      obtain ⟨marks, rfl⟩ := markRestoreBegin_ok hok
      exact effect_of_eq rfl rfl fun _ => rfl
  | createVmIntent name image vcpus memoryMb zone subnet =>
      exact hrecords (fun _ => createVmIntent_ok) h
  | updateVmPhase vmId phase hypervisorId ip error => exact hrecords (fun _ => updateVmPhase_ok) h
  | deleteVmIntent vmId => exact hrecords (fun _ => deleteVmIntent_ok) h
  | gcCompleteWalSegments belowPosition =>
      cases h
      unfold gcCompleteWalSegments
      split <;> exact effect_of_eq rfl rfl fun _ => rfl
  | setStorageQuota scope maxVolumes maxTotalGb maxSnapshots =>
      cases h
      exact effect_of_eq rfl rfl nofun
  -- the remaining functions write none of the three tables
  | _ =>
      cases h
      exact effect_of_eq rfl rfl fun _ => rfl

end StorageState

/-- **The effect of a command.** One that is rejected has none. -/
theorem effect_applySingle (c : Command) (r : Replica) :
    StorageEffect r.sm.storage c (applySingle c r).2.sm.storage := by
  cases hc : c.changesStorage with
  | false =>
      rw [(only_applySingle c r).storage hc]
      exact effect_refl
  | true =>
      have hperforms := performs_applySingle c r hc
      generalize (applySingle c r).1 = response, (applySingle c r).2.sm.storage = s' at hperforms
      cases hperforms with
      | failed => exact effect_refl
      | done order now h => exact effect_perform h

end Syfrah
