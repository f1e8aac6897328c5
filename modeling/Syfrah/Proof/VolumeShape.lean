import Syfrah.Proof.VolumeStep

/-!
# The shape of volume records

The state of a volume says which of its optional fields are set. Two commands break this: completing
a migration leaves the volume available with the VM it was migrated for, and deleting a volume in the
middle of a migration leaves the marks of the migration on the tombstone. Every run without such a
step keeps all records in shape.
-/

namespace Syfrah

open StorageState

namespace VolumeRecord

/-- The optional fields of a record are those of its state. -/
structure WellShaped (vol : VolumeRecord) : Prop where
  attached : vol.state = .attached →
    vol.attachedVmId.isSome = true ∧ vol.attachedHypervisorId.isSome = true
  available : vol.state = .available → vol.attachedVmId = none
  deleted : vol.state = .deleted →
    vol.attachedVmId = none ∧ vol.attachedHypervisorId = none ∧ vol.deletedAt.isSome = true
  sourceZone : vol.migrationSourceZone.isSome = true ↔ vol.state = .migrating
  targetZone : vol.migrationTargetZone.isSome = true ↔ vol.state = .migrating
  unmoved : vol.state ≠ .migrating →
    vol.preMigrationHypervisor = none ∧ vol.preMigrationVmId = none

structure InShape (vol : VolumeRecord) : Prop extends WellShaped vol where
  migrating : vol.state = .migrating → vol.preMigrationVmId = none

theorem New.inShape {vol : VolumeRecord} {id : VolumeId} (h : vol.New id) : vol.InShape := by
  obtain ⟨-, hstate, hvm, hsource, htarget, hhypervisor, hpre⟩ := h
  refine ⟨⟨?_, ?_, ?_, ?_, ?_, ?_⟩, ?_⟩ <;> simp [hstate, hvm, hsource, htarget, hhypervisor, hpre]

end VolumeRecord

/-- The steps that keep records in shape: a migration is completed only when the volume has no VM, and
a migrating volume is not deleted. -/
def keepsShape (s : StorageState) : Command → Bool
  | .completeMigration id =>
      (s.volumes[id]?).all fun vol => vol.state != .migrating || vol.attachedVmId.isNone
  | .deleteVolume id _ _ => (s.volumes[id]?).all fun vol => vol.state != .migrating
  | _ => true

theorem VolumeChange.inShape {s : StorageState} {c : Command} {id : VolumeId}
    {vol vol' : VolumeRecord} (hchange : VolumeChange s c id vol vol')
    (hget : s.volumes[id]? = some vol) (hvol : vol.InShape) (hkeeps : keepsShape s c = true) :
    vol'.InShape := by
  obtain ⟨⟨hattached, havailable, hdeleted, hsource, htarget, hunmoved⟩, hmigrating⟩ := hvol
  cases hchange with
  | attached hstate | detached hstate | rescheduled hstate | moved hstate | resized hstate
  | migrated hstate => refine ⟨⟨?_, ?_, ?_, ?_, ?_, ?_⟩, ?_⟩ <;> simp_all
  | completed hstate =>
      have hvm : vol.attachedVmId = none := by simpa [keepsShape, hget, hstate] using hkeeps
      refine ⟨⟨?_, ?_, ?_, ?_, ?_, ?_⟩, ?_⟩ <;> simp [hvm]
  | rolledBack hstate => refine ⟨⟨?_, ?_, ?_, ?_, ?_, ?_⟩, ?_⟩ <;> simp [hmigrating hstate]
  | deleted hlive =>
      have hstate : vol.state ≠ .migrating := by simpa [keepsShape, hget] using hkeeps
      refine ⟨⟨?_, ?_, ?_, ?_, ?_, ?_⟩, ?_⟩ <;> simp_all [tombstone]

theorem RecordStep.inShape {s : StorageState} {c : Command} {id : VolumeId}
    {entry' : Option VolumeRecord} (hstep : RecordStep s c id s.volumes[id]? entry')
    (hvol : ∀ vol, s.volumes[id]? = some vol → vol.InShape) (hkeeps : keepsShape s c = true) :
    ∀ vol', entry' = some vol' → vol'.InShape := by
  rintro vol' rfl
  generalize hentry : s.volumes[id]? = entry at hstep hvol
  cases hstep with
  | kept => exact hvol vol' rfl
  | created _ hnew => exact hnew.inShape
  | changed hchange => exact hchange.inShape hentry (hvol _ rfl) hkeeps

/-- **The shape of volume records.** As long as no migration is completed for a volume with a VM and
no migrating volume is deleted, the optional fields of every record are those of its state. -/
theorem wellShaped_of_log (log : List StateMachineCommand) (r : Replica)
    (hinit : r.sm.storage = {})
    (hcond : ∀ e ∈ executed log r, keepsShape e.before.sm.storage e.action = true) :
    ∀ (id : VolumeId) vol, (applyLog log r).2.sm.storage.volumes[id]? = some vol →
      vol.WellShaped := by
  have hrun : Run applySingle r (executed log r) (applyLog log r).2 := Batch.run_executed log r
  have hshape : ∀ (id : VolumeId) vol, (applyLog log r).2.sm.storage.volumes[id]? = some vol →
      vol.InShape := by
    refine hrun.invariant
      (I := fun _ t => ∀ (id : VolumeId) vol, t.sm.storage.volumes[id]? = some vol → vol.InShape)
      (C := fun _ e => keepsShape e.before.sm.storage e.action = true) ?_ ?_ (.of_forall hcond)
    · rw [hinit]
      simp
    · intro _ t c hI hc id
      exact ((effect_applySingle c t).volume id).inShape (hI id) hc
  exact fun id vol hget => (hshape id vol hget).toWellShaped

/-- Two zones with storage, and a volume in the first. -/
def zonesLog : List StateMachineCommand :=
  [.single (.setStorageConfig "eu" "a" ⟨"https://s3", "bucket", "key", "secret", "/cache", 1, 1⟩),
    .single (.setStorageConfig "eu" "b" ⟨"https://s3", "bucket", "key", "secret", "/cache", 1, 1⟩),
    .single (.createVolume "vol" "disk" 10 "org" "proj" "env" .data (some "hv-1") (some "a"))]

/-- The volume moves to the second zone without a VM and is attached there. -/
def attachedAfterMigration : List StateMachineCommand :=
  zonesLog ++
    [.single (.migrateVolumeToZone "vol" "a" "b" "hv-2" none),
      .single (.completeMigration "vol"),
      .single (.volumeAttach "vol" "vm" "hv-2")]

theorem wellShaped_of_attached_after_migration :
    (∀ e ∈ executed attachedAfterMigration .fresh,
      keepsShape e.before.sm.storage e.action = true) ∧
    ∀ (id : VolumeId) vol,
      (applyLog attachedAfterMigration .fresh).2.sm.storage.volumes[id]? = some vol →
        vol.WellShaped := by
  have hcond : ∀ e ∈ executed attachedAfterMigration .fresh,
      keepsShape e.before.sm.storage e.action = true := by decide
  exact ⟨hcond, wellShaped_of_log attachedAfterMigration .fresh rfl hcond⟩

/-- The volume moves to the second zone for a VM there. -/
def migratedForVm : List StateMachineCommand :=
  zonesLog ++
    [.single (.migrateVolumeToZone "vol" "a" "b" "hv-2" (some "vm")),
      .single (.completeMigration "vol")]

/-- The completed migration leaves the volume available and assigned to the VM. -/
theorem available_with_vm_after_migration :
    ∃ vol : VolumeRecord, (applyLog migratedForVm .fresh).2.sm.storage.volumes["vol"]? = some vol ∧
      vol.state = .available ∧ vol.attachedVmId = some "vm" ∧ ¬ vol.WellShaped := by
  refine ⟨_, rfl, by decide, by decide, fun h => ?_⟩
  exact absurd (h.available (by decide)) (by decide)

end Syfrah
