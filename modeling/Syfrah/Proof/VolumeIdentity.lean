import Syfrah.Proof.CascadeDelete
import Syfrah.Proof.VolumeStep

/-!
# Snapshots of live volumes

A snapshot that is not deleted belongs to a volume that is not deleted: deleting a volume refuses or
deletes its snapshots first. The relation breaks in one place, since a snapshot can be created of a
volume that is already deleted. Keys and names of volumes stay unique in every run.
-/

namespace Syfrah

open StorageState

namespace VolumeChange

variable {s : StorageState} {c : Command} {id : VolumeId} {vol vol' : VolumeRecord}

def identity (vol : VolumeRecord) : VolumeId × OrgId × ProjectId × EnvId × String :=
  (vol.id, vol.orgId, vol.projectId, vol.envId, vol.name)

theorem identity_eq (h : VolumeChange s c id vol vol') : identity vol' = identity vol := by
  cases h <;> rfl

theorem deletes (h : VolumeChange s c id vol vol') (hdeleted : vol'.state = .deleted) :
    ∃ cascading deletedAt, c = .deleteVolume id cascading deletedAt := by
  cases h with
  | @deleted _ cascading deletedAt => exact ⟨cascading, deletedAt, rfl⟩
  | attached | detached | completed | rolledBack | migrated => cases hdeleted
  | rescheduled hstate | moved hstate | resized hstate =>
      have : _ = VolumeState.deleted := hstate.symm.trans hdeleted
      cases this

end VolumeChange

namespace StorageState

variable {s s' : StorageState} {c : Command} {response : StateMachineResponse}

/-- Live snapshots belong to live volumes, keys are ids, and names are unique. -/
structure Identified (s : StorageState) : Prop where
  sourced : ∀ (id : SnapshotId) snap, s.snapshots[id]? = some snap → snap.state ≠ .deleted →
    ∃ vol, s.volumes[snap.sourceVolumeId]? = some vol ∧ vol.state ≠ .deleted
  volumeKey : ∀ (id : VolumeId) vol, s.volumes[id]? = some vol → vol.id = id
  snapshotKey : ∀ (id : SnapshotId) snap, s.snapshots[id]? = some snap → snap.id = id
  unique : ∀ (id id' : VolumeId) vol vol', s.volumes[id]? = some vol → s.volumes[id']? = some vol' →
    vol.orgId = vol'.orgId → vol.projectId = vol'.projectId → vol.envId = vol'.envId →
    vol.name = vol'.name → id = id'

/-- A snapshot is created of a deleted volume, and nothing else stands in its way. -/
def snapshotsTombstone (s : StorageState) : Command → Bool
  | .createSnapshot id sourceVolumeId _ _ =>
      (s.volumes[sourceVolumeId]?).any fun vol =>
        vol.state == .deleted && (s.checkSnapshotQuota vol.orgId vol.projectId).toBool &&
          !s.snapshots.contains id
  | _ => false

/-! ### Names -/

theorem mem_values {α : Type} {t : Table α} {k : String} {a : α} (h : t[k]? = some a) :
    a ∈ values t :=
  List.mem_map.mpr ⟨(k, a), Std.ExtTreeMap.mem_toList_iff_getElem?_eq_some.mpr h, rfl⟩

def NewName (s : StorageState) (vol : VolumeRecord) : Prop :=
  s.nameExists vol.name vol.orgId vol.projectId vol.envId = false

theorem NewName.ne {vol vol' : VolumeRecord} (h : s.NewName vol) {id : VolumeId}
    (hget : s.volumes[id]? = some vol') :
    ¬ (vol'.orgId = vol.orgId ∧ vol'.projectId = vol.projectId ∧ vol'.envId = vol.envId ∧
      vol'.name = vol.name) := by
  rintro ⟨horg, hproject, henv, hname⟩
  rw [NewName, nameExists, List.any_eq_false] at h
  exact h vol' (mem_values hget) (by simp [horg, hproject, henv, hname])

theorem newName_createVolume {id : VolumeId} {name : String} {sizeGb : ℕ} {orgId : OrgId}
    {projectId : ProjectId} {envId : EnvId} {volumeType : VolumeType}
    {hypervisorId : Option HypervisorId} {zone : Option String} {vol : VolumeRecord}
    (h : s.createVolume id name sizeGb orgId projectId envId volumeType hypervisorId zone =
      .ok (vol, s')) : s.NewName vol := by
  unfold createVolume at h
  split at h
  · cases h
  · split at h
    · cases h
    · rename_i hname
      split at h
      · cases h
      · cases h
        exact Bool.eq_false_of_not_eq_true hname

theorem newName_restoreSnapshot {snapshotId : SnapshotId} {newVolumeId : VolumeId}
    {newVolumeName : String} {vol : VolumeRecord}
    (h : s.restoreSnapshot snapshotId newVolumeId newVolumeName = .ok (vol, s')) :
    s.NewName vol := by
  unfold restoreSnapshot at h
  split at h
  · cases h
  · split at h
    · cases h
    · split at h
      · cases h
      · split at h
        · cases h
        · rename_i hname
          split at h
          · cases h
          · cases h
            exact Bool.eq_false_of_not_eq_true hname

theorem newName_applySingle {r : Replica} {id : VolumeId} {vol : VolumeRecord}
    (hc : c.newVolume = some id) (hnone : r.sm.storage.volumes[id]? = none)
    (hsome : (applySingle c r).2.sm.storage.volumes[id]? = some vol) :
    r.sm.storage.NewName vol := by
  have hchanges : c.changesStorage = true := by
    cases c <;> first | rfl | cases hc
  have hperforms := performs_applySingle c r hchanges
  generalize (applySingle c r).1 = response, (applySingle c r).2.sm.storage = s' at *
  cases hperforms with
  | failed => rw [hnone] at hsome; cases hsome
  | done order now h =>
      cases c with
      | createVolume =>
          obtain ⟨⟨vol', t⟩, hok, heq⟩ := Except.map_ok h
          obtain rfl : t = s' := congrArg Prod.snd heq
          obtain ⟨-, -, -, rfl⟩ := createVolume_ok hok
          obtain rfl := Option.some.inj hc
          obtain rfl : vol' = vol := by simpa [setVolume] using hsome
          exact newName_createVolume hok
      | restoreSnapshot =>
          obtain ⟨⟨vol', t⟩, hok, heq⟩ := Except.map_ok h
          obtain rfl : t = s' := congrArg Prod.snd heq
          obtain ⟨_, _, -, -, -, -, -, -, -, rfl⟩ := restoreSnapshot_ok hok
          obtain rfl := Option.some.inj hc
          obtain rfl : vol' = vol := by simpa [setVolume] using hsome
          exact newName_restoreSnapshot hok
      | _ => cases hc

/-! ### Snapshots -/

theorem snapshots_cascade (ids : List SnapshotId) : (s.cascade ids).snapshots =
    ((ids.filterMap s.liveFiles).map Prod.fst).foldl markDeleted s.snapshots :=
  congrArg snapshots (foldl_cascadeSnapshot_eq (ids.filterMap s.liveFiles) s)

theorem snapshot_step (h : StorageStep c s response s') (id : SnapshotId) :
    s'.snapshots[id]? = s.snapshots[id]? ∨ s'.snapshots[id]? = (s.snapshots[id]?).map erased ∨
      c.newSnapshot = some id ∧ s.snapshots[id]? = none := by
  cases h with
  | setting hc hdata => exact .inl (by rw [hdata.2.snapshots])
  | @deleted _ id' cascading _ _ ids hget hlive hids hnone =>
      cases cascading with
      | false => exact .inl rfl
      | true =>
          change (s.cascade ids).snapshots[id]? = _ ∨ (s.cascade ids).snapshots[id]? = _ ∨ _
          rw [snapshots_cascade, getElem?_foldl_markDeleted]
          split
          · exact .inr (.inl rfl)
          · exact .inl rfl
  | purged order => exact .inl (by rw [(purgeTombstones_spec s order _ _).1.snapshots])
  | moved order => exact .inl (by rw [(moves_rescheduleVm s order _ _ _).ledger.snapshots])
  | @snapshotCreated _ id' _ _ _ _ hfresh =>
      by_cases hid : id' = id
      · exact .inr (.inr ⟨congrArg some hid, hid ▸ hfresh⟩)
      · exact .inl (by simp [Std.ExtTreeMap.getElem?_insert, hid])
  | @snapshotDeleted _ id' snap t hget hlive hs' =>
      subst hs'
      change (markSnapshotDeleted _ id').snapshots[id]? = _ ∨
        (markSnapshotDeleted _ id').snapshots[id]? = _ ∨ _
      rw [markSnapshotDeleted_eq, getElem?_markDeleted,
        (sameRecords_foldl sameRecords_decrementSst snap.sstFiles s).snapshots]
      split
      · exact .inr (.inl rfl)
      · exact .inl rfl
  | walCollected =>
      unfold gcCompleteWalSegments
      split <;> exact .inl rfl
  | _ => exact .inl rfl

theorem liveSnapshotsOf_step {id : VolumeId} {cascading : Bool} {deletedAt : ℕ}
    (h : StorageStep (.deleteVolume id cascading deletedAt) s response s') :
    s' = s ∨ s'.liveSnapshotsOf id = [] := by
  cases h with
  | rejected => exact .inl rfl
  | unrelated hc => cases hc
  | setting hc => cases hc
  | rewritten hc => cases hc
  | deleted ids hget hlive hids hnone =>
      refine .inr ?_
      cases cascading with
      | false =>
          obtain rfl := hnone rfl
          exact hids.nil_eq.symm
      | true =>
          refine List.eq_nil_iff_forall_not_mem.mpr fun snapshotId hmem => ?_
          obtain ⟨snap, hsnap, hsource, hstate⟩ := mem_liveSnapshotsOf.mp hmem
          change (s.cascade ids).snapshots[snapshotId]? = some snap at hsnap
          rw [snapshots_cascade, map_fst_liveFiles hids, getElem?_foldl_markDeleted] at hsnap
          split at hsnap
          · obtain ⟨old, -, rfl⟩ := Option.map_eq_some_iff.mp hsnap
            exact hstate rfl
          · rename_i hout
            apply hout
            exact hids.mem_iff.mpr (mem_liveSnapshotsOf.mpr ⟨snap, hsnap, hsource, hstate⟩)

theorem createSnapshot_accepted (sstFiles : List String) (walPosition : ℕ) {id : SnapshotId}
    {source : VolumeId} {vol : VolumeRecord} (hget : s.volumes[source]? = some vol)
    (hquota : s.checkSnapshotQuota vol.orgId vol.projectId = .ok ())
    (hfresh : s.snapshots.contains id = false) :
    ∃ s' snap, s.createSnapshot id source sstFiles walPosition = .ok s' ∧
      s'.volumes = s.volumes ∧ s'.snapshots = s.snapshots.insert id snap ∧ snap.id = id ∧
      snap.sourceVolumeId = source ∧ snap.state = .available := by
  unfold createSnapshot
  rw [hget]
  dsimp only
  rw [hquota]
  dsimp only
  rw [hfresh]
  exact ⟨_, _, rfl, rfl, rfl, rfl, rfl, rfl⟩

theorem createSnapshot_checks {id : SnapshotId} {source : VolumeId} {sstFiles : List String}
    {walPosition : ℕ} (h : s.createSnapshot id source sstFiles walPosition = .ok s') :
    ∃ vol, s.volumes[source]? = some vol ∧
      s.checkSnapshotQuota vol.orgId vol.projectId = .ok () ∧ s.snapshots.contains id = false := by
  unfold createSnapshot at h
  split at h
  · cases h
  · rename_i vol hget
    split at h
    · cases h
    · rename_i hquota
      split at h
      · cases h
      · rename_i hcontains
        exact ⟨vol, hget, hquota, Bool.eq_false_of_not_eq_true hcontains⟩

end StorageState

/-! ### Steps and runs -/

variable {r : Replica} {c : Command}

theorem applySingle_createSnapshot (id : SnapshotId) (source : VolumeId) (sstFiles : List String)
    (walPosition : ℕ) (r : Replica) :
    match r.sm.storage.createSnapshot id source sstFiles walPosition with
    | .ok s' => (applySingle (.createSnapshot id source sstFiles walPosition) r).2.sm.storage = s'
    | .error _ => (applySingle (.createSnapshot id source sstFiles walPosition) r).2.sm.storage =
        r.sm.storage := by
  change Handle.Yields (fun _ t =>
    match r.sm.storage.createSnapshot id source sstFiles walPosition with
    | .ok s' => t = s'
    | .error _ => t = r.sm.storage) (handle (.createSnapshot id source sstFiles walPosition)) r
  refine Handle.yields_storageStep (fun msg hmsg => ?_) fun s' hs' => ?_
  · rw [hmsg]
  · rw [hs']

theorem volume_origin {id : VolumeId} {vol' : VolumeRecord}
    (hget : (applySingle c r).2.sm.storage.volumes[id]? = some vol') :
    (∃ vol, r.sm.storage.volumes[id]? = some vol ∧
      VolumeChange.identity vol' = VolumeChange.identity vol) ∨
    c.newVolume = some id ∧ vol'.id = id ∧ r.sm.storage.NewName vol' := by
  have hstep := (effect_applySingle c r).volume id
  rw [hget] at hstep
  generalize hentry : r.sm.storage.volumes[id]? = entry at hstep
  cases hstep with
  | kept => exact .inl ⟨vol', rfl, rfl⟩
  | created hc hnew hquota =>
      exact .inr ⟨hc, hnew.id_eq, newName_applySingle hc hentry hget⟩
  | @changed vol _ hchange => exact .inl ⟨vol, rfl, hchange.identity_eq⟩

theorem volume_stays {id : VolumeId} {vol : VolumeRecord}
    (hget : r.sm.storage.volumes[id]? = some vol) (hlive : vol.state ≠ .deleted) :
    ∃ vol', (applySingle c r).2.sm.storage.volumes[id]? = some vol' ∧
      (vol'.state = .deleted → ∃ cascading deletedAt, c = .deleteVolume id cascading deletedAt) := by
  have hstep := (effect_applySingle c r).volume id
  rw [hget] at hstep
  generalize (applySingle c r).2.sm.storage.volumes[id]? = entry at hstep
  cases hstep with
  | kept => exact ⟨vol, rfl, fun hdeleted => absurd hdeleted hlive⟩
  | changed hchange => exact ⟨_, rfl, hchange.deletes⟩
  | purged hdeleted => exact absurd hdeleted hlive

theorem source_stays {id : SnapshotId} {snap : SnapshotRecord} {vol : VolumeRecord}
    (hsnap : (applySingle c r).2.sm.storage.snapshots[id]? = some snap)
    (hstate : snap.state ≠ .deleted)
    (hget : r.sm.storage.volumes[snap.sourceVolumeId]? = some vol) (hlive : vol.state ≠ .deleted) :
    ∃ vol', (applySingle c r).2.sm.storage.volumes[snap.sourceVolumeId]? = some vol' ∧
      vol'.state ≠ .deleted := by
  obtain ⟨vol', hget', hdeletes⟩ := volume_stays (c := c) hget hlive
  refine ⟨vol', hget', fun hdeleted => ?_⟩
  obtain ⟨cascading, deletedAt, rfl⟩ := hdeletes hdeleted
  rcases liveSnapshotsOf_step (storageStep_applySingle _ r) with hsame | hnone
  · rw [hsame, hget] at hget'
    obtain rfl := Option.some.inj hget'
    exact hlive hdeleted
  · have hmem := mem_liveSnapshotsOf.mpr ⟨snap, hsnap, rfl, hstate⟩
    rw [hnone] at hmem
    cases hmem

theorem snapshot_created {id : SnapshotId} {snap : SnapshotRecord}
    (hc : c.newSnapshot = some id) (hfresh : r.sm.storage.snapshots[id]? = none)
    (hget : (applySingle c r).2.sm.storage.snapshots[id]? = some snap) :
    snap.id = id ∧ (r.sm.storage.snapshotsTombstone c = false →
      ∃ vol, r.sm.storage.volumes[snap.sourceVolumeId]? = some vol ∧ vol.state ≠ .deleted) := by
  cases c with
  | createSnapshot id' source sstFiles walPosition =>
      obtain rfl : id' = id := Option.some.inj hc
      have hrun := applySingle_createSnapshot id' source sstFiles walPosition r
      cases hcreate : r.sm.storage.createSnapshot id' source sstFiles walPosition with
      | error msg =>
          simp only [hcreate] at hrun
          rw [hrun, hfresh] at hget
          cases hget
      | ok s' =>
          simp only [hcreate] at hrun
          obtain ⟨vol, hvol, hquota, hcontains⟩ := createSnapshot_checks hcreate
          obtain ⟨t, snap', ht, -, hsnapshots, hid, hsource, -⟩ := createSnapshot_accepted
            sstFiles walPosition hvol hquota hcontains
          obtain rfl := Except.ok.inj (hcreate.symm.trans ht)
          rw [hrun, hsnapshots, Std.ExtTreeMap.getElem?_insert_self] at hget
          obtain rfl := Option.some.inj hget
          refine ⟨hid, fun hcond => ⟨vol, hsource ▸ hvol, fun hdeleted => ?_⟩⟩
          simp [snapshotsTombstone, hvol, hdeleted, hquota, hcontains, Except.toBool] at hcond
  | _ => cases hc

theorem StorageState.Identified.step (h : r.sm.storage.Identified)
    (hcond : r.sm.storage.snapshotsTombstone c = false) :
    (applySingle c r).2.sm.storage.Identified where
  sourced id snap hget hlive := by
    have hbefore : ∃ vol, r.sm.storage.volumes[snap.sourceVolumeId]? = some vol ∧
        vol.state ≠ .deleted := by
      rcases (effect_applySingle c r).snapshot id snap hget hlive with hold | ⟨hc, hfresh, -⟩
      · exact h.sourced id snap hold hlive
      · exact (snapshot_created hc hfresh hget).2 hcond
    obtain ⟨vol, hvol, hstate⟩ := hbefore
    exact source_stays hget hlive hvol hstate
  volumeKey id vol hget := by
    rcases volume_origin hget with ⟨old, hold, hsame⟩ | ⟨-, hid, -⟩
    · exact (congrArg Prod.fst hsame).trans (h.volumeKey id old hold)
    · exact hid
  snapshotKey id snap hget := by
    rcases snapshot_step (storageStep_applySingle c r) id with hsame | herased | ⟨hc, hfresh⟩
    · exact h.snapshotKey id snap (hsame ▸ hget)
    · rw [herased] at hget
      obtain ⟨old, hold, rfl⟩ := Option.map_eq_some_iff.mp hget
      exact h.snapshotKey id old hold
    · exact (snapshot_created hc hfresh hget).1
  unique id id' vol vol' hget hget' horg hproject henv hname := by
    rcases volume_origin hget with ⟨old, hold, hsame⟩ | ⟨hc, -, hnew⟩
    · simp only [VolumeChange.identity, Prod.mk.injEq] at hsame
      obtain ⟨-, horg₁, hproject₁, henv₁, hname₁⟩ := hsame
      rcases volume_origin hget' with ⟨old', hold', hsame'⟩ | ⟨hc', -, hnew'⟩
      · simp only [VolumeChange.identity, Prod.mk.injEq] at hsame'
        obtain ⟨-, horg₂, hproject₂, henv₂, hname₂⟩ := hsame'
        apply h.unique id id' old old' hold hold'
        · rw [← horg₁, ← horg₂, horg]
        · rw [← hproject₁, ← hproject₂, hproject]
        · rw [← henv₁, ← henv₂, henv]
        · rw [← hname₁, ← hname₂, hname]
      · exact absurd ⟨horg₁.symm.trans horg, hproject₁.symm.trans hproject, henv₁.symm.trans henv,
          hname₁.symm.trans hname⟩ (hnew'.ne hold)
    · rcases volume_origin hget' with ⟨old', hold', hsame'⟩ | ⟨hc', -, -⟩
      · simp only [VolumeChange.identity, Prod.mk.injEq] at hsame'
        obtain ⟨-, horg₂, hproject₂, henv₂, hname₂⟩ := hsame'
        exact absurd ⟨(horg.trans horg₂).symm, (hproject.trans hproject₂).symm,
          (henv.trans henv₂).symm, (hname.trans hname₂).symm⟩ (hnew.ne hold')
      · exact Option.some.inj (hc.symm.trans hc')

theorem identified_applySingle_iff (h : r.sm.storage.Identified) :
    (applySingle c r).2.sm.storage.Identified ↔ r.sm.storage.snapshotsTombstone c = false := by
  refine ⟨fun hafter => ?_, h.step⟩
  cases hcond : r.sm.storage.snapshotsTombstone c with
  | false => rfl
  | true =>
      cases c with
      | createSnapshot id source sstFiles walPosition =>
          simp only [snapshotsTombstone, Option.any_eq_true, Bool.and_eq_true, beq_iff_eq,
            Bool.not_eq_true'] at hcond
          obtain ⟨vol, hvol, ⟨hdeleted, hquota⟩, hcontains⟩ := hcond
          have hok : r.sm.storage.checkSnapshotQuota vol.orgId vol.projectId = .ok () := by
            cases hresult : r.sm.storage.checkSnapshotQuota vol.orgId vol.projectId with
            | error msg =>
                rw [hresult] at hquota
                cases hquota
            | ok => rfl
          obtain ⟨s', snap, hcreate, hvolumes, hsnapshots, -, hsource, hstate⟩ :=
            createSnapshot_accepted sstFiles walPosition hvol hok hcontains
          have hrun := applySingle_createSnapshot id source sstFiles walPosition r
          simp only [hcreate] at hrun
          rw [hrun] at hafter
          have hlive : snap.state ≠ .deleted := by
            rw [hstate]
            nofun
          obtain ⟨vol', hvol', hstate'⟩ := hafter.sourced id snap
            (by rw [hsnapshots, Std.ExtTreeMap.getElem?_insert_self]) hlive
          rw [hvolumes, hsource, hvol] at hvol'
          obtain rfl := Option.some.inj hvol'
          exact absurd hdeleted hstate'
      | _ => cases hcond

theorem identified_empty : ({} : StorageState).Identified := by
  have hvolume : ∀ (id : VolumeId) vol, ({} : StorageState).volumes[id]? ≠ some vol := by
    intro id vol h
    cases (Std.ExtTreeMap.getElem?_empty (a := id)).symm.trans h
  have hsnapshot : ∀ (id : SnapshotId) snap, ({} : StorageState).snapshots[id]? ≠ some snap := by
    intro id snap h
    cases (Std.ExtTreeMap.getElem?_empty (a := id)).symm.trans h
  exact ⟨fun id snap h => absurd h (hsnapshot id snap), fun id vol h => absurd h (hvolume id vol),
    fun id snap h => absurd h (hsnapshot id snap), fun id _ vol _ h => absurd h (hvolume id vol)⟩

/-- **Snapshots and volumes.** In a run from an empty storage state, every snapshot that is not
deleted belongs to a volume that is not deleted in every state reached, keys are ids and names are
unique, just when no snapshot is created of a deleted volume. -/
theorem identified_along_iff (log : List StateMachineCommand) (r : Replica)
    (hinit : r.sm.storage = {}) :
    (∀ e ∈ executed log r, e.after.sm.storage.Identified) ↔
      ∀ e ∈ executed log r, e.before.sm.storage.snapshotsTombstone e.action = false := by
  have hrun : Run applySingle r (executed log r) (applyLog log r).2 := Batch.run_executed log r
  refine hrun.forall_after_iff (I := fun r => r.sm.storage.Identified)
    (C := fun r c => r.sm.storage.snapshotsTombstone c = false) ?_
    fun _ _ => identified_applySingle_iff
  rw [hinit]
  exact identified_empty

/-- What a volume keeps while it lives. -/
structure VolumeRecord.Continues (vol vol' : VolumeRecord) : Prop where
  identity : VolumeChange.identity vol' = VolumeChange.identity vol
  volumeType : vol'.volumeType = vol.volumeType
  sizeGb : vol.sizeGb ≤ vol'.sizeGb

theorem VolumeChange.continues {s : StorageState} {id : VolumeId} {vol vol' : VolumeRecord}
    (h : VolumeChange s c id vol vol') : vol.Continues vol' := by
  refine ⟨h.identity_eq, ?_, ?_⟩
  · cases h <;> rfl
  · cases h with
    | resized _ hlarger => exact hlarger.le
    | _ => exact le_rfl

def Command.deletes (id : VolumeId) : Command → Bool
  | .deleteVolume id' _ _ => id' == id
  | _ => false

/-- **The life of a volume.** A volume that is not deleted stays, with its name, owner and type and at
least its size, until a command to delete it is executed. -/
theorem live_until_deleted (log : List StateMachineCommand) {r : Replica} {id : VolumeId} {vol : VolumeRecord}
    (hget : r.sm.storage.volumes[id]? = some vol) (hlive : vol.state ≠ .deleted)
    (hkept : ∀ e ∈ executed log r, e.action.deletes id = false) :
    ∃ vol', (applyLog log r).2.sm.storage.volumes[id]? = some vol' ∧ vol'.state ≠ .deleted ∧ vol.Continues vol' := by
  have hrun : Run applySingle r (executed log r) (applyLog log r).2 := Batch.run_executed log r
  refine hrun.invariant (I := fun _ t => ∃ vol', t.sm.storage.volumes[id]? = some vol' ∧ vol'.state ≠ .deleted ∧
    vol.Continues vol') ⟨vol, hget, hlive, rfl, rfl, le_rfl⟩ ?_ (.of_forall hkept)
  rintro _ t c ⟨vol', hvol', hlive', hname, htype, hsize⟩ hother
  have hstep := (effect_applySingle c t).volume id
  rw [hvol'] at hstep
  generalize (applySingle c t).2.sm.storage.volumes[id]? = entry at hstep
  cases hstep with
  | kept => exact ⟨vol', rfl, hlive', hname, htype, hsize⟩
  | @changed _ new hchange =>
      obtain ⟨hname', htype', hsize'⟩ := hchange.continues
      refine ⟨new, rfl, fun hdeleted => ?_, hname'.trans hname, htype'.trans htype, hsize.trans hsize'⟩
      obtain ⟨cascading, deletedAt, rfl⟩ := hchange.deletes hdeleted
      exact Bool.noConfusion ((beq_self_eq_true id).symm.trans hother)
  | purged hdeleted => exact absurd hdeleted hlive'

/-- A volume is snapshotted, restored under another name and deleted with its snapshot. -/
def identifiedLog : List StateMachineCommand :=
  [.single (.createVolume "vol" "disk" 10 "org" "proj" "env" .data none none),
    .single (.createSnapshot "snap" "vol" ["a.sst"] 10),
    .single (.restoreSnapshot "snap" "copy" "disk-copy"),
    .single (.deleteVolume "vol" true 7)]

theorem live_after_restore :
    let r := (applyLog (identifiedLog.take 1) .fresh).2
    ∃ vol vol', r.sm.storage.volumes["vol"]? = some vol ∧
      (applyLog ((identifiedLog.drop 1).take 2) r).2.sm.storage.volumes["vol"]? = some vol' ∧ vol.Continues vol' := by
  intro r
  obtain ⟨vol', hvol', -, hcontinues⟩ :=
    live_until_deleted ((identifiedLog.drop 1).take 2) (rfl : r.sm.storage.volumes["vol"]? = some _) (by decide) (by decide)
  exact ⟨_, vol', rfl, hvol', hcontinues⟩

theorem identified_along_of_restored :
    (∀ e ∈ executed identifiedLog .fresh,
      e.before.sm.storage.snapshotsTombstone e.action = false) ∧
    ∀ e ∈ executed identifiedLog .fresh, e.after.sm.storage.Identified := by
  have hcond : ∀ e ∈ executed identifiedLog .fresh,
      e.before.sm.storage.snapshotsTombstone e.action = false := by decide
  exact ⟨hcond, (identified_along_iff identifiedLog .fresh rfl).mpr hcond⟩

def tombstoneSnapshotLog : List StateMachineCommand :=
  [.single (.createVolume "vol" "disk" 10 "org" "proj" "env" .data none none),
    .single (.deleteVolume "vol" false 7),
    .single (.createSnapshot "snap" "vol" ["a.sst"] 10)]

theorem not_identified_of_tombstone_snapshot :
    ¬ (applyLog tombstoneSnapshotLog .fresh).2.sm.storage.Identified := by
  intro h
  have hsnap : (applyLog tombstoneSnapshotLog .fresh).2.sm.storage.snapshots["snap"]? =
      some ⟨"snap", "vol", ["a.sst"], 10, "org", "proj", 10, "env", .data, .available⟩ := by decide
  obtain ⟨vol, hvol, hlive⟩ := h.sourced "snap" _ hsnap (by decide)
  have hdeleted : ((applyLog tombstoneSnapshotLog .fresh).2.sm.storage.volumes["vol"]?).map
      (·.state) = some .deleted := by decide
  rw [hvol] at hdeleted
  exact hlive (Option.some.inj hdeleted)

end Syfrah
