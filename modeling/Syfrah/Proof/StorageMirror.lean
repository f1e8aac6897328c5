import Syfrah.Proof.MirrorTables
import Syfrah.Proof.VolumeIdentity

/-!
# The mirror of the volumes

Every command that writes a volume mirrors the record it wrote, and a purge deletes what it purged.
So in every run from empty tables the storage store shows the volumes of the state machine.
-/

namespace Syfrah

open StorageStore Replica

/-! ### Handlers -/

namespace Replica

variable {r : Replica} {volumes : Table VolumeRecord}

def Shows (r : Replica) (volumes : Table VolumeRecord) : Prop :=
  ∃ db, r.sm.storageStore = some db ∧ Mirrors volumes db

/-- The mirror of a replica shows the volumes of its storage state. -/
def Mirrored (r : Replica) : Prop := r.Shows r.sm.storage.volumes

def KeepsEnv (volumes : Table VolumeRecord) (vol : VolumeRecord) : Prop :=
  ∀ old, volumes[vol.id]? = some old → old.envId = vol.envId

theorem mirror_run (m : StorageStoreM Unit) {db : StorageDb} (h : r.sm.storageStore = some db) :
    ∃ r', mirror m r = (.ok (), r') ∧ r'.sm.storage = r.sm.storage ∧
      r'.sm.storageStore = some (m (db, r.ambient)).2.1 := by
  have hrun : mirror m r = (.ok (),
      { sm := { r.sm with storageStore := some (m (db, r.ambient)).2.1 }
        ambient := (m (db, r.ambient)).2.2 }) := by
    unfold mirror
    rw [h]
    rfl
  exact ⟨_, hrun, rfl, rfl⟩

theorem syncVolumeToStore_run {vol : VolumeRecord} (h : r.Shows volumes)
    (henv : KeepsEnv volumes vol) :
    ∃ r', syncVolumeToStore vol r = (.ok (), r') ∧ r'.sm.storage = r.sm.storage ∧
      r'.Shows (volumes.insert vol.id vol) := by
  obtain ⟨db, hdb, hmirrors⟩ := h
  obtain ⟨r', hrun, hstorage, hstore⟩ := mirror_run (upsertVolume vol) hdb
  exact ⟨r', hrun, hstorage, _, hstore, hmirrors.upsertVolume henv r.ambient⟩

theorem syncVolumeDeleteFromStore_run (h : r.Shows volumes) (id : VolumeId) :
    ∃ r', syncVolumeDeleteFromStore id r = (.ok (), r') ∧ r'.sm.storage = r.sm.storage ∧
      r'.Shows (volumes.erase id) := by
  obtain ⟨db, hdb, hmirrors⟩ := h
  obtain ⟨r', hrun, hstorage, hstore⟩ := mirror_run (StorageStore.deleteVolume id) hdb
  exact ⟨r', hrun, hstorage, _, hstore, hmirrors.deleteVolume id r.ambient⟩

theorem each_sync_run {vols : List VolumeRecord} (h : r.Shows volumes)
    (henv : ∀ vol ∈ vols, envKey volumes vol.id = some vol.envId) :
    ∃ r', Tx.each syncVolumeToStore vols r = (.ok (), r') ∧ r'.sm.storage = r.sm.storage ∧
      r'.Shows (vols.foldl (fun t vol => t.insert vol.id vol) volumes) := by
  induction vols generalizing r volumes with
  | nil => exact ⟨r, rfl, rfl, h⟩
  | cons vol vols ih =>
      obtain ⟨hvol, hvols⟩ := List.forall_mem_cons.mp henv
      have hkeeps : KeepsEnv volumes vol := by
        intro old hold
        rw [envKey, hold] at hvol
        exact Option.some.inj hvol
      obtain ⟨r₁, hrun₁, hstorage₁, hshows₁⟩ := syncVolumeToStore_run h hkeeps
      have hsame : envKey (volumes.insert vol.id vol) = envKey volumes := by
        rw [envKey_insert, update_same hvol]
      obtain ⟨r₂, hrun₂, hstorage₂, hshows₂⟩ := ih hshows₁ fun vol' hvol' => by
        rw [hsame]
        exact hvols vol' hvol'
      exact ⟨r₂, (Tx.bind_apply_ok hrun₁).trans hrun₂, hstorage₂.trans hstorage₁, hshows₂⟩

theorem each_syncDelete_run (ids : List VolumeId) (h : r.Shows volumes) :
    ∃ r', Tx.each syncVolumeDeleteFromStore ids r = (.ok (), r') ∧
      r'.sm.storage = r.sm.storage ∧ r'.Shows (ids.foldl (fun t id => t.erase id) volumes) := by
  induction ids generalizing r volumes with
  | nil => exact ⟨r, rfl, rfl, h⟩
  | cons id ids ih =>
      obtain ⟨r₁, hrun₁, hstorage₁, hshows₁⟩ := syncVolumeDeleteFromStore_run h id
      obtain ⟨r₂, hrun₂, hstorage₂, hshows₂⟩ := ih hshows₁
      exact ⟨r₂, (Tx.bind_apply_ok hrun₁).trans hrun₂, hstorage₂.trans hstorage₁, hshows₂⟩

theorem Mirrored.of_only {stores : List StoreName} {r' : Replica} (h : r.Mirrored)
    (honly : Only stores false r r') (hstores : .storage ∉ stores) : r'.Mirrored := by
  obtain ⟨db, hdb, hmirrors⟩ := h
  refine ⟨db, (honly.store .storage hstores).trans hdb, ?_⟩
  rwa [honly.storage rfl]

end Replica

/-! ### What the storage functions write -/

namespace StorageState

variable {s s' : StorageState} {vol : VolumeRecord} {c : Command}

def WritesVolume (s : StorageState) (vol : VolumeRecord) (s' : StorageState) : Prop :=
  s'.volumes = s.volumes.insert vol.id vol ∧ KeepsEnv s.volumes vol

def Keyed (volumes : Table VolumeRecord) : Prop :=
  ∀ (id : VolumeId) vol, volumes[id]? = some vol → vol.id = id

theorem WritesVolume.of_new {id : VolumeId} (hnew : vol.New id) (hfresh : s.volumes[id]? = none)
    (hs' : s'.volumes = s.volumes.insert id vol) : s.WritesVolume vol s' := by
  refine ⟨by rw [hs', hnew.id_eq], fun old hold => ?_⟩
  rw [hnew.id_eq, hfresh] at hold
  cases hold

theorem WritesVolume.of_change {id : VolumeId} {old : VolumeRecord} (hkeyed : Keyed s.volumes)
    (hget : s.volumes[id]? = some old) (hchange : VolumeChange s c id old vol)
    (hs' : s'.volumes = s.volumes.insert id vol) : s.WritesVolume vol s' := by
  have hsame := hchange.identity_eq
  simp only [VolumeChange.identity, Prod.mk.injEq] at hsame
  have hid : vol.id = id := hsame.1.trans (hkeyed id old hget)
  refine ⟨by rw [hs', hid], fun old' hold' => ?_⟩
  rw [hid, hget] at hold'
  obtain rfl := Option.some.inj hold'
  exact hsame.2.2.2.1.symm

theorem WritesVolume.of_changes {id : VolumeId} (hkeyed : Keyed s.volumes)
    (h : s.Changes c id vol s') : s.WritesVolume vol s' := by
  obtain ⟨old, hget, hchange, rfl⟩ := h
  exact .of_change hkeyed hget hchange rfl

theorem deleteVolume_record {order : HashOrder} {id : VolumeId} {cascading : Bool} {deletedAt : ℕ}
    (h : s.deleteVolume order id cascading deletedAt = .ok (vol, s')) :
    ∃ old, s.volumes[id]? = some old ∧ vol = tombstone old deletedAt := by
  unfold deleteVolume at h
  split at h
  · cases h
  · rename_i old hget
    split at h
    · cases h
    · split at h
      · cases h
      · split at h
        · cases h
        · dsimp only at h
          split at h
          · cases h
          · split at h
            · cases h
            · cases h
              exact ⟨old, hget, rfl⟩

theorem writesVolume_deleteVolume {order : HashOrder} {id : VolumeId} {cascading : Bool}
    {deletedAt : ℕ} (hkeyed : Keyed s.volumes)
    (h : s.deleteVolume order id cascading deletedAt = .ok (vol, s')) : s.WritesVolume vol s' := by
  obtain ⟨old, ids, hget, hlive, hids, -, rfl⟩ := deleteVolume_ok h
  obtain ⟨old', hget', rfl⟩ := deleteVolume_record h
  obtain rfl := Option.some.inj (hget.symm.trans hget')
  have hvolumes : (if cascading then s.cascade ids else s).volumes = s.volumes := by
    cases cascading with
    | true => exact (unreferences_cascade hids).choose_spec.marks.volumes
    | false => rfl
  have hchange : VolumeChange s (.deleteVolume id cascading deletedAt) id old
      (tombstone old deletedAt) := .deleted hlive
  refine .of_change hkeyed hget hchange ?_
  change ((if cascading then s.cascade ids else s).volumes).insert id _ = _
  rw [hvolumes]

theorem foldl_moveVolume_eq (target : HypervisorId) (ids : List VolumeId)
    (acc : List VolumeRecord) (s : StorageState) (hkeyed : Keyed s.volumes) :
    ∃ moved, (ids.foldl (moveVolume target) (acc, s)).1 = acc ++ moved ∧
      (ids.foldl (moveVolume target) (acc, s)).2.volumes =
        moved.foldl (fun t vol => t.insert vol.id vol) s.volumes ∧
      ∀ vol ∈ moved, envKey s.volumes vol.id = some vol.envId := by
  induction ids generalizing acc s with
  | nil => exact ⟨[], by simp, rfl, fun vol hvol => (List.not_mem_nil hvol).elim⟩
  | cons id ids ih =>
      rw [List.foldl_cons]
      cases hget : s.volumes[id]? with
      | none =>
          have hskip : moveVolume target (acc, s) id = (acc, s) := by
            simp only [moveVolume, hget]
          rw [hskip]
          exact ih acc s hkeyed
      | some old =>
          have hmove : moveVolume target (acc, s) id =
              (acc ++ [relocated target old], s.setVolume id (relocated target old)) := by
            simp only [moveVolume, hget]
            rfl
          have hid : (relocated target old).id = id := hkeyed id old hget
          have henv : envKey s.volumes id = some (relocated target old).envId := by
            rw [envKey, hget]
            rfl
          have hsame : envKey (s.setVolume id (relocated target old)).volumes = envKey s.volumes := by
            rw [setVolume, envKey_insert, update_same henv]
          have hkeyed' : Keyed (s.setVolume id (relocated target old)).volumes := by
            intro id' vol' hget'
            rw [setVolume, Std.ExtTreeMap.getElem?_insert] at hget'
            by_cases heq : id = id'
            · obtain rfl : relocated target old = vol' := by simpa [heq] using hget'
              exact hid.trans heq
            · exact hkeyed id' vol' (by simpa [heq] using hget')
          obtain ⟨moved, hlist, hvolumes, hmoved⟩ := ih (acc ++ [relocated target old])
            (s.setVolume id (relocated target old)) hkeyed'
          rw [hmove]
          refine ⟨relocated target old :: moved, by simpa using hlist, ?_, ?_⟩
          · rw [hvolumes, List.foldl_cons, hid]
            rfl
          · refine List.forall_mem_cons.mpr ⟨by rw [hid, henv], fun vol hvol => ?_⟩
            rw [← hsame]
            exact hmoved vol hvol

theorem volumes_of_stores {response : StateMachineResponse} (h : StorageStep c s response s')
    (hc : .storage ∉ c.stores) : s'.volumes = s.volumes := by
  cases h with
  | rejected | unrelated | snapshotCreated | committed | sstsCollected => rfl
  | setting _ hdata => exact hdata.1
  | created | detached | deleted | purged | restored => exact absurd List.mem_cons_self hc
  | moved => exact absurd (List.mem_cons_of_mem _ List.mem_cons_self) hc
  | rewritten hrewrites =>
      cases c <;> first | exact absurd List.mem_cons_self hc | cases hrewrites
  | @snapshotDeleted _ id snap t hget hlive hs' =>
      subst hs'
      have hmarks := (unreferences_snapshot releases_decrementSst sameRecords_decrementSst hget
        hlive).marks
      exact hmarks.volumes
  | walCollected =>
      unfold gcCompleteWalSegments
      split <;> rfl

end StorageState

/-! ### Steps and runs -/

section Steps

open StorageState Handle

variable {r : Replica}

theorem Replica.Mirrored.keyed (h : r.Mirrored) : Keyed r.sm.storage.volumes := by
  obtain ⟨db, -, hmirrors⟩ := h
  exact hmirrors.key

theorem ensures_onVolume {f : StorageState → Except String (VolumeRecord × StorageState)}
    {response : VolumeRecord → StateMachineResponse} (h : r.Mirrored)
    (hf : ∀ vol s', f r.sm.storage = .ok (vol, s') → r.sm.storage.WritesVolume vol s') :
    Tx.Ensures (do let vol ← Handle.onVolume f; return response vol) r fun _ r' => r'.Mirrored := by
  simp only [Handle.onVolume, bind_assoc, pure_bind]
  cases hrun : f r.sm.storage with
  | error msg =>
      have hop : storageOp f r = (.error msg, r) := by
        simp [storageOp, Tx.attempt, storageLens, hrun]
      unfold Tx.Ensures
      rw [Tx.bind_apply_error hop]
      exact h
  | ok result =>
      obtain ⟨vol, s'⟩ := result
      have hop : storageOp f r = (.ok vol, storageLens.set s' r) := by
        simp [storageOp, Tx.attempt, storageLens, hrun]
      obtain ⟨hvolumes, hkeeps⟩ := hf vol s' hrun
      have hshows : (storageLens.set s' r).Shows r.sm.storage.volumes := h
      obtain ⟨r', hsync, hstorage, hshows'⟩ := syncVolumeToStore_run hshows hkeeps
      refine .bind_ok hop (.bind_ok hsync ?_)
      change r'.Shows r'.sm.storage.volumes
      rw [hstorage]
      change r'.Shows s'.volumes
      rwa [hvolumes]

theorem mirrors_other {volumes : Table VolumeRecord} {db db' : StorageDb} (h : Mirrors volumes db)
    (hvolumes : db'.table .volumes = db.table .volumes)
    (henv : db'.table .volumesByEnv = db.table .volumesByEnv)
    (hhypervisor : db'.table .volumesByHypervisor = db.table .volumesByHypervisor) :
    Mirrors volumes db' := by
  have hentry : ∀ index key, entry db' index key = entry db index key := by
    intro index key
    cases index with
    | env => exact congrArg (fun t : Table (List String) => t[key]?) henv
    | hypervisor => exact congrArg (fun t : Table (List String) => t[key]?) hhypervisor
  have hindexed : ∀ index, indexed db' index = indexed db index := by
    intro index
    funext key
    rw [indexed_eq, hentry, indexed_eq]
  refine ⟨h.key, fun id => ?_, ?_, ?_, fun index key => ?_⟩
  · have hget : getVolume db' id = getVolume db id :=
      congrArg (fun t : Table StorageStore.Volume => t[id]?) hvolumes
    rw [hget]
    exact h.volume id
  · rw [hindexed]
    exact h.env
  · rw [hindexed]
    exact h.hypervisor
  · rw [hentry]
    exact h.tidy index key

theorem ensures_mirror_other {α : Type} {f : StorageState → Except String (α × StorageState)}
    {m : α → StorageStoreM Unit} {response : StateMachineResponse} (h : r.Mirrored)
    (hf : ∀ a s', f r.sm.storage = .ok (a, s') → s'.volumes = r.sm.storage.volumes)
    (hm : ∀ a volumes db ambient, Mirrors volumes db → Mirrors volumes (m a (db, ambient)).2.1) :
    Tx.Ensures (do
      let a ← storageOp f
      mirror (m a)
      return response) r fun _ r' => r'.Mirrored := by
  cases hrun : f r.sm.storage with
  | error msg =>
      have hop : storageOp f r = (.error msg, r) := by
        simp [storageOp, Tx.attempt, storageLens, hrun]
      unfold Tx.Ensures
      rw [Tx.bind_apply_error hop]
      exact h
  | ok result =>
      obtain ⟨a, s'⟩ := result
      have hop : storageOp f r = (.ok a, storageLens.set s' r) := by
        simp [storageOp, Tx.attempt, storageLens, hrun]
      obtain ⟨db, hdb, hmirrors⟩ := h
      have hdb' : (storageLens.set s' r).sm.storageStore = some db := hdb
      obtain ⟨r', hsync, hstorage, hstore⟩ := mirror_run (m a) hdb'
      refine .bind_ok hop (.bind_ok hsync ⟨_, hstore, ?_⟩)
      have hvolumes : r'.sm.storage.volumes = r.sm.storage.volumes := by
        rw [hstorage]
        exact hf a s' hrun
      change Mirrors r'.sm.storage.volumes _
      rw [hvolumes]
      exact hm a _ db _ hmirrors

theorem ensures_only_bind {α : Type} {m : Handler α} {k : α → Handler StateMachineResponse}
    {stores : List StoreName} (hm : Tx.Steps (Only stores false) m) (hstores : .storage ∉ stores)
    (h : r.Mirrored) (hk : ∀ a r', r'.Mirrored → Tx.Ensures (k a) r' fun _ r'' => r''.Mirrored) :
    Tx.Ensures (m >>= k) r fun _ r' => r'.Mirrored := by
  have hafter : (m r).2.Mirrored := h.of_only (hm r) hstores
  refine .bind_run (fun a r' hrun => hk a r' ?_) fun msg r' hrun => ?_
  · rwa [hrun] at hafter
  · rwa [hrun] at hafter

theorem mirrored_rescheduleVm (h : r.Mirrored) (vmId source target : String) (generation : ℕ) :
    Tx.Ensures (rescheduleVm vmId source target generation) r fun _ r' => r'.Mirrored := by
  have hplacement : StoreName.placement ∈ [StoreName.placement] := List.mem_singleton_self _
  refine ensures_only_bind (only_requirePlacement hplacement) (by decide) h fun p r₁ h₁ => ?_
  refine ensures_only_bind (only_placement hplacement) (by decide) h₁ fun _ r₂ h₂ => ?_
  have hnone : Tx.Steps (Only [] false) nextOrder := only_nextOrder
  refine ensures_only_bind hnone (by decide) h₂ fun order r₃ h₃ => ?_
  obtain ⟨moved, hmoved, hvolumes, henv⟩ := foldl_moveVolume_eq target
    (order.arrange (r₃.sm.storage.volumesOfVm vmId source)) [] r₃.sm.storage h₃.keyed
  have hop : storageOp (fun s => .ok (s.rescheduleVm order vmId source target)) r₃ =
      (.ok moved, storageLens.set (r₃.sm.storage.rescheduleVm order vmId source target).2 r₃) := by
    rw [List.nil_append] at hmoved
    rw [← hmoved]
    rfl
  refine .bind_ok hop ?_
  have hshows : (storageLens.set (r₃.sm.storage.rescheduleVm order vmId source target).2 r₃).Shows
      r₃.sm.storage.volumes := h₃
  obtain ⟨r₄, hsync, hstorage, hshows₄⟩ := each_sync_run hshows henv
  refine .bind_ok hsync ?_
  change r₄.Shows r₄.sm.storage.volumes
  rw [hstorage]
  change r₄.Shows (r₃.sm.storage.rescheduleVm order vmId source target).2.volumes
  rw [StorageState.rescheduleVm, hvolumes]
  exact hshows₄

theorem mirrored_purgeTombstones (h : r.Mirrored) (now maxAgeSecs : ℕ) :
    Tx.Ensures (purgeTombstones now maxAgeSecs) r fun _ r' => r'.Mirrored := by
  have hnone : Tx.Steps (Only [] false) nextOrder := only_nextOrder
  refine ensures_only_bind hnone (by decide) h fun order r₁ h₁ => ?_
  have hop : storageOp (fun s => .ok (s.purgeTombstones order now maxAgeSecs)) r₁ =
      (.ok (order.arrange (r₁.sm.storage.expiredTombstones now maxAgeSecs)),
        storageLens.set (r₁.sm.storage.purgeTombstones order now maxAgeSecs).2 r₁) := rfl
  refine .bind_ok hop ?_
  have hshows : (storageLens.set (r₁.sm.storage.purgeTombstones order now maxAgeSecs).2 r₁).Shows
      r₁.sm.storage.volumes := h₁
  obtain ⟨r₂, hsync, hstorage, hshows₂⟩ := each_syncDelete_run
    (order.arrange (r₁.sm.storage.expiredTombstones now maxAgeSecs)) hshows
  refine .bind_ok hsync ?_
  change r₂.Shows r₂.sm.storage.volumes
  rw [hstorage]
  exact hshows₂

/-- **One command keeps the mirror.** -/
theorem mirrored_applySingle (h : r.Mirrored) (c : Command) : (applySingle c r).2.Mirrored := by
  by_cases hc : .storage ∈ c.stores
  · change Tx.Ensures (handle c) r fun _ r' => r'.Mirrored
    have hkeyed := h.keyed
    cases c with
    | rescheduleVm vmId source target generation =>
        exact mirrored_rescheduleVm h vmId source target generation
    | purgeTombstones now maxAgeSecs => exact mirrored_purgeTombstones h now maxAgeSecs
    | setStorageQuota scope maxVolumes maxTotalGb maxSnapshots =>
        refine ensures_mirror_other h (fun _ s' hok => ?_) fun _ volumes db ambient hdb => ?_
        · cases hok
          rfl
        · exact mirrors_other hdb (LayerDb.table_set_of_ne db (by decide) _ _)
            (LayerDb.table_set_of_ne db (by decide) _ _) (LayerDb.table_set_of_ne db (by decide) _ _)
    | setStorageConfig region zone config =>
        refine ensures_mirror_other h (fun zoneKey s' hok => ?_) fun _ volumes db ambient hdb => ?_
        · obtain ⟨configs, rfl⟩ := setStorageConfig_ok hok
          rfl
        · exact mirrors_other hdb (LayerDb.table_set_of_ne db (by decide) _ _)
            (LayerDb.table_set_of_ne db (by decide) _ _) (LayerDb.table_set_of_ne db (by decide) _ _)
    | createVolume =>
        refine ensures_onVolume h fun vol s' hok => ?_
        obtain ⟨hfresh, hnew, -, rfl⟩ := createVolume_ok hok
        exact .of_new hnew hfresh rfl
    | restoreSnapshot =>
        refine ensures_onVolume h fun vol s' hok => ?_
        obtain ⟨_, _, -, -, hfresh, hnew, -, -, -, rfl⟩ := restoreSnapshot_ok hok
        exact .of_new hnew hfresh rfl
    | deleteVolume id cascading deletedAt =>
        have hnone : Tx.Steps (Only [] false) nextOrder := only_nextOrder
        refine ensures_only_bind hnone (by decide) h fun order r₁ h₁ => ?_
        exact ensures_onVolume h₁ fun _ _ hok => writesVolume_deleteVolume h₁.keyed hok
    | volumeAttach =>
        exact ensures_onVolume h fun _ _ hok => .of_changes hkeyed (volumeAttach_ok hok)
    | volumeDetach id =>
        refine ensures_onVolume h fun vol s' hok => ?_
        obtain ⟨old, hget, hchange, rfl⟩ := volumeDetach_ok hok
        exact .of_change hkeyed hget hchange rfl
    | rescheduleVolume =>
        exact ensures_onVolume h fun _ _ hok => .of_changes hkeyed (rescheduleVolume_ok hok)
    | migrateVolumeToZone =>
        exact ensures_onVolume h fun _ _ hok => .of_changes hkeyed (migrateVolumeToZone_ok hok)
    | completeMigration =>
        exact ensures_onVolume h fun _ _ hok => .of_changes hkeyed (completeMigration_ok hok)
    | rollbackMigration id reason =>
        exact ensures_onVolume h fun _ _ hok =>
          .of_changes (c := .rollbackMigration id reason) hkeyed (rollbackMigration_ok hok)
    | resizeVolume =>
        exact ensures_onVolume h fun _ _ hok => .of_changes hkeyed (resizeVolume_ok hok)
    | _ => simp [Command.stores] at hc
  · obtain ⟨db, hdb, hmirrors⟩ := h
    refine ⟨db, ((only_applySingle c r).store .storage hc).trans hdb, ?_⟩
    rwa [volumes_of_stores (storageStep_applySingle c r) hc]

end Steps

theorem mirrors_empty : Mirrors ∅ (.empty : StorageDb) := by
  have hentries : ∀ index key, entry (.empty : StorageDb) index key = none := by
    intro index key
    cases index <;> exact Std.ExtTreeMap.getElem?_empty
  have hindexed : ∀ index key, indexed (.empty : StorageDb) index key = [] := by
    intro index key
    rw [indexed_eq, hentries, Option.getD_none]
  have henv : ∀ id, envKey ∅ id = none := by
    intro id
    rw [envKey, Std.ExtTreeMap.getElem?_empty, Option.map_none]
  have hhypervisor : ∀ id, hypervisorKey ∅ id = none := by
    intro id
    rw [hypervisorKey, Std.ExtTreeMap.getElem?_empty, Option.bind_none]
  refine ⟨fun id vol hget => ?_, fun id => ?_, ⟨fun key => ?_, fun key id => ?_⟩,
    ⟨fun key => ?_, fun key id => ?_⟩, fun index key hentry => ?_⟩
  · rw [Std.ExtTreeMap.getElem?_empty] at hget
    cases hget
  · have hstored : getVolume (.empty : StorageDb) id = none := Std.ExtTreeMap.getElem?_empty
    rw [hstored, Std.ExtTreeMap.getElem?_empty]
    exact .none
  · rw [hindexed]
    exact List.nodup_nil
  · simp [hindexed, henv]
  · rw [hindexed]
    exact List.nodup_nil
  · simp [hindexed, hhypervisor]
  · rw [hentries] at hentry
    cases hentry

/-- **The mirror.** In a run from an empty storage state and an empty storage store, after every
command the volume table is the projection of the volumes and the two indexes list each volume
exactly once, under its environment and under the hypervisor it is on. -/
theorem mirrored_along (log : List StateMachineCommand) (r : Replica) (hinit : r.sm.storage = {})
    (hstore : r.sm.storageStore = some .empty) : ∀ e ∈ executed log r, e.after.Mirrored := by
  have hrun : Run applySingle r (executed log r) (applyLog log r).2 := Batch.run_executed log r
  have h0 : r.Mirrored := by
    refine ⟨.empty, hstore, ?_⟩
    rw [hinit]
    exact mirrors_empty
  refine (hrun.forall_after_iff (I := Replica.Mirrored) (C := fun _ _ => True) h0 ?_).mpr
    fun _ _ => trivial
  intro t c ht
  exact ⟨fun _ => trivial, fun _ => mirrored_applySingle ht c⟩

def mirroringReplica : Replica :=
  { Replica.fresh with sm.storageStore := some .empty }

/-- A volume is created on a hypervisor, moves to another, is detached, deleted and purged. -/
def movedVolumeLog : List StateMachineCommand :=
  [.single (.createVolume "vol" "disk" 10 "org" "proj" "env" .data (some "hv-1") none),
    .single (.volumeAttach "vol" "vm" "hv-2"), .single (.volumeDetach "vol"),
    .single (.deleteVolume "vol" true 5), .single (.purgeTombstones 100 10)]

theorem mirrored_along_of_moved_volume :
    mirroringReplica.sm.storageStore = some .empty ∧
      ∀ e ∈ executed movedVolumeLog mirroringReplica, e.after.Mirrored :=
  ⟨rfl, mirrored_along movedVolumeLog mirroringReplica rfl rfl⟩

end Syfrah
