import Syfrah.Proof.StorageStep

/-!
# Hypervisors and the storage of their zone

A hypervisor is enabled only when its zone has a storage configuration, and configurations are never
removed. A repeated registration writes the zone of the record without looking at its state, which is
the only way an available hypervisor loses its storage. The lifecycle has no way out of the
decommissioned state.
-/

namespace Syfrah

open Replica

namespace HypervisorStore

variable {db : HypervisorDb} {ambient : Ambient} {name : String} {hv : Hypervisor}

def Keyed (db : HypervisorDb) : Prop :=
  ∀ (id : String) hv, db.get .hypervisors id = some hv → hv.id = id

theorem get_hypervisors (h : Keyed db) (hget : get db name = some hv) :
    db.get .hypervisors hv.id = some hv := by
  unfold get at hget
  split at hget
  · rename_i id _
    rw [h id hv hget]
    exact hget
  · cases hget

theorem updateState_run (db : HypervisorDb) (ambient : Ambient) (name : String)
    (newState : HypervisorState) : (updateState name newState (db, ambient)).2.1 = db ∨
      ∃ hv, get db name = some hv ∧ validTransition hv.state newState = true ∧
        (updateState name newState (db, ambient)).2.1 =
          db.set .hypervisors hv.id { hv with state := newState } := by
  change Tx.Ensures (updateState name newState) (db, ambient) fun _ s => s.1 = db ∨
    ∃ hv, get db name = some hv ∧ validTransition hv.state newState = true ∧
      s.1 = db.set .hypervisors hv.id { hv with state := newState }
  refine .read (.orThrow (fun _ => .inl rfl) fun hv hget => ?_)
  refine .rejectIf (fun _ => .inl rfl) fun hvalid => ?_
  exact .inr ⟨hv, hget, by simpa using hvalid, rfl⟩

theorem update_run (hexists : (db.get .hypervisors hv.id).isSome = true) :
    (update hv (db, ambient)).2.1 =
      (db.set .hypervisors hv.id hv).set .nameIndex hv.name hv.id := by
  change Tx.Ensures (update hv) (db, ambient) fun _ s =>
    s.1 = (db.set .hypervisors hv.id hv).set .nameIndex hv.name hv.id
  refine .read (.rejectIf (fun hmissing => ?_) fun _ => rfl)
  rw [Bool.not_eq_true', Bool.eq_false_iff] at hmissing
  exact absurd hexists hmissing

theorem create_run : (create hv (db, ambient)).2.1 = db ∨
    db.get .hypervisors hv.id = none ∧ (create hv (db, ambient)).2.1 =
      (db.set .hypervisors hv.id hv).set .nameIndex hv.name hv.id := by
  change Tx.Ensures (create hv) (db, ambient) fun _ s => s.1 = db ∨
    db.get .hypervisors hv.id = none ∧
      s.1 = (db.set .hypervisors hv.id hv).set .nameIndex hv.name hv.id
  refine .read (.rejectIf (fun _ => .inl rfl) fun _ => ?_)
  refine .read (.rejectIf (fun _ => .inl rfl) fun hfresh => ?_)
  exact .inr ⟨by simpa using hfresh, rfl⟩

theorem get_put (id : String) :
    ((db.set .hypervisors hv.id hv).set .nameIndex hv.name hv.id).get .hypervisors id =
      if hv.id = id then some hv else db.get .hypervisors id :=
  (LayerDb.get_set_of_ne (t := HypervisorTable.nameIndex) _ (by decide) hv.name id hv.id).trans
    (LayerDb.get_set db HypervisorTable.hypervisors hv.id id hv)

end HypervisorStore

/-! ### One record from command to command -/

inductive HvChange (s : StorageState) (db : HypervisorDb) :
    Command → Hypervisor → Hypervisor → Prop
  | registered {name region zone fabricIpv6 hv} (fabricIpv6' : String)
      (hget : HypervisorStore.get db name = some hv) :
      HvChange s db (.registerHypervisor name region zone fabricIpv6) hv
        { hv with region := region, zone := zone, fabricIpv6 := fabricIpv6' }
  | moved {c hv newState} (hvalid : HypervisorStore.validTransition hv.state newState = true)
      (hstorage : newState = .available → s.storageConfigs.contains hv.zone = true) :
      HvChange s db c hv { hv with state := newState }
  | described {c hv} (labels : Labels) (taints : List Taint) (capacity : AllocatableCapacity) :
      HvChange s db c hv { hv with labels := labels, taints := taints, capacity := capacity }

inductive HvStep (s : StorageState) (db : HypervisorDb) (c : Command) (id : String) :
    Option Hypervisor → Option Hypervisor → Prop
  | kept {entry} : HvStep s db c id entry entry
  | created {hv} (hid : hv.id = id) (hstate : hv.state = .notReady) :
      HvStep s db c id none (some hv)
  | changed {hv hv'} (hid : hv.id = id) (hchange : HvChange s db c hv hv') :
      HvStep s db c id (some hv) (some hv')

namespace Replica

variable {r : Replica} {c : Command} {db : HypervisorDb} {α : Type}

def hypervisor? (r : Replica) (id : String) : Option Hypervisor :=
  r.sm.hypervisorStore.bind fun db => db.get .hypervisors id

theorem hypervisor_run (m : HypervisorM α) (h : r.sm.hypervisorStore = some db) :
    hypervisor m r = ((m (db, r.ambient)).1.mapError OrgError.display,
      { sm := { r.sm with hypervisorStore := some (m (db, r.ambient)).2.1 }
        ambient := (m (db, r.ambient)).2.2 }) := by
  have hget : hypervisorLens.get r.sm = some db := h
  unfold hypervisor onStore
  rw [hget]
  rfl

theorem ensures_hypervisor {m : HypervisorM α} {response : StateMachineResponse}
    {P : Replica → Prop} (h : r.sm.hypervisorStore = some db)
    (hP : P { sm := { r.sm with hypervisorStore := some (m (db, r.ambient)).2.1 }
              ambient := (m (db, r.ambient)).2.2 }) :
    Tx.Ensures (do let _ ← hypervisor m; return response) r fun _ r' => P r' := by
  refine .bind_run (fun a r' hrun => ?_) fun msg r' hrun => ?_
  · rw [hypervisor_run m h] at hrun
    obtain rfl := congrArg Prod.snd hrun
    exact hP
  · rw [hypervisor_run m h] at hrun
    obtain rfl := congrArg Prod.snd hrun
    exact hP

def HvSteps (s : StorageState) (c : Command) (db : HypervisorDb) (r' : Replica) : Prop :=
  ∃ db', r'.sm.hypervisorStore = some db' ∧
    ∀ id, HvStep s db c id (db.get .hypervisors id) (db'.get .hypervisors id)

theorem hvSteps_kept {s : StorageState} (h : r.sm.hypervisorStore = some db) : HvSteps s c db r :=
  ⟨db, h, fun _ => .kept⟩

theorem ensures_lookup (hdb : r.sm.hypervisorStore = some db) {name : String} {k : Option Hypervisor → Handler StateMachineResponse}
    {P : Except String StateMachineResponse → Replica → Prop}
    (hk : Tx.Ensures (k (HypervisorStore.get db name)) r P) :
    Tx.Ensures (hypervisor (query fun db => HypervisorStore.get db name) >>= k) r P := by
  refine .bind_ok (t := r) ?_ hk
  rw [hypervisor_run _ hdb]
  refine Prod.ext rfl ?_
  change ({ sm := { r.sm with hypervisorStore := some db }, ambient := r.ambient } : Replica) = r
  rw [← hdb]

variable (hdb : r.sm.hypervisorStore = some db) (hkeyed : HypervisorStore.Keyed db)
include hdb hkeyed

theorem ensures_updateState {name : String} {newState : HypervisorState}
    (hstorage : ∀ hv, HypervisorStore.get db name = some hv → newState = .available →
      r.sm.storage.storageConfigs.contains hv.zone = true) :
    Tx.Ensures (Handle.updateHypervisorState name newState) r fun _ r' =>
      HvSteps r.sm.storage c db r' := by
  refine ensures_hypervisor hdb ⟨_, rfl, fun id => ?_⟩
  rcases HypervisorStore.updateState_run db r.ambient name newState with hsame | ⟨hv, hget, hvalid, hset⟩
  · rw [hsame]
    exact .kept
  · have hold := HypervisorStore.get_hypervisors hkeyed hget
    rw [hset, LayerDb.get_set]
    by_cases hid : hv.id = id
    · subst hid
      rw [if_pos rfl, hold]
      exact .changed rfl (.moved hvalid (hstorage hv hget))
    · rw [if_neg hid]
      exact .kept

theorem ensures_modify {name : String} {hv hv' : Hypervisor} {response : StateMachineResponse}
    (hget : HypervisorStore.get db name = some hv) (hid : hv'.id = hv.id)
    (hchange : HvChange r.sm.storage db c hv hv') :
    Tx.Ensures (do let _ ← hypervisor (HypervisorStore.update hv'); return response) r fun _ r' =>
      HvSteps r.sm.storage c db r' := by
  have hold := HypervisorStore.get_hypervisors hkeyed hget
  refine ensures_hypervisor hdb ⟨_, rfl, fun id => ?_⟩
  rw [HypervisorStore.update_run (by rw [hid, hold]; rfl), HypervisorStore.get_put, hid]
  by_cases hid' : hv.id = id
  · subst hid'
    rw [if_pos rfl, hold]
    exact .changed rfl hchange
  · rw [if_neg hid']
    exact .kept

theorem ensures_register (name region zone fabricIpv6 : String) :
    Tx.Ensures (Handle.registerHypervisor name region zone fabricIpv6) r fun _ r' =>
      HvSteps r.sm.storage (.registerHypervisor name region zone fabricIpv6) db r' := by
  refine ensures_lookup hdb ?_
  cases hget : HypervisorStore.get db name with
  | some hv => exact ensures_modify hdb hkeyed hget rfl (.registered _ hget)
  | none =>
      refine .take ?_
      have hdb' : ({ r with ambient := r.ambient.nowSecs.2 } : Replica).sm.hypervisorStore =
        some db := hdb
      refine .bind_ok (hypervisor_run _ hdb') ?_
      refine ensures_hypervisor rfl ⟨_, rfl, fun id => ?_⟩
      rcases HypervisorStore.create_run with hsame | ⟨hfresh, hset⟩
      · rw [hsame]
        exact .kept
      · rw [hset, HypervisorStore.get_put]
        split
        · rename_i hid
          have hnone : db.get .hypervisors id = none := hid ▸ hfresh
          rw [hnone]
          exact .created hid rfl
        · exact .kept

theorem ensures_enable (name : String) :
    Tx.Ensures (Handle.enableHypervisor name) r fun _ r' =>
      HvSteps r.sm.storage (.enableHypervisor name) db r' := by
  refine ensures_lookup hdb ?_
  cases hget : HypervisorStore.get db name with
  | none =>
      refine ensures_updateState hdb hkeyed fun hv hfound => ?_
      rw [hget] at hfound
      cases hfound
  | some hv =>
      simp only [Handle.storagePreflight, bind_assoc]
      refine .read (.rejectIf (fun _ => hvSteps_kept hdb) fun hconfigured => ?_)
      refine ensures_updateState hdb hkeyed fun hv' hfound _ => ?_
      obtain rfl := Option.some.inj (hget.symm.trans hfound)
      simpa using hconfigured

/-- **Every command changes the records of hypervisors step by step.** -/
theorem hvSteps_applySingle (c : Command) : HvSteps r.sm.storage c db (applySingle c r).2 := by
  by_cases hc : .hypervisor ∈ c.stores
  · change Tx.Ensures (handle c) r fun _ r' => HvSteps r.sm.storage c db r'
    cases c with
    | registerHypervisor name region zone fabricIpv6 =>
        exact ensures_register hdb hkeyed name region zone fabricIpv6
    | enableHypervisor name => exact ensures_enable hdb hkeyed name
    | drainHypervisor name => exact ensures_updateState hdb hkeyed fun _ _ h => nomatch h
    | decommissionHypervisor name => exact ensures_updateState hdb hkeyed fun _ _ h => nomatch h
    | updateHypervisorLabels name labels =>
        refine ensures_lookup hdb ?_
        cases hget : HypervisorStore.get db name with
        | none => exact hvSteps_kept hdb
        | some hv => exact ensures_modify hdb hkeyed hget rfl (.described labels _ _)
    | updateHypervisorTaints name taints =>
        refine ensures_lookup hdb ?_
        cases hget : HypervisorStore.get db name with
        | none => exact hvSteps_kept hdb
        | some hv => exact ensures_modify hdb hkeyed hget rfl (.described _ _ _)
    | updateHypervisorCapacity name =>
        refine ensures_lookup hdb ?_
        cases hget : HypervisorStore.get db name with
        | none => exact hvSteps_kept hdb
        | some hv => exact ensures_modify hdb hkeyed hget rfl (.described _ _ _)
    | _ => simp [Command.stores] at hc
  · exact hvSteps_kept (((only_applySingle c r).store .hypervisor hc).trans hdb)

theorem register_known {name : String} {hv : Hypervisor}
    (hget : HypervisorStore.get db name = some hv) (region zone fabricIpv6 : String) :
    ∃ hv', (applySingle (.registerHypervisor name region zone fabricIpv6) r).2.hypervisor? hv.id =
        some hv' ∧ hv'.state = hv.state ∧ hv'.region = region ∧ hv'.zone = zone := by
  have hold := HypervisorStore.get_hypervisors hkeyed hget
  change Tx.Ensures (Handle.registerHypervisor name region zone fabricIpv6) r fun _ r' =>
    ∃ hv', r'.hypervisor? hv.id = some hv' ∧ hv'.state = hv.state ∧ hv'.region = region ∧
      hv'.zone = zone
  refine ensures_lookup hdb ?_
  rw [hget]
  refine ensures_hypervisor hdb ?_
  refine ⟨{ hv with
    region := region
    zone := zone
    fabricIpv6 := if fabricIpv6.isEmpty then hv.fabricIpv6 else fabricIpv6 }, ?_, rfl, rfl, rfl⟩
  rw [HypervisorStore.update_run (by rw [hold]; rfl)]
  exact (HypervisorStore.get_put hv.id).trans (if_pos rfl)

end Replica

/-! ### Storage configurations stay -/

namespace StorageState

variable {s s' : StorageState}

theorem foldl_storageConfigs {β : Type} {f : StorageState → β → StorageState}
    (hf : ∀ s b, (f s b).storageConfigs = s.storageConfigs) (bs : List β) (s : StorageState) :
    (bs.foldl f s).storageConfigs = s.storageConfigs := by
  induction bs generalizing s with
  | nil => rfl
  | cons b bs ih => rw [List.foldl_cons, ih, hf]

theorem storageConfigs_markSnapshotDeleted (s : StorageState) (id : SnapshotId) :
    (s.markSnapshotDeleted id).storageConfigs = s.storageConfigs := by
  unfold markSnapshotDeleted
  split <;> rfl

theorem storageConfigs_cascade (s : StorageState) (ids : List SnapshotId) :
    (s.cascade ids).storageConfigs = s.storageConfigs := by
  have hrelease : ∀ (s : StorageState) (sst : String),
      (s.cascadeRelease sst).storageConfigs = s.storageConfigs := by
    intro s sst
    unfold cascadeRelease
    dsimp only
    split <;> rfl
  have hsnapshot : ∀ (s : StorageState) (snap : SnapshotId × List String),
      (s.cascadeSnapshot snap).storageConfigs = s.storageConfigs := by
    intro s snap
    rw [cascadeSnapshot, storageConfigs_markSnapshotDeleted, foldl_storageConfigs hrelease]
  exact foldl_storageConfigs hsnapshot _ s

theorem storageConfigs_decrement (s : StorageState) (sst : String) :
    (s.decrementSst sst).storageConfigs = s.storageConfigs := by
  unfold decrementSst
  split
  · rfl
  · split <;> rfl

theorem contains_setStorageConfig {region zone zoneKey : String} {config : StorageConfig}
    (h : s.setStorageConfig region zone config = .ok (zoneKey, s')) {key : String}
    (hkey : s.storageConfigs.contains key = true) : s'.storageConfigs.contains key = true := by
  unfold setStorageConfig at h
  dsimp only at h
  generalize (if zone.isEmpty then region else zone) = zoneKey' at h
  split at h
  · cases h
  · split at h
    · cases h
    · cases h
      simp [Std.ExtTreeMap.contains_insert, hkey]

theorem configs_perform {order : HashOrder} {now : ℕ} {c : Command}
    {response : StateMachineResponse} (h : s.perform order now c = .ok (response, s')) {key : String}
    (hkey : s.storageConfigs.contains key = true) : s'.storageConfigs.contains key = true := by
  have hsame : ∀ {t : StorageState}, t.storageConfigs = s.storageConfigs →
      t.storageConfigs.contains key = true := by
    intro t ht
    rw [ht]
    exact hkey
  have hchanges : ∀ {id : VolumeId} {x : Except String (VolumeRecord × StorageState)},
      (∀ vol' t, x = .ok (vol', t) → s.Changes c id vol' t) →
        x.map (fun p => (StateMachineResponse.ok, p.2)) = .ok (response, s') →
        s'.storageConfigs.contains key = true := by
    intro id x hx hmap
    obtain ⟨⟨vol', t⟩, hok, heq⟩ := Except.map_ok hmap
    cases heq
    obtain ⟨_, -, -, rfl⟩ := hx vol' t hok
    exact hsame rfl
  have hrecords : ∀ {x : Except String StorageState} {reply : StateMachineResponse},
      (∀ t, x = .ok t → ∃ records, t = { s with vmRecords := records }) →
        x.map (fun t => (reply, t)) = .ok (response, s') →
        s'.storageConfigs.contains key = true := by
    intro x reply hx hmap
    obtain ⟨t, hok, heq⟩ := Except.map_ok hmap
    cases heq
    obtain ⟨records, rfl⟩ := hx _ hok
    exact hsame rfl
  cases c with
  | createVolume =>
      obtain ⟨⟨vol, t⟩, hok, heq⟩ := Except.map_ok h
      cases heq
      obtain ⟨-, -, -, rfl⟩ := createVolume_ok hok
      exact hsame rfl
  | restoreSnapshot =>
      obtain ⟨⟨vol, t⟩, hok, heq⟩ := Except.map_ok h
      cases heq
      obtain ⟨_, _, -, -, -, -, -, -, -, rfl⟩ := restoreSnapshot_ok hok
      exact hsame rfl
  | deleteVolume id cascading deletedAt =>
      obtain ⟨⟨vol', t⟩, hok, heq⟩ := Except.map_ok h
      cases heq
      obtain ⟨_, ids, -, -, -, -, rfl⟩ := deleteVolume_ok hok
      apply hsame
      cases cascading with
      | true => exact storageConfigs_cascade s ids
      | false => rfl
  | volumeDetach =>
      obtain ⟨⟨vol', t⟩, hok, heq⟩ := Except.map_ok h
      cases heq
      obtain ⟨_, -, -, rfl⟩ := volumeDetach_ok hok
      exact hsame rfl
  | volumeAttach => exact hchanges (fun _ _ => volumeAttach_ok) h
  | rescheduleVolume => exact hchanges (fun _ _ => rescheduleVolume_ok) h
  | migrateVolumeToZone => exact hchanges (fun _ _ => migrateVolumeToZone_ok) h
  | completeMigration => exact hchanges (fun _ _ => completeMigration_ok) h
  | rollbackMigration => exact hchanges (fun _ _ => rollbackMigration_ok) h
  | resizeVolume => exact hchanges (fun _ _ => resizeVolume_ok) h
  | rescheduleVm vmId source target generation =>
      cases h
      obtain ⟨volumes, hstate, -⟩ := s.rescheduleVm_spec order vmId source target
      rw [hstate]
      exact hsame rfl
  | setStorageConfig =>
      obtain ⟨⟨zoneKey, t⟩, hok, heq⟩ := Except.map_ok h
      cases heq
      exact contains_setStorageConfig hok hkey
  | createSnapshot =>
      obtain ⟨t, hok, heq⟩ := Except.map_ok h
      cases heq
      obtain ⟨_, -, -, -, -, -, rfl⟩ := createSnapshot_ok hok
      exact hsame rfl
  | deleteSnapshot =>
      obtain ⟨t, hok, heq⟩ := Except.map_ok h
      cases heq
      obtain ⟨snap, -, -, u, rfl, rfl⟩ := deleteSnapshot_ok hok
      refine hsame ((storageConfigs_markSnapshotDeleted _ _).trans ?_)
      exact foldl_storageConfigs storageConfigs_decrement snap.sstFiles s
  | commitManifest =>
      obtain ⟨t, hok, heq⟩ := Except.map_ok h
      cases heq
      obtain ⟨_, -, -, -, -, -, _, -, rfl⟩ := commitManifest_ok hok
      exact hsame rfl
  | markRestoreBegin =>
      obtain ⟨t, hok, heq⟩ := Except.map_ok h
      cases heq
      obtain ⟨marks, rfl⟩ := markRestoreBegin_ok hok
      exact hsame rfl
  | createVmIntent => exact hrecords (fun _ => createVmIntent_ok) h
  | updateVmPhase => exact hrecords (fun _ => updateVmPhase_ok) h
  | deleteVmIntent => exact hrecords (fun _ => deleteVmIntent_ok) h
  | gcCompleteWalSegments =>
      cases h
      unfold gcCompleteWalSegments
      split <;> exact hsame rfl
  -- the remaining functions do not write configurations
  | _ =>
      cases h
      exact hsame rfl

end StorageState

theorem configs_applySingle (c : Command) (r : Replica) {key : String}
    (hkey : r.sm.storage.storageConfigs.contains key = true) :
    (applySingle c r).2.sm.storage.storageConfigs.contains key = true := by
  cases hc : c.changesStorage with
  | false => rwa [(only_applySingle c r).storage hc]
  | true =>
      have hperforms := performs_applySingle c r hc
      generalize (applySingle c r).1 = response, (applySingle c r).2.sm.storage = s' at *
      cases hperforms with
      | failed => exact hkey
      | done order now h => exact StorageState.configs_perform h hkey

/-! ### Available hypervisors and their storage -/

/-- Whether a zone has a storage configuration; `byRegion` says whether one of the region counts. -/
def StorageState.served (s : StorageState) (byRegion : Bool) (region zone : String) : Bool :=
  s.storageConfigs.contains zone || (byRegion && s.storageConfigs.contains region)

namespace Replica

def Schedulable (byRegion : Bool) (r : Replica) : Prop :=
  ∀ id hv, r.hypervisor? id = some hv → hv.state = .available →
    r.sm.storage.served byRegion hv.region hv.zone = true

def Decommissioned (r : Replica) (id : String) : Prop :=
  ∃ hv, r.hypervisor? id = some hv ∧ hv.state = .decommissioned

/-- A registration moves an available hypervisor to a place without storage. -/
def unserves (byRegion : Bool) (r : Replica) : Command → Bool
  | .registerHypervisor name region zone _ =>
      (r.sm.hypervisorStore.bind fun db => HypervisorStore.get db name).any
        (fun hv => hv.state == .available) && !r.sm.storage.served byRegion region zone
  | _ => false

def KeyedHypervisors (r : Replica) : Prop :=
  ∃ db, r.sm.hypervisorStore = some db ∧ HypervisorStore.Keyed db

variable {r : Replica} {byRegion : Bool}

theorem served_mono (c : Command) {region zone : String}
    (h : r.sm.storage.served byRegion region zone = true) :
    (applySingle c r).2.sm.storage.served byRegion region zone = true := by
  unfold StorageState.served at h ⊢
  rw [Bool.or_eq_true, Bool.and_eq_true] at h ⊢
  exact h.imp (configs_applySingle c r) (And.imp_right (configs_applySingle c r))

theorem KeyedHypervisors.step (h : r.KeyedHypervisors) (c : Command) :
    (applySingle c r).2.KeyedHypervisors := by
  obtain ⟨db, hdb, hkeyed⟩ := h
  obtain ⟨db', hdb', hsteps⟩ := hvSteps_applySingle hdb hkeyed c
  refine ⟨db', hdb', fun id hv hget => ?_⟩
  have hstep := hsteps id
  rw [hget] at hstep
  generalize hentry : db.get .hypervisors id = entry at hstep
  cases hstep with
  | kept => exact hkeyed id hv hentry
  | created hid => exact hid
  | changed hid hchange =>
      cases hchange <;> exact hid

theorem Decommissioned.step (h : r.KeyedHypervisors) (c : Command) {id : String}
    (hdec : r.Decommissioned id) : (applySingle c r).2.Decommissioned id := by
  obtain ⟨db, hdb, hkeyed⟩ := h
  obtain ⟨hv, hget, hstate⟩ := hdec
  obtain ⟨db', hdb', hsteps⟩ := hvSteps_applySingle hdb hkeyed c
  have hstep := hsteps id
  rw [hypervisor?, hdb] at hget
  change db.get .hypervisors id = some hv at hget
  have hafter : (applySingle c r).2.hypervisor? id = db'.get .hypervisors id := by
    rw [hypervisor?, hdb']
    rfl
  unfold Decommissioned
  rw [hafter]
  rw [hget] at hstep
  generalize db'.get .hypervisors id = entry at hstep
  cases hstep with
  | kept => exact ⟨hv, rfl, hstate⟩
  | changed hid hchange =>
      refine ⟨_, rfl, ?_⟩
      cases hchange with
      | registered => exact hstate
      | described => exact hstate
      | moved hvalid =>
          rw [hstate] at hvalid
          cases hvalid

theorem KeyedHypervisors.hvStep (h : r.KeyedHypervisors) (c : Command) (id : String) :
    ∃ db, HvStep r.sm.storage db c id (r.hypervisor? id) ((applySingle c r).2.hypervisor? id) := by
  obtain ⟨db, hdb, hkeyed⟩ := h
  obtain ⟨db', hdb', hsteps⟩ := hvSteps_applySingle hdb hkeyed c
  refine ⟨db, ?_⟩
  rw [hypervisor?, hypervisor?, hdb, hdb']
  exact hsteps id

theorem schedulable_applySingle_iff (hr : r.KeyedHypervisors) (h : r.Schedulable byRegion)
    (c : Command) : (applySingle c r).2.Schedulable byRegion ↔ r.unserves byRegion c = false := by
  obtain ⟨db, hdb, hkeyed⟩ := hr
  constructor
  · intro hafter
    cases hcond : r.unserves byRegion c with
    | false => rfl
    | true =>
        cases c with
        | registerHypervisor name region zone fabricIpv6 =>
            simp only [unserves, hdb, Option.bind_some, Bool.and_eq_true, Option.any_eq_true,
              beq_iff_eq, Bool.not_eq_true'] at hcond
            obtain ⟨⟨hv, hget, hstate⟩, hunserved⟩ := hcond
            obtain ⟨hv', hget', hstate', hregion, hzone⟩ :=
              register_known hdb hkeyed hget region zone fabricIpv6
            have hserved := hafter hv.id hv' hget' (hstate'.trans hstate)
            rw [(only_applySingle _ r).storage rfl, hregion, hzone, hunserved] at hserved
            cases hserved
        | _ => cases hcond
  · intro hcond id hv' hget' hstate'
    obtain ⟨db', hdb', hsteps⟩ := hvSteps_applySingle hdb hkeyed c
    have hstep := hsteps id
    rw [hypervisor?, hdb'] at hget'
    change db'.get .hypervisors id = some hv' at hget'
    rw [hget'] at hstep
    generalize hentry : db.get .hypervisors id = entry at hstep
    have hbefore : ∀ hv, db.get .hypervisors id = some hv → r.hypervisor? id = some hv := by
      intro hv hget
      rw [hypervisor?, hdb]
      exact hget
    cases hstep with
    | kept => exact served_mono c (h id hv' (hbefore hv' hentry) hstate')
    | created hid hstate =>
        rw [hstate] at hstate'
        cases hstate'
    | changed hid hchange =>
        cases hchange with
        | registered fabricIpv6' hfound =>
            apply served_mono
            simp only [unserves, hdb, Option.bind_some, hfound, Option.any_some, Bool.and_eq_false_iff,
              beq_eq_false_iff_ne, Bool.not_eq_false'] at hcond
            exact hcond.resolve_left fun hne => hne hstate'
        | moved hvalid hstorage =>
            apply served_mono
            rw [StorageState.served, hstorage hstate', Bool.true_or]
        | described =>
            have hserved := h id _ (hbefore _ hentry) hstate'
            exact served_mono c hserved

/-- The decommissioned hypervisors of a replica are so on another one. -/
def KeepsDecommissioned (r r' : Replica) : Prop := ∀ id, r.Decommissioned id → r'.Decommissioned id

instance : IsPreorder Replica KeepsDecommissioned where
  refl _ _ h := h
  trans _ _ _ h h' id hdec := h' id (h id hdec)

end Replica

open Replica in
/-- **Storage under schedulable hypervisors.** In a run from an empty hypervisor store, every
available hypervisor has storage in every state reached and a decommissioned one stays so, just when
no registration moves an available hypervisor to a place without storage. -/
theorem schedulable_along_iff (log : List StateMachineCommand) (r : Replica)
    (hinit : r.sm.hypervisorStore = some .empty) (byRegion : Bool) :
    ((∀ e ∈ executed log r, e.after.Schedulable byRegion) ∧
      (executed log r).Pairwise fun e f => KeepsDecommissioned e.after f.after) ↔
    ∀ e ∈ executed log r, e.before.unserves byRegion e.action = false := by
  have hrun : Run applySingle r (executed log r) (applyLog log r).2 := Batch.run_executed log r
  have hempty : ∀ (id : String), (LayerDb.empty : HypervisorDb).get .hypervisors id = none :=
    fun _ => Std.ExtTreeMap.getElem?_empty
  have hkeyed : r.KeyedHypervisors := by
    refine ⟨.empty, hinit, fun id hv hget => ?_⟩
    rw [hempty] at hget
    cases hget
  have hfirst : r.Schedulable byRegion := by
    intro id hv hget
    rw [hypervisor?, hinit, Option.bind_some, hempty] at hget
    cases hget
  have hpairs : (executed log r).Pairwise fun e f => KeepsDecommissioned e.after f.after :=
    hrun.pairwise_after hkeyed fun t c ht => ⟨ht.step c, fun id => Decommissioned.step ht c⟩
  rw [and_iff_left hpairs]
  refine hrun.forall_after_iff_of_invariant
    (I := fun t => t.KeyedHypervisors ∧ t.Schedulable byRegion) (P := Schedulable byRegion)
    (C := fun t c => t.unserves byRegion c = false) ⟨hkeyed, hfirst⟩ ?_ ?_
  · intro t c ht
    exact schedulable_applySingle_iff ht.1 ht.2 c
  · intro t c ht hcond
    exact ⟨ht.1.step c, (schedulable_applySingle_iff ht.1 ht.2 c).mpr hcond⟩

def hypervisorReplica : Replica :=
  { Replica.fresh with sm.hypervisorStore := some .empty }

def zoneConfig : StorageConfig :=
  { s3Endpoint := "https://s3", s3Bucket := "bucket", s3AccessKey := "key", s3SecretKey := "secret",
    cacheDiskPath := "/cache", cacheDiskSizeGb := 100, cacheMemorySizeGb := 8 }

/-- A hypervisor is registered, enabled and decommissioned. -/
def enabledHypervisorLog : List StateMachineCommand :=
  [.single (.setStorageConfig "eu" "par-1" zoneConfig),
    .single (.registerHypervisor "hv" "eu" "par-1" "fd00::1"),
    .single (.enableHypervisor "hv"), .single (.registerHypervisor "hv" "eu" "par-1" ""),
    .single (.decommissionHypervisor "hv")]

theorem schedulable_of_enabled_hypervisor :
    (∀ e ∈ executed enabledHypervisorLog hypervisorReplica,
      e.before.unserves false e.action = false) ∧
    ∀ e ∈ executed enabledHypervisorLog hypervisorReplica, e.after.Schedulable false := by
  have hcond : ∀ e ∈ executed enabledHypervisorLog hypervisorReplica,
      e.before.unserves false e.action = false := by decide
  exact ⟨hcond, ((schedulable_along_iff enabledHypervisorLog hypervisorReplica rfl false).mpr hcond).1⟩

/-- An enabled hypervisor is registered again in another zone and region. -/
def movedHypervisorLog : List StateMachineCommand :=
  [.single (.setStorageConfig "eu" "par-1" zoneConfig),
    .single (.registerHypervisor "hv" "eu" "par-1" "fd00::1"),
    .single (.enableHypervisor "hv"), .single (.registerHypervisor "hv" "us" "nyc-1" "")]

theorem moved_hypervisor_without_storage :
    ¬ (applyLog movedHypervisorLog hypervisorReplica).2.Schedulable true := by
  intro h
  have hmoved : ((applyLog movedHypervisorLog hypervisorReplica).2.hypervisor? "hv-000000000000000001").any
      (fun hv => hv.state == .available &&
        !(applyLog movedHypervisorLog hypervisorReplica).2.sm.storage.served true hv.region hv.zone) =
      true := by decide
  simp only [Option.any_eq_true, Bool.and_eq_true, beq_iff_eq, Bool.not_eq_true'] at hmoved
  obtain ⟨hv, hget, hstate, hunserved⟩ := hmoved
  rw [h _ hv hget hstate] at hunserved
  cases hunserved

end Syfrah
