import Syfrah.Proof.Fencing
import Syfrah.Proof.VolumeShape

/-!
# Migrations between zones

The start of a migration saves the assignment of the volume in its record, and until it ends only a
deletion gets at the record, so a rollback gives back what was saved. The zone of the volume is never
looked at and never written: any zone with storage may be named as the source, and a completed
migration leaves the volume in the zone where it was.
-/

namespace Syfrah

open StorageState

/-- The volume whose migration a command starts or ends. -/
def Command.migration : Command → Option VolumeId
  | migrateVolumeToZone id .. | completeMigration id | rollbackMigration id _ => some id
  | _ => none

/-- A command that started or ended a migration of a volume. -/
def migrates (id : VolumeId) (e : Step) : Bool := e.action.migration == some id && !e.reply.isError

def VolumeRecord.migrating (vol : VolumeRecord) (sourceZone targetZone : String)
    (target : HypervisorId) (targetVmId : Option VmId) : VolumeRecord :=
  { vol with
    preMigrationHypervisor := vol.attachedHypervisorId
    preMigrationVmId := vol.attachedVmId
    state := .migrating
    migrationSourceZone := some sourceZone
    migrationTargetZone := some targetZone
    attachedHypervisorId := some target
    attachedVmId := targetVmId
    placementGeneration := vol.placementGeneration + 1 }

/-- Every migration that was started was from the zone of the volume; the volume is in the target zone
and on the target when it is completed, and as before, with a larger generation, when it is rolled
back. -/
def MigrationsMove (es : List Step) : Prop :=
  ∀ past rest (m : Step) id sourceZone targetZone target targetVmId, es = past ++ m :: rest →
    m.action = .migrateVolumeToZone id sourceZone targetZone target targetVmId →
    m.reply.isError = false →
    ∃ vol, m.before.volume id = some vol ∧ vol.zone = some sourceZone ∧
      ∀ between fin rest', rest = between ++ fin :: rest' →
        (∀ e ∈ between, migrates id e = false) → fin.reply.isError = false →
        (fin.action = .completeMigration id → ∃ vol', fin.after.volume id = some vol' ∧
          vol'.zone = some targetZone ∧ vol'.attachedHypervisorId = some target) ∧
        ∀ reason, fin.action = .rollbackMigration id reason →
          ∃ vol', fin.after.volume id = some vol' ∧
            vol' = { vol with placementGeneration := vol'.placementGeneration } ∧
            vol.placementGeneration < vol'.placementGeneration

/-- Migrations that would be started name the zone of the volume as their source, and no migration
would be completed. -/
def keepsZone (s : StorageState) : Command → Bool
  | .migrateVolumeToZone id sourceZone targetZone _ _ =>
      sourceZone == targetZone || !s.storageConfigs.contains sourceZone ||
        !s.storageConfigs.contains targetZone ||
          (s.volumes[id]?).all fun vol => vol.state != .available || vol.zone == some sourceZone
  | .completeMigration id => (s.volumes[id]?).all fun vol => vol.state != .migrating
  | _ => true

/-! ### One record -/

theorem RecordStep.settles {s : StorageState} {c : Command} {id : VolumeId}
    {entry entry' : Option VolumeRecord} (hstep : RecordStep s c id entry entry')
    (hc : c.migration ≠ some id) :
    entry' = entry ∨ ∀ vol', entry' = some vol' → vol'.state ≠ .migrating := by
  cases hstep with
  | kept => exact .inl rfl
  | created _ hnew =>
      refine .inr fun vol' hvol' => ?_
      cases hvol'
      simp [hnew.state]
  | purged =>
      refine .inr fun vol' hvol' => ?_
      cases hvol'
  | changed hchange =>
      refine .inr fun vol' hvol' => ?_
      cases hvol'
      cases hchange with
      | migrated | completed | rolledBack => exact absurd rfl hc
      | attached | detached => simp
      | rescheduled hstate | moved hstate | resized hstate => simp [hstate]
      | deleted => simp [tombstone]

def VolumeRecord.Unmarked (vol : VolumeRecord) : Prop :=
  vol.state ≠ .migrating → vol.state ≠ .deleted → vol.Unmoved

theorem RecordStep.unmarked {s : StorageState} {c : Command} {id : VolumeId}
    {entry entry' : Option VolumeRecord} (hstep : RecordStep s c id entry entry')
    (h : ∀ vol, entry = some vol → vol.Unmarked) : ∀ vol', entry' = some vol' → vol'.Unmarked := by
  rintro vol' rfl
  cases hstep with
  | kept => exact h vol' rfl
  | created _ hnew => exact fun _ _ => hnew.unmoved
  | @changed vol _ hchange =>
      intro hmigrating hdeleted
      have hvol := h vol rfl
      cases hchange with
      | attached hstate | detached hstate | rescheduled hstate | moved hstate | resized hstate =>
          obtain ⟨hsource, htarget, hhypervisor, hvm⟩ := hvol (by simp [hstate]) (by simp [hstate])
          exact ⟨hsource, htarget, hhypervisor, hvm⟩
      | migrated => exact absurd rfl hmigrating
      | completed | rolledBack => exact ⟨rfl, rfl, rfl, rfl⟩
      | deleted => exact absurd rfl hdeleted

/-! ### One command -/

theorem applySingle_of_onVolume {c : Command} {r : Replica}
    {f : StorageState → Except String (VolumeRecord × StorageState)}
    (hc : handle c = do let _ ← Handle.onVolume f; return .ok) :
    (∃ msg, f r.sm.storage = .error msg ∧ (applySingle c r).1 = .error msg ∧
        (applySingle c r).2.sm.storage = r.sm.storage) ∨
      ∃ vol', f r.sm.storage = .ok (vol', (applySingle c r).2.sm.storage) ∧
        (applySingle c r).1 = .ok := by
  change Handle.Yields (fun response s' =>
    (∃ msg, f r.sm.storage = .error msg ∧ response = .error msg ∧ s' = r.sm.storage) ∨
      ∃ vol', f r.sm.storage = .ok (vol', s') ∧ response = .ok) (handle c) r
  rw [hc]
  exact Handle.yields_onVolume (fun msg hmsg => .inl ⟨msg, hmsg, rfl, rfl⟩)
    fun vol' s' hs' => .inr ⟨vol', hs', rfl⟩

section Commands

variable {id : VolumeId} {sourceZone targetZone reason : String} {target : HypervisorId}
  {targetVmId : Option VmId} {r : Replica}

theorem migrate_accepted_iff :
    (applySingle (.migrateVolumeToZone id sourceZone targetZone target targetVmId) r).1.isError =
        false ↔
      sourceZone ≠ targetZone ∧ r.sm.storage.storageConfigs.contains sourceZone = true ∧
        r.sm.storage.storageConfigs.contains targetZone = true ∧
        ∃ vol, r.volume id = some vol ∧ vol.state = .available := by
  rcases applySingle_of_onVolume (r := r)
    (c := .migrateVolumeToZone id sourceZone targetZone target targetVmId) rfl with
    ⟨msg, hmsg, hreply, -⟩ | ⟨vol', hok, hreply⟩
  · rw [hreply]
    refine ⟨nofun, ?_⟩
    rintro ⟨hne, hsource, htarget, vol, hget, hstate⟩
    have hget : r.sm.storage.volumes[id]? = some vol := hget
    simp [migrateVolumeToZone, hne, hsource, htarget, hget, hstate] at hmsg
  · rw [hreply]
    refine ⟨fun _ => ?_, fun _ => rfl⟩
    obtain ⟨vol, hget, hchange, -⟩ := migrateVolumeToZone_ok hok
    cases hchange with
    | migrated hstate =>
        unfold migrateVolumeToZone at hok
        split_ifs at hok with hne hsource htarget
        exact ⟨hne, by simpa using hsource, by simpa using htarget, vol, hget, hstate⟩

theorem volume_of_migrate {vol : VolumeRecord} (hget : r.volume id = some vol)
    (haccepted : (applySingle (.migrateVolumeToZone id sourceZone targetZone target targetVmId)
      r).1.isError = false) :
    (applySingle (.migrateVolumeToZone id sourceZone targetZone target targetVmId) r).2.volume id =
      some (vol.migrating sourceZone targetZone target targetVmId) := by
  rcases applySingle_of_onVolume (r := r)
    (c := .migrateVolumeToZone id sourceZone targetZone target targetVmId) rfl with
    ⟨msg, -, hreply, -⟩ | ⟨vol', hok, -⟩
  · rw [hreply] at haccepted
    cases haccepted
  · obtain ⟨vol₀, hget₀, hchange, hs'⟩ := migrateVolumeToZone_ok hok
    obtain rfl : vol₀ = vol := Option.some.inj (hget₀.symm.trans hget)
    cases hchange
    rw [Replica.volume, hs']
    exact Std.ExtTreeMap.getElem?_insert_self

theorem complete_accepted_iff : (applySingle (.completeMigration id) r).1.isError = false ↔
    ∃ vol, r.volume id = some vol ∧ vol.state = .migrating := by
  rcases applySingle_of_onVolume (r := r) (c := .completeMigration id) rfl with
    ⟨msg, hmsg, hreply, -⟩ | ⟨vol', hok, hreply⟩
  · rw [hreply]
    refine ⟨nofun, ?_⟩
    rintro ⟨vol, hget, hstate⟩
    have hget : r.sm.storage.volumes[id]? = some vol := hget
    simp [completeMigration, hget, hstate] at hmsg
  · rw [hreply]
    refine ⟨fun _ => ?_, fun _ => rfl⟩
    obtain ⟨vol, hget, hchange, -⟩ := completeMigration_ok hok
    cases hchange with
    | completed hstate => exact ⟨vol, hget, hstate⟩

theorem volume_of_complete
    (haccepted : (applySingle (.completeMigration id) r).1.isError = false) :
    ∃ vol, r.volume id = some vol ∧ vol.state = .migrating ∧
      (applySingle (.completeMigration id) r).2.volume id = some
        { vol with
          state := .available
          migrationSourceZone := none
          migrationTargetZone := none
          preMigrationHypervisor := none
          preMigrationVmId := none } := by
  rcases applySingle_of_onVolume (r := r) (c := .completeMigration id) rfl with
    ⟨msg, -, hreply, -⟩ | ⟨vol', hok, -⟩
  · rw [hreply] at haccepted
    cases haccepted
  · obtain ⟨vol, hget, hchange, hs'⟩ := completeMigration_ok hok
    cases hchange with
    | completed hstate =>
        refine ⟨vol, hget, hstate, ?_⟩
        rw [Replica.volume, hs']
        exact Std.ExtTreeMap.getElem?_insert_self

theorem volume_of_rollback (haccepted : (applySingle (.rollbackMigration id reason) r).1.isError = false) :
    ∃ vol, r.volume id = some vol ∧ vol.state = .migrating ∧
      (applySingle (.rollbackMigration id reason) r).2.volume id = some
        { vol with
          attachedHypervisorId := vol.preMigrationHypervisor
          preMigrationHypervisor := none
          attachedVmId := vol.preMigrationVmId
          preMigrationVmId := none
          state := .available
          migrationSourceZone := none
          migrationTargetZone := none } := by
  rcases applySingle_of_onVolume (r := r) (c := .rollbackMigration id reason) rfl with
    ⟨msg, -, hreply, -⟩ | ⟨vol', hok, -⟩
  · rw [hreply] at haccepted
    cases haccepted
  · obtain ⟨vol, hget, hchange, hs'⟩ := @rollbackMigration_ok _ _ _ _ reason hok
    cases hchange with
    | rolledBack hstate =>
        refine ⟨vol, hget, hstate, ?_⟩
        rw [Replica.volume, hs']
        exact Std.ExtTreeMap.getElem?_insert_self

theorem keepsZone_migrate_iff :
    keepsZone r.sm.storage (.migrateVolumeToZone id sourceZone targetZone target targetVmId) = true ↔
      ((applySingle (.migrateVolumeToZone id sourceZone targetZone target targetVmId) r).1.isError =
        false → ∃ vol, r.volume id = some vol ∧ vol.zone = some sourceZone) := by
  rw [migrate_accepted_iff, keepsZone]
  cases hget : r.volume id with
  | none =>
      have hget : r.sm.storage.volumes[id]? = none := hget
      simp [hget]
  | some vol =>
      have hget : r.sm.storage.volumes[id]? = some vol := hget
      simp only [hget, Option.all_some, Bool.or_eq_true, beq_iff_eq, Bool.not_eq_true', bne_iff_ne,
        Option.some.injEq, exists_eq_left']
      grind

theorem keepsZone_complete_iff : keepsZone r.sm.storage (.completeMigration id) = true ↔
    ¬ (applySingle (.completeMigration id) r).1.isError = false := by
  rw [complete_accepted_iff, keepsZone, Option.all_eq_true]
  simp only [bne_iff_ne, not_exists, not_and]
  exact Iff.rfl

end Commands

/-! ### Runs -/

theorem storage_of_error {id : VolumeId} {c : Command} {t : Replica} (hc : c.migration = some id)
    (herror : (applySingle c t).1.isError = true) :
    (applySingle c t).2.sm.storage = t.sm.storage := by
  have hvolume : ∀ {f : StorageState → Except String (VolumeRecord × StorageState)},
      (handle c = do let _ ← Handle.onVolume f; return .ok) →
        (applySingle c t).2.sm.storage = t.sm.storage := by
    intro f hf
    rcases applySingle_of_onVolume (r := t) hf with ⟨_, -, -, hsame⟩ | ⟨_, -, hreply⟩
    · exact hsame
    · rw [hreply] at herror
      cases herror
  cases c with
  | migrateVolumeToZone | completeMigration | rollbackMigration => exact hvolume rfl
  | _ => cases hc

theorem settles_step {id : VolumeId} {c : Command} {t : Replica}
    (hidle : migrates id (Exec.of applySingle c t) = false) :
    (applySingle c t).2.volume id = t.volume id ∨
      ∀ vol', (applySingle c t).2.volume id = some vol' → vol'.state ≠ .migrating := by
  by_cases hc : c.migration = some id
  · have herror : (applySingle c t).1.isError = true := by
      simpa [migrates, Exec.of, hc] using hidle
    exact .inl (by rw [Replica.volume, storage_of_error hc herror, Replica.volume])
  · exact ((effect_applySingle c t).volume id).settles hc

/-- **During a migration.** The record stays as the start of the migration left it, or the volume does
not migrate any more. -/
theorem settles_run {id : VolumeId} {vol : VolumeRecord} {r t : Replica} {es : List Step}
    (hrun : Run applySingle r es t) (hvol : r.volume id = some vol)
    (hidle : ∀ e ∈ es, migrates id e = false) :
    t.volume id = some vol ∨ ∀ vol', t.volume id = some vol' → vol'.state ≠ .migrating := by
  refine hrun.invariant (I := fun _ t => t.volume id = some vol ∨
    ∀ vol', t.volume id = some vol' → vol'.state ≠ .migrating) (.inl hvol) ?_ (.of_forall hidle)
  intro _ t c hI hc
  rcases settles_step hc with hsame | hsettled
  · rw [hsame]
    exact hI
  · exact .inr hsettled

theorem exists_start {id : VolumeId} {r t : Replica} {es : List Step} (hrun : Run applySingle r es t)
    (hinit : ∀ vol, r.volume id = some vol → vol.state ≠ .migrating) {vol : VolumeRecord}
    (hvol : t.volume id = some vol) (hstate : vol.state = .migrating) :
    ∃ past between m, es = past ++ m :: between ∧
      (∃ sourceZone targetZone target targetVmId,
        m.action = .migrateVolumeToZone id sourceZone targetZone target targetVmId) ∧
      m.reply.isError = false ∧ ∀ e ∈ between, migrates id e = false := by
  induction hrun generalizing vol with
  | nil => exact absurd hstate (hinit vol hvol)
  | @snoc t es c hes ih =>
      cases hmigrates : migrates id (Exec.of applySingle c t) with
      | false =>
          rcases settles_step hmigrates with hsame | hsettled
          · obtain ⟨past, between, m, rfl, hm, haccepted, hidle⟩ := ih (hsame ▸ hvol) hstate
            refine ⟨past, between ++ [Exec.of applySingle c t], m, by simp, hm, haccepted, ?_⟩
            exact List.forall_mem_append.mpr ⟨hidle, List.forall_mem_singleton.mpr hmigrates⟩
          · exact absurd hstate (hsettled vol hvol)
      | true =>
          obtain ⟨hc, haccepted⟩ : c.migration = some id ∧ (applySingle c t).1.isError = false := by
            simpa [migrates, Exec.of] using hmigrates
          refine ⟨es, [], Exec.of applySingle c t, rfl, ?_, haccepted, List.forall_mem_nil _⟩
          cases c with
          | migrateVolumeToZone id' sourceZone targetZone target targetVmId =>
              cases hc
              exact ⟨sourceZone, targetZone, target, targetVmId, rfl⟩
          | completeMigration =>
              cases hc
              obtain ⟨_, -, -, hafter⟩ := volume_of_complete haccepted
              cases hafter.symm.trans hvol
              cases hstate
          | rollbackMigration =>
              cases hc
              obtain ⟨_, -, -, hafter⟩ := volume_of_rollback haccepted
              cases hafter.symm.trans hvol
              cases hstate
          | _ => cases hc

theorem unmarked_of_run {r t : Replica} {es : List Step} (hrun : Run applySingle r es t)
    (hinit : r.sm.storage = {}) : ∀ id vol, t.volume id = some vol → vol.Unmarked := by
  refine hrun.invariant (I := fun _ t => ∀ id vol, t.volume id = some vol → vol.Unmarked)
    (C := fun _ _ => True) ?_ ?_ (.of_forall fun _ _ => trivial)
  · simp [Replica.volume, hinit]
  · intro _ t c hI _ id
    exact ((effect_applySingle c t).volume id).unmarked (hI id)

theorem restored_of_rollback {id : VolumeId} {sourceZone targetZone reason : String}
    {target : HypervisorId} {targetVmId : Option VmId} {r t : Replica} {es : List Step}
    {vol : VolumeRecord} (hvol : r.volume id = some vol) (hunmarked : vol.Unmarked)
    (hstart : (applySingle (.migrateVolumeToZone id sourceZone targetZone target targetVmId)
      r).1.isError = false)
    (hrun : Run applySingle
      (applySingle (.migrateVolumeToZone id sourceZone targetZone target targetVmId) r).2 es t)
    (hidle : ∀ e ∈ es, migrates id e = false)
    (haccepted : (applySingle (.rollbackMigration id reason) t).1.isError = false) :
    (applySingle (.rollbackMigration id reason) t).2.volume id =
      some { vol with placementGeneration := vol.placementGeneration + 1 } := by
  obtain ⟨vol₁, hvol₁, hmigrating, hafter⟩ := volume_of_rollback haccepted
  obtain ⟨-, -, -, vol₀, hvol₀, havailable⟩ := migrate_accepted_iff.mp hstart
  obtain rfl : vol₀ = vol := Option.some.inj (hvol₀.symm.trans hvol)
  rcases settles_run hrun (volume_of_migrate hvol hstart) hidle with hsame | hsettled
  · obtain rfl : vol₁ = _ := Option.some.inj (hvol₁.symm.trans hsame)
    obtain ⟨hsource, htarget, hhypervisor, hvm⟩ := hunmarked (by simp [havailable]) (by simp [havailable])
    rw [hafter]
    obtain ⟨_, _, _, _, _, _, _, _, _, _, _, _, _, _, _, _, _, _⟩ := vol₀
    simp_all [VolumeRecord.migrating]
  · exact absurd hmigrating (hsettled vol₁ hvol₁)

/-- **Migrations that move.** In every run from the start, all migrations do what is asked for just if
they are started from the zone of the volume and none is completed. -/
theorem migrationsMove_iff_keepsZone (log : List StateMachineCommand) (r : Replica)
    (hinit : r.sm.storage = {}) :
    MigrationsMove (executed log r) ↔
      ∀ e ∈ executed log r, keepsZone e.before.sm.storage e.action = true := by
  have hrun : Run applySingle r (executed log r) (applyLog log r).2 := Batch.run_executed log r
  generalize executed log r = es at hrun ⊢
  have hunmoved : ∀ id vol, r.volume id = some vol → vol.state ≠ .migrating := by
    simp [Replica.volume, hinit]
  constructor
  · intro hmoves e he
    obtain ⟨past, rest, rfl⟩ := List.append_of_mem he
    obtain ⟨t, hpast, hrest⟩ := hrun.exists_of_append
    obtain ⟨c, rfl⟩ : ∃ c, e = Exec.of applySingle c t := ⟨_, hrest.of_cons.1⟩
    change keepsZone t.sm.storage c = true
    cases c with
    | migrateVolumeToZone id sourceZone targetZone target targetVmId =>
        refine keepsZone_migrate_iff.mpr fun haccepted => ?_
        obtain ⟨vol, hvol, hzone, -⟩ := hmoves past rest _ id sourceZone targetZone target targetVmId
          rfl rfl haccepted
        exact ⟨vol, hvol, hzone⟩
    | completeMigration id =>
        refine keepsZone_complete_iff.mpr fun haccepted => ?_
        -- the migration was started in the run, from the zone that it would have to leave
        obtain ⟨vol, hvol, hstate, hafter⟩ := volume_of_complete haccepted
        obtain ⟨before, between, m, rfl, ⟨sourceZone, targetZone, target, targetVmId, hm⟩, hstart,
          hidle⟩ := exists_start hpast (hunmoved id) hvol hstate
        obtain ⟨u, hbefore, hstarted⟩ := hpast.exists_of_append
        obtain ⟨hmof, hbetween⟩ := hstarted.of_cons
        rw [hm] at hmof
        subst hmof
        let fin := Exec.of applySingle (.completeMigration id) t
        obtain ⟨vol₀, hvol₀, hzone, hend⟩ := hmoves before (between ++ fin :: rest) _ id sourceZone
          targetZone target targetVmId (List.append_assoc _ _ _) rfl hstart
        obtain ⟨vol', hvol', hzone', -⟩ := (hend between fin rest rfl hidle haccepted).1 rfl
        cases hafter.symm.trans hvol'
        rcases settles_run hbetween (volume_of_migrate hvol₀ hstart) hidle with hsame | hsettled
        · cases hsame.symm.trans hvol
          exact (migrate_accepted_iff.mp hstart).1 (Option.some.inj (hzone.symm.trans hzone'))
        · exact hsettled vol hvol hstate
    | _ => rfl
  · rintro hkeeps past rest m id sourceZone targetZone target targetVmId rfl hm haccepted
    obtain ⟨t, hpast, hrest⟩ := hrun.exists_of_append
    obtain ⟨hmof, hafter⟩ := hrest.of_cons
    rw [hm] at hmof
    subst hmof
    have hzone := keepsZone_migrate_iff.mp (hkeeps _ (List.mem_append_right _ List.mem_cons_self))
      haccepted
    obtain ⟨vol, hvol, hzone⟩ := hzone
    refine ⟨vol, hvol, hzone, ?_⟩
    rintro between fin rest' rfl hidle hfin
    have hkept := hkeeps fin (by simp)
    obtain ⟨u, hbetween, hend⟩ := hafter.exists_of_append
    obtain ⟨hfinof, -⟩ := hend.of_cons
    refine ⟨fun hcomplete => ?_, fun reason hrollback => ?_⟩
    · rw [hcomplete] at hfinof
      subst hfinof
      exact absurd hfin (keepsZone_complete_iff.mp hkept)
    · rw [hrollback] at hfinof
      subst hfinof
      have hunmarked := unmarked_of_run hpast hinit id vol hvol
      refine ⟨_, restored_of_rollback hvol hunmarked haccepted hbetween hidle hfin, rfl, ?_⟩
      exact Nat.lt_succ_self _

/-- A volume is migrated from its zone and the migration is rolled back. -/
def rolledBackMigration : List StateMachineCommand :=
  zonesLog ++
    [.single (.migrateVolumeToZone "vol" "a" "b" "hv-2" (some "vm")),
      .single (.resizeVolume "vol" 20),
      .single (.rollbackMigration "vol" "copy failed")]

theorem migrationsMove_of_rolled_back :
    Replica.fresh.sm.storage = {} ∧ MigrationsMove (executed rolledBackMigration .fresh) := by
  have hkeeps : ∀ e ∈ executed rolledBackMigration .fresh,
      keepsZone e.before.sm.storage e.action = true := by decide
  exact ⟨rfl, (migrationsMove_iff_keepsZone rolledBackMigration .fresh rfl).mpr hkeeps⟩

def migrationStart (sourceZone targetZone : String) : Step :=
  Exec.of applySingle (.migrateVolumeToZone "vol" sourceZone targetZone "hv-2" none)
    (applyLog zonesLog .fresh).2

def migrationEnd : Step :=
  Exec.of applySingle (.completeMigration "vol") (migrationStart "a" "b").after

/-- The completed migration leaves the volume in the first zone; and a migration from the other zone,
where the volume is not, is started. -/
theorem migration_leaves_zone :
    migrationEnd.reply.isError = false ∧
    (migrationEnd.after.volume "vol").map (·.zone) = some (some "a") ∧
    ¬ MigrationsMove (executed (zonesLog ++ [.single (migrationStart "a" "b").action,
      .single migrationEnd.action]) .fresh) ∧
    (migrationStart "b" "a").reply.isError = false ∧
    ¬ MigrationsMove (executed (zonesLog ++ [.single (migrationStart "b" "a").action]) .fresh) := by
  have hzone : (migrationEnd.after.volume "vol").map (·.zone) = some (some "a") := by decide
  have hvolume : ((migrationStart "b" "a").before.volume "vol").map (·.zone) = some (some "a") := by
    decide
  refine ⟨by decide, hzone, fun h => ?_, by decide, fun h => ?_⟩
  · obtain ⟨_, -, -, hend⟩ := h (executed zonesLog .fresh) [migrationEnd]
      (migrationStart "a" "b") "vol" "a" "b" "hv-2" none rfl rfl (by decide)
    obtain ⟨vol', hvol', hmoved, -⟩ :=
      (hend [] migrationEnd [] rfl (List.forall_mem_nil _) (by decide)).1 rfl
    rw [hvol', Option.map_some, hmoved] at hzone
    exact absurd hzone (by decide)
  · obtain ⟨vol, hvol, hsource, -⟩ := h (executed zonesLog .fresh) []
      (migrationStart "b" "a") "vol" "b" "a" "hv-2" none rfl rfl (by decide)
    rw [hvol, Option.map_some, hsource] at hvolume
    exact absurd hvolume (by decide)

end Syfrah
