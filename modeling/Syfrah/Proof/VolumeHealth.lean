import Syfrah.Storage.VolumeMgr
import Syfrah.Lib.Run

/-!
# What the trackers of volumes know

An observer notes for each volume when its current outage began and when its last probe was. The
trackers agree with the notes, but for the mark of a flush, which a failing probe does not take back.
-/

namespace Syfrah

namespace Storage

/-- From the first failing probe to the last one. -/
structure Outage where
  start : ℕ
  last : ℕ

/-- What happens to a volume. -/
inductive VolumeEvent
  | probe (reachable : Bool) (now : ℕ)
  | dirty (bytes : ℕ)
  | flush (bytes : ℕ)

/-- The outage after an event, if S3 was not reachable at the last probe. -/
def observe (outage : Option Outage) : VolumeEvent → Option Outage
  | .probe true _ => none
  | .probe false now => some ⟨(outage.map (·.start)).getD now, now⟩
  | _ => outage

def VolumeHealthTracker.handle (config : S3HealthConfig) (t : VolumeHealthTracker) :
    VolumeEvent → VolumeHealthTracker
  | .probe true _ => t.recordS3Reachable
  | .probe false now => t.recordS3Unreachable config now
  | .dirty bytes => t.addDirtyBytes bytes
  | .flush bytes => t.flushBytes bytes

structure Tracked (config : S3HealthConfig) (outage : Option Outage) (t : VolumeHealthTracker) : Prop where
  healthy : outage = none → t.dirtyBytes = 0 → t.health = .healthy ∧ t.canAcceptWrite config = true
  late : ∀ o, outage = some o → o.start + config.errorAfter ≤ o.last →
    t.health = .error ∧ t.canAcceptWrite config = false
  flush : t.flushInProgress = true → outage = none ∧ 0 < t.dirtyBytes

/-- A probe does not fail in the middle of a flush. -/
def VolumeEvent.Spares (t : VolumeHealthTracker) : VolumeEvent → Prop
  | .probe false _ => t.flushInProgress = false
  | _ => True

section Tracker

open VolumeHealthTracker

variable {config : S3HealthConfig} {outage : Option Outage} {t : VolumeHealthTracker} {now bytes : ℕ}

theorem since_handle (hsince : t.s3UnreachableSince = outage.map (·.start)) (event : VolumeEvent) :
    (t.handle config event).s3UnreachableSince = (observe outage event).map (·.start) := by
  cases event with
  | probe reachable now =>
      cases reachable with
      | true =>
          rw [VolumeHealthTracker.handle, recordS3Reachable]
          split <;> rfl
      | false =>
          rw [VolumeHealthTracker.handle, recordS3Unreachable, recomputeHealth, hsince]
          dsimp only
          split
          · rfl
          · split <;> rfl
  | dirty bytes => exact hsince
  | flush bytes =>
      rw [VolumeHealthTracker.handle, flushBytes]
      split <;> exact hsince

theorem rejects_of_error (h : t.health = .error) : t.canAcceptWrite config = false := by simp [canAcceptWrite, h]

theorem accepts_of_clean (hmax : 0 < config.maxDirtyBytes) (h : t.health = .healthy) (hdirty : t.dirtyBytes = 0) :
    t.canAcceptWrite config = true := by
  simp [canAcceptWrite, h, hdirty, hmax]

theorem tracked_reachable (hmax : 0 < config.maxDirtyBytes) : Tracked config none t.recordS3Reachable := by
  rw [recordS3Reachable]
  split
  · exact ⟨fun _ hdirty => by simp_all, nofun, fun _ => ⟨rfl, ‹_›⟩⟩
  · rename_i hdirty
    refine ⟨fun _ hzero => ⟨rfl, accepts_of_clean hmax rfl hzero⟩, nofun, nofun⟩

theorem flush_unreachable : (t.recordS3Unreachable config now).flushInProgress = t.flushInProgress := by
  rw [recordS3Unreachable, recomputeHealth]
  dsimp only
  split
  · rfl
  · split <;> rfl

theorem tracked_unreachable_iff (hsince : t.s3UnreachableSince = outage.map (·.start)) :
    Tracked config (observe outage (.probe false now)) (t.recordS3Unreachable config now) ↔
      t.flushInProgress = false := by
  constructor
  · intro h
    by_contra hflush
    rw [Bool.not_eq_false, ← @flush_unreachable config t now] at hflush
    cases (h.flush hflush).1
  · intro hflush
    refine ⟨nofun, fun o ho hlate => ?_, fun h => ?_⟩
    · cases ho
      have herror : (t.recordS3Unreachable config now).health = .error := by
        rw [recordS3Unreachable, recomputeHealth, hsince]
        dsimp only at hlate ⊢
        rw [if_pos (by omega)]
      exact ⟨herror, rejects_of_error herror⟩
    · rw [flush_unreachable, hflush] at h
      cases h

theorem Tracked.addDirtyBytes (h : Tracked config outage t) : Tracked config outage (t.addDirtyBytes bytes) := by
  refine ⟨fun hnone hdirty => ?_, fun o ho hlate => ?_, fun hflush => ?_⟩
  · have hzero : t.dirtyBytes = 0 := by
      simp only [VolumeHealthTracker.addDirtyBytes] at hdirty
      omega
    obtain ⟨hhealth, haccept⟩ := h.healthy hnone hzero
    refine ⟨hhealth, ?_⟩
    simp only [canAcceptWrite, Bool.and_eq_true, decide_eq_true_eq] at haccept ⊢
    exact ⟨haccept.1, by rw [hdirty]; omega⟩
  · have herror := (h.late o ho hlate).1
    exact ⟨herror, rejects_of_error herror⟩
  · obtain ⟨hnone, hpos⟩ := h.flush hflush
    refine ⟨hnone, ?_⟩
    simp only [VolumeHealthTracker.addDirtyBytes]
    omega

theorem Tracked.flushBytes (hmax : 0 < config.maxDirtyBytes) (hsince : t.s3UnreachableSince = outage.map (·.start))
    (h : Tracked config outage t) : Tracked config outage (t.flushBytes bytes) := by
  rw [VolumeHealthTracker.flushBytes]
  dsimp only
  split
  · rename_i hclean
    refine ⟨fun hnone hdirty => ?_, fun o ho hlate => ?_, nofun⟩
    · have hhealth : (if t.s3UnreachableSince = none then VolumeHealth.healthy else t.health) = .healthy := by
        rw [hsince, hnone, Option.map_none, if_pos rfl]
      exact ⟨hhealth, accepts_of_clean hmax hhealth hdirty⟩
    · have herror : (if t.s3UnreachableSince = none then VolumeHealth.healthy else t.health) = .error := by
        rw [hsince, ho, if_neg (by simp)]
        exact (h.late o ho hlate).1
      exact ⟨herror, rejects_of_error herror⟩
  · rename_i hdirty
    refine ⟨fun _ hzero => absurd hzero hdirty, fun o ho hlate => ?_, fun hflush => ?_⟩
    · have herror := (h.late o ho hlate).1
      exact ⟨herror, rejects_of_error herror⟩
    · exact ⟨(h.flush hflush).1, Nat.pos_of_ne_zero hdirty⟩

theorem tracked_handle_iff (hmax : 0 < config.maxDirtyBytes) (hsince : t.s3UnreachableSince = outage.map (·.start))
    (h : Tracked config outage t) (event : VolumeEvent) :
    Tracked config (observe outage event) (t.handle config event) ↔ event.Spares t := by
  cases event with
  | probe reachable now =>
      cases reachable with
      | true => exact iff_of_true (tracked_reachable hmax) trivial
      | false => exact tracked_unreachable_iff hsince
  | dirty bytes => exact iff_of_true h.addDirtyBytes trivial
  | flush bytes => exact iff_of_true (h.flushBytes hmax hsince) trivial

end Tracker

/-! ### All volumes of a node -/

inductive HealthEvent
  | probe (volumeId : String) (reachable : Bool) (now : ℕ)
  | probeAll (reachable : Bool) (now : ℕ)
  | dirty (volumeId : String) (bytes : ℕ)
  | flush (volumeId : String) (bytes : ℕ)

def HealthEvent.on (id : String) : HealthEvent → Option VolumeEvent
  | .probe volumeId reachable now => if volumeId = id then some (.probe reachable now) else none
  | .probeAll reachable now => some (.probe reachable now)
  | .dirty volumeId bytes => if volumeId = id then some (.dirty bytes) else none
  | .flush volumeId bytes => if volumeId = id then some (.flush bytes) else none

def VolumeMgr.handle (m : VolumeMgr) : HealthEvent → VolumeMgr
  | .probe volumeId reachable now => m.recordS3Probe volumeId reachable now
  | .probeAll reachable now => m.recordS3ProbeAll reachable now
  | .dirty volumeId bytes => m.addDirtyBytes volumeId bytes
  | .flush volumeId bytes => m.recordFlush volumeId bytes

/-- A manager and the notes of an observer. -/
structure Watched where
  mgr : VolumeMgr
  outages : String → Option Outage

namespace Watched

def start (config : S3HealthConfig) (ids : List String) : Watched :=
  ⟨ids.foldl VolumeMgr.startVolume ⟨∅, config⟩, fun _ => none⟩

def step (event : HealthEvent) (w : Watched) : Unit × Watched :=
  ((), ⟨w.mgr.handle event, fun id => (event.on id).elim (w.outages id) (observe (w.outages id))⟩)

/-- Health, writes and flushes of all running volumes are as the notes say. -/
structure Tracked (w : Watched) : Prop where
  healthy : ∀ (id : String) t, w.mgr.processes[id]? = some t → w.outages id = none → t.dirtyBytes = 0 →
    t.health = .healthy ∧ w.mgr.checkWriteAllowed id = .ok ()
  late : ∀ (id : String) t o, w.mgr.processes[id]? = some t → w.outages id = some o →
    o.start + w.mgr.s3HealthConfig.errorAfter ≤ o.last →
      t.health = .error ∧ w.mgr.checkWriteAllowed id = .error (.writeRejected id)
  flush : ∀ (id : String) t, w.mgr.processes[id]? = some t → t.flushInProgress = true →
    w.outages id = none ∧ 0 < t.dirtyBytes

/-- No probe fails for a volume in the middle of a flush. -/
def Spares (w : Watched) (event : HealthEvent) : Prop :=
  ∀ (id : String) t, w.mgr.processes[id]? = some t → ∀ e, event.on id = some e → e.Spares t

theorem tracked_iff (w : Watched) : w.Tracked ↔ ∀ (id : String) t, w.mgr.processes[id]? = some t →
    Storage.Tracked w.mgr.s3HealthConfig (w.outages id) t := by
  have hallowed : ∀ (id : String) t, w.mgr.processes[id]? = some t →
      (w.mgr.checkWriteAllowed id = .ok () ↔ t.canAcceptWrite w.mgr.s3HealthConfig = true) ∧
      (w.mgr.checkWriteAllowed id = .error (.writeRejected id) ↔
        t.canAcceptWrite w.mgr.s3HealthConfig = false) := by
    intro id t ht
    simp only [VolumeMgr.checkWriteAllowed, ht]
    cases t.canAcceptWrite w.mgr.s3HealthConfig <;> simp
  constructor
  · intro h id t ht
    refine ⟨fun hnone hdirty => ?_, fun o ho hlate => ?_, h.flush id t ht⟩
    · exact (h.healthy id t ht hnone hdirty).imp_right (hallowed id t ht).1.mp
    · exact (h.late id t o ht ho hlate).imp_right (hallowed id t ht).2.mp
  · intro h
    refine ⟨fun id t ht hnone hdirty => ?_, fun id t o ht ho hlate => ?_, fun id t ht => (h id t ht).flush⟩
    · exact ((h id t ht).healthy hnone hdirty).imp_right (hallowed id t ht).1.mpr
    · exact ((h id t ht).late o ho hlate).imp_right (hallowed id t ht).2.mpr

theorem getElem?_update (m : VolumeMgr) (volumeId id : String) (f : VolumeHealthTracker → VolumeHealthTracker) :
    (m.update volumeId f).processes[id]? = m.processes[id]?.map fun t => if volumeId = id then f t else t := by
  rw [VolumeMgr.update, Std.ExtTreeMap.getElem?_modify]
  split
  · rename_i heq
    cases Std.LawfulEqCmp.eq_of_compare heq
    simp only [if_true]
  · rename_i hne
    have hother : volumeId ≠ id := fun heq => hne (heq ▸ Std.ReflCmp.compare_self)
    simp only [if_neg hother, Option.map_id']

theorem getElem?_handle (m : VolumeMgr) (event : HealthEvent) (id : String) :
    (m.handle event).processes[id]? =
      m.processes[id]?.map fun t => (event.on id).elim t (t.handle m.s3HealthConfig) := by
  cases event with
  | probeAll reachable now =>
      rw [VolumeMgr.handle, VolumeMgr.recordS3ProbeAll, Std.ExtTreeMap.getElem?_map]
      cases reachable <;> rfl
  | probe volumeId reachable now =>
      rw [VolumeMgr.handle, VolumeMgr.recordS3Probe, getElem?_update, HealthEvent.on]
      split <;> cases reachable <;> rfl
  | dirty volumeId bytes =>
      rw [VolumeMgr.handle, VolumeMgr.addDirtyBytes, getElem?_update, HealthEvent.on]
      split <;> rfl
  | flush volumeId bytes =>
      rw [VolumeMgr.handle, VolumeMgr.recordFlush, getElem?_update, HealthEvent.on]
      split <;> rfl

theorem config_handle (m : VolumeMgr) (event : HealthEvent) :
    (m.handle event).s3HealthConfig = m.s3HealthConfig := by
  cases event <;> rfl

/-- The trackers agree with the notes on when the outages began. -/
def Dated (config : S3HealthConfig) (w : Watched) : Prop :=
  w.mgr.s3HealthConfig = config ∧ ∀ (id : String) t, w.mgr.processes[id]? = some t →
    t.s3UnreachableSince = (w.outages id).map (·.start)

variable {config : S3HealthConfig} {w : Watched}

theorem Dated.step (h : w.Dated config) (event : HealthEvent) : (step event w).2.Dated config := by
  refine ⟨(config_handle w.mgr event).trans h.1, fun id t' ht' => ?_⟩
  obtain ⟨t, ht, rfl⟩ := Option.map_eq_some_iff.mp ((getElem?_handle w.mgr event id).symm.trans ht')
  simp only [Watched.step]
  cases event.on id with
  | none => exact h.2 id t ht
  | some e => exact since_handle (h.2 id t ht) e

theorem tracked_step_iff (hmax : 0 < config.maxDirtyBytes) (hdated : w.Dated config) (h : w.Tracked)
    (event : HealthEvent) : (step event w).2.Tracked ↔ w.Spares event := by
  obtain ⟨rfl, hsince⟩ := hdated
  rw [tracked_iff] at h ⊢
  have hvolume : ∀ (id : String) t, w.mgr.processes[id]? = some t →
      (Storage.Tracked w.mgr.s3HealthConfig ((event.on id).elim (w.outages id) (observe (w.outages id)))
        ((event.on id).elim t (t.handle w.mgr.s3HealthConfig)) ↔ ∀ e, event.on id = some e → e.Spares t) := by
    intro id t ht
    cases event.on id with
    | none => exact iff_of_true (h id t ht) nofun
    | some e => simpa using tracked_handle_iff hmax (hsince id t ht) (h id t ht) e
  simp only [step, config_handle, getElem?_handle]
  constructor
  · intro hafter id t ht
    exact (hvolume id t ht).mp (hafter id _ (by rw [ht]; rfl))
  · intro hspares id t' ht'
    obtain ⟨t, ht, rfl⟩ := Option.map_eq_some_iff.mp ht'
    exact (hvolume id t ht).mpr (hspares id t ht)

theorem new_of_started (ids : List String) (m : VolumeMgr)
    (h : ∀ (id : String) t, m.processes[id]? = some t → t = {}) :
    (ids.foldl VolumeMgr.startVolume m).s3HealthConfig = m.s3HealthConfig ∧
      ∀ (id : String) t, (ids.foldl VolumeMgr.startVolume m).processes[id]? = some t → t = {} := by
  induction ids generalizing m with
  | nil => exact ⟨rfl, h⟩
  | cons volumeId ids ih =>
      by_cases hrunning : volumeId ∈ m.processes
      · rw [List.foldl_cons, VolumeMgr.startVolume, if_pos hrunning]
        exact ih m h
      · rw [List.foldl_cons, VolumeMgr.startVolume, if_neg hrunning]
        refine ih { m with processes := m.processes.insert volumeId {} } fun id t ht => ?_
        dsimp only at ht
        rw [Std.ExtTreeMap.getElem?_insert] at ht
        split at ht
        · exact (Option.some.inj ht).symm
        · exact h id t ht

/-- **The health of volumes is tracked** in a run exactly if no probe fails in the middle of a flush. -/
theorem health_tracked_iff (config : S3HealthConfig) (hmax : 0 < config.maxDirtyBytes) (ids : List String)
    (events : List HealthEvent) :
    (start config ids).Tracked ∧
      ((∀ e ∈ trace step events (start config ids), e.after.Tracked) ↔
        ∀ e ∈ trace step events (start config ids), e.before.Spares e.action) := by
  obtain ⟨hconfig, hnew⟩ := new_of_started ids ⟨∅, config⟩ (by simp)
  have hdated : (start config ids).Dated config := ⟨hconfig, fun id t ht => by rw [hnew id t ht]; rfl⟩
  have htracked : (start config ids).Tracked := by
    rw [tracked_iff]
    intro id t ht
    rw [hnew id t ht, show (start config ids).mgr.s3HealthConfig = config from hconfig]
    exact ⟨fun _ _ => ⟨rfl, accepts_of_clean hmax rfl rfl⟩, nofun, nofun⟩
  refine ⟨htracked, ?_⟩
  refine (run_trace events (start config ids)).forall_after_iff_of_invariant
    (I := fun w => w.Dated config ∧ w.Tracked) (P := Tracked) (C := Spares) ⟨hdated, htracked⟩ ?_ ?_
  · intro w event ⟨hdated, htracked⟩
    exact tracked_step_iff hmax hdated htracked event
  · intro w event ⟨hdated, htracked⟩ hspares
    exact ⟨hdated.step event, (tracked_step_iff hmax hdated htracked event).mpr hspares⟩

theorem health_tracked_iff_outage :
    (start {} ["vol-1"]).Tracked ∧
      ((∀ e ∈ trace step [.probe "vol-1" false 0, .dirty "vol-1" 512, .probeAll true 7] (start {} ["vol-1"]),
          e.after.Tracked) ↔
        ∀ e ∈ trace step [.probe "vol-1" false 0, .dirty "vol-1" 512, .probeAll true 7] (start {} ["vol-1"]),
          e.before.Spares e.action) :=
  health_tracked_iff {} (by decide) _ _

/-- **An outage in the middle of a flush** leaves the flush marked. -/
theorem flush_marked_in_outage :
    ¬ (reached step [.dirty "vol-1" 512, .probe "vol-1" true 0, .probe "vol-1" false 1]
      (start {} ["vol-1"])).Tracked := by
  intro h
  have hflush := h.flush "vol-1" ⟨.healthy, some 1, 512, true⟩ (by decide +kernel) rfl
  cases hflush.1

end Watched

end Storage

end Syfrah
