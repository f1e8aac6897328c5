import Syfrah.Proof.Migration
import Syfrah.Proof.StorageReconciler
import Syfrah.Proof.VolumeIdentity

/-!
# Passes of the storage reconciler over the replicated volumes

Two passes in a row over one state, and what a pass makes of a detached and of a deleted volume.
-/

namespace Syfrah

namespace Forge

namespace StorageReconciler

open Std.ExtTreeMap RedbStateMachine StorageState

structure Outside.AllSucceed (o : Outside) : Prop where
  removeDevice : ∀ vmId device, succeeded (o.removeDevice vmId device) = true
  stop : ∀ id, succeeded (o.stop id) = true
  start : ∀ id, succeeded (o.start id) = true
  attachDisk : ∀ vmId id, succeeded (o.attachDisk vmId id) = true

namespace View

variable {o : Outside} {v w : View} {id : String} {vol : DesiredVolume} {desired : Option DesiredVolume}
  {detaches : List DesiredDetach} {deleted attacher : Bool}

/-- As a pass wants it: with the desired process, and with the mark if there is a VM to attach to. -/
structure Settled (v : View) (desired : Option DesiredVolume) (attacher : Bool) : Prop where
  process : v.process = desired.map (·.placementGeneration)
  attached : ∀ vol, desired = some vol → vol.vmId.isSome = true → attacher = true → v.attached = true

theorem process_detaches_none (hok : o.AllSucceed) (hpending : detaches ≠ []) :
    (detaches.foldl (detach o) v).process = none := by
  obtain ⟨d, hd⟩ := List.exists_mem_of_ne_nil _ hpending
  refine Option.eq_none_iff_forall_ne_some.mpr fun generation hprocess => ?_
  have hfailed := ((process_detaches detaches).mp hprocess).2 d hd
  rw [hok.removeDevice] at hfailed
  cases hfailed.2

theorem settled_pass (hok : o.AllSucceed) : (v.pass o detaches desired deleted attacher id).Settled desired attacher := by
  unfold pass
  cases desired with
  | some vol =>
      dsimp only
      generalize hw : (fence o _ _ vol).start o vol = w
      have hprocess : w.process = some vol.placementGeneration := by
        rw [← hw, process_start, process_fence]
        simp only [hok.start, if_true]
        grind
      refine ⟨?_, fun vol' hvol' hvm hattacher => ?_⟩
      · rw [apply_ite View.process, process_attach, ite_self, hprocess]
        rfl
      · cases hvol'
        obtain ⟨vmId, hvmId⟩ := Option.isSome_iff_exists.mp hvm
        rw [if_pos hattacher, attach, hvmId]
        cases hmark : w.attached <;> simp [hprocess, hok.attachDisk, hmark]
  | none =>
      dsimp only
      refine ⟨?_, by simp⟩
      rw [Option.map_none]
      split
      · exact process_stopUndesired deleted
      · rename_i hpending
        exact process_detaches_none hok hpending

theorem pass_of_settled (h : v.Settled desired attacher) (hlive : o.exited id = false)
    (hfree : detaches = [] ∨ desired = none) : v.pass o detaches desired deleted attacher id = v := by
  have hreap : v.reap o id = v := by simp [reap, hlive]
  unfold pass
  rw [hreap]
  cases desired with
  | none =>
      have hnone : v.process = none := h.process
      rw [detaches_of_none detaches hnone]
      simp [stopUndesired, hnone]
  | some vol =>
      have hprocess : v.process = some vol.placementGeneration := h.process
      obtain rfl : detaches = [] := hfree.resolve_right (by simp)
      have hfence : v.fence o v.process vol = v := by simp [fence, hprocess]
      have hstart : v.start o vol = v := by simp [start, hprocess]
      dsimp only [List.foldl_nil]
      rw [hfence, hstart]
      split
      · rename_i hattacher
        unfold attach
        split
        · rfl
        · rename_i vmId hvm
          have hmark : v.attached = true := h.attached vol rfl (by simp [hvm]) hattacher
          simp [hmark]
      · rfl

/-- A volume that is wanted and to be detached is stopped and started again. -/
theorem calls_pass_ne_nil (hok : o.AllSucceed) (hpending : detaches ≠ []) :
    (v.pass o detaches (some vol) deleted attacher id).calls ≠ [] := by
  unfold pass
  dsimp only
  generalize hw : detaches.foldl (detach o) (v.reap o id) = w
  have hstopped : w.process = none := hw ▸ process_detaches_none hok hpending
  have hstarted : ((w.fence o w.process vol).start o vol).calls ≠ [] := by simp [hstopped, fence, start, call]
  split
  · unfold attach
    split
    · exact hstarted
    · split
      · simp [call]
      · exact hstarted
  · exact hstarted

end View

/-! ### The readers of the replicated state -/

section Readers

variable {s : StorageState} {hypervisorId zone : String}

theorem Reader.mem_desiredMap_iff {reader : Reader} {id : String} :
    id ∈ reader.desiredMap ↔ ∃ vol ∈ reader.desiredVolumes, vol.id = id := by
  have hfold (vols : List DesiredVolume) (map : Table DesiredVolume) :
      id ∈ vols.foldl (fun map vol => map.insert vol.id vol) map ↔ id ∈ map ∨ ∃ vol ∈ vols, vol.id = id := by
    induction vols generalizing map with
    | nil => simp
    | cons vol vols ih =>
        rw [List.foldl_cons, ih]
        simp [or_assoc, or_left_comm]
  simpa [Reader.desiredMap] using hfold reader.desiredVolumes ∅

theorem mem_values_iff {α : Type} {t : Table α} {a : α} :
    a ∈ StorageState.values t ↔ ∃ key : String, t[key]? = some a := by
  simp [StorageState.values, mem_toList_iff_getElem?_eq_some]

theorem mem_desired_iff {id : String} :
    id ∈ (raftReader s hypervisorId zone).desiredMap ↔
      ∃ (key : VolumeId) (vol : VolumeRecord), s.volumes[key]? = some vol ∧ vol.id = id ∧
        vol.attachedHypervisorId = some hypervisorId ∧ (vol.state = .attached ∨ vol.state = .available) := by
  rw [Reader.mem_desiredMap_iff]
  simp only [raftReader, desiredVolumes, List.mem_map, List.mem_filter, mem_values_iff, assignedTo]
  grind

theorem mem_pending_iff {id : String} :
    id ∈ (raftReader s hypervisorId zone).pendingDetachIds ↔
      ∃ (key : VolumeId) (vol : VolumeRecord), s.volumes[key]? = some vol ∧ vol.id = id ∧
        vol.attachedHypervisorId = some hypervisorId ∧ vol.state = .available := by
  simp only [Reader.pendingDetachIds, raftReader, pendingDetaches, List.mem_map, List.mem_filter, mem_values_iff,
    assignedTo]
  grind

end Readers

/-- A zone with storage, and a volume on one of its hypervisors. -/
def assignedLog : List StateMachineCommand :=
  [.single (.setStorageConfig "eu" "a" ⟨"https://s3", "bucket", "key", "secret", "/cache", 1, 1⟩),
    .single (.createVolume "vol" "disk" 10 "org" "proj" "env" .data (some "hv-1") (some "a"))]

def attachedLog : List StateMachineCommand := assignedLog ++ [.single (.volumeAttach "vol" "vm" "hv-1")]

def smooth : Outside :=
  { exited := fun _ => false
    removeDevice := fun _ _ => .ok ()
    stop := fun _ => .ok ()
    start := fun _ => .ok ()
    attachDisk := fun _ _ => .ok () }

theorem allSucceed_smooth : smooth.AllSucceed :=
  ⟨fun _ _ => rfl, fun _ => rfl, fun _ => rfl, fun _ _ => rfl⟩

namespace Node

variable {o : Outside} {n : Node} {reader : Reader} {attacher : Bool} {id : String}

/-- Once every volume is as a pass wants it, the next pass calls nobody, unless a wanted volume is to be
detached. -/
theorem calls_eq_nil_iff (hconfig : reader.hasStorageConfig = true) (hok : o.AllSucceed) (hlive : ∀ id, o.exited id = false)
    (hsettled : ∀ id, (n.view id).Settled reader.desiredMap[id]? attacher) (hcalls : n.calls = []) :
    (n.reconcileOnceFull o reader attacher).calls = [] ↔ ∀ id ∈ reader.pendingDetachIds, id ∉ reader.desiredMap := by
  have hempty (m : Node) : m.calls = [] ↔ ∀ id, (m.view id).calls = [] := by
    constructor
    · intro h id
      simp [view, h]
    · intro h
      refine List.eq_nil_iff_forall_not_mem.mpr fun c hc => ?_
      have hmem : c ∈ (m.view c.volumeId).calls := List.mem_filter.mpr ⟨hc, by simp⟩
      rw [h] at hmem
      cases hmem
  have hnil (id : String) : (n.view id).calls = [] := (hempty n).mp hcalls id
  rw [hempty]
  constructor
  · intro h id hpending hdesired
    obtain ⟨vol, hvol⟩ := Option.isSome_iff_exists.mp (mem_iff_isSome_getElem?.mp hdesired)
    have hpass := h id
    rw [view_reconcileOnceFull hconfig, hvol] at hpass
    refine View.calls_pass_ne_nil hok ?_ hpass
    simpa [Reader.pendingDetachIds] using hpending
  · intro h id
    rw [view_reconcileOnceFull hconfig, View.pass_of_settled (hsettled id) (hlive id)]
    · exact hnil id
    · by_cases hpending : id ∈ reader.pendingDetachIds
      · exact .inr (getElem?_eq_none (h id hpending))
      · exact .inl (by simpa [Reader.pendingDetachIds] using hpending)

end Node

/-! ### Detached and deleted volumes -/

def Placed (id : VolumeId) (vol : VolumeRecord) : Prop :=
  vol.id = id ∧ (vol.state = .deleted → vol.attachedHypervisorId = none)

/-- The record of each volume is under its id, and a deleted volume is on no hypervisor. -/
def AllPlaced (s : StorageState) : Prop := ∀ (id : VolumeId) vol, s.volumes[id]? = some vol → Placed id vol

theorem Placed.change {s : StorageState} {c : Command} {id : VolumeId} {vol vol' : VolumeRecord} (hvol : Placed id vol)
    (hchange : VolumeChange s c id vol vol') : Placed id vol' := by
  obtain ⟨hid, -⟩ := hvol
  cases hchange with
  | deleted => exact ⟨hid, fun _ => rfl⟩
  | attached | detached | migrated | completed | rolledBack => exact ⟨hid, nofun⟩
  | rescheduled hstate | moved hstate | resized hstate => exact ⟨hid, by simp [hstate]⟩

theorem placed_of_log (log : List StateMachineCommand) {r : Replica} (hinit : r.sm.storage = {}) :
    AllPlaced (applyLog log r).2.sm.storage := by
  have hrun : Run applySingle r (executed log r) (applyLog log r).2 := Batch.run_executed log r
  refine hrun.invariant (I := fun _ t => AllPlaced t.sm.storage) (C := fun _ _ => True) ?_ ?_ ?_
  · simp [AllPlaced, hinit]
  · intro es t c hplaced _ id vol' hvol'
    have hstep := (effect_applySingle c t).volume id
    rw [hvol'] at hstep
    generalize hentry : t.sm.storage.volumes[id]? = entry at hstep
    cases hstep with
    | kept => exact hplaced id vol' hentry
    | created _ hnew => exact ⟨hnew.id_eq, by simp [hnew.state]⟩
    | changed hchange => exact (hplaced id _ hentry).change hchange
  · exact .of_forall fun _ _ => trivial

theorem deletedVolumes_eq_nil {s : StorageState} {hypervisorId : String} (hplaced : AllPlaced s) :
    deletedVolumes s hypervisorId = [] := by
  rw [deletedVolumes, List.map_eq_nil_iff, List.filter_eq_nil_iff]
  intro vol hvol hdeleted
  obtain ⟨key, hkey⟩ := mem_values_iff.mp hvol
  simp only [assignedTo, Bool.and_eq_true, decide_eq_true_eq] at hdeleted
  rw [(hplaced key vol hkey).2 hdeleted.1] at hdeleted
  cases hdeleted.2

/-- A volume that is on no hypervisor is stopped where it runs, and nobody asks its guest. -/
theorem Node.calls_of_unassigned {s : StorageState} {n : Node} {o : Outside} {attacher : Bool} {id : VolumeId}
    {hypervisorId zone : String} {generation : ℕ} (hplaced : AllPlaced s)
    (hunassigned : ∀ vol, s.volumes[id]? = some vol → vol.attachedHypervisorId = none)
    (hconfig : zone ∈ s.storageConfigs) (hrunning : n.processes[id]? = some generation) (hlive : o.exited id = false) :
    let m := ({ n with calls := [] } : Node).reconcileOnceFull o (raftReader s hypervisorId zone) attacher
    (m.view id).calls = [.stopVolume id true (succeeded (o.stop id))] := by
  intro m
  have hnone : ∀ (key : VolumeId) (vol : VolumeRecord), s.volumes[key]? = some vol → vol.id = id →
      vol.attachedHypervisorId ≠ some hypervisorId := by
    intro key vol hvol hid hassigned
    rw [(hplaced key vol hvol).1] at hid
    subst hid
    rw [hunassigned vol hvol] at hassigned
    cases hassigned
  have hundesired : id ∉ (raftReader s hypervisorId zone).desiredMap := by
    intro hmem
    obtain ⟨key, vol, hvol, hid, hassigned, -⟩ := mem_desired_iff.mp hmem
    exact hnone key vol hvol hid hassigned
  have hpending : id ∉ (raftReader s hypervisorId zone).pendingDetachIds := by
    intro hmem
    obtain ⟨key, vol, hvol, hid, hassigned, -⟩ := mem_pending_iff.mp hmem
    exact hnone key vol hvol hid hassigned
  have hfree : (raftReader s hypervisorId zone).pendingDetaches.filter (·.volumeId = id) = [] := by
    simpa [Reader.pendingDetachIds] using hpending
  have hview : m.view id = _ := view_reconcileOnceFull (by simpa [raftReader] using hconfig)
  rw [hfree, getElem?_eq_none hundesired,
    show (raftReader s hypervisorId zone).deletedVolumes = [] from deletedVolumes_eq_nil hplaced] at hview
  rw [hview]
  cases hstop : succeeded (o.stop id) <;>
    simp [View.pass, View.reap, hlive, View.stopUndesired, view, hrunning, hstop, View.stop, View.call, View.unmark]

theorem applySingle_volumeDetach {id : VolumeId} {r : Replica} (haccepted : (applySingle (.volumeDetach id) r).1 = .ok) :
    ∀ vol, (applySingle (.volumeDetach id) r).2.sm.storage.volumes[id]? = some vol → vol.attachedHypervisorId = none := by
  intro vol hvol
  rcases applySingle_of_onVolume (c := .volumeDetach id) (r := r) rfl with ⟨msg, -, hreply, -⟩ | ⟨vol', hok, -⟩
  · rw [hreply] at haccepted
    cases haccepted
  · unfold volumeDetach at hok
    split at hok
    · cases hok
    · split at hok
      · cases hok
      · split at hok
        · rw [← (Prod.mk.inj (Except.ok.inj hok)).2] at hvol
          rw [← Option.some.inj ((getElem?_insert_self).symm.trans hvol)]
        · cases hok

/-- **Detached and deleted volumes.** In every reachable state, a pass after an accepted detach stops the
process of the volume without asking its guest to let go, and no pass is told of a volume to clean up. -/
theorem pass_after_detach (log : List StateMachineCommand) {r : Replica} (hinit : r.sm.storage = {}) (n : Node)
    (o : Outside) (attacher : Bool) (hypervisorId zone : String) :
    let before := (applyLog log r).2
    (∀ (id : VolumeId) (generation : ℕ),
      let reply := applySingle (.volumeDetach id) before
      let m := ({ n with calls := [] } : Node).reconcileOnceFull o (raftReader reply.2.sm.storage hypervisorId zone) attacher
      reply.1 = .ok → zone ∈ reply.2.sm.storage.storageConfigs → n.processes[id]? = some generation →
        o.exited id = false → m.calls.filter (·.volumeId = id) = [.stopVolume id true (succeeded (o.stop id))]) ∧
      (raftReader before.sm.storage hypervisorId zone).deletedVolumes = [] := by
  intro before
  have hplaced : AllPlaced before.sm.storage := placed_of_log log hinit
  constructor
  · intro id generation reply m haccepted hconfig hrunning hlive
    have hlog : (applyLog (log ++ [.single (.volumeDetach id)]) r).2 = reply.2 := Batch.applyLog_append log _ r
    have hplaced' := placed_of_log (log ++ [.single (.volumeDetach id)]) hinit
    rw [hlog] at hplaced'
    exact Node.calls_of_unassigned hplaced' (applySingle_volumeDetach haccepted) hconfig hrunning hlive
  · exact deletedVolumes_eq_nil hplaced

/-- The node of the volume has no process of it left, and has not asked its guest. -/
theorem stopped_after_detach :
    let before := (applyLog attachedLog .fresh).2
    let reply := applySingle (.volumeDetach "vol") before
    let n : Node := { processes := (∅ : Table ℕ).insert "vol" 2 }
    reply.1 = .ok ∧ (n.reconcileOnceFull smooth (raftReader reply.2.sm.storage "hv-1" "a") true).calls.filter
      (·.volumeId = "vol") = [.stopVolume "vol" true true] := by
  intro before reply n
  have haccepted : reply.1 = .ok := rfl
  exact ⟨haccepted, (pass_after_detach attachedLog rfl n smooth true "hv-1" "a").1 "vol" 2 haccepted (by decide +kernel)
    (by decide) rfl⟩

/-- A node that has attached the volume, and passes before and after the volume is detached. -/
theorem detached_without_removal :
    let before := (applyLog attachedLog .fresh).2
    let after := (applySingle (.volumeDetach "vol") before).2
    let m := ({} : Node).reconcileOnceFull smooth (raftReader before.sm.storage "hv-1" "a") true
    (applySingle (.volumeDetach "vol") before).1 = .ok ∧
      m.calls = [.startVolume "vol" 2 true, .attachDisk "vol" "vm" true] ∧
      (m.reconcileOnceFull smooth (raftReader after.sm.storage "hv-1" "a") true).calls =
        m.calls ++ [.stopVolume "vol" true true] := by
  refine ⟨rfl, ?_⟩
  decide +kernel

end StorageReconciler

end Forge

end Syfrah
