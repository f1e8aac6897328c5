import Syfrah.Forge.StorageReconciler
import Syfrah.Lib.Pass
import Syfrah.Lib.TreeMap

/-!
# What a pass of the storage reconciler does to a volume

The steps of a pass touch one volume each. What happens to a volume is thus a short sequence of steps on
its process, on its mark in the set of attached volumes and on its calls, whatever happens to the others.
-/

namespace Syfrah

namespace Forge

namespace StorageReconciler

open Std.ExtTreeMap

def Call.volumeId : Call → String
  | removeDevice volumeId _ _ _ | stopVolume volumeId _ _ | startVolume volumeId _ _ | attachDisk volumeId _ _
  | cleanup volumeId => volumeId

/-- A node as one volume sees it. -/
structure View where
  process : Option ℕ
  attached : Bool
  calls : List Call

namespace View

variable (o : Outside) (v : View)

def call (c : Call) : View := { v with calls := v.calls ++ [c] }

def reap (id : String) : View := { v with process := if o.exited id then none else v.process }

def stop (id : String) (flush : Bool) : View :=
  if v.process.isSome then { v with process := none }.call (.stopVolume id flush (succeeded (o.stop id))) else v

def detach (d : DesiredDetach) : View :=
  if d.vmId = "" then v.stop o d.volumeId (!d.force)
  else if v.process.isSome then
    let removed := succeeded (o.removeDevice d.vmId d.chDeviceId)
    let v := v.call (.removeDevice d.volumeId d.vmId d.chDeviceId removed)
    if removed then v.stop o d.volumeId (!d.force) else v
  else v

def unmark : View := { v with attached := false }

/-- A process with the generation `running` at the start of the pass may be stopped by now. -/
def fence (running : Option ℕ) (vol : DesiredVolume) : View :=
  match running with
  | none => v
  | some generation =>
    if generation = vol.placementGeneration ∨ v.process = none then v
    else if succeeded (o.stop vol.id) then (v.stop o vol.id true).unmark
    else v.stop o vol.id true

def start (vol : DesiredVolume) : View :=
  if v.process.isSome then v
  else
    let started := succeeded (o.start vol.id)
    { v.call (.startVolume vol.id vol.placementGeneration started) with
      process := if started then some vol.placementGeneration else none }

def stopUndesired (id : String) (deleted : Bool) : View :=
  if v.process.isSome then
    if succeeded (o.stop id) then
      if deleted then (v.stop o id true).unmark.call (.cleanup id) else (v.stop o id true).unmark
    else v.stop o id true
  else v

def attach (vol : DesiredVolume) : View :=
  match vol.vmId with
  | none => v
  | some vmId =>
    if v.process.isSome ∧ v.attached = false then
      let answered := succeeded (o.attachDisk vmId vol.id)
      { v.call (.attachDisk vol.id vmId answered) with attached := answered }
    else v

/-- What a pass does to a volume: `desired` if it is wanted, with its own detaches. -/
def pass (detaches : List DesiredDetach) (desired : Option DesiredVolume) (deleted attacher : Bool) (id : String) :
    View :=
  let v := detaches.foldl (detach o) (v.reap o id)
  match desired with
  | some vol =>
    let w := (v.fence o v.process vol).start o vol
    if attacher then w.attach o vol else w
  | none => if detaches = [] then v.stopUndesired o id deleted else v

end View

namespace Node

variable {o : Outside} {n : Node} {id : String}

def view (n : Node) (id : String) : View :=
  ⟨n.processes[id]?, n.attachedVolumes.contains id, n.calls.filter (·.volumeId = id)⟩

theorem mem_processes_iff : id ∈ n.processes ↔ (n.view id).process.isSome = true := by
  rw [mem_iff_isSome_getElem?]
  rfl

theorem view_call_self (id : String) (c : Call) (hc : c.volumeId = id) : (n.call c).view id = (n.view id).call c := by
  simp [view, call, View.call, hc]

theorem view_call_of_ne (c : Call) (hc : c.volumeId ≠ id) : (n.call c).view id = n.view id := by
  simp [view, call, hc]

theorem view_failed (error : String) : (n.failed error).view id = n.view id := rfl

theorem view_detached : n.detached.view id = n.view id := rfl

theorem view_reapExited : (n.reapExited o).view id = (n.view id).reap o id := by
  simp only [view, reapExited, View.reap, View.mk.injEq, and_true]
  rw [getElem?_filter']
  cases n.processes[id]? with
  | none => simp
  | some generation => by_cases hexit : o.exited id = true <;> simp [hexit]

theorem view_stopVolumeFlush_self (flush : Bool) :
    (n.stopVolumeFlush o id flush).2.view id = (n.view id).stop o id flush := by
  rw [stopVolumeFlush, View.stop]
  by_cases hmem : id ∈ n.processes
  · rw [if_pos hmem, if_pos (mem_processes_iff.mp hmem)]
    refine (view_call_self id (.stopVolume id flush (succeeded (o.stop id))) rfl).trans ?_
    simp [view]
  · rw [if_neg hmem, if_neg (mt mem_processes_iff.mpr hmem)]

theorem view_stopVolumeFlush_of_ne {volumeId : String} (hid : volumeId ≠ id) (flush : Bool) :
    (n.stopVolumeFlush o volumeId flush).2.view id = n.view id := by
  rw [stopVolumeFlush]
  split
  · refine (view_call_of_ne (.stopVolume volumeId flush _) hid).trans ?_
    simp [view, getElem?_erase, hid]
  · rfl

theorem stopVolumeFlush_fst (hmem : id ∈ n.processes) (flush : Bool) :
    (n.stopVolumeFlush o id flush).1 = o.stop id := by
  rw [stopVolumeFlush, if_pos hmem]

theorem view_settle {result : Except String Unit × Node} {ok : Node → Node} {error : String → Node → Node}
    {f : View → View} (hok : ∀ n, (ok n).view id = f (n.view id)) (herror : ∀ e n, (error e n).view id = n.view id) :
    (settle result ok error).view id = if succeeded result.1 then f (result.2.view id) else result.2.view id := by
  rcases result with ⟨_ | _, m⟩
  · exact herror _ m
  · exact hok m

/-- A step for one volume does not show to another. -/
theorem view_settle_of_same {result : Except String Unit × Node} {ok : Node → Node} {error : String → Node → Node}
    (hok : ∀ n, (ok n).view id = n.view id) (herror : ∀ e n, (error e n).view id = n.view id) :
    (settle result ok error).view id = result.2.view id := by
  rw [view_settle (f := fun v => v) hok herror]
  split <;> rfl

theorem view_stopped_self : (n.stopped id).view id = (n.view id).unmark := by
  simp [view, stopped, View.unmark]

theorem view_stopped_of_ne {volumeId : String} (hid : volumeId ≠ id) : (n.stopped volumeId).view id = n.view id := by
  simp [view, stopped, Std.ExtTreeSet.contains_erase, hid]

theorem view_cleanedUp_self : (n.cleanedUp id).view id = (n.view id).call (.cleanup id) := by
  change (n.call _).view id = _
  exact view_call_self id (.cleanup id) rfl

theorem view_cleanedUp_of_ne {volumeId : String} (hid : volumeId ≠ id) : (n.cleanedUp volumeId).view id = n.view id := by
  change (n.call _).view id = _
  exact view_call_of_ne (.cleanup volumeId) hid

theorem view_detach_of_ne {d : DesiredDetach} (hid : d.volumeId ≠ id) : (n.detach o d).view id = n.view id := by
  unfold detach
  split
  · rw [view_settle_of_same (fun _ => view_detached) fun _ _ => rfl, view_stopVolumeFlush_of_ne hid]
  · split
    · refine (view_settle_of_same (fun m => ?_) fun _ _ => view_failed _).trans
        (view_call_of_ne (.removeDevice d.volumeId _ _ _) hid)
      rw [view_settle_of_same (fun _ => view_detached) fun _ _ => view_failed _, view_stopVolumeFlush_of_ne hid]
    · rfl

theorem view_detach_self (d : DesiredDetach) : (n.detach o d).view d.volumeId = (n.view d.volumeId).detach o d := by
  unfold detach View.detach
  split
  · rw [view_settle_of_same (fun _ => view_detached) fun _ _ => rfl, view_stopVolumeFlush_self]
  · by_cases hmem : d.volumeId ∈ n.processes
    · rw [if_pos hmem, if_pos (mem_processes_iff.mp hmem)]
      refine (view_settle (f := fun v => v.stop o d.volumeId (!d.force)) (fun m => ?_) fun _ _ => view_failed _).trans ?_
      · rw [view_settle_of_same (fun _ => view_detached) fun _ _ => view_failed _, view_stopVolumeFlush_self]
      · rw [view_call_self d.volumeId (.removeDevice d.volumeId _ _ _) rfl]
    · rw [if_neg hmem, if_neg (mt mem_processes_iff.mpr hmem)]

theorem view_fence_of_ne {running : Table ℕ} {vol : DesiredVolume} (hid : vol.id ≠ id) :
    (n.fence o running vol).view id = n.view id := by
  unfold fence
  split
  · rfl
  · split
    · rfl
    · exact (view_settle_of_same (fun _ => view_stopped_of_ne hid) fun _ _ => view_failed _).trans
        (view_stopVolumeFlush_of_ne hid true)

theorem view_fence_self (running : Table ℕ) (vol : DesiredVolume) :
    (n.fence o running vol).view vol.id = (n.view vol.id).fence o running[vol.id]? vol := by
  unfold fence View.fence
  cases running[vol.id]? with
  | none => rfl
  | some generation =>
      dsimp only
      by_cases hsame : generation = vol.placementGeneration
      · rw [if_pos hsame, if_pos (.inl hsame)]
      · rw [if_neg hsame]
        refine (view_settle (fun _ => view_stopped_self) fun _ _ => view_failed _).trans ?_
        by_cases hmem : vol.id ∈ n.processes
        · have hlive : ¬(generation = vol.placementGeneration ∨ (n.view vol.id).process = none) := by
            simpa [hsame] using Option.isSome_iff_ne_none.mp (mem_processes_iff.mp hmem)
          rw [if_neg hlive, stopVolume, stopVolumeFlush_fst hmem, view_stopVolumeFlush_self]
        · have hgone : (n.view vol.id).process = none :=
            Option.not_isSome_iff_eq_none.mp (mt mem_processes_iff.mpr hmem)
          rw [if_pos (c := generation = _ ∨ _) (.inr hgone), stopVolume, stopVolumeFlush, if_neg hmem]
          rfl

theorem view_start_of_ne {vol : DesiredVolume} (hid : vol.id ≠ id) : (n.start o vol).view id = n.view id := by
  unfold start
  split
  · rfl
  · refine (view_settle_of_same (fun m => ?_) fun _ _ => view_failed _).trans (view_call_of_ne (.startVolume vol.id _ _) hid)
    simp [view, started, getElem?_insert, hid]

theorem view_start_self (vol : DesiredVolume) : (n.start o vol).view vol.id = (n.view vol.id).start o vol := by
  unfold start View.start
  by_cases hmem : vol.id ∈ n.processes
  · rw [if_pos hmem, if_pos (mem_processes_iff.mp hmem)]
  · have hprocess : n.processes[vol.id]? = none := getElem?_eq_none hmem
    rw [if_neg hmem, if_neg (mt mem_processes_iff.mpr hmem)]
    refine (view_settle (f := fun v => { v with process := some vol.placementGeneration }) (fun m => ?_)
      fun _ _ => view_failed _).trans ?_
    · simp [view, started]
    · cases succeeded (o.start vol.id) <;> simp [View.call, view, call, hprocess, Call.volumeId]

theorem view_stopUndesired_of_ne {desired : Table DesiredVolume} {pending deleted : List String} {volumeId : String}
    (hid : volumeId ≠ id) : (n.stopUndesired o desired pending deleted volumeId).view id = n.view id := by
  unfold stopUndesired
  split
  · rfl
  · refine (view_settle_of_same (fun m => ?_) fun _ _ => view_failed _).trans (view_stopVolumeFlush_of_ne hid true)
    split
    · exact (view_cleanedUp_of_ne hid).trans (view_stopped_of_ne hid)
    · exact view_stopped_of_ne hid

theorem view_stopUndesired_self {desired : Table DesiredVolume} {pending deleted : List String} :
    (n.stopUndesired o desired pending deleted id).view id =
      if id ∈ desired ∨ id ∈ pending then n.view id else (n.view id).stopUndesired o id (deleted.contains id) := by
  unfold stopUndesired View.stopUndesired
  by_cases hkeep : id ∈ desired ∨ id ∈ pending
  · rw [if_pos hkeep, if_pos (hkeep.imp_right .inr)]
  · rw [if_neg hkeep]
    by_cases hmem : id ∈ n.processes
    · rw [if_neg (fun h => hkeep (h.imp_right fun h => h.resolve_left fun hnot => hnot hmem)),
        if_pos (mem_processes_iff.mp hmem)]
      refine (view_settle (f := fun v => if deleted.contains id then v.unmark.call (.cleanup id) else v.unmark)
        (fun m => ?_) fun _ _ => view_failed _).trans ?_
      · simp only [List.contains_iff_mem]
        split
        · rw [view_cleanedUp_self, view_stopped_self]
        · exact view_stopped_self
      · rw [stopVolume, stopVolumeFlush_fst hmem, view_stopVolumeFlush_self]
    · rw [if_pos (.inr (.inl hmem)), if_neg (mt mem_processes_iff.mpr hmem)]

theorem view_attach_of_ne {vol : DesiredVolume} (hid : vol.id ≠ id) : (n.attach o vol).view id = n.view id := by
  unfold attach
  split
  · rfl
  · split
    · refine (view_settle_of_same (fun m => ?_) fun _ _ => view_failed _).trans
        (view_call_of_ne (.attachDisk vol.id _ _) hid)
      simp [view, attached, Std.ExtTreeSet.contains_insert, hid]
    · rfl

theorem view_attach_self (vol : DesiredVolume) : (n.attach o vol).view vol.id = (n.view vol.id).attach o vol := by
  unfold attach View.attach
  cases vol.vmId with
  | none => rfl
  | some vmId =>
      dsimp only
      by_cases hnew : vol.id ∈ n.processes ∧ n.attachedVolumes.contains vol.id = false
      · rw [if_pos hnew, if_pos ⟨mem_processes_iff.mp hnew.1, hnew.2⟩]
        refine (view_settle (f := fun v => { v with attached := true }) (fun m => ?_) fun _ _ => view_failed _).trans ?_
        · simp [view, attached]
        · cases succeeded (o.attachDisk vmId vol.id) <;> simp [View.call, view, call, hnew.2, Call.volumeId]
      · rw [if_neg hnew, if_neg fun h => hnew ⟨mem_processes_iff.mpr h.1, h.2⟩]

end Node

/-! ### A whole pass -/

theorem Reader.id_of_desiredMap {reader : Reader} {id : String} {vol : DesiredVolume}
    (hvol : reader.desiredMap[id]? = some vol) : vol.id = id := by
  revert hvol
  unfold Reader.desiredMap
  refine Pass.invariant (P := fun map : Table DesiredVolume => map[id]? = some vol → vol.id = id) ?_ (by simp)
  intro map other _ hmap hvol
  rcases of_getElem?_insert hvol with ⟨rfl, rfl⟩ | ⟨-, hold⟩
  · rfl
  · exact hmap hold

/-- The desired volumes with an id: the one under it in the map. -/
theorem Reader.filter_desired (reader : Reader) (id : String) :
    (reader.desiredMap.toList.map Prod.snd).filter (·.id = id) = reader.desiredMap[id]?.toList := by
  have hkeys : (reader.desiredMap.toList.map Prod.snd).map (·.id) = reader.desiredMap.toList.map Prod.fst := by
    rw [List.map_map]
    refine List.map_congr_left fun entry hentry => ?_
    exact id_of_desiredMap (mem_toList_iff_getElem?_eq_some.mp hentry)
  have hnodup : ((reader.desiredMap.toList.map Prod.snd).map (·.id)).Nodup := hkeys ▸ nodup_map_fst_toList _
  cases hvol : reader.desiredMap[id]? with
  | some vol =>
      have hmem : vol ∈ reader.desiredMap.toList.map Prod.snd :=
        List.mem_map.mpr ⟨(id, vol), mem_toList_iff_getElem?_eq_some.mpr hvol, rfl⟩
      rw [← id_of_desiredMap hvol]
      exact Pass.filter_key hnodup hmem
  | none =>
      refine List.filter_eq_nil_iff.mpr fun vol hmem heq => ?_
      obtain ⟨⟨key, vol'⟩, hentry, rfl⟩ := List.mem_map.mp hmem
      have hlookup : reader.desiredMap[key]? = some vol' := mem_toList_iff_getElem?_eq_some.mp hentry
      have hkey : key = id := (id_of_desiredMap hlookup).symm.trans (of_decide_eq_true heq)
      rw [hkey, hvol] at hlookup
      cases hlookup

namespace Node

variable {o : Outside} {n : Node} {reader : Reader} {attacher : Bool} {id : String}

/-- A step for each desired volume shows to a volume if it is desired. -/
theorem view_volumes (n : Node) (reader : Reader) (id : String) {step : Node → DesiredVolume → Node}
    (own : View → DesiredVolume → View) (hself : ∀ {n} vol, (step n vol).view vol.id = own (n.view vol.id) vol)
    (hother : ∀ {n vol}, vol.id ≠ id → (step n vol).view id = n.view id) :
    ((reader.desiredMap.toList.map Prod.snd).foldl step n).view id =
      reader.desiredMap[id]?.elim (n.view id) (own (n.view id)) := by
  rw [Pass.seen (f := fun n : Node => n.view id) (p := fun vol => vol.id = id) (g := own)
    (fun n vol _ hid => of_decide_eq_true hid ▸ hself vol) fun n vol _ hid => hother (of_decide_eq_false hid),
    reader.filter_desired]
  cases reader.desiredMap[id]? <;> rfl

theorem view_detaches (detaches : List DesiredDetach) :
    (detaches.foldl (detach o) n).view id = (detaches.filter (·.volumeId = id)).foldl (View.detach o) (n.view id) := by
  refine Pass.seen (f := fun n : Node => n.view id) ?_ ?_
  · intro n d _ hid
    rw [← of_decide_eq_true hid]
    exact view_detach_self d
  · intro n d _ hid
    exact view_detach_of_ne (of_decide_eq_false hid)

theorem view_stopsUndesired {desired : Table DesiredVolume} {pending deleted : List String} (running : Table ℕ)
    (hrunning : id ∉ desired → (n.view id).process.isSome = true → id ∈ running) :
    (running.keys.foldl (stopUndesired o · desired pending deleted) n).view id =
      if id ∈ desired ∨ id ∈ pending then n.view id else (n.view id).stopUndesired o id (deleted.contains id) := by
  have hpass : (running.keys.foldl (stopUndesired o · desired pending deleted) n).view id =
      (running.keys.filter (fun other => other = id)).foldl
        (fun v _ => if id ∈ desired ∨ id ∈ pending then v else v.stopUndesired o id (deleted.contains id)) (n.view id) := by
    refine Pass.seen (f := fun n : Node => n.view id) (fun n other _ hid => ?_) fun n other _ hid => ?_
    · rw [of_decide_eq_true hid]
      exact view_stopUndesired_self
    · exact view_stopUndesired_of_ne (of_decide_eq_false hid)
  rw [hpass]
  by_cases hmem : id ∈ running
  · have hkey := Pass.filter_key (f := fun other => other) (by simpa using nodup_keys) (mem_keys.mpr hmem)
    rw [hkey]
    rfl
  · have hnone : running.keys.filter (fun other => other = id) = [] := by
      refine List.filter_eq_nil_iff.mpr fun other hother heq => ?_
      exact hmem (of_decide_eq_true heq ▸ mem_keys.mp hother)
    rw [hnone]
    by_cases hdesired : id ∈ desired
    · rw [if_pos (.inl hdesired)]
      rfl
    · rw [View.stopUndesired, if_neg (mt (hrunning hdesired) hmem), ite_self]
      rfl

theorem view_reconcileOnceFull (hconfig : reader.hasStorageConfig = true) :
    (n.reconcileOnceFull o reader attacher).view id =
      (n.view id).pass o (reader.pendingDetaches.filter (·.volumeId = id)) reader.desiredMap[id]?
        (reader.deletedVolumes.contains id) attacher id := by
  have hreap : (({ n with report := {} } : Node).reapExited o).view id = (n.view id).reap o id := view_reapExited
  unfold reconcileOnceFull View.pass
  dsimp only
  rw [if_pos hconfig, ← hreap, ← view_detaches]
  generalize reader.pendingDetaches.foldl (detach o) (({ n with report := {} } : Node).reapExited o) = m
  have hfences := view_volumes m reader id (fun v vol => v.fence o m.processes[vol.id]? vol)
    (view_fence_self m.processes) view_fence_of_ne
  generalize (reader.desiredMap.toList.map Prod.snd).foldl (fence o · m.processes) m = fenced at hfences ⊢
  have hstarts := view_volumes fenced reader id (View.start o) view_start_self view_start_of_ne
  generalize (reader.desiredMap.toList.map Prod.snd).foldl (start o) fenced = begun at hstarts ⊢
  have hattaches (k : Node) := view_volumes k reader id (View.attach o) view_attach_self view_attach_of_ne
  have hstops : (m.processes.keys.foldl
      (stopUndesired o · reader.desiredMap reader.pendingDetachIds reader.deletedVolumes) begun).view id =
      if id ∈ reader.desiredMap ∨ id ∈ reader.pendingDetachIds then begun.view id
      else (begun.view id).stopUndesired o id (reader.deletedVolumes.contains id) := by
    refine view_stopsUndesired m.processes fun hundesired hprocess => ?_
    have hvol : reader.desiredMap[id]? = none := getElem?_eq_none hundesired
    rw [hstarts, hvol, Option.elim_none, hfences, hvol, Option.elim_none] at hprocess
    exact mem_processes_iff.mpr hprocess
  cases hvol : reader.desiredMap[id]? with
  | some vol =>
      have hmem : id ∈ reader.desiredMap := mem_iff_isSome_getElem?.mpr (by simp [hvol])
      rw [hvol] at hfences hstarts hattaches
      rw [if_pos (.inl hmem), hstarts, hfences, Option.elim_some, Option.elim_some, Reader.id_of_desiredMap hvol] at hstops
      split
      · rw [hattaches, hstops]
        rfl
      · rw [hstops]
        rfl
  | none =>
      have hmem : id ∉ reader.desiredMap := by simpa using hvol
      rw [hvol] at hfences hstarts hattaches
      have hkept : (id ∈ reader.desiredMap ∨ id ∈ reader.pendingDetachIds) ↔
          ¬reader.pendingDetaches.filter (·.volumeId = id) = [] := by
        simp [hmem, Reader.pendingDetachIds]
      rw [hstarts, hfences, if_congr hkept rfl rfl, ite_not] at hstops
      split
      · rw [hattaches]
        exact hstops
      · exact hstops

end Node

namespace View

variable {o : Outside} {v : View} {id : String} {vol : DesiredVolume}

@[simp]
theorem process_call (c : Call) : (v.call c).process = v.process := rfl

@[simp]
theorem process_stop (flush : Bool) : (v.stop o id flush).process = none := by
  unfold stop
  split
  · rfl
  · rename_i hnone
    exact Option.not_isSome_iff_eq_none.mp hnone

@[simp]
theorem process_unmark : v.unmark.process = v.process := rfl

@[simp]
theorem process_fence (running : Option ℕ) :
    (v.fence o running vol).process =
      if running.isSome ∧ running ≠ some vol.placementGeneration then none else v.process := by
  unfold fence
  cases running with
  | none => rfl
  | some generation =>
      by_cases hsame : generation = vol.placementGeneration
      · simp [hsame]
      · by_cases hgone : v.process = none
        · simp [hsame, hgone]
        · cases succeeded (o.stop vol.id) <;> simp [hsame, hgone]

@[simp]
theorem process_start :
    (v.start o vol).process =
      if v.process.isSome then v.process else if succeeded (o.start vol.id) then some vol.placementGeneration else none := by
  unfold start
  split <;> rfl

@[simp]
theorem process_attach : (v.attach o vol).process = v.process := by
  unfold attach
  split
  · rfl
  · split <;> rfl

@[simp]
theorem process_stopUndesired (deleted : Bool) : (v.stopUndesired o id deleted).process = none := by
  unfold stopUndesired
  by_cases hsome : v.process.isSome = true
  · cases succeeded (o.stop id) <;> cases deleted <;> simp [hsome]
  · rw [if_neg hsome, Option.not_isSome_iff_eq_none.mp hsome]

/-- A detach leaves the process only if the guest could not be made to let go of its disk. -/
theorem process_detach (d : DesiredDetach) :
    (v.detach o d).process =
      if d.vmId = "" ∨ succeeded (o.removeDevice d.vmId d.chDeviceId) = true then none else v.process := by
  unfold detach
  by_cases hvm : d.vmId = ""
  · simp [hvm]
  · cases hprocess : v.process with
    | none => simp [hvm, hprocess]
    | some generation => cases hremoved : succeeded (o.removeDevice d.vmId d.chDeviceId) <;> simp [hvm, hprocess]

theorem process_detaches {generation : ℕ} (detaches : List DesiredDetach) :
    (detaches.foldl (detach o) v).process = some generation ↔
      v.process = some generation ∧
        ∀ d ∈ detaches, d.vmId ≠ "" ∧ succeeded (o.removeDevice d.vmId d.chDeviceId) = false := by
  induction detaches generalizing v with
  | nil => simp
  | cons d detaches ih =>
      rw [List.foldl_cons, ih, process_detach, List.forall_mem_cons]
      by_cases hstopped : d.vmId = "" ∨ succeeded (o.removeDevice d.vmId d.chDeviceId) = true
      · rw [if_pos hstopped]
        grind
      · rw [if_neg hstopped]
        grind

theorem detach_of_none {d : DesiredDetach} (hnone : v.process = none) : v.detach o d = v := by
  simp [detach, stop, hnone]

theorem detaches_of_none (detaches : List DesiredDetach) (hnone : v.process = none) :
    detaches.foldl (detach o) v = v := by
  induction detaches with
  | nil => rfl
  | cons d detaches ih => rw [List.foldl_cons, detach_of_none hnone, ih]

end View

/-! ### What runs after a pass -/

namespace Node

variable {o : Outside} {n : Node} {reader : Reader} {attacher : Bool} {id : String}

/-- **Fencing whatever fails.** After a pass the process of a desired volume has its generation. A process
that nobody wants is left exactly if it ran before and every guest that has the disk failed to let go. -/
theorem running_after_pass {n : Node} {reader : Reader} (hconfig : reader.hasStorageConfig = true) (generation : ℕ) :
    let m := n.reconcileOnceFull o reader attacher
    (∀ vol, reader.desiredMap[id]? = some vol → m.processes[id]? = some generation →
        generation = vol.placementGeneration) ∧
      (id ∉ reader.desiredMap → (m.processes[id]? = some generation ↔
        n.processes[id]? = some generation ∧ o.exited id = false ∧ id ∈ reader.pendingDetachIds ∧
          ∀ d ∈ reader.pendingDetaches, d.volumeId = id →
            d.vmId ≠ "" ∧ succeeded (o.removeDevice d.vmId d.chDeviceId) = false)) := by
  intro m
  have hprocess : m.processes[id]? = (m.view id).process := rfl
  rw [hprocess, view_reconcileOnceFull hconfig]
  unfold View.pass
  constructor
  · intro vol hvol hrunning
    rw [hvol] at hrunning
    dsimp only at hrunning
    -- Attaching leaves the process, which fencing and starting leave at the desired generation or absent.
    rw [apply_ite View.process, View.process_attach, ite_self, View.process_start, View.process_fence] at hrunning
    grind
  · intro hundesired
    rw [getElem?_eq_none hundesired]
    dsimp only
    have hpending : id ∈ reader.pendingDetachIds ↔ reader.pendingDetaches.filter (·.volumeId = id) ≠ [] := by
      simp [Reader.pendingDetachIds]
    have hlive : ((n.view id).reap o id).process = some generation ↔
        n.processes[id]? = some generation ∧ o.exited id = false := by
      simp [View.reap, view, and_comm]
    rw [hpending, apply_ite View.process, View.process_stopUndesired, ite_eq_iff, View.process_detaches, hlive]
    simp only [List.mem_filter, decide_eq_true_eq]
    grind

/-- A node that serves a volume which is to be detached. -/
def serving : Node := { processes := (∅ : Table ℕ).insert "vol" 1 }

def detaching : Reader := ⟨[], [⟨"vol", "vm", "_disk_vol", false⟩], [], true⟩

def stuckGuest : Outside :=
  { exited := fun _ => false
    removeDevice := fun _ _ => .error "device busy"
    stop := fun _ => .ok ()
    start := fun _ => .ok ()
    attachDisk := fun _ _ => .ok () }

theorem running_while_guest_holds :
    "vol" ∉ detaching.desiredMap ∧ (serving.reconcileOnceFull stuckGuest detaching true).processes["vol"]? = some 1 := by
  have hundesired : "vol" ∉ detaching.desiredMap := by decide
  exact ⟨hundesired, ((running_after_pass rfl 1).2 hundesired).mpr ⟨rfl, rfl, by decide, by decide⟩⟩

end Node

end StorageReconciler

end Forge

end Syfrah
