import Syfrah.Forge.Fencing
import Syfrah.Lib.Pass

/-!
# What fencing leaves on the nodes

A node stops the VMs that are placed elsewhere with a generation that is not older than its own. A VM that
it started with a newer generation goes on, and so does one without a placement.
-/

namespace Syfrah

namespace Forge

/-- The placements of the cluster: the generation and the hypervisor of each VM. -/
abbrev Placements := Table (ℕ × String)

def Placements.rows (t : Placements) : List RaftPlacement := t.toList.map fun row => ⟨row.1, row.2.1, row.2.2⟩

namespace FencingTracker

variable {tracker : FencingTracker} {vmId hypervisorId : String} {localGen generation : ℕ}

def outdated (tracker : FencingTracker) (localGen generation : ℕ) (hypervisorId : String) : Bool :=
  decide (localGen ≤ generation) && hypervisorId != tracker.nodeId

theorem checkRow_isSome_iff {p : RaftPlacement} :
    (tracker.checkRow p).isSome ↔
      ∃ localGen, tracker.localGenerations[p.vmId]? = some localGen ∧
        tracker.outdated localGen p.generation p.hypervisorId = true := by
  unfold checkRow outdated
  cases hlocal : tracker.localGenerations[p.vmId]? with
  | none => simp
  | some localGen =>
      simp only [Option.some.injEq, exists_eq_left', Bool.and_eq_true, decide_eq_true_eq, beq_iff_eq]
      by_cases helsewhere : (p.hypervisorId != tracker.nodeId) = true
      · simp only [helsewhere, and_true]
        rcases lt_trichotomy localGen p.generation with hlt | heq | hgt
        · simp [hlt, hlt.le]
        · simp [heq]
        · simp [hgt.not_gt, hgt.ne', hgt]
      · simp [helsewhere]

theorem eq_fenced_of_checkRow {p : RaftPlacement} {verdict : FencingVerdict}
    (h : tracker.checkRow p = some verdict) : ∃ reason, verdict = .fenced p.vmId reason := by
  unfold checkRow at h
  cases hlocal : tracker.localGenerations[p.vmId]? with
  | none => simp [hlocal] at h
  | some localGen =>
      simp only [hlocal] at h
      split_ifs at h
      · exact ⟨_, (Option.some.inj h).symm⟩
      · exact ⟨_, (Option.some.inj h).symm⟩

theorem tracks_stopFenced_iff {verdict : FencingVerdict} :
    (tracker.stopFenced verdict).localGenerations[vmId]? = some localGen ↔
      (∀ reason, verdict ≠ .fenced vmId reason) ∧ tracker.localGenerations[vmId]? = some localGen := by
  cases verdict with
  | ok => simp [stopFenced]
  | fenced vmId' reason =>
      rw [stopFenced, removePlacement, Std.ExtTreeMap.getElem?_erase]
      by_cases hvm : vmId' = vmId <;> simp [hvm]

theorem nodeId_fence (placements : List RaftPlacement) : (tracker.fence placements).nodeId = tracker.nodeId := by
  refine Pass.unchanged (f := FencingTracker.nodeId) fun tracker verdict _ => ?_
  cases verdict <;> rfl

theorem tracks_foldl_stopFenced_iff {verdicts : List FencingVerdict} :
    (verdicts.foldl stopFenced tracker).localGenerations[vmId]? = some localGen ↔
      (∀ reason, .fenced vmId reason ∉ verdicts) ∧ tracker.localGenerations[vmId]? = some localGen := by
  induction verdicts generalizing tracker with
  | nil => simp
  | cons verdict verdicts ih =>
      rw [List.foldl_cons, ih, tracks_stopFenced_iff, ← and_assoc]
      refine and_congr_left fun _ => ?_
      simp only [List.mem_cons, not_or, forall_and, ne_eq, eq_comm]
      exact and_comm

theorem mem_rows_iff {t : Placements} {p : RaftPlacement} :
    p ∈ t.rows ↔ t[p.vmId]? = some (p.generation, p.hypervisorId) := by
  rw [← Std.ExtTreeMap.mem_toList_iff_getElem?_eq_some, Placements.rows, List.mem_map]
  constructor
  · rintro ⟨row, hrow, rfl⟩
    exact hrow
  · intro hrow
    exact ⟨_, hrow, rfl⟩

theorem fenced_mem_checkAll_iff {t : Placements} (htracked : tracker.localGenerations[vmId]? = some localGen) :
    (∃ reason, .fenced vmId reason ∈ tracker.checkAll t.rows) ↔
      ∃ placement, t[vmId]? = some placement ∧ tracker.outdated localGen placement.1 placement.2 = true := by
  constructor
  · rintro ⟨reason, hmem⟩
    obtain ⟨p, hp, hcheck⟩ := List.mem_filterMap.mp hmem
    obtain ⟨_, heq⟩ := eq_fenced_of_checkRow hcheck
    obtain rfl : vmId = p.vmId := (FencingVerdict.fenced.inj heq).1
    obtain ⟨localGen', hlocal, houtdated⟩ := checkRow_isSome_iff.mp (Option.isSome_iff_exists.mpr ⟨_, hcheck⟩)
    cases htracked.symm.trans hlocal
    exact ⟨_, mem_rows_iff.mp hp, houtdated⟩
  · rintro ⟨⟨generation, hypervisorId⟩, hplaced, houtdated⟩
    have hrow : ⟨vmId, generation, hypervisorId⟩ ∈ t.rows := mem_rows_iff.mpr hplaced
    have hsome : (tracker.checkRow ⟨vmId, generation, hypervisorId⟩).isSome :=
      checkRow_isSome_iff.mpr ⟨localGen, htracked, houtdated⟩
    obtain ⟨verdict, hcheck⟩ := Option.isSome_iff_exists.mp hsome
    obtain ⟨reason, rfl⟩ := eq_fenced_of_checkRow hcheck
    exact ⟨reason, List.mem_filterMap.mpr ⟨_, hrow, hcheck⟩⟩

theorem tracks_fence_iff {t : Placements} :
    (tracker.fence t.rows).localGenerations[vmId]? = some localGen ↔
      tracker.localGenerations[vmId]? = some localGen ∧
        ∀ placement, t[vmId]? = some placement → tracker.outdated localGen placement.1 placement.2 = false := by
  rw [fence, tracks_foldl_stopFenced_iff, and_comm]
  refine and_congr_right fun htracked => ?_
  have hreported := not_congr (fenced_mem_checkAll_iff (t := t) htracked)
  simp only [not_exists, not_and, Bool.not_eq_true] at hreported
  exact hreported

end FencingTracker

/-- Each VM that a node tracks is placed on that node. -/
def OneRunner {ι : Type} (t : Placements) (nodes : ι → FencingTracker) : Prop :=
  ∀ i (vmId : String) localGen, (nodes i).localGenerations[vmId]? = some localGen →
    ∃ generation, t[vmId]? = some (generation, (nodes i).nodeId)

/-- **Fencing leaves each VM to its hypervisor** just in case every VM that a node tracks has a placement,
and one that is placed elsewhere was not started with a newer generation. -/
theorem fence_oneRunner_iff {ι : Type} (t : Placements) (nodes : ι → FencingTracker) :
    OneRunner t (fun i => (nodes i).fence t.rows) ↔
      ∀ i (vmId : String) localGen, (nodes i).localGenerations[vmId]? = some localGen →
        ∃ generation hypervisorId, t[vmId]? = some (generation, hypervisorId) ∧
          (hypervisorId = (nodes i).nodeId ∨ localGen ≤ generation) := by
  unfold OneRunner
  refine forall_congr' fun i => forall_congr' fun vmId => forall_congr' fun localGen => ?_
  rw [FencingTracker.tracks_fence_iff, FencingTracker.nodeId_fence, and_imp]
  refine forall_congr' fun _ => ?_
  cases hplaced : t[vmId]? with
  | none => simp
  | some placement =>
      obtain ⟨generation, hypervisorId⟩ := placement
      simp only [Option.some.injEq, forall_eq', FencingTracker.outdated, Bool.and_eq_false_iff, decide_eq_false_iff_not,
        bne_eq_false_iff_eq, Prod.mk.injEq, exists_eq_left']
      constructor
      · intro hruns
        by_cases hle : localGen ≤ generation
        · exact ⟨_, _, ⟨rfl, rfl⟩, .inr hle⟩
        · exact ⟨_, _, ⟨rfl, rfl⟩, .inl (hruns (.inl hle))⟩
      · rintro ⟨_, _, ⟨rfl, rfl⟩, hruns⟩ hkept
        rcases hruns with hhere | hle
        · exact hhere
        · exact hkept.resolve_left (not_not_intro hle)

/-- A node that started a VM with generation 2, while the VM is placed on another node with generation 1. -/
def newerOnWrongNode : FencingTracker := (FencingTracker.new "node-a").recordPlacement "vm-1" 2

def onOtherNode : Placements := (∅ : Placements).insert "vm-1" (1, "node-b")

theorem fence_keeps_newer_on_wrong_node :
    ¬OneRunner onOtherNode fun _ : Unit => newerOnWrongNode.fence onOtherNode.rows := by
  intro h
  have hkept : (newerOnWrongNode.fence onOtherNode.rows).localGenerations["vm-1"]? = some 2 := by decide +kernel
  obtain ⟨generation, hplaced⟩ := h () "vm-1" 2 hkept
  have hother : onOtherNode["vm-1"]? = some (1, "node-b") := by decide +kernel
  have hnode := (Prod.mk.inj (Option.some.inj (hother.symm.trans hplaced))).2
  exact absurd hnode (by decide +kernel)

end Forge

end Syfrah
