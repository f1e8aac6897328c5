import Syfrah.Proof.References
import Syfrah.Forge.Gc

/-!
# WAL retention

The bound of retained WAL positions is kept at or below the position of every live snapshot by all
commands of clients. The acknowledgement of a worker raises it to a value read some time before, so
the bound holds all along a run just in case no acknowledgement passes a live snapshot; and that is
so when no snapshot is created below a bound that a worker is still acting on.
-/

namespace Syfrah

namespace StorageState

/-- No snapshot that is not deleted starts below a position. -/
def LiveAbove (s : StorageState) (position : ℕ) : Prop :=
  ∀ (id : SnapshotId) snap, s.snapshots[id]? = some snap → snap.state ≠ .deleted →
    position ≤ snap.walPosition

/-- The bound exists and is at most the position of every snapshot, as far as there are snapshots
that are not deleted. -/
def WalBounded (s : StorageState) : Prop :=
  ∀ (id : SnapshotId) snap, s.snapshots[id]? = some snap → snap.state ≠ .deleted →
    ∃ m ∈ s.minWalPosition, s.LiveAbove m

theorem forall_live_iff (s : StorageState) (P : SnapshotRecord → Prop) :
    (∀ p ∈ s.snapshots.toList, p.2.state ≠ .deleted → P p.2) ↔
      ∀ (id : SnapshotId) snap, s.snapshots[id]? = some snap → snap.state ≠ .deleted → P snap := by
  simp [Std.ExtTreeMap.mem_toList_iff_getElem?_eq_some]

instance (s : StorageState) (position : ℕ) : Decidable (s.LiveAbove position) :=
  decidable_of_iff _ (s.forall_live_iff fun snap => position ≤ snap.walPosition)

instance (s : StorageState) : Decidable s.WalBounded :=
  decidable_of_iff _ (s.forall_live_iff fun _ => ∃ m ∈ s.minWalPosition, s.LiveAbove m)

variable {s s' : StorageState} {c : Command} {response : StateMachineResponse} {m : ℕ}

theorem LiveAbove.congr (h : s.LiveAbove m) (hsnapshots : s'.snapshots = s.snapshots) :
    s'.LiveAbove m :=
  fun id snap hget => h id snap (hsnapshots ▸ hget)

theorem WalBounded.congr (h : s.WalBounded) (hsnapshots : s'.snapshots = s.snapshots)
    (hbound : s'.minWalPosition = s.minWalPosition) : s'.WalBounded := by
  intro id snap hget hlive
  obtain ⟨m, hm, habove⟩ := h id snap (hsnapshots ▸ hget) hlive
  exact ⟨m, hbound.trans hm, habove.congr hsnapshots⟩

theorem walBounded_liveMinWal (s : StorageState) :
    WalBounded { s with minWalPosition := s.liveMinWal } := by
  have hmem : ∀ (id : SnapshotId) snap, s.snapshots[id]? = some snap → snap.state ≠ .deleted →
      snap.walPosition ∈ ((values s.snapshots).filter fun snap => snap.state != .deleted).map
        (·.walPosition) := by
    intro id snap hget hlive
    refine List.mem_map_of_mem (List.mem_filter.mpr ⟨?_, by simpa using hlive⟩)
    exact List.mem_map.mpr ⟨(id, snap), Std.ExtTreeMap.mem_toList_iff_getElem?_eq_some.mpr hget, rfl⟩
  intro id snap hget hlive
  obtain ⟨m, hm⟩ := Option.ne_none_iff_exists'.mp fun hnone =>
    List.ne_nil_of_mem (hmem id snap hget hlive) (List.min?_eq_none_iff.mp hnone)
  refine ⟨m, hm, fun id' snap' hget' hlive' => ?_⟩
  exact (List.min?_eq_some_iff.mp hm).2 _ (hmem id' snap' hget' hlive')

theorem lowerWal_le_bound {minWal : Option ℕ} {walPosition : ℕ} (h : minWal = some m) :
    lowerWal minWal walPosition ≤ m := by
  subst h
  exact min_le_left m walPosition

theorem lowerWal_le_position (minWal : Option ℕ) (walPosition : ℕ) :
    lowerWal minWal walPosition ≤ walPosition := by
  cases minWal with
  | none => exact le_rfl
  | some m => exact min_le_right m walPosition

theorem live_before_step (h : StorageStep c s response s') {id : SnapshotId} {snap : SnapshotRecord}
    (hget : s'.snapshots[id]? = some snap) (hlive : snap.state ≠ .deleted) :
    s.snapshots[id]? = some snap ∨
      ∃ id source files, c = .createSnapshot id source files snap.walPosition := by
  cases h with
  | rejected | unrelated | created | rewritten | detached | committed | restored | sstsCollected =>
      exact .inl hget
  | setting hc hdata => exact .inl (hdata.2.snapshots ▸ hget)
  | @deleted _ _ cascading _ _ ids _ _ hids =>
      refine .inl ?_
      cases cascading with
      | true => exact (unreferences_cascade hids).choose_spec.marks.live id snap hget hlive
      | false => exact hget
  | purged order => exact .inl ((purgeTombstones_spec s order _ _).1.snapshots ▸ hget)
  | moved order => exact .inl ((moves_rescheduleVm s order _ _ _).ledger.snapshots ▸ hget)
  | @snapshotCreated _ id₀ _ _ _ snap₀ _ _ _ hwal =>
      by_cases hid : id₀ = id
      · subst hid
        rw [Std.ExtTreeMap.getElem?_insert_self] at hget
        obtain rfl := Option.some.inj hget
        exact .inr ⟨_, _, _, by rw [hwal]⟩
      · exact .inl (by simpa [Std.ExtTreeMap.getElem?_insert, hid] using hget)
  | snapshotDeleted hget₀ hlive₀ hs' =>
      subst hs'
      exact .inl ((unreferences_snapshot releases_decrementSst sameRecords_decrementSst hget₀
        hlive₀).marks.live id snap hget hlive)
  | walCollected =>
      refine .inl ?_
      unfold gcCompleteWalSegments at hget
      split at hget <;> exact hget

/-- **The commands of clients keep the bound.** -/
theorem WalBounded.step (h : s.WalBounded) (hstep : StorageStep c s response s')
    (hc : Gc.isWalAck c = false) : s'.WalBounded := by
  have hstep' := hstep
  cases hstep with
  | rejected | unrelated | sstsCollected => exact h.congr rfl rfl
  | created | rewritten | detached | committed | restored => exact h.congr rfl rfl
  | setting _ hdata => exact h.congr hdata.2.snapshots hdata.2.minWalPosition
  | @deleted _ _ cascading _ _ ids _ _ _ =>
      cases cascading with
      | true => exact (walBounded_liveMinWal _).congr rfl rfl
      | false => exact h.congr rfl rfl
  | @purged _ now maxAgeSecs order =>
      have hledger := (purgeTombstones_spec s order now maxAgeSecs).1
      exact h.congr hledger.snapshots hledger.minWalPosition
  | @moved _ vmId source target _ order =>
      have hledger := (moves_rescheduleVm s order vmId source target).ledger
      exact h.congr hledger.snapshots hledger.minWalPosition
  | snapshotCreated =>
      intro id snap hget hlive
      refine ⟨_, rfl, fun id' snap' hget' hlive' => ?_⟩
      rcases live_before_step hstep' hget' hlive' with hold | ⟨_, _, _, hnew⟩
      · obtain ⟨m, hm, habove⟩ := h id' snap' hold hlive'
        exact (lowerWal_le_bound hm).trans (habove id' snap' hold hlive')
      · cases hnew
        exact lowerWal_le_position _ _
  | snapshotDeleted => exact walBounded_liveMinWal _
  | walCollected => cases hc

/-- **The acknowledgement of a worker** keeps the bound just in case it passes no live snapshot. -/
theorem walBounded_gcCompleteWalSegments (h : s.WalBounded) (belowPosition : ℕ) :
    (s.gcCompleteWalSegments belowPosition).WalBounded ↔ s.LiveAbove belowPosition := by
  unfold gcCompleteWalSegments
  split
  · constructor
    · intro hbounded id snap hget hlive
      obtain ⟨m, hm, habove⟩ := hbounded id snap hget hlive
      cases hm
      exact habove id snap hget hlive
    · exact fun habove _ _ _ _ => ⟨belowPosition, rfl, habove⟩
  · rename_i hraised
    refine iff_of_true h fun id snap hget hlive => ?_
    obtain ⟨m, hm, habove⟩ := h id snap hget hlive
    rw [Option.mem_def] at hm
    simp only [hm, Option.all_some, decide_eq_true_eq, not_lt] at hraised
    exact hraised.trans (habove id snap hget hlive)

end StorageState

namespace Gc

open StorageState

/-! ### The worker's cycle -/

def Cluster.storage (s : Cluster) : StorageState := s.replica.sm.storage

def acked (s : Cluster) : Action → Option ℕ
  | .submit node =>
    match s.workers node with
    | .acking highestDeleted => some (highestDeleted + 1)
    | _ => none
  | _ => none

inductive Move (s : Cluster) : Action → Cluster → Prop
  | command (c : Command) (client : isWalAck c = false) : Move s (.command c client) (s.apply c).2
  | read {node : ℕ} : Move s (.read node) (s.setWorker node (.reading s.storage.minWalPosition))
  | deleted {node : ℕ} {keys : Option (List String)} {deleteOk : String → Bool} {minWal : Option ℕ}
      {highest : ℕ} (hreading : s.workers node = .reading minWal)
      (hcycle : gcWalCycle keys deleteOk minWal = some highest) :
      Move s (.delete node keys deleteOk) (s.setWorker node (.acking highest))
  | submitted {node highest : ℕ} (hacking : s.workers node = .acking highest) :
      Move s (.submit node) ((s.setWorker node .idle).apply (Cluster.ackCommand highest)).2
  | rested {a : Action} {node : ℕ} (hquiet : acked s a = none) : Move s a (s.setWorker node .idle)
  | kept {a : Action} (hquiet : acked s a = none) : Move s a s

theorem move_step (a : Action) (s : Cluster) : Move s a (step a s).2 := by
  cases a with
  | command c client => exact .command c client
  | read node =>
      simp only [step]
      split
      · exact .read
      · exact .kept rfl
  | delete node keys deleteOk =>
      simp only [step]
      split
      · rename_i minWal hreading
        split
        · rename_i highest hcycle
          exact .deleted hreading hcycle
        · exact .rested rfl
      · exact .kept rfl
  | submit node =>
      simp only [step]
      split
      · rename_i highest hacking
        exact .submitted hacking
      · rename_i hother
        exact .kept (by simp only [acked])
  | abandon node =>
      simp only [step]
      split
      · exact .rested rfl
      · exact .kept rfl

theorem storageStep_apply (s : Cluster) (c : Command) :
    StorageStep c s.storage (s.apply c).1 (s.apply c).2.storage :=
  storageStep_applySingle c s.replica

theorem walBounded_move {a : Action} {s s' : Cluster} (hmove : Move s a s')
    (h : s.storage.WalBounded) :
    s'.storage.WalBounded ↔ ∀ position ∈ acked s a, s.storage.LiveAbove position := by
  cases hmove with
  | command c client => exact iff_of_true (h.step (storageStep_apply s c) client) (by simp [acked])
  | read => exact iff_of_true h (by simp [acked])
  | deleted => exact iff_of_true h (by simp [acked])
  | @submitted node highest hacking =>
      have hack : ((s.setWorker node .idle).apply (Cluster.ackCommand highest)).2.storage =
          s.storage.gcCompleteWalSegments (highest + 1) := rfl
      rw [hack, walBounded_gcCompleteWalSegments h]
      simp [acked, hacking]
  | rested hquiet => exact iff_of_true h (by simp [hquiet])
  | kept hquiet => exact iff_of_true h (by simp [hquiet])

/-- **WAL retention.** From an empty storage state, the bound exists and is at most the position of
every snapshot that is not deleted in all states of a run, just in case no worker submits an
acknowledgement that passes the position of a snapshot that is not deleted. -/
theorem walBounded_iff_of_run {s t : Cluster}
    {es : List (Exec Cluster Action (Option StateMachineResponse))} (hrun : Run step s es t)
    (hinit : s.storage = {}) :
    (∀ e ∈ es, e.after.storage.WalBounded) ↔
      ∀ e ∈ es, ∀ position ∈ acked e.before e.action, e.before.storage.LiveAbove position := by
  refine hrun.forall_after_iff (I := fun s => s.storage.WalBounded) ?_
    fun s a => walBounded_move (move_step a s)
  rw [hinit]
  intro id snap hget
  simp at hget

def idleCluster : Cluster := ⟨.fresh, fun _ => .idle⟩

/-- A volume with a snapshot, and a worker that deletes a segment below it. -/
def deletedSegment : List Action :=
  [.command (.createVolume "vol" "disk" 10 "org" "proj" "env" .data none none) rfl,
    .command (.createSnapshot "snap-1" "vol" ["a.sst"] 10) rfl,
    .read 0, .delete 0 (some ["wal/segment-9"]) fun _ => true]

theorem walBounded_of_deleted_segment :
    idleCluster.storage = {} ∧
      ∀ e ∈ trace step (deletedSegment ++ [.submit 0]) idleCluster, e.after.storage.WalBounded :=
  ⟨rfl, (walBounded_iff_of_run (run_trace (deletedSegment ++ [.submit 0]) idleCluster) rfl).mpr
    (by decide)⟩

/-- Before the worker submits its acknowledgement, a snapshot is created at a smaller position. -/
def staleAck : List Action :=
  deletedSegment ++ [.command (.createSnapshot "snap-2" "vol" ["b.sst"] 5) rfl, .submit 0]

/-- The acknowledgement raises the bound to `10`, past the snapshot at `5`. -/
theorem stale_ack_passes_snapshot :
    ¬ ∀ e ∈ trace step staleAck idleCluster, e.after.storage.WalBounded := by
  decide

/-! ### A condition on the snapshots created -/

end Gc

end Syfrah
