import Syfrah.Proof.StorageStep
import Syfrah.Lib.TreeMap

/-!
# References to SST files

The two loops that drop references count in different ways, one with a saturating subtraction and one
by removing counts of at most one. `Releases` is what both do to the counts and to the list of files
to collect; `Unreferences` adds that the dropped references are those of deleted snapshots.
-/

namespace Syfrah

/-- How often a snapshot lists a file; a deleted one does not count. -/
def SnapshotRecord.uses (snap : SnapshotRecord) (k : String) : ℕ :=
  if snap.state = .deleted then 0 else snap.sstFiles.count k

namespace StorageState

def references (s : StorageState) (k : String) : ℕ := (s.sstRefcounts[k]?).getD 0

structure Releases (s : StorageState) (files : List String) (s' : StorageState) : Prop where
  count : ∀ k, s'.references k = s.references k - files.count k
  pending : ∀ k ∈ s.pendingGcSsts, k ∈ s'.pendingGcSsts
  listed : ∀ k ∈ s'.pendingGcSsts, k ∈ s.pendingGcSsts ∨ s'.references k = 0
  released : ∀ k, 0 < s.references k → s'.references k = 0 → k ∈ s'.pendingGcSsts
  positive : (∀ k : String, s.sstRefcounts[k]? ≠ some 0) → ∀ k : String, s'.sstRefcounts[k]? ≠ some 0

variable {s s' s'' : StorageState}

theorem Releases.nil (hcounts : s'.sstRefcounts = s.sstRefcounts)
    (hpending : s'.pendingGcSsts = s.pendingGcSsts) : Releases s [] s' where
  count k := by simp [references, hcounts]
  pending k hk := by rwa [hpending]
  listed k hk := .inl (by rwa [← hpending])
  released k hpos hzero := by
    rw [references, hcounts] at hzero
    exact absurd hzero hpos.ne'
  positive h := by rwa [hcounts]

theorem Releases.append {files files' : List String} (h : Releases s files s')
    (h' : Releases s' files' s'') : Releases s (files ++ files') s'' where
  count k := by rw [h'.count, h.count, List.count_append, Nat.sub_sub]
  pending k hk := h'.pending k (h.pending k hk)
  listed k hk := by
    rcases h'.listed k hk with hk | hzero
    · rcases h.listed k hk with hk | hzero
      · exact .inl hk
      · exact .inr (by rw [h'.count, hzero, Nat.zero_sub])
    · exact .inr hzero
  released k hpos hzero := by
    by_cases hmid : s'.references k = 0
    · exact h'.pending k (h.released k hpos hmid)
    · exact h'.released k (Nat.pos_of_ne_zero hmid) hzero
  positive hs := h'.positive (h.positive hs)

theorem releases_single {k : String}
    (hcount : ∀ j : String, s'.sstRefcounts[j]? = if k = j then
        if s.references k ≤ 1 then none else some (s.references k - 1)
      else s.sstRefcounts[j]?)
    (hpending : s'.pendingGcSsts = s.pendingGcSsts ∧ s.references k ≠ 1 ∨
      s'.pendingGcSsts = s.pendingGcSsts ++ [k] ∧ s.references k ≤ 1) : Releases s [k] s' := by
  have hself : s'.references k = s.references k - 1 := by
    rw [references, hcount, if_pos rfl]
    split
    · rw [Option.getD_none]
      omega
    · rfl
  have hother : ∀ j, k ≠ j → s'.references j = s.references j := by
    intro j hj
    rw [references, hcount, if_neg hj, references]
  refine ⟨fun j => ?_, fun j hj => ?_, fun j hj => ?_, fun j hpos hzero => ?_, fun hs j => ?_⟩
  · by_cases hj : k = j
    · subst hj
      simpa using hself
    · simp [hother j hj, hj]
  · rcases hpending with ⟨heq, -⟩ | ⟨heq, -⟩ <;> simp [heq, hj]
  · rcases hpending with ⟨heq, -⟩ | ⟨heq, hle⟩
    · exact .inl (heq ▸ hj)
    · rw [heq, List.mem_append, List.mem_singleton] at hj
      rcases hj with hj | rfl
      · exact .inl hj
      · exact .inr (by omega)
  · by_cases hj : k = j
    · subst hj
      rcases hpending with ⟨-, hne⟩ | ⟨heq, -⟩
      · omega
      · simp [heq]
    · rw [hother j hj] at hzero
      omega
  · rw [hcount]
    split
    · split
      · nofun
      · intro h
        have := Option.some.inj h
        omega
    · exact hs j

theorem releases_cascadeRelease (s : StorageState) (sst : String) :
    Releases s [sst] (s.cascadeRelease sst) := by
  unfold cascadeRelease
  change Releases s [sst] (if s.references sst ≤ 1 then _ else _)
  split
  · rename_i hle
    refine releases_single (fun j => ?_) (.inr ⟨rfl, hle⟩)
    simp [Std.ExtTreeMap.getElem?_erase, hle]
  · rename_i hgt
    refine releases_single (fun j => ?_) (.inl ⟨rfl, by omega⟩)
    rw [if_neg hgt]
    simp [Std.ExtTreeMap.getElem?_insert, references]

theorem releases_decrementSst (s : StorageState) (sst : String) :
    Releases s [sst] (s.decrementSst sst) := by
  unfold decrementSst
  split
  · rename_i hnone
    have hzero : s.references sst = 0 := by rw [references, hnone, Option.getD_none]
    refine releases_single (fun j => ?_) (.inl ⟨rfl, by omega⟩)
    by_cases hj : sst = j
    · subst hj
      simp [hzero, hnone]
    · simp [hj]
  · rename_i count hcount
    have hreferences : s.references sst = count := by rw [references, hcount, Option.getD_some]
    split
    · rename_i hzero
      refine releases_single (fun j => ?_) (.inr ⟨rfl, by omega⟩)
      simp [Std.ExtTreeMap.getElem?_erase, hreferences, show count ≤ 1 by omega]
    · rename_i hpos
      refine releases_single (fun j => ?_) (.inl ⟨rfl, by omega⟩)
      simp [Std.ExtTreeMap.getElem?_insert, hreferences, show ¬ count ≤ 1 by omega]

theorem releases_foldl {drop : StorageState → String → StorageState}
    (hdrop : ∀ s sst, Releases s [sst] (drop s sst)) (files : List String) (s : StorageState) :
    Releases s files (files.foldl drop s) := by
  induction files generalizing s with
  | nil => exact .nil rfl rfl
  | cons sst files ih => exact (hdrop s sst).append (ih (drop s sst))

/-! ### Deleting snapshots -/

/-- How often the snapshots that are not deleted list a file. -/
def snapshotUses (s : StorageState) (k : String) : ℕ :=
  s.snapshots.total fun _ snap => snap.uses k

def KeepsFiles (s s' : StorageState) : Prop :=
  ∀ (id : SnapshotId) snap, s.snapshots[id]? = some snap →
    ∃ snap', s'.snapshots[id]? = some snap' ∧ snap'.sstFiles = snap.sstFiles

structure MarksDeleted (s s' : StorageState) : Prop where
  volumes : s'.volumes = s.volumes
  quotas : s'.quotas = s.quotas
  manifestPointers : s'.manifestPointers = s.manifestPointers
  kept : KeepsFiles s s'
  live : ∀ (id : SnapshotId) snap, s'.snapshots[id]? = some snap → snap.state ≠ .deleted →
    s.snapshots[id]? = some snap

instance : IsPreorder StorageState MarksDeleted where
  refl _ := ⟨rfl, rfl, rfl, fun _ snap h => ⟨snap, h, rfl⟩, fun _ _ h _ => h⟩
  trans _ _ _ h h' := by
    refine ⟨h'.volumes.trans h.volumes, h'.quotas.trans h.quotas,
      h'.manifestPointers.trans h.manifestPointers, ?_,
      fun id snap hget hlive => h.live id snap (h'.live id snap hget hlive) hlive⟩
    intro id snap hget
    obtain ⟨snap₁, hget₁, hfiles₁⟩ := h.kept id snap hget
    obtain ⟨snap₂, hget₂, hfiles₂⟩ := h'.kept id snap₁ hget₁
    exact ⟨snap₂, hget₂, hfiles₂.trans hfiles₁⟩

structure Unreferences (s : StorageState) (files : List String) (s' : StorageState) : Prop where
  marks : MarksDeleted s s'
  releases : Releases s files s'
  uses : ∀ k, s'.snapshotUses k + files.count k = s.snapshotUses k

theorem Unreferences.append {files files' : List String} (h : Unreferences s files s')
    (h' : Unreferences s' files' s'') : Unreferences s (files ++ files') s'' where
  marks := trans_of MarksDeleted h.marks h'.marks
  releases := h.releases.append h'.releases
  uses k := by rw [List.count_append, ← h.uses, ← h'.uses]; omega

structure SameRecords (s s' : StorageState) : Prop where
  volumes : s'.volumes = s.volumes
  quotas : s'.quotas = s.quotas
  snapshots : s'.snapshots = s.snapshots
  manifestPointers : s'.manifestPointers = s.manifestPointers

theorem sameRecords_foldl {drop : StorageState → String → StorageState}
    (hdrop : ∀ s sst, SameRecords s (drop s sst)) (files : List String) (s : StorageState) :
    SameRecords s (files.foldl drop s) := by
  induction files generalizing s with
  | nil => exact ⟨rfl, rfl, rfl, rfl⟩
  | cons sst files ih =>
      have hfirst := hdrop s sst
      have hrest := ih (drop s sst)
      exact ⟨hrest.volumes.trans hfirst.volumes, hrest.quotas.trans hfirst.quotas,
        hrest.snapshots.trans hfirst.snapshots,
        hrest.manifestPointers.trans hfirst.manifestPointers⟩

theorem sameRecords_cascadeRelease (s : StorageState) (sst : String) :
    SameRecords s (s.cascadeRelease sst) := by
  unfold cascadeRelease
  dsimp only
  split <;> exact ⟨rfl, rfl, rfl, rfl⟩

theorem sameRecords_decrementSst (s : StorageState) (sst : String) :
    SameRecords s (s.decrementSst sst) := by
  unfold decrementSst
  split
  · exact ⟨rfl, rfl, rfl, rfl⟩
  · split <;> exact ⟨rfl, rfl, rfl, rfl⟩

theorem unreferences_snapshot {drop : StorageState → String → StorageState}
    (hreleases : ∀ s sst, Releases s [sst] (drop s sst))
    (hrecords : ∀ s sst, SameRecords s (drop s sst)) {id : SnapshotId} {snap : SnapshotRecord}
    (hget : s.snapshots[id]? = some snap) (hlive : snap.state ≠ .deleted) :
    Unreferences s snap.sstFiles ((snap.sstFiles.foldl drop s).markSnapshotDeleted id) := by
  obtain ⟨hvolumes, hquotas, hsnapshots, hpointers⟩ := sameRecords_foldl hrecords snap.sstFiles s
  have hdropped := releases_foldl hreleases snap.sstFiles s
  generalize snap.sstFiles.foldl drop s = t at *
  have hmark : t.markSnapshotDeleted id =
      { t with snapshots := t.snapshots.insert id { snap with state := .deleted } } := by
    rw [markSnapshotDeleted, hsnapshots, hget]
  rw [hmark, hsnapshots]
  refine ⟨⟨hvolumes, hquotas, hpointers, fun id' snap' hget' => ?_,
    fun id' snap' hget' hlive' => ?_⟩, ?_, fun k => ?_⟩
  · by_cases hid : id = id'
    · subst hid
      obtain rfl : snap = snap' := Option.some.inj (hget.symm.trans hget')
      exact ⟨{ snap with state := .deleted }, by simp, rfl⟩
    · exact ⟨snap', by simpa [Std.ExtTreeMap.getElem?_insert, hid] using hget', rfl⟩
  · by_cases hid : id = id'
    · subst hid
      rw [Std.ExtTreeMap.getElem?_insert_self] at hget'
      exact absurd (Option.some.inj hget' ▸ rfl) hlive'
    · simpa [Std.ExtTreeMap.getElem?_insert, hid] using hget'
  · have hnil : Releases t []
        { t with snapshots := s.snapshots.insert id { snap with state := .deleted } } :=
      .nil rfl rfl
    simpa using hdropped.append hnil
  · have htotal := Std.ExtTreeMap.total_insert (t := s.snapshots)
      (f := fun _ snap => snap.uses k) id { snap with state := .deleted }
    simp only [Std.ExtTreeMap.weight, hget, Option.elim_some, SnapshotRecord.uses, if_neg hlive,
      if_true] at htotal
    exact htotal

theorem markSnapshotDeleted_of_ne {id id' : SnapshotId} (h : id ≠ id') :
    (s.markSnapshotDeleted id).snapshots[id']? = s.snapshots[id']? := by
  unfold markSnapshotDeleted
  split
  · simp [Std.ExtTreeMap.getElem?_insert, h]
  · rfl

theorem cascadeSnapshot_of_ne {snap : SnapshotId × List String} {id : SnapshotId}
    (h : snap.1 ≠ id) : (s.cascadeSnapshot snap).snapshots[id]? = s.snapshots[id]? := by
  rw [cascadeSnapshot, markSnapshotDeleted_of_ne h,
    (sameRecords_foldl sameRecords_cascadeRelease snap.2 s).snapshots]

theorem unreferences_foldl (snaps : List (SnapshotId × List String))
    (hnodup : (snaps.map Prod.fst).Nodup) (s : StorageState)
    (hlive : ∀ p ∈ snaps, ∃ snap, s.snapshots[p.1]? = some snap ∧ snap.state ≠ .deleted ∧
      snap.sstFiles = p.2) :
    Unreferences s (snaps.flatMap Prod.snd) (snaps.foldl cascadeSnapshot s) := by
  induction snaps generalizing s with
  | nil => exact ⟨refl_of MarksDeleted s, .nil rfl rfl, fun _ => rfl⟩
  | cons p snaps ih =>
      obtain ⟨hfresh, hnodup⟩ := List.nodup_cons.mp hnodup
      obtain ⟨snap, hget, hsnap, hfiles⟩ := hlive p List.mem_cons_self
      have hfirst : Unreferences s p.2 (s.cascadeSnapshot p) := by
        rw [cascadeSnapshot, ← hfiles]
        exact unreferences_snapshot releases_cascadeRelease sameRecords_cascadeRelease hget hsnap
      refine hfirst.append (ih hnodup _ fun q hq => ?_)
      have hne : p.1 ≠ q.1 := fun h => hfresh (h ▸ List.mem_map_of_mem hq)
      rw [cascadeSnapshot_of_ne hne]
      exact hlive q (List.mem_cons_of_mem p hq)

theorem Unreferences.setMinWal {files : List String} (h : Unreferences s files s')
    (minWal : Option ℕ) : Unreferences s files { s' with minWalPosition := minWal } :=
  ⟨⟨h.marks.volumes, h.marks.quotas, h.marks.manifestPointers, h.marks.kept, h.marks.live⟩,
    ⟨h.releases.count, h.releases.pending, h.releases.listed, h.releases.released,
      h.releases.positive⟩, h.uses⟩

theorem mem_liveSnapshotsOf {volumeId : VolumeId} {id : SnapshotId} :
    id ∈ s.liveSnapshotsOf volumeId ↔ ∃ snap, s.snapshots[id]? = some snap ∧
      snap.sourceVolumeId = volumeId ∧ snap.state ≠ .deleted := by
  simp [liveSnapshotsOf, Std.ExtTreeMap.mem_toList_iff_getElem?_eq_some]

theorem nodup_liveSnapshotsOf (volumeId : VolumeId) : (s.liveSnapshotsOf volumeId).Nodup :=
  s.snapshots.nodup_map_fst_toList.sublist (List.filter_sublist.map Prod.fst)

theorem liveFiles_eq_some {id : SnapshotId} {p : SnapshotId × List String} :
    s.liveFiles id = some p ↔ ∃ snap, s.snapshots[id]? = some snap ∧ snap.state ≠ .deleted ∧
      p = (id, snap.sstFiles) := by
  unfold liveFiles
  cases s.snapshots[id]? with
  | none => simp
  | some snap =>
      by_cases hlive : snap.state = .deleted
      · simp [hlive]
      · simp only [if_false, Option.some.injEq, exists_eq_left', ne_eq, hlive, not_false_eq_true,
          true_and]
        exact eq_comm

theorem unreferences_liveFiles {ids : List SnapshotId} (hnodup : ids.Nodup) :
    Unreferences s ((ids.filterMap s.liveFiles).flatMap Prod.snd)
      ((ids.filterMap s.liveFiles).foldl cascadeSnapshot s) := by
  refine unreferences_foldl (ids.filterMap s.liveFiles) ?_ s fun p hp => ?_
  · rw [List.map_filterMap]
    refine hnodup.filterMap ?_
    intro id id' key hkey hkey'
    have hfst : ∀ id : SnapshotId, (s.liveFiles id).map Prod.fst = some key → id = key := by
      intro id h
      obtain ⟨p, hp, rfl⟩ := Option.map_eq_some_iff.mp h
      obtain ⟨-, -, -, rfl⟩ := liveFiles_eq_some.mp hp
      rfl
    exact (hfst id hkey).trans (hfst id' hkey').symm
  · obtain ⟨id, -, hid⟩ := List.mem_filterMap.mp hp
    obtain ⟨snap, hget, hlive, rfl⟩ := liveFiles_eq_some.mp hid
    exact ⟨snap, hget, hlive, rfl⟩

theorem unreferences_cascade {volumeId : VolumeId} {ids : List SnapshotId}
    (hids : ids.Perm (s.liveSnapshotsOf volumeId)) :
    ∃ files, Unreferences s files (s.cascade ids) := by
  have hnodup : ids.Nodup := hids.nodup_iff.mpr (nodup_liveSnapshotsOf volumeId)
  exact ⟨_, (unreferences_liveFiles hnodup).setMinWal _⟩

end StorageState

end Syfrah
