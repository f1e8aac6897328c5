import Syfrah.Proof.Accounting

/-!
# Deleting a volume with its snapshots

A cascading deletion and the deletion of the snapshots one by one drop references with different
code. Both come to the same counts, since the counts cover the files of every snapshot that is not
deleted, and the order of the snapshots only shows in the order of the files to collect. What can
differ is the bound of the WAL positions: the cascade computes it again even when there was no
snapshot to delete.
-/

namespace Syfrah

namespace StorageState

variable {s s' : StorageState}

/-! ### Dropping references -/

theorem decrementSst_eq {sst : String} (h : 0 < s.references sst) :
    s.decrementSst sst = s.cascadeRelease sst := by
  unfold decrementSst cascadeRelease
  unfold references at h
  cases hcount : s.sstRefcounts[sst]? with
  | none => simp [hcount] at h
  | some count =>
      rw [hcount, Option.getD_some] at h
      by_cases hone : count ≤ 1
      · simp [hone]
      · simp [hone, show count - 1 ≠ 0 by omega]

theorem foldl_decrementSst_eq {files : List String} (h : ∀ k, files.count k ≤ s.references k) :
    files.foldl decrementSst s = files.foldl cascadeRelease s := by
  induction files generalizing s with
  | nil => rfl
  | cons sst files ih =>
      have hfirst : 0 < s.references sst := by
        have := h sst
        simp only [List.count_cons_self] at this
        omega
      rw [List.foldl_cons, List.foldl_cons, decrementSst_eq hfirst]
      apply ih
      intro k
      have := h k
      rw [(releases_cascadeRelease s sst).count k]
      rw [List.count_cons] at this
      simp only [List.count_singleton]
      split at this
      · simp_all
        omega
      · simp_all

structure Drops (s : StorageState) (files : List String) (s' : StorageState) : Prop where
  frame : s' = { s with sstRefcounts := s'.sstRefcounts, pendingGcSsts := s'.pendingGcSsts }
  counts : ∀ k : String, s'.sstRefcounts[k]? =
    if k ∈ files then
      if s.references k = files.count k then none else some (s.references k - files.count k)
    else s.sstRefcounts[k]?
  pending : ∃ listed : List String, s'.pendingGcSsts = s.pendingGcSsts ++ listed ∧ listed.Nodup ∧
    ∀ k, k ∈ listed ↔ k ∈ files ∧ s.references k = files.count k

theorem drops_cascadeRelease {sst : String} (h : 0 < s.references sst) :
    Drops s [sst] (s.cascadeRelease sst) := by
  unfold cascadeRelease
  change Drops s [sst] (if s.references sst ≤ 1 then _ else _)
  by_cases hone : s.references sst ≤ 1
  · rw [if_pos hone]
    have href : s.references sst = 1 := by omega
    refine ⟨rfl, fun k => ?_, [sst], rfl, List.nodup_singleton sst, fun k => ?_⟩
    · by_cases hk : sst = k
      · subst hk
        simp [href]
      · simp [Std.ExtTreeMap.getElem?_erase, hk, Ne.symm hk]
    · by_cases hk : k = sst
      · subst hk
        simp [href]
      · simp [hk]
  · rw [if_neg hone]
    refine ⟨rfl, fun k => ?_, [], by simp, List.nodup_nil, fun k => ?_⟩
    · by_cases hk : sst = k
      · subst hk
        have hne : (s.sstRefcounts[sst]?).getD 0 ≠ 1 := by
          unfold references at hone
          omega
        simp [hne, references]
      · simp [Std.ExtTreeMap.getElem?_insert, hk, Ne.symm hk]
    · by_cases hk : k = sst
      · subst hk
        simp
        omega
      · simp [hk]

theorem Drops.references {files : List String} (h : Drops s files s') (k : String) :
    s'.references k = s.references k - files.count k := by
  rw [StorageState.references, h.counts]
  by_cases hk : k ∈ files
  · rw [if_pos hk]
    by_cases heq : s.references k = files.count k
    · simp [heq]
    · simp [heq]
  · rw [if_neg hk, List.count_eq_zero.mpr hk, Nat.sub_zero, StorageState.references]

theorem Drops.append {s'' : StorageState} {files files' : List String} (h : Drops s files s')
    (h' : Drops s' files' s'') (hcovered : ∀ k, (files ++ files').count k ≤ s.references k) :
    Drops s (files ++ files') s'' := by
  have hfirst : ∀ k, files.count k + files'.count k ≤ s.references k := by
    intro k
    rw [← List.count_append]
    exact hcovered k
  have href : ∀ k, s'.references k = s.references k - files.count k := h.references
  obtain ⟨listed, hlisted, hnodup, hmem⟩ := h.pending
  obtain ⟨listed', hlisted', hnodup', hmem'⟩ := h'.pending
  refine ⟨?_, fun k => ?_, listed ++ listed', ?_, ?_, fun k => ?_⟩
  · rw [h'.frame, h.frame]
  · rw [h'.counts, h.counts, href, List.count_append]
    have := hfirst k
    by_cases hk' : k ∈ files'
    · have hpos := List.count_pos_iff.mpr hk'
      simp only [hk', if_true, List.mem_append, or_true]
      split <;> split <;> first | rfl | omega | (congr 1; omega)
    · rw [List.count_eq_zero.mpr hk']
      simp [hk']
  · rw [hlisted', hlisted, List.append_assoc]
  · refine hnodup.append hnodup' fun k hk hk' => ?_
    have hused := List.count_pos_iff.mpr ((hmem' k).mp hk').1
    have hdone := ((hmem k).mp hk).2
    have := hfirst k
    omega
  · rw [List.mem_append, List.mem_append, hmem, hmem', href, List.count_append]
    have hle := hfirst k
    by_cases hk' : k ∈ files'
    · have hpos := List.count_pos_iff.mpr hk'
      by_cases hk : k ∈ files
      · simp only [hk, hk', true_and, true_or]
        omega
      · rw [List.count_eq_zero.mpr hk]
        simp [hk, hk']
    · rw [List.count_eq_zero.mpr hk']
      simp [hk']

theorem drops_foldl {files : List String} (h : ∀ k, files.count k ≤ s.references k) :
    Drops s files (files.foldl cascadeRelease s) := by
  induction files generalizing s with
  | nil => exact ⟨rfl, fun _ => rfl, [], by simp, List.nodup_nil, fun _ => by simp⟩
  | cons sst files ih =>
      have hsst : 0 < s.references sst := by
        have := h sst
        rw [List.count_cons_self] at this
        omega
      have hfirst := drops_cascadeRelease hsst
      refine hfirst.append (ih fun k => ?_) h
      have := h k
      rw [(releases_cascadeRelease s sst).count k]
      rw [List.count_cons] at this
      rw [List.count_singleton]
      omega

/-! ### Deleting snapshots in any order -/

def erased (snap : SnapshotRecord) : SnapshotRecord := { snap with state := .deleted }

def markDeleted (t : Table SnapshotRecord) (id : SnapshotId) : Table SnapshotRecord :=
  match t[id]? with
  | some snap => t.insert id (erased snap)
  | none => t

theorem markSnapshotDeleted_eq (id : SnapshotId) :
    s.markSnapshotDeleted id = { s with snapshots := markDeleted s.snapshots id } := by
  unfold markSnapshotDeleted markDeleted
  cases s.snapshots[id]? <;> rfl

theorem getElem?_markDeleted (t : Table SnapshotRecord) (id id' : SnapshotId) :
    (markDeleted t id)[id']? = if id = id' then (t[id']?).map erased else t[id']? := by
  unfold markDeleted
  by_cases hid : id = id'
  · subst hid
    rw [if_pos rfl]
    cases hget : t[id]? with
    | none => simp [hget]
    | some snap => simp
  · rw [if_neg hid]
    cases t[id]? with
    | none => rfl
    | some snap => simp [Std.ExtTreeMap.getElem?_insert, hid]

theorem getElem?_foldl_markDeleted (ids : List SnapshotId) (t : Table SnapshotRecord)
    (id : SnapshotId) : (ids.foldl markDeleted t)[id]? =
      if id ∈ ids then (t[id]?).map erased else t[id]? := by
  induction ids generalizing t with
  | nil => simp
  | cons id' ids ih =>
      rw [List.foldl_cons, ih, getElem?_markDeleted]
      by_cases hid : id' = id
      · subst hid
        by_cases hmem : id' ∈ ids
        · cases t[id']? <;> simp [hmem, erased]
        · simp [hmem]
      · by_cases hmem : id ∈ ids
        · simp [hid, hmem]
        · simp [hid, hmem, Ne.symm hid]

def withSnapshots (s : StorageState) (t : Table SnapshotRecord) : StorageState :=
  { s with snapshots := t }

def withWal (s : StorageState) (wal : Option ℕ) : StorageState := { s with minWalPosition := wal }

theorem cascadeRelease_withSnapshots (s : StorageState) (t : Table SnapshotRecord) (sst : String) :
    (s.withSnapshots t).cascadeRelease sst = (s.cascadeRelease sst).withSnapshots t := by
  unfold cascadeRelease withSnapshots
  dsimp only
  split <;> rfl

theorem cascadeRelease_withWal (s : StorageState) (wal : Option ℕ) (sst : String) :
    (s.withWal wal).cascadeRelease sst = (s.cascadeRelease sst).withWal wal := by
  unfold cascadeRelease withWal
  dsimp only
  split <;> rfl

theorem cascadeSnapshot_eq (s : StorageState) (p : SnapshotId × List String) :
    s.cascadeSnapshot p =
      (p.2.foldl cascadeRelease s).withSnapshots (markDeleted s.snapshots p.1) := by
  rw [cascadeSnapshot, markSnapshotDeleted_eq,
    (sameRecords_foldl sameRecords_cascadeRelease p.2 s).snapshots]
  rfl

theorem foldl_cascadeSnapshot_eq (snaps : List (SnapshotId × List String)) (s : StorageState) :
    snaps.foldl cascadeSnapshot s =
      ((snaps.flatMap Prod.snd).foldl cascadeRelease s).withSnapshots
        ((snaps.map Prod.fst).foldl markDeleted s.snapshots) := by
  induction snaps generalizing s with
  | nil => rfl
  | cons p snaps ih =>
      rw [List.foldl_cons, ih, cascadeSnapshot_eq, List.flatMap_cons, List.foldl_append,
        List.foldl_hom (withSnapshots · _) fun x y => cascadeRelease_withSnapshots x _ y]
      rfl

def deleteByHand (s : StorageState) (p : SnapshotId × List String) : StorageState :=
  (s.cascadeSnapshot p).withWal (s.cascadeSnapshot p).liveMinWal

theorem cascadeSnapshot_withWal (s : StorageState) (wal : Option ℕ)
    (p : SnapshotId × List String) :
    (s.withWal wal).cascadeSnapshot p = (s.cascadeSnapshot p).withWal wal := by
  rw [cascadeSnapshot_eq, cascadeSnapshot_eq,
    List.foldl_hom (withWal · wal) fun x y => cascadeRelease_withWal x wal y]
  rfl

theorem deleteByHand_withWal (s : StorageState) (wal : Option ℕ) (p : SnapshotId × List String) :
    (s.withWal wal).deleteByHand p = s.deleteByHand p := by
  rw [deleteByHand, cascadeSnapshot_withWal]
  rfl

theorem foldl_deleteByHand_concat (snaps : List (SnapshotId × List String))
    (p : SnapshotId × List String) (s : StorageState) :
    (snaps ++ [p]).foldl deleteByHand s =
      ((snaps ++ [p]).foldl cascadeSnapshot s).withWal
        ((snaps ++ [p]).foldl cascadeSnapshot s).liveMinWal := by
  have hpast : ∃ wal, snaps.foldl deleteByHand s = (snaps.foldl cascadeSnapshot s).withWal wal := by
    induction snaps using List.reverseRecOn with
    | nil => exact ⟨s.minWalPosition, rfl⟩
    | append_singleton snaps q ih =>
        obtain ⟨wal, hwal⟩ := ih
        rw [List.foldl_concat, List.foldl_concat, hwal, deleteByHand_withWal]
        exact ⟨_, rfl⟩
  obtain ⟨wal, hwal⟩ := hpast
  rw [List.foldl_concat, List.foldl_concat, hwal, deleteByHand_withWal]
  rfl

/-- Two storage states that differ at most in the order of the files to collect. -/
structure SameUpToOrder (s s' : StorageState) : Prop where
  rest : s' = { s with pendingGcSsts := s'.pendingGcSsts }
  pending : s'.pendingGcSsts.Perm s.pendingGcSsts

theorem Drops.sameUpToOrder {s₁ s₂ : StorageState} {files files' : List String}
    (h : Drops s files s₁) (h' : Drops s files' s₂) (hfiles : files'.Perm files) :
    SameUpToOrder s₁ s₂ := by
  have hcounts : s₂.sstRefcounts = s₁.sstRefcounts := by
    apply Std.ExtTreeMap.ext_getElem?
    intro k
    rw [h.counts, h'.counts, hfiles.count_eq]
    simp only [hfiles.mem_iff]
  obtain ⟨listed, hlisted, hnodup, hmem⟩ := h.pending
  obtain ⟨listed', hlisted', hnodup', hmem'⟩ := h'.pending
  refine ⟨?_, ?_⟩
  · rw [h.frame, h'.frame, hcounts]
  · rw [hlisted, hlisted', List.perm_append_left_iff]
    refine (List.perm_ext_iff_of_nodup hnodup' hnodup).mpr fun k => ?_
    rw [hmem, hmem', hfiles.mem_iff, hfiles.count_eq]

/-! ### Deleting by hand -/

/-- The counts cover the files of the snapshots that are not deleted. -/
def Covers (s : StorageState) : Prop := ∀ k, s.snapshotUses k ≤ s.references k

structure Deletable (s : StorageState) (id : SnapshotId) (snap : SnapshotRecord) : Prop where
  get : s.snapshots[id]? = some snap
  live : snap.state ≠ .deleted
  free : id ∉ s.restoresInProgress

theorem Deletable.unreferences {id : SnapshotId} {snap : SnapshotRecord}
    (h : s.Deletable id snap) :
    Unreferences s snap.sstFiles (s.deleteByHand (id, snap.sstFiles)) := by
  have hsnap := unreferences_snapshot releases_cascadeRelease sameRecords_cascadeRelease h.get h.live
  exact hsnap.setMinWal _

theorem Covers.of_unreferences {files : List String} (h : s.Covers)
    (hfiles : Unreferences s files s') : s'.Covers := by
  intro k
  have huses := hfiles.uses k
  have hcovers := h k
  rw [hfiles.releases.count k]
  omega

theorem deleteSnapshot_eq {id : SnapshotId} {snap : SnapshotRecord} (hcovers : s.Covers)
    (h : s.Deletable id snap) :
    s.deleteSnapshot id = .ok (s.deleteByHand (id, snap.sstFiles)) := by
  have hfiles : ∀ k, snap.sstFiles.count k ≤ s.references k := by
    intro k
    have huses := h.unreferences.uses k
    have := hcovers k
    omega
  unfold deleteSnapshot
  rw [if_neg (by simpa using h.free), h.get]
  dsimp only
  rw [if_neg h.live, foldl_decrementSst_eq hfiles]
  rfl

theorem deleteByHand_of_ne {p : SnapshotId × List String} {id : SnapshotId} (h : p.1 ≠ id) :
    (s.deleteByHand p).snapshots[id]? = s.snapshots[id]? :=
  cascadeSnapshot_of_ne h

theorem restoresInProgress_deleteByHand (s : StorageState) (p : SnapshotId × List String) :
    (s.deleteByHand p).restoresInProgress = s.restoresInProgress := by
  change (s.cascadeSnapshot p).restoresInProgress = _
  rw [cascadeSnapshot_eq]
  change (p.2.foldl cascadeRelease s).restoresInProgress = _
  induction p.2 generalizing s with
  | nil => rfl
  | cons sst files ih =>
      rw [List.foldl_cons, ih]
      unfold cascadeRelease
      dsimp only
      split <;> rfl

theorem snapshots_foldl_deleteByHand (snaps : List (SnapshotId × List String))
    (s : StorageState) : (snaps.foldl deleteByHand s).snapshots =
      (snaps.map Prod.fst).foldl markDeleted s.snapshots := by
  induction snaps generalizing s with
  | nil => rfl
  | cons p snaps ih =>
      have hfirst : (s.deleteByHand p).snapshots = markDeleted s.snapshots p.1 :=
        congrArg snapshots (cascadeSnapshot_eq s p)
      rw [List.foldl_cons, ih, hfirst]
      rfl

theorem volumes_foldl_deleteByHand (snaps : List (SnapshotId × List String)) (s : StorageState) :
    (snaps.foldl deleteByHand s).volumes = s.volumes := by
  induction snaps generalizing s with
  | nil => rfl
  | cons p snaps ih =>
      have hfirst : (s.deleteByHand p).volumes = (p.2.foldl cascadeRelease s).volumes := by
        change (s.cascadeSnapshot p).volumes = _
        rw [cascadeSnapshot_eq]
        rfl
      rw [List.foldl_cons, ih, hfirst, (sameRecords_foldl sameRecords_cascadeRelease p.2 s).volumes]

theorem map_fst_liveFiles {volumeId : VolumeId} {ids : List SnapshotId}
    (hids : ids.Perm (s.liveSnapshotsOf volumeId)) :
    (ids.filterMap s.liveFiles).map Prod.fst = ids := by
  rw [List.map_filterMap]
  conv_rhs => rw [← List.filterMap_some (l := ids)]
  refine List.filterMap_congr fun id hid => ?_
  obtain ⟨snap, hget, -, hlive⟩ := mem_liveSnapshotsOf.mp (hids.mem_iff.mp hid)
  rw [liveFiles_eq_some.mpr ⟨snap, hget, hlive, rfl⟩]
  rfl

theorem liveSnapshotsOf_deleted {volumeId : VolumeId} {ids : List SnapshotId}
    (hids : ids.Perm (s.liveSnapshotsOf volumeId)) :
    ((ids.filterMap s.liveFiles).foldl deleteByHand s).liveSnapshotsOf volumeId = [] := by
  refine List.eq_nil_iff_forall_not_mem.mpr fun id hid => ?_
  obtain ⟨snap, hget, hsource, hlive⟩ := mem_liveSnapshotsOf.mp hid
  rw [snapshots_foldl_deleteByHand, map_fst_liveFiles hids, getElem?_foldl_markDeleted] at hget
  by_cases hmem : id ∈ ids
  · rw [if_pos hmem] at hget
    obtain ⟨old, -, rfl⟩ := Option.map_eq_some_iff.mp hget
    exact hlive rfl
  · rw [if_neg hmem] at hget
    exact hmem (hids.mem_iff.mpr (mem_liveSnapshotsOf.mpr ⟨snap, hget, hsource, hlive⟩))

/-! ### Both ways compared -/

theorem SameUpToOrder.withSnapshots (h : SameUpToOrder s s') (t : Table SnapshotRecord) :
    SameUpToOrder (s.withSnapshots t) (s'.withSnapshots t) :=
  ⟨congrArg (StorageState.withSnapshots · t) h.rest, h.pending⟩

theorem SameUpToOrder.withWal (h : SameUpToOrder s s') (wal : Option ℕ) :
    SameUpToOrder (s.withWal wal) (s'.withWal wal) :=
  ⟨congrArg (StorageState.withWal · wal) h.rest, h.pending⟩

theorem SameUpToOrder.setVolume (h : SameUpToOrder s s') (id : VolumeId) (vol : VolumeRecord) :
    SameUpToOrder (s.setVolume id vol) (s'.setVolume id vol) :=
  ⟨congrArg (StorageState.setVolume · id vol) h.rest, h.pending⟩

theorem SameUpToOrder.liveMinWal (h : SameUpToOrder s s') : s'.liveMinWal = s.liveMinWal :=
  (congrArg StorageState.liveMinWal h.rest).trans rfl

theorem sameUpToOrder_foldl {ids ids' : List SnapshotId} (hcovers : s.Covers) (hnodup : ids.Nodup)
    (hids : ids'.Perm ids) :
    SameUpToOrder ((ids.filterMap s.liveFiles).foldl cascadeSnapshot s)
      ((ids'.filterMap s.liveFiles).foldl cascadeSnapshot s) := by
  have hsnaps : (ids'.filterMap s.liveFiles).Perm (ids.filterMap s.liveFiles) :=
    hids.filterMap s.liveFiles
  have hfiles := hsnaps.flatMap_right Prod.snd
  have hcount : ∀ k, ((ids.filterMap s.liveFiles).flatMap Prod.snd).count k ≤ s.references k := by
    intro k
    have huses := (unreferences_liveFiles (s := s) hnodup).uses k
    have := hcovers k
    omega
  have hmarks : ((ids'.filterMap s.liveFiles).map Prod.fst).foldl markDeleted s.snapshots =
      ((ids.filterMap s.liveFiles).map Prod.fst).foldl markDeleted s.snapshots := by
    apply Std.ExtTreeMap.ext_getElem?
    intro id
    simp only [getElem?_foldl_markDeleted, (hsnaps.map Prod.fst).mem_iff]
  rw [foldl_cascadeSnapshot_eq, foldl_cascadeSnapshot_eq, hmarks]
  refine ((drops_foldl hcount).sameUpToOrder (drops_foldl fun k => ?_) hfiles).withSnapshots _
  rw [hfiles.count_eq]
  exact hcount k

theorem sameUpToOrder_iff {volumeId : VolumeId} {ids ids' : List SnapshotId} (hcovers : s.Covers)
    (hids : ids.Perm (s.liveSnapshotsOf volumeId)) (hids' : ids'.Perm ids) (vol : VolumeRecord) :
    SameUpToOrder ((s.cascade ids).setVolume volumeId vol)
        (((ids'.filterMap s.liveFiles).foldl deleteByHand s).setVolume volumeId vol) ↔
      s.liveSnapshotsOf volumeId ≠ [] ∨ s.minWalPosition = s.liveMinWal := by
  have hnodup : ids.Nodup := hids.nodup_iff.mpr (nodup_liveSnapshotsOf volumeId)
  rcases List.eq_nil_or_concat (ids'.filterMap s.liveFiles) with hnil | ⟨snaps, p, hconcat⟩
  · have hids'nil : ids' = [] := by
      rw [← map_fst_liveFiles (hids'.trans hids), hnil]
      rfl
    subst hids'nil
    obtain rfl := hids'.nil_eq
    have hnone : s.liveSnapshotsOf volumeId = [] := hids.nil_eq.symm
    rw [hnone]
    refine ⟨fun h => .inr (congrArg minWalPosition h.rest), fun h => ?_⟩
    obtain h | h := h
    · exact absurd rfl h
    · have hsame : SameUpToOrder (s.withWal s.liveMinWal) s := by
        rw [← h]
        exact ⟨rfl, .rfl⟩
      exact hsame.setVolume volumeId vol
  · have hsame := sameUpToOrder_foldl hcovers hnodup hids'
    refine ⟨fun _ => .inl fun hnone => ?_, fun _ => ?_⟩
    · rw [hnone] at hids
      obtain rfl := (hids'.trans hids).eq_nil
      simp at hconcat
    · rw [hconcat, List.concat_eq_append] at *
      rw [foldl_deleteByHand_concat, hsame.liveMinWal]
      exact (hsame.withWal _).setVolume volumeId vol

structure Removable (vol : VolumeRecord) : Prop where
  detached : ¬ (vol.state = .attached ∧ vol.volumeType ≠ .root)
  live : vol.state ≠ .deleted
  unprotected : vol.deletionProtection = false

theorem deleteVolume_cascading {order : HashOrder} {id : VolumeId} {deletedAt : ℕ}
    {vol' : VolumeRecord} (h : s.deleteVolume order id true deletedAt = .ok (vol', s')) :
    ∃ vol, s.volumes[id]? = some vol ∧ Removable vol ∧
      (∀ snapshotId ∈ s.liveSnapshotsOf id, snapshotId ∉ s.restoresInProgress) ∧
      s' = (s.cascade (order.arrange (s.liveSnapshotsOf id))).setVolume id
        (tombstone vol deletedAt) := by
  unfold deleteVolume at h
  split at h
  · cases h
  · rename_i vol hget
    split at h
    · cases h
    · rename_i hdetached
      split at h
      · cases h
      · rename_i hlive
        split at h
        · cases h
        · rename_i hunprotected
          simp only [Bool.not_true, Bool.and_false, Bool.true_and, if_true, Bool.false_eq_true,
            if_false] at h
          split at h
          · cases h
          · rename_i hfree
            cases h
            refine ⟨vol, hget, ⟨hdetached, hlive, by simpa using hunprotected⟩, ?_, rfl⟩
            intro snapshotId hmem hrestore
            apply hfree
            have hblocked : snapshotId ∈ (order.arrange (s.liveSnapshotsOf id)).filter
                fun id => s.restoresInProgress.contains id :=
              List.mem_filter.mpr ⟨(order.perm _).mem_iff.mpr hmem, by simpa using hrestore⟩
            cases hlist : (order.arrange (s.liveSnapshotsOf id)).filter
                fun id => s.restoresInProgress.contains id with
            | nil =>
                rw [hlist] at hblocked
                cases hblocked
            | cons => rfl

theorem deleteVolume_plain {order : HashOrder} {id : VolumeId} {deletedAt : ℕ}
    {vol : VolumeRecord} (hget : s.volumes[id]? = some vol) (hvol : Removable vol)
    (hnone : s.liveSnapshotsOf id = []) :
    s.deleteVolume order id false deletedAt =
      .ok (tombstone vol deletedAt, s.setVolume id (tombstone vol deletedAt)) := by
  have hempty : order.arrange (s.liveSnapshotsOf id) = [] := by
    rw [hnone]
    exact (order.perm []).eq_nil
  unfold deleteVolume
  rw [hget]
  simp only [if_neg hvol.detached, if_neg hvol.live, hvol.unprotected, hempty, List.isEmpty_nil]
  rfl

end StorageState

/-! ### The commands -/

open StorageState

variable {r : Replica}

theorem applySingle_deleteSnapshot {id : SnapshotId} {s' : StorageState}
    (h : r.sm.storage.deleteSnapshot id = .ok s') :
    (applySingle (.deleteSnapshot id) r).1 = .ok ∧
      (applySingle (.deleteSnapshot id) r).2.sm.storage = s' := by
  change Handle.Yields (fun response t => response = .ok ∧ t = s') (handle (.deleteSnapshot id)) r
  refine Handle.yields_storageStep (fun msg hmsg => ?_) fun t ht => ⟨rfl, ?_⟩
  · rw [h] at hmsg
    cases hmsg
  · rw [h] at ht
    exact (Except.ok.inj ht).symm

theorem applySingle_deleteVolume (id : VolumeId) (cascading : Bool) (deletedAt : ℕ)
    (r : Replica) :
    match r.sm.storage.deleteVolume r.ambient.nextOrder.1 id cascading deletedAt with
    | .ok (_, s') => (applySingle (.deleteVolume id cascading deletedAt) r).1 = .ok ∧
        (applySingle (.deleteVolume id cascading deletedAt) r).2.sm.storage = s'
    | .error msg => (applySingle (.deleteVolume id cascading deletedAt) r).1 = .error msg := by
  change Handle.Yields (fun response t =>
    match r.sm.storage.deleteVolume r.ambient.nextOrder.1 id cascading deletedAt with
    | .ok (_, s') => response = .ok ∧ t = s'
    | .error msg => response = .error msg)
    (do
      let _ ← Handle.onVolume fun s => s.deleteVolume r.ambient.nextOrder.1 id cascading deletedAt
      return .ok) { r with ambient := r.ambient.nextOrder.2 }
  refine Handle.yields_onVolume (fun msg hmsg => ?_) fun vol s' hs' => ?_
  · change r.sm.storage.deleteVolume _ id cascading deletedAt = _ at hmsg
    rw [hmsg]
  · change r.sm.storage.deleteVolume _ id cascading deletedAt = _ at hs'
    rw [hs']
    exact ⟨rfl, rfl⟩

def deleteSnapshots (ids : List SnapshotId) : List Command := ids.map .deleteSnapshot

theorem reached_deleteSnapshots {ids : List SnapshotId} (hnodup : ids.Nodup)
    (hcovers : r.sm.storage.Covers)
    (hids : ∀ id ∈ ids, ∃ snap, r.sm.storage.Deletable id snap) :
    (∀ e ∈ trace applySingle (deleteSnapshots ids) r, e.reply = .ok) ∧
      (reached applySingle (deleteSnapshots ids) r).sm.storage =
        (ids.filterMap r.sm.storage.liveFiles).foldl deleteByHand r.sm.storage := by
  induction ids generalizing r with
  | nil => exact ⟨fun e he => (List.not_mem_nil he).elim, rfl⟩
  | cons id ids ih =>
      obtain ⟨hfresh, hnodup⟩ := List.nodup_cons.mp hnodup
      obtain ⟨snap, hsnap⟩ := hids id List.mem_cons_self
      obtain ⟨hreply, hstorage⟩ := applySingle_deleteSnapshot (deleteSnapshot_eq hcovers hsnap)
      have hne : ∀ id' ∈ ids, id ≠ id' := fun id' hid' heq => hfresh (heq ▸ hid')
      have hrest := ih (r := (applySingle (.deleteSnapshot id) r).2) hnodup
        (hstorage ▸ hcovers.of_unreferences hsnap.unreferences) fun id' hid' => by
          obtain ⟨snap', hsnap'⟩ := hids id' (List.mem_cons_of_mem id hid')
          refine ⟨snap', ?_, hsnap'.live, ?_⟩
          · rw [hstorage, deleteByHand_of_ne (hne id' hid'), hsnap'.get]
          · rw [hstorage, restoresInProgress_deleteByHand]
            exact hsnap'.free
      refine ⟨List.forall_mem_cons.mpr ⟨hreply, hrest.1⟩, hrest.2.trans ?_⟩
      have hfirst : r.sm.storage.liveFiles id = some (id, snap.sstFiles) :=
        liveFiles_eq_some.mpr ⟨snap, hsnap.get, hsnap.live, rfl⟩
      have hsame : ids.filterMap (applySingle (.deleteSnapshot id) r).2.sm.storage.liveFiles =
          ids.filterMap r.sm.storage.liveFiles := by
        refine List.filterMap_congr fun id' hid' => ?_
        rw [liveFiles, liveFiles, hstorage, deleteByHand_of_ne (hne id' hid')]
      rw [hsame, hstorage, List.filterMap_cons_some hfirst, List.foldl_cons]

/-- The commands that delete a volume by hand: first its snapshots, then the volume. -/
def deletedByHand (id : VolumeId) (ids : List SnapshotId) (deletedAt : ℕ) : List Command :=
  deleteSnapshots ids ++ [.deleteVolume id false deletedAt]

/-- Deleting by hand is accepted at each step and ends like the cascade, whatever the order. -/
def CascadeByHand (r : Replica) (id : VolumeId) (deletedAt : ℕ) : Prop :=
  ∀ ids : List SnapshotId, ids.Perm (r.sm.storage.liveSnapshotsOf id) →
    (∀ e ∈ trace applySingle (deletedByHand id ids deletedAt) r, e.reply = .ok) ∧
    SameUpToOrder (applySingle (.deleteVolume id true deletedAt) r).2.sm.storage
      (reached applySingle (deletedByHand id ids deletedAt) r).sm.storage

theorem cascaded {id : VolumeId} {deletedAt : ℕ}
    (haccepted : (applySingle (.deleteVolume id true deletedAt) r).1 = .ok) :
    ∃ vol ids, r.sm.storage.volumes[id]? = some vol ∧ Removable vol ∧
      ids.Perm (r.sm.storage.liveSnapshotsOf id) ∧
      (∀ snapshotId ∈ ids, ∃ snap, r.sm.storage.Deletable snapshotId snap) ∧
      (applySingle (.deleteVolume id true deletedAt) r).2.sm.storage =
        (r.sm.storage.cascade ids).setVolume id (tombstone vol deletedAt) := by
  have hrun := applySingle_deleteVolume id true deletedAt r
  cases hdelete : r.sm.storage.deleteVolume r.ambient.nextOrder.1 id true deletedAt with
  | error msg =>
      simp only [hdelete] at hrun
      rw [hrun] at haccepted
      cases haccepted
  | ok result =>
      simp only [hdelete] at hrun
      obtain ⟨vol, hget, hvol, hfree, hs'⟩ := deleteVolume_cascading hdelete
      have hperm := r.ambient.nextOrder.1.perm (r.sm.storage.liveSnapshotsOf id)
      refine ⟨vol, _, hget, hvol, hperm, fun snapshotId hmem => ?_, hrun.2.trans hs'⟩
      have hlive := hperm.mem_iff.mp hmem
      obtain ⟨snap, hsnap, -, hstate⟩ := mem_liveSnapshotsOf.mp hlive
      exact ⟨snap, hsnap, hstate, hfree snapshotId hlive⟩

theorem cascadeByHand_iff {id : VolumeId} {deletedAt : ℕ} (hcovers : r.sm.storage.Covers)
    (haccepted : (applySingle (.deleteVolume id true deletedAt) r).1 = .ok) :
    CascadeByHand r id deletedAt ↔ r.sm.storage.liveSnapshotsOf id ≠ [] ∨
      r.sm.storage.minWalPosition = r.sm.storage.liveMinWal := by
  obtain ⟨vol, ids, hget, hvol, hids, hdeletable, hcascade⟩ := cascaded haccepted
  -- By hand each deletion is accepted, so the two ways differ at most in the states they reach.
  have hhand : ∀ ids' : List SnapshotId, ids'.Perm (r.sm.storage.liveSnapshotsOf id) →
      (∀ e ∈ trace applySingle (deletedByHand id ids' deletedAt) r, e.reply = .ok) ∧
      (reached applySingle (deletedByHand id ids' deletedAt) r).sm.storage =
        ((ids'.filterMap r.sm.storage.liveFiles).foldl deleteByHand r.sm.storage).setVolume id
          (tombstone vol deletedAt) := by
    intro ids' hids'
    have hnodup : ids'.Nodup := hids'.nodup_iff.mpr (nodup_liveSnapshotsOf id)
    have hsnaps : ∀ snapshotId ∈ ids', ∃ snap, r.sm.storage.Deletable snapshotId snap :=
      fun snapshotId hmem => hdeletable snapshotId ((hids'.trans hids.symm).mem_iff.mp hmem)
    obtain ⟨hreplies, hstorage⟩ := reached_deleteSnapshots hnodup hcovers hsnaps
    rw [deletedByHand, trace_append, reached_append]
    generalize reached applySingle (deleteSnapshots ids') r = r' at *
    have hget' : r'.sm.storage.volumes[id]? = some vol := by
      rw [hstorage, volumes_foldl_deleteByHand, hget]
    have hnone : r'.sm.storage.liveSnapshotsOf id = [] := by
      rw [hstorage]
      exact liveSnapshotsOf_deleted hids'
    have hlast := applySingle_deleteVolume id false deletedAt r'
    simp only [deleteVolume_plain hget' hvol hnone] at hlast
    refine ⟨List.forall_mem_append.mpr ⟨hreplies, List.forall_mem_singleton.mpr hlast.1⟩, ?_⟩
    rw [← hstorage]
    exact hlast.2
  have hiff := fun (ids' : List SnapshotId) (hids' : ids'.Perm (r.sm.storage.liveSnapshotsOf id)) =>
    sameUpToOrder_iff hcovers hids (hids'.trans hids.symm) (tombstone vol deletedAt)
  constructor
  · intro h
    have hsame := (h ids hids).2
    rw [hcascade, (hhand ids hids).2] at hsame
    exact (hiff ids hids).mp hsame
  · intro h ids' hids'
    refine ⟨(hhand ids' hids').1, ?_⟩
    rw [hcascade, (hhand ids' hids').2]
    exact (hiff ids' hids').mpr h

theorem covers_of_log (log : List StateMachineCommand) (r : Replica)
    (hinit : r.sm.storage = {}) : (applyLog log r).2.sm.storage.Covers := by
  have hcounted : Counted (sources (executed log r)) (applyLog log r).2.sm.storage := by
    refine storage_invariant (I := fun es s => Counted (sources es) s) (C := fun _ _ => True) log r
      ?_ ?_ (.of_forall fun _ _ => trivial)
    · rw [hinit]
      exact ⟨nofun, fun _ => Nat.zero_le _⟩
    · intro es e hstep hcounted _
      rw [sources_snoc]
      exact hcounted.step hstep
  intro k
  have := hcounted.covered k
  unfold uses at this
  omega

/-- **Cascading and deleting by hand.** In a state that a log reached, an accepted cascading
deletion does the same as deleting the snapshots in any order and then the volume, just when the
volume has a snapshot that is not deleted or the WAL bound is that of the snapshots: without a
snapshot only the cascade computes the bound again. -/
theorem cascade_by_hand_iff (log : List StateMachineCommand) (r : Replica)
    (hinit : r.sm.storage = {}) (id : VolumeId) (deletedAt : ℕ)
    (haccepted : (applySingle (.deleteVolume id true deletedAt) (applyLog log r).2).1 = .ok) :
    CascadeByHand (applyLog log r).2 id deletedAt ↔
      (applyLog log r).2.sm.storage.liveSnapshotsOf id ≠ [] ∨
      (applyLog log r).2.sm.storage.minWalPosition = (applyLog log r).2.sm.storage.liveMinWal :=
  cascadeByHand_iff (covers_of_log log r hinit) haccepted

/-- A volume with two snapshots that share a file. -/
def sharedFileLog : List StateMachineCommand :=
  [.single (.createVolume "vol" "disk" 10 "org" "proj" "env" .data none none),
    .single (.createSnapshot "snap-1" "vol" ["a.sst", "b.sst"] 10),
    .single (.createSnapshot "snap-2" "vol" ["b.sst", "c.sst"] 20)]

theorem cascade_by_hand_of_shared_file :
    (applySingle (.deleteVolume "vol" true 7) (applyLog sharedFileLog .fresh).2).1 = .ok ∧
      CascadeByHand (applyLog sharedFileLog .fresh).2 "vol" 7 := by
  have haccepted :
      (applySingle (.deleteVolume "vol" true 7) (applyLog sharedFileLog .fresh).2).1 = .ok := by
    rfl
  refine ⟨haccepted, (cascade_by_hand_iff sharedFileLog .fresh rfl "vol" 7 haccepted).mpr ?_⟩
  exact .inl (by decide)

/-- A volume without snapshots, after the WAL was collected up to a position. -/
def collectedWalLog : List StateMachineCommand :=
  [.single (.createVolume "vol" "disk" 10 "org" "proj" "env" .data none none),
    .single (.gcCompleteWalSegments 100)]

/-- The cascade forgets how far the WAL was collected, deleting by hand does not. -/
theorem not_cascade_by_hand_of_collected_wal :
    (applySingle (.deleteVolume "vol" true 7) (applyLog collectedWalLog .fresh).2).1 = .ok ∧
      ¬ CascadeByHand (applyLog collectedWalLog .fresh).2 "vol" 7 := by
  refine ⟨by rfl, fun h => ?_⟩
  have hnone : (applyLog collectedWalLog .fresh).2.sm.storage.liveSnapshotsOf "vol" = [] := by
    decide
  have hrest := (h [] (by rw [hnone])).2.rest
  have hwal : (reached applySingle (deletedByHand "vol" [] 7)
      (applyLog collectedWalLog .fresh).2).sm.storage.minWalPosition = none :=
    congrArg minWalPosition hrest
  exact absurd hwal (by decide)

end Syfrah
